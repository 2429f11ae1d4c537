import KiroProxy.Json
import Mathlib.Algebra.BigOperators.Group.List.Basic
import Mathlib.Algebra.Order.Ring.Nat

/-!
# JSON texts

What `json.Marshal` writes: strings with `<`, `>` and `&` escaped, maps by sorted keys,
and structs member by member.
-/

namespace KiroProxy.JsonText

set_option autoImplicit false

section Strings

def continuation (byte : UInt8) : Bool := 0x80 ≤ byte && byte ≤ 0xBF

/-- The size of the rune a text of non-ASCII start begins with, as `utf8.DecodeRune` has it;
none where the bytes are not valid. -/
def runeSize : GoString → Option Nat
  | first :: second :: rest =>
      if 0xC2 ≤ first && first ≤ 0xDF then
        if continuation second then some 2 else none
      else
        match rest with
        | third :: rest =>
            if 0xE0 ≤ first && first ≤ 0xEF then
              if continuation second && continuation third &&
                  (first != 0xE0 || 0xA0 ≤ second) && (first != 0xED || second ≤ 0x9F) then some 3
              else none
            else
              match rest with
              | fourth :: _ =>
                  if 0xF0 ≤ first && first ≤ 0xF4 && continuation second &&
                      continuation third && continuation fourth &&
                      (first != 0xF0 || 0x90 ≤ second) && (first != 0xF4 || second ≤ 0x8F) then
                    some 4
                  else none
              | [] => none
        | [] => none
  | _ => none

def hexDigit (value : UInt8) : UInt8 := if value < 10 then 0x30 + value else 0x57 + value

/-- An ASCII byte in a JSON string. -/
def escapeByte (byte : UInt8) : GoString :=
  if byte = 0x22 then lit "\\\""
  else if byte = 0x5C then lit "\\\\"
  else if byte = 0x08 then lit "\\b"
  else if byte = 0x0C then lit "\\f"
  else if byte = 0x0A then lit "\\n"
  else if byte = 0x0D then lit "\\r"
  else if byte = 0x09 then lit "\\t"
  else if byte < 0x20 || byte = 0x3C || byte = 0x3E || byte = 0x26 then
    lit "\\u00" ++ [hexDigit (byte >>> 4), hexDigit (byte &&& 0x0F)]
  else [byte]

/-- A rune beyond ASCII in a JSON string. -/
def escapeRune (rune : GoString) : GoString :=
  if rune = [0xE2, 0x80, 0xA8] then lit "\\u2028"
  else if rune = [0xE2, 0x80, 0xA9] then lit "\\u2029"
  else rune

def escapeFrom : Nat → GoString → GoString
  | 0, _ => []
  | _, [] => []
  | fuel + 1, byte :: text =>
      if byte < 0x80 then escapeByte byte ++ escapeFrom fuel text
      else
        match runeSize (byte :: text) with
        | none => lit "\\ufffd" ++ escapeFrom fuel text
        | some size =>
            escapeRune ((byte :: text).take size) ++ escapeFrom fuel ((byte :: text).drop size)

def marshalString (text : GoString) : GoString :=
  lit "\"" ++ escapeFrom text.length text ++ lit "\""

example : marshalString (lit "<é\n\u2028") = lit "\"\\u003cé\\n\\u2028\"" := by decide

/-- What the text is read back as: every byte that starts no rune is a replacement rune. -/
def coerceFrom : Nat → GoString → GoString
  | 0, _ => []
  | _, [] => []
  | fuel + 1, byte :: text =>
      if byte < 0x80 then byte :: coerceFrom fuel text
      else
        match runeSize (byte :: text) with
        | none => GoStrings.replacementRune ++ coerceFrom fuel text
        | some size => (byte :: text).take size ++ coerceFrom fuel ((byte :: text).drop size)

def coerceText (text : GoString) : GoString := coerceFrom text.length text

def validFrom : Nat → GoString → Bool
  | 0, _ => true
  | _, [] => true
  | fuel + 1, byte :: text =>
      if byte < 0x80 then validFrom fuel text
      else
        match runeSize (byte :: text) with
        | none => false
        | some size => validFrom fuel ((byte :: text).drop size)

/-- `utf8.ValidString`. -/
def validText (text : GoString) : Bool := validFrom text.length text

example : coerceText (lit "é" ++ [0xC3]) = lit "é\uFFFD" := by decide

theorem escape_byte_length (byte : UInt8) : 1 ≤ (escapeByte byte).length := by
  unfold escapeByte
  split_ifs
  iterate 7 decide
  · simp
  · exact Nat.le_refl _

theorem rune_size_le (text : GoString) (size : Nat) (found : runeSize text = some size) :
    size ≤ text.length ∧ 2 ≤ size := by
  match text with
  | [] => simp [runeSize] at found
  | [_] => simp [runeSize] at found
  | [first, second] =>
      simp only [runeSize] at found
      split_ifs at found
      rw [← Option.some.inj found]
      exact ⟨Nat.le_refl _, Nat.le_refl _⟩
  | [first, second, third] =>
      simp only [runeSize] at found
      split_ifs at found
      all_goals
        rw [← Option.some.inj found]
        simp
  | first :: second :: third :: fourth :: rest =>
      simp only [runeSize] at found
      split_ifs at found
      all_goals
        rw [← Option.some.inj found]
        simp

/-- Only the bytes of the rune decide on its size. -/
theorem rune_size_local (text more : GoString) (size : Nat) (found : runeSize text = some size) :
    runeSize (text.take size ++ more) = some size := by
  match text with
  | [] => simp [runeSize] at found
  | [_] => simp [runeSize] at found
  | [first, second] =>
      simp only [runeSize] at found
      split_ifs at found with two tail
      rw [← Option.some.inj found]
      simp [runeSize, two, tail]
  | [first, second, third] =>
      simp only [runeSize] at found
      split_ifs at found with two tail three tail
      all_goals
        rw [← Option.some.inj found]
        simp [runeSize, *]
  | first :: second :: third :: fourth :: rest =>
      simp only [runeSize] at found
      split_ifs at found with two tail three tail four
      all_goals
        rw [← Option.some.inj found]
        simp [runeSize, *]

/-- A text of `fuel` bytes at most is read back as it is, or longer where it is not valid. -/
theorem coerce_from (fuel : Nat) (text : GoString) (enough : text.length ≤ fuel) :
    (validFrom fuel text = true → coerceFrom fuel text = text) ∧
      text.length ≤ (coerceFrom fuel text).length ∧
      (validFrom fuel text = false → text.length < (coerceFrom fuel text).length) := by
  induction fuel generalizing text with
  | zero =>
      have empty : text = [] := List.length_eq_zero_iff.mp (Nat.le_zero.mp enough)
      rw [empty]
      exact ⟨fun _ => rfl, Nat.le_refl _, fun invalid => absurd invalid (by decide)⟩
  | succ fuel ih =>
      cases text with
      | nil => exact ⟨fun _ => rfl, Nat.le_refl _, fun invalid => absurd invalid.symm Bool.false_ne_true⟩
      | cons byte text =>
          rw [List.length_cons] at enough
          have rest := ih text (Nat.le_of_succ_le_succ enough)
          rw [coerceFrom, validFrom]
          split_ifs with ascii
          · refine ⟨fun valid => by rw [rest.1 valid], Nat.succ_le_succ rest.2.1,
              fun invalid => Nat.succ_lt_succ (rest.2.2 invalid)⟩
          · cases found : runeSize (byte :: text) with
            | none =>
                have mark : GoStrings.replacementRune.length = 3 := by decide
                have longer := rest.2.1
                simp only [List.length_append, mark, List.length_cons]
                refine ⟨fun valid => absurd valid Bool.false_ne_true, by omega,
                  fun _ => by omega⟩
            | some size =>
                obtain ⟨within, two⟩ := rune_size_le (byte :: text) size found
                have dropped := List.length_drop (i := size) (l := byte :: text)
                have taken := List.length_take (i := size) (l := byte :: text)
                have later := ih ((byte :: text).drop size) (by
                  rw [dropped, List.length_cons]
                  omega)
                simp only [List.length_append]
                refine ⟨fun valid => ?_, by omega, fun invalid => ?_⟩
                · rw [later.1 valid, List.take_append_drop]
                · have longer := later.2.2 invalid
                  omega

/-- Exactly the valid texts are read back as they were written. -/
theorem coerce_text_iff (text : GoString) :
    coerceText text = text ↔ validText text = true := by
  have read := coerce_from text.length text (Nat.le_refl _)
  constructor
  · intro same
    by_contra invalid
    have longer := read.2.2 (Bool.not_eq_true _ ▸ invalid)
    unfold coerceText at same
    rw [same] at longer
    exact Nat.lt_irrefl _ longer
  · exact read.1

theorem ascii_valid (text : GoString) (ascii : ∀ byte ∈ text, byte < 0x80) :
    validText text = true := by
  unfold validText
  induction text with
  | nil => rfl
  | cons byte text ih =>
      rw [List.length_cons, validFrom, if_pos (ascii byte List.mem_cons_self)]
      exact ih fun other member => ascii other (List.mem_cons_of_mem _ member)

theorem coerce_text_empty (text : GoString) : coerceText text = [] ↔ text = [] := by
  have read := coerce_from text.length text (Nat.le_refl _)
  constructor
  · intro empty
    have shorter := read.2.1
    unfold coerceText at empty
    rw [empty] at shorter
    exact List.length_eq_zero_iff.mp (Nat.le_zero.mp shorter)
  · intro empty
    rw [empty]
    rfl

theorem escape_rune_length (rune : GoString) : rune.length ≤ (escapeRune rune).length := by
  unfold escapeRune
  split_ifs with first second
  · rw [first]
    decide
  · rw [second]
    decide
  · exact Nat.le_refl _

/-- Escaping never shortens a text. -/
theorem escape_length (fuel : Nat) (text : GoString) (enough : text.length ≤ fuel) :
    text.length ≤ (escapeFrom fuel text).length := by
  induction fuel generalizing text with
  | zero => exact enough
  | succ fuel ih =>
      cases text with
      | nil => exact Nat.zero_le _
      | cons byte text =>
          rw [List.length_cons] at enough
          rw [escapeFrom]
          split_ifs with ascii
          · have rest := ih text (Nat.le_of_succ_le_succ enough)
            have head := escape_byte_length byte
            rw [List.length_append, List.length_cons]
            omega
          · cases found : runeSize (byte :: text) with
            | none =>
                have rest := ih text (Nat.le_of_succ_le_succ enough)
                have mark : (lit "\\ufffd").length = 6 := by decide
                rw [List.length_append, List.length_cons, mark]
                omega
            | some size =>
                obtain ⟨within, two⟩ := rune_size_le (byte :: text) size found
                have dropped := List.length_drop (i := size) (l := byte :: text)
                have rest := ih ((byte :: text).drop size) (by
                  rw [dropped, List.length_cons]
                  omega)
                have rune := escape_rune_length ((byte :: text).take size)
                rw [List.length_take] at rune
                simp only [List.length_append]
                omega

theorem marshal_string_length (text : GoString) : text.length ≤ (marshalString text).length := by
  have escaped := escape_length text.length text (Nat.le_refl _)
  rw [marshalString, List.length_append, List.length_append]
  omega

end Strings

section Values

def marshalArray (items : List GoString) : GoString :=
  lit "[" ++ List.intercalate (lit ",") items ++ lit "]"

def marshalObject (members : List GoString) : GoString :=
  lit "\x7b" ++ List.intercalate (lit ",") members ++ lit "\x7d"

def marshalMember (key value : GoString) : GoString := marshalString key ++ lit ":" ++ value

/-- A member with `omitempty`. -/
def marshalOptional (absent : Bool) (key value : GoString) : List GoString :=
  if absent then [] else [marshalMember key value]

mutual

def marshal : Json → GoString
  | .null => lit "null"
  | .bool value => if value then lit "true" else lit "false"
  | .num text => text
  | .str text => marshalString text
  | .arr items => marshalArray (marshalItems items)
  | .obj fields =>
      marshalObject (((marshalFields fields).mergeSort fun left right =>
        decide (left.1 ≤ right.1)).map fun field => marshalMember field.1 field.2)

def marshalItems : List Json → List GoString
  | [] => []
  | item :: items => marshal item :: marshalItems items

def marshalFields : List (GoString × Json) → List (GoString × GoString)
  | [] => []
  | (key, value) :: fields => (key, marshal value) :: marshalFields fields

end

/-- Fields in order are written in order. -/
theorem marshal_sorted (fields : List (GoString × Json))
    (sorted : (marshalFields fields).Pairwise fun left right =>
      decide (left.1 ≤ right.1) = true) :
    marshal (.obj fields) =
      marshalObject ((marshalFields fields).map fun field => marshalMember field.1 field.2) := by
  rw [marshal, List.mergeSort_of_pairwise sorted]

theorem intercalate_length (separator : UInt8) (items : List GoString) (more : items ≠ []) :
    (List.intercalate [separator] items).length + 1 =
      (items.map fun item => item.length + 1).sum := by
  induction items with
  | nil => exact absurd rfl more
  | cons item items ih =>
      cases items with
      | nil => simp
      | cons next items =>
          have rest := ih (List.cons_ne_nil next items)
          rw [List.intercalate_cons_cons, List.map_cons, List.sum_cons, ← rest]
          simp only [List.length_append, List.length_singleton]
          omega

/-- A member more costs its text and a comma. -/
theorem object_length_append (members : List GoString) (added : List GoString)
    (some_ : members ≠ []) :
    (marshalObject (members ++ added)).length =
      (marshalObject members).length + (added.map fun item => item.length + 1).sum := by
  have whole := intercalate_length 0x2C (members ++ added) (by simp [some_])
  have before := intercalate_length 0x2C members some_
  rw [List.map_append, List.sum_append, ← before] at whole
  have comma : lit "," = [0x2C] := by decide
  simp only [marshalObject, comma, List.length_append]
  omega

theorem object_length_cons (member : GoString) (members : List GoString) :
    (marshalObject (member :: members)).length =
      member.length + 2 + (members.map fun item => item.length + 1).sum := by
  have opened : (lit "\x7b").length = 1 := by decide
  have closed : (lit "\x7d").length = 1 := by decide
  have one : (marshalObject [member]).length = member.length + 2 := by
    simp only [marshalObject, List.intercalate_singleton, List.length_append, opened, closed]
    omega
  have more := object_length_append [member] members (List.cons_ne_nil _ _)
  rw [one] at more
  exact more

theorem member_length (key value : GoString) :
    value.length ≤ (marshalMember key value).length := by
  rw [marshalMember, List.length_append]
  omega

theorem array_length (items : List GoString) (some_ : items ≠ []) :
    (marshalArray items).length = (items.map fun item => item.length + 1).sum + 1 := by
  have whole := intercalate_length 0x2C items some_
  have comma : lit "," = [0x2C] := by decide
  have opened : (lit "[").length = 1 := by decide
  have closed : (lit "]").length = 1 := by decide
  simp only [marshalArray, comma, List.length_append, opened, closed]
  omega

end Values

end KiroProxy.JsonText
