import KiroProxy.Foundation.SelfDelimiting
import KiroProxy.Proxy.PromptCache

/-!
# What a canonical text tells

`writeCanonicalJSON` in `proxy/cache_tracker.go` writes the value of a prompt block for its
fingerprint. The text is that of another decoded value exactly if the two differ in the order of
fields and in cache markers only.
-/

namespace KiroProxy.CanonicalValues

open Foundation.SelfDelimiting GoStrings JsonText PromptCache

set_option autoImplicit false

section Runes

/-- The bytes of one rune. -/
def IsRune (unit : GoString) : Prop :=
  (∃ byte, byte < 0x80 ∧ unit = [byte]) ∨ runeSize unit = some unit.length

/-- How a rune stands in a JSON string. -/
def escapeUnit : GoString → GoString
  | [byte] => escapeByte byte
  | unit => escapeRune unit

theorem escape_unit_long (unit : GoString) (long : 2 ≤ unit.length) :
    escapeUnit unit = escapeRune unit := by
  match unit with
  | [] => rfl
  | [_] => exact absurd (Nat.le_of_succ_le_succ long) (Nat.not_succ_le_zero 0)
  | _ :: _ :: _ => rfl

theorem rune_taken (text : GoString) (size : Nat) (found : runeSize text = some size) :
    IsRune (text.take size) ∧ (text.take size).length = size := by
  have within := (rune_size_le text size found).1
  have length : (text.take size).length = size := by
    rw [List.length_take, Nat.min_eq_left within]
  have same := rune_size_local text [] size found
  rw [List.append_nil] at same
  exact ⟨.inr (same.trans (congrArg some length.symm)), length⟩

/-- A valid text is a sequence of runes, escaped one by one. -/
theorem escape_units (fuel : Nat) (text : GoString) (enough : text.length ≤ fuel)
    (valid : validFrom fuel text = true) :
    ∃ units : List GoString, (∀ unit ∈ units, IsRune unit) ∧ units.flatten = text ∧
      escapeFrom fuel text = units.flatMap escapeUnit := by
  induction fuel generalizing text with
  | zero =>
      have empty : text = [] := List.length_eq_zero_iff.mp (Nat.le_zero.mp enough)
      exact ⟨[], fun _ member => absurd member List.not_mem_nil, empty.symm, by rw [empty]; rfl⟩
  | succ fuel ih =>
      cases text with
      | nil => exact ⟨[], fun _ member => absurd member List.not_mem_nil, rfl, rfl⟩
      | cons byte text =>
          rw [List.length_cons] at enough
          rw [validFrom] at valid
          rw [escapeFrom]
          split_ifs at valid ⊢ with ascii
          · obtain ⟨units, runes, whole, escaped⟩ := ih text (by omega) valid
            refine ⟨[byte] :: units, List.forall_mem_cons.mpr ⟨.inl ⟨byte, ascii, rfl⟩, runes⟩,
              ?_, ?_⟩
            · rw [List.flatten_cons, whole]
              rfl
            · rw [List.flatMap_cons, escaped]
              rfl
          · cases found : runeSize (byte :: text) with
            | none =>
                rw [found] at valid
                exact absurd valid Bool.false_ne_true
            | some size =>
                rw [found] at valid
                obtain ⟨within, two⟩ := rune_size_le (byte :: text) size found
                obtain ⟨rune, length⟩ := rune_taken (byte :: text) size found
                have dropped : ((byte :: text).drop size).length = text.length + 1 - size :=
                  List.length_drop
                obtain ⟨units, runes, whole, escaped⟩ :=
                  ih ((byte :: text).drop size) (by omega) valid
                refine ⟨(byte :: text).take size :: units,
                  List.forall_mem_cons.mpr ⟨rune, runes⟩, ?_, ?_⟩
                · rw [List.flatten_cons, whole, List.take_append_drop]
                · rw [List.flatMap_cons, ← escaped, escape_unit_long _ (by omega)]

end Runes

section Codes

/-- The size of the code that a JSON string begins with. -/
def codeSize : GoString → Nat
  | [] => 0
  | byte :: rest =>
      if byte = 0x5C then (if rest.head? = some 0x75 then 6 else 2)
      else if byte < 0x80 then 1
      else (runeSize (byte :: rest)).getD 1

/-- The codes of one byte, of a letter and of four digits. -/
def plainCode : GoString → Bool
  | [byte] => byte != 0x5C && byte < 0x80
  | [slash, mark] => slash == 0x5C && mark != 0x75
  | [slash, mark, _, _, _, _] => slash == 0x5C && mark == 0x75
  | _ => false

def escapedLetter (mark : UInt8) : UInt8 :=
  if mark = 0x62 then 0x08
  else if mark = 0x66 then 0x0C
  else if mark = 0x6E then 0x0A
  else if mark = 0x72 then 0x0D
  else if mark = 0x74 then 0x09
  else mark

def hexValue (digit : UInt8) : UInt8 := if digit < 0x3A then digit - 0x30 else digit - 0x57

/-- What a code stands for. -/
def unescape (code : GoString) : GoString :=
  if code.head? ≠ some 0x5C then code
  else if code = lit "\\u2028" then [0xE2, 0x80, 0xA8]
  else if code = lit "\\u2029" then [0xE2, 0x80, 0xA9]
  else
    match code with
    | [_, mark] => [escapedLetter mark]
    | [_, _, _, _, high, low] => [hexValue high <<< 4 ||| hexValue low]
    | _ => code

theorem plain_code_size (code rest : GoString) (plain : plainCode code = true) :
    codeSize (code ++ rest) = code.length := by
  match code with
  | [] => exact absurd plain Bool.false_ne_true
  | [byte] =>
      simp only [plainCode, Bool.and_eq_true, bne_iff_ne, decide_eq_true_eq] at plain
      simp [codeSize, plain.1, plain.2]
  | [slash, mark] =>
      simp only [plainCode, Bool.and_eq_true, bne_iff_ne, beq_iff_eq] at plain
      simp [codeSize, plain.1, plain.2]
  | [_, _, _] => exact absurd plain Bool.false_ne_true
  | [_, _, _, _] => exact absurd plain Bool.false_ne_true
  | [_, _, _, _, _] => exact absurd plain Bool.false_ne_true
  | [slash, mark, _, _, _, _] =>
      simp only [plainCode, Bool.and_eq_true, beq_iff_eq] at plain
      simp [codeSize, plain.1, plain.2]
  | _ :: _ :: _ :: _ :: _ :: _ :: _ :: _ => exact absurd plain Bool.false_ne_true

/-- How a byte below 0x80 is escaped, and that it is read back. -/
structure AsciiCode (byte : UInt8) : Prop where
  plain : plainCode (escapeByte byte) = true
  unquoted : (escapeByte byte).head? ≠ some 0x22
  read : unescape (escapeByte byte) = [byte]

theorem ascii_code (byte : UInt8) (ascii : byte < 0x80) : AsciiCode byte := by
  have all : ∀ number < 128, plainCode (escapeByte (UInt8.ofNat number)) = true ∧
      (escapeByte (UInt8.ofNat number)).head? ≠ some 0x22 ∧
      unescape (escapeByte (UInt8.ofNat number)) = [UInt8.ofNat number] := by
    decide +kernel
  have here := all byte.toNat ascii
  rw [UInt8.ofNat_toNat] at here
  exact ⟨here.1, here.2.1, here.2.2⟩

/-- A rune of several bytes begins with a byte that no code begins with. -/
theorem rune_head (unit : GoString) (rune : runeSize unit = some unit.length) :
    ∃ first rest, unit = first :: rest ∧ ¬ first < 0x80 ∧ 2 ≤ unit.length := by
  obtain ⟨_, two⟩ := rune_size_le unit unit.length rune
  rcases unit with _ | ⟨first, rest⟩
  · exact absurd two (by decide)
  refine ⟨first, rest, rfl, ?_, two⟩
  intro low
  have small : first.toNat < 0x80 := low
  have one : ¬ (0xC2 : UInt8) ≤ first := fun large =>
    absurd (show 0xC2 ≤ first.toNat from large) (by omega)
  have three : ¬ (0xE0 : UInt8) ≤ first := fun large =>
    absurd (show 0xE0 ≤ first.toNat from large) (by omega)
  have four : ¬ (0xF0 : UInt8) ≤ first := fun large =>
    absurd (show 0xF0 ≤ first.toNat from large) (by omega)
  rcases rest with _ | ⟨second, _ | ⟨third, _ | ⟨fourth, rest⟩⟩⟩
  · exact absurd two (by decide : ¬ 2 ≤ 1)
  · simp [runeSize, one] at rune
  · simp [runeSize, one, three] at rune
  · simp [runeSize, one, three, four] at rune

/-- A rune of several bytes stands for itself, the two line separators apart. -/
theorem rune_code (unit : GoString) :
    (escapeRune unit = lit "\\u2028" ∧ unit = [0xE2, 0x80, 0xA8]) ∨
      (escapeRune unit = lit "\\u2029" ∧ unit = [0xE2, 0x80, 0xA9]) ∨ escapeRune unit = unit := by
  rw [escapeRune]
  split_ifs with first second
  · exact .inl ⟨rfl, first⟩
  · exact .inr (.inl ⟨rfl, second⟩)
  · exact .inr (.inr rfl)

theorem code_size (unit : GoString) (rune : IsRune unit) (rest : GoString) :
    codeSize (escapeUnit unit ++ rest) = (escapeUnit unit).length := by
  rcases rune with ⟨byte, ascii, rfl⟩ | long
  · exact plain_code_size _ rest (ascii_code byte ascii).plain
  · obtain ⟨first, tail, whole, high, two⟩ := rune_head unit long
    rw [escape_unit_long unit two]
    rcases rune_code unit with ⟨code, _⟩ | ⟨code, _⟩ | code
    · rw [code]
      exact plain_code_size _ rest (by decide)
    · rw [code]
      exact plain_code_size _ rest (by decide)
    · have same := rune_size_local unit rest unit.length long
      rw [List.take_length, whole] at same
      have slash : first ≠ 0x5C := by
        intro here
        rw [here] at high
        exact high (by decide)
      rw [code, whole, List.cons_append, codeSize, if_neg slash, if_neg high, ← List.cons_append,
        same]
      rfl

theorem unescape_unit (unit : GoString) (rune : IsRune unit) :
    unescape (escapeUnit unit) = unit := by
  rcases rune with ⟨byte, ascii, rfl⟩ | long
  · exact (ascii_code byte ascii).read
  · obtain ⟨first, tail, whole, high, two⟩ := rune_head unit long
    rw [escape_unit_long unit two]
    rcases rune_code unit with ⟨code, same⟩ | ⟨code, same⟩ | code
    · rw [code, same]
      decide
    · rw [code, same]
      decide
    · have slash : unit.head? ≠ some 0x5C := by
        rw [whole]
        intro here
        rw [Option.some.inj here] at high
        exact high (by decide)
      unfold unescape
      rw [code, if_pos slash]

theorem units_apart : Apart escapeUnit IsRune := by
  intro unit rune other rest more rune' _ _ same
  have sizes := congrArg codeSize same
  rw [code_size unit rune, code_size other rune'] at sizes
  obtain ⟨codes, behind⟩ := List.append_inj same sizes
  have read := congrArg unescape codes
  rw [unescape_unit unit rune, unescape_unit other rune'] at read
  exact ⟨read, behind⟩

theorem units_unquoted : Avoids escapeUnit IsRune 0x22 := by
  have starts : ∀ (code rest more : GoString), code ≠ [] → code.head? ≠ some 0x22 →
      code ++ rest ≠ 0x22 :: more := by
    intro code rest more some_ unquoted same
    cases code with
    | nil => exact some_ rfl
    | cons byte code => exact unquoted (congrArg some (List.cons.inj same).1)
  intro unit rune rest more
  rcases rune with ⟨byte, ascii, rfl⟩ | long
  · apply starts
    · have length := escape_byte_length byte
      exact fun empty => absurd (empty ▸ length : 1 ≤ ([] : GoString).length) (by decide)
    · exact (ascii_code byte ascii).unquoted
  · obtain ⟨first, tail, whole, high, two⟩ := rune_head unit long
    rw [escape_unit_long unit two]
    rcases rune_code unit with ⟨code, _⟩ | ⟨code, _⟩ | code
    · rw [code]
      exact starts _ _ _ (by decide) (by decide)
    · rw [code]
      exact starts _ _ _ (by decide) (by decide)
    · rw [code, whole]
      apply starts _ _ _ (List.cons_ne_nil _ _)
      intro here
      rw [Option.some.inj here] at high
      exact high (by decide)

/-- A string in quotes tells its text and where it ends. -/
theorem string_unique (text other rest more : GoString) (valid : validText text = true)
    (valid' : validText other = true)
    (same : marshalString text ++ rest = marshalString other ++ more) :
    text = other ∧ rest = more := by
  obtain ⟨units, runes, whole, escaped⟩ := escape_units text.length text (Nat.le_refl _) valid
  obtain ⟨units', runes', whole', escaped'⟩ :=
    escape_units other.length other (Nat.le_refl _) valid'
  have quote : lit "\"" = [0x22] := by decide
  simp only [marshalString, quote, List.append_assoc, List.cons_append, List.nil_append,
    List.cons.injEq, true_and] at same
  rw [escaped, escaped'] at same
  obtain ⟨equal, behind⟩ := closed_unique units_apart 0x22 units_unquoted units units' runes
    runes' same
  exact ⟨whole.symm.trans ((congrArg List.flatten equal).trans whole'), behind⟩

end Codes

section Values

/-- The bytes of a JSON number. -/
def numeral (byte : UInt8) : Bool :=
  (0x30 ≤ byte && byte ≤ 0x39) || byte == 0x2B || byte == 0x2D || byte == 0x2E ||
    byte == 0x45 || byte == 0x65

mutual

/-- What `encoding/json` decodes: valid texts, numbers, and objects of distinct keys. -/
def Decoded : Json → Prop
  | .null => True
  | .bool _ => True
  | .num text => text ≠ [] ∧ ∀ byte ∈ text, numeral byte = true
  | .str text => validText text = true
  | .arr items => DecodedItems items
  | .obj fields => (fields.map Prod.fst).Nodup ∧ DecodedFields fields

def DecodedItems : List Json → Prop
  | [] => True
  | item :: items => Decoded item ∧ DecodedItems items

def DecodedFields : List (GoString × Json) → Prop
  | [] => True
  | (key, value) :: fields => (validText key = true ∧ Decoded value) ∧ DecodedFields fields

end

mutual

/-- Values that differ in the order of fields only. -/
inductive Same : Json → Json → Prop where
  | null : Same .null .null
  | bool (value : Bool) : Same (.bool value) (.bool value)
  | num (text : GoString) : Same (.num text) (.num text)
  | str (text : GoString) : Same (.str text) (.str text)
  | arr {left right : List Json} (items : SameItems left right) : Same (.arr left) (.arr right)
  | obj {left right left' right' : List (GoString × Json)} (first : left.Perm left')
      (fields : SameFields left' right') (last : right'.Perm right) :
      Same (.obj left) (.obj right)

inductive SameItems : List Json → List Json → Prop where
  | nil : SameItems [] []
  | cons {left right : Json} {lefts rights : List Json} (here : Same left right)
      (later : SameItems lefts rights) : SameItems (left :: lefts) (right :: rights)

inductive SameFields : List (GoString × Json) → List (GoString × Json) → Prop where
  | nil : SameFields [] []
  | cons {left right : Json} {lefts rights : List (GoString × Json)} (key : GoString)
      (here : Same left right) (later : SameFields lefts rights) :
      SameFields ((key, left) :: lefts) ((key, right) :: rights)

end

theorem decoded_items_iff (items : List Json) :
    DecodedItems items ↔ ∀ item ∈ items, Decoded item := by
  induction items with
  | nil => simp [DecodedItems]
  | cons item items ih => rw [DecodedItems, ih, List.forall_mem_cons]

def DecodedField (field : GoString × Json) : Prop :=
  validText field.1 = true ∧ Decoded field.2

theorem decoded_fields_iff (fields : List (GoString × Json)) :
    DecodedFields fields ↔ ∀ field ∈ fields, DecodedField field := by
  induction fields with
  | nil => simp [DecodedFields]
  | cons field fields ih =>
      rw [List.forall_mem_cons, ← ih]
      rfl

theorem same_items (left right : List Json) (each : List.Forall₂ Same left right) :
    SameItems left right := by
  induction each with
  | nil => exact .nil
  | cons here _ ih => exact .cons here ih

def SameField (left right : GoString × Json) : Prop := left.1 = right.1 ∧ Same left.2 right.2

theorem same_fields (left right : List (GoString × Json))
    (each : List.Forall₂ SameField left right) : SameFields left right := by
  induction each with
  | nil => exact .nil
  | @cons first second lefts rights here _ ih =>
      obtain ⟨key, value⟩ := first
      obtain ⟨key', value'⟩ := second
      obtain ⟨rfl, same⟩ : key = key' ∧ Same value value' := here
      exact .cons key same ih

theorem marshal_items_map (items : List Json) : marshalItems items = items.map marshal := by
  induction items with
  | nil => rfl
  | cons item items ih => rw [marshalItems, ih, List.map_cons]

theorem marshal_fields_map (fields : List (GoString × Json)) :
    marshalFields fields = fields.map fun field => (field.1, marshal field.2) := by
  induction fields with
  | nil => rfl
  | cons field fields ih => rw [marshalFields, ih, List.map_cons]

def writeField (field : GoString × Json) : GoString := marshalMember field.1 (marshal field.2)

/-- The fields of an object as they are written. -/
def byKey (fields : List (GoString × Json)) : List (GoString × Json) :=
  fields.mergeSort fun left right => decide (left.1 ≤ right.1)

theorem marshal_object (fields : List (GoString × Json)) :
    marshal (.obj fields) = marshalObject ((byKey fields).map writeField) := by
  have sorted : (marshalFields fields).mergeSort (fun left right =>
      decide (left.1 ≤ right.1)) =
      (byKey fields).map fun field => (field.1, marshal field.2) := by
    rw [marshal_fields_map, byKey,
      List.map_mergeSort (s := fun left right => decide (left.1 ≤ right.1))]
    exact fun _ _ _ _ => rfl
  rw [marshal, sorted, List.map_map]
  rfl

end Values

section Reading

/-- What may stand behind a value. -/
def Follows (rest : GoString) : Prop :=
  ∀ byte ∈ rest.head?, byte = 0x2C ∨ byte = 0x5D ∨ byte = 0x7D

/-- The kind of value that a byte begins. -/
def byteKind (byte : UInt8) : Nat :=
  if byte = 0x6E then 0
  else if byte = 0x74 then 1
  else if byte = 0x66 then 2
  else if byte = 0x22 then 4
  else if byte = 0x5B then 5
  else if byte = 0x7B then 6
  else if numeral byte then 3
  else 7

def kind : Json → Nat
  | .null => 0
  | .bool value => if value then 1 else 2
  | .num _ => 3
  | .str _ => 4
  | .arr _ => 5
  | .obj _ => 6

theorem numeral_kind (byte : UInt8) (inside : numeral byte = true) : byteKind byte = 3 := by
  have apart : ∀ other, numeral other = false → byte ≠ other := by
    intro other outside same
    rw [same, outside] at inside
    exact Bool.false_ne_true inside
  rw [byteKind, if_neg (apart 0x6E (by decide)), if_neg (apart 0x74 (by decide)),
    if_neg (apart 0x66 (by decide)), if_neg (apart 0x22 (by decide)),
    if_neg (apart 0x5B (by decide)), if_neg (apart 0x7B (by decide)), if_pos inside]

theorem marshal_kind (value : Json) (decoded : Decoded value) :
    ∃ byte rest, marshal value = byte :: rest ∧ byteKind byte = kind value := by
  cases value with
  | null => exact ⟨0x6E, lit "ull", by rw [marshal]; decide, by decide⟩
  | bool value =>
      cases value with
      | false => exact ⟨0x66, lit "alse", by rw [marshal]; decide, by decide⟩
      | true => exact ⟨0x74, lit "rue", by rw [marshal]; decide, by decide⟩
  | num text =>
      rw [Decoded] at decoded
      cases text with
      | nil => exact absurd rfl decoded.1
      | cons byte text =>
          exact ⟨byte, text, by rw [marshal],
            numeral_kind byte (decoded.2 byte List.mem_cons_self)⟩
  | str text =>
      refine ⟨0x22, escapeFrom text.length text ++ lit "\"", ?_, by rw [kind]; decide⟩
      rw [marshal, marshalString]
      rfl
  | arr items =>
      refine ⟨0x5B, List.intercalate (lit ",") (marshalItems items) ++ lit "]", ?_,
        by rw [kind]; decide⟩
      rw [marshal, marshalArray]
      rfl
  | obj fields =>
      refine ⟨0x7B, List.intercalate (lit ",") ((byKey fields).map writeField) ++ lit "\x7d", ?_,
        by rw [kind]; decide⟩
      rw [marshal_object, marshalObject]
      rfl

theorem kinds_same (value other : Json) (rest more : GoString) (decoded : Decoded value)
    (decoded' : Decoded other) (same : marshal value ++ rest = marshal other ++ more) :
    kind value = kind other := by
  obtain ⟨byte, tail, whole, here⟩ := marshal_kind value decoded
  obtain ⟨byte', tail', whole', here'⟩ := marshal_kind other decoded'
  rw [whole, whole', List.cons_append, List.cons_append] at same
  rw [← here, ← here', (List.cons.inj same).1]

theorem values_avoid (closer : UInt8) (none_ : byteKind closer = 7) :
    Avoids marshal Decoded closer := by
  intro value decoded rest more same
  obtain ⟨byte, tail, whole, here⟩ := marshal_kind value decoded
  rw [whole, List.cons_append] at same
  rw [(List.cons.inj same).1, none_] at here
  cases value with
  | bool value => cases value <;> exact absurd here (by decide)
  | _ => exact absurd here (by simp [kind])

theorem fields_avoid (closer : UInt8) (unquoted : closer ≠ 0x22) :
    Avoids writeField DecodedField closer := by
  intro field _ rest more same
  have quote : lit "\"" = [0x22] := by decide
  simp only [writeField, marshalMember, marshalString, quote, List.append_assoc,
    List.cons_append, List.nil_append] at same
  exact unquoted (List.cons.inj same).1.symm

theorem number_ends (rest : GoString) (follows : Follows rest) :
    ∀ byte ∈ rest.head?, numeral byte = false := by
  intro byte member
  rcases follows byte member with rfl | rfl | rfl <;> decide

theorem field_delimited (field : GoString × Json) (valid : DecodedField field)
    (value : Delimited marshal Decoded Same Follows field.2) :
    Delimited writeField DecodedField SameField Follows field := by
  intro other rest more valid' follows follows' same
  have colon : lit ":" = [0x3A] := by decide
  simp only [writeField, marshalMember, colon, List.append_assoc, List.cons_append,
    List.nil_append] at same
  obtain ⟨keys, behind⟩ := string_unique _ _ _ _ valid.1 valid'.1 same
  obtain ⟨values, ends⟩ := value other.2 rest more valid'.2 follows follows'
    (List.cons.inj behind).2
  exact ⟨⟨keys, values⟩, ends⟩

theorem separated (rest : GoString) : Follows (0x2C :: rest) := by
  intro byte member
  exact .inl (Option.some.inj member).symm

theorem array_closed (rest : GoString) : Follows (0x5D :: rest) := by
  intro byte member
  exact .inr (.inl (Option.some.inj member).symm)

theorem object_closed (rest : GoString) : Follows (0x7D :: rest) := by
  intro byte member
  exact .inr (.inr (Option.some.inj member).symm)

theorem array_delimited (items : List Json) (valid : DecodedItems items)
    (each : ∀ item ∈ items, Delimited marshal Decoded Same Follows item) :
    Delimited marshal Decoded Same Follows (.arr items) := by
  intro other rest more decoded' _ _ same
  have kinds := kinds_same (.arr items) other rest more valid decoded' same
  cases other with
  | arr others =>
      have opened : lit "[" = [0x5B] := by decide
      have comma : lit "," = [0x2C] := by decide
      have closed : lit "]" = [0x5D] := by decide
      simp only [marshal, marshal_items_map, marshalArray, opened, comma, closed,
        List.append_assoc, List.cons_append, List.nil_append, List.cons.injEq, true_and] at same
      obtain ⟨equal, ends⟩ := list_unique 0x2C 0x5D (by decide) separated array_closed
        (values_avoid 0x5D (by decide)) items others each ((decoded_items_iff items).mp valid)
        ((decoded_items_iff others).mp decoded') same
      exact ⟨.arr (same_items items others equal), ends⟩
  | bool value => cases value <;> exact absurd kinds (by simp [kind])
  | _ => exact absurd kinds (by simp [kind])

theorem object_delimited (fields : List (GoString × Json)) (valid : Decoded (.obj fields))
    (each : ∀ field ∈ fields, Delimited marshal Decoded Same Follows field.2) :
    Delimited marshal Decoded Same Follows (.obj fields) := by
  intro other rest more decoded' _ _ same
  have kinds := kinds_same (.obj fields) other rest more valid decoded' same
  cases other with
  | obj others =>
      have opened : lit "\x7b" = [0x7B] := by decide
      have comma : lit "," = [0x2C] := by decide
      have closed : lit "\x7d" = [0x7D] := by decide
      simp only [marshal_object, marshalObject, opened, comma, closed, List.append_assoc,
        List.cons_append, List.nil_append, List.cons.injEq, true_and] at same
      have sorted : ∀ listed : List (GoString × Json), (byKey listed).Perm listed :=
        fun listed => List.mergeSort_perm listed _
      have reads : ∀ listed : List (GoString × Json), Decoded (.obj listed) →
          ∀ field ∈ byKey listed, DecodedField field := by
        intro listed decoded field member
        exact (decoded_fields_iff listed).mp decoded.2 field ((sorted listed).mem_iff.mp member)
      have delimited : ∀ field ∈ byKey fields,
          Delimited writeField DecodedField SameField Follows field := by
        intro field member
        exact field_delimited field (reads fields valid field member)
          (each field ((sorted fields).mem_iff.mp member))
      obtain ⟨equal, ends⟩ := list_unique 0x2C 0x7D (by decide) separated object_closed
        (fields_avoid 0x7D (by decide)) (byKey fields) (byKey others) delimited
        (reads fields valid) (reads others decoded') same
      exact ⟨.obj (sorted fields).symm (same_fields _ _ equal) (sorted others), ends⟩
  | bool value => cases value <;> exact absurd kinds (by simp [kind])
  | _ => exact absurd kinds (by simp [kind])

mutual

/-- The text of a decoded value is that of the same values only, and tells where it ends. -/
theorem value_delimited :
    (value : Json) → Decoded value → Delimited marshal Decoded Same Follows value
  | .null, decoded => by
      intro other rest more decoded' _ _ same
      have kinds := kinds_same .null other rest more decoded decoded' same
      cases other with
      | null => exact ⟨.null, List.append_cancel_left same⟩
      | bool value => cases value <;> exact absurd kinds (by decide)
      | _ => exact absurd kinds (by simp [kind])
  | .bool value, decoded => by
      intro other rest more decoded' _ _ same
      have kinds := kinds_same (.bool value) other rest more decoded decoded' same
      cases other with
      | bool value' =>
          obtain rfl : value = value' := by
            cases value <;> cases value' <;> first | rfl | exact absurd kinds (by decide)
          exact ⟨.bool value, List.append_cancel_left same⟩
      | _ => cases value <;> exact absurd kinds (by simp [kind])
  | .num text, decoded => by
      intro other rest more decoded' follows follows' same
      have kinds := kinds_same (.num text) other rest more decoded decoded' same
      cases other with
      | num text' =>
          rw [marshal, marshal] at same
          obtain ⟨rfl, ends⟩ := run_unique numeral decoded.2 decoded'.2
            (number_ends rest follows) (number_ends more follows') same
          exact ⟨.num text, ends⟩
      | bool value => cases value <;> exact absurd kinds (by simp [kind])
      | _ => exact absurd kinds (by simp [kind])
  | .str text, decoded => by
      intro other rest more decoded' _ _ same
      have kinds := kinds_same (.str text) other rest more decoded decoded' same
      cases other with
      | str text' =>
          rw [marshal, marshal] at same
          obtain ⟨rfl, ends⟩ := string_unique text text' rest more decoded decoded' same
          exact ⟨.str text, ends⟩
      | bool value => cases value <;> exact absurd kinds (by simp [kind])
      | _ => exact absurd kinds (by simp [kind])
  | .arr items, decoded => array_delimited items decoded (items_delimited items decoded)
  | .obj fields, decoded => object_delimited fields decoded (fields_delimited fields decoded.2)

theorem items_delimited :
    (items : List Json) → DecodedItems items →
      ∀ item ∈ items, Delimited marshal Decoded Same Follows item
  | [], _ => fun _ member => absurd member List.not_mem_nil
  | item :: items, decoded =>
      List.forall_mem_cons.mpr ⟨value_delimited item decoded.1, items_delimited items decoded.2⟩

theorem fields_delimited :
    (fields : List (GoString × Json)) → DecodedFields fields →
      ∀ field ∈ fields, Delimited marshal Decoded Same Follows field.2
  | [], _ => fun _ member => absurd member List.not_mem_nil
  | (_, value) :: fields, decoded =>
      List.forall_mem_cons.mpr
        ⟨value_delimited value decoded.1.2, fields_delimited fields decoded.2⟩

end

end Reading

section Writing

/-- Fields of distinct keys are written in one order, however they are listed. -/
theorem marshal_object_perm (left right : List (GoString × Json)) (perm : left.Perm right)
    (distinct : (left.map Prod.fst).Nodup) : marshal (.obj left) = marshal (.obj right) := by
  have sorted : ∀ listed : List (GoString × Json),
      (byKey listed).Pairwise fun first second => decide (first.1 ≤ second.1) = true := by
    intro listed
    apply List.pairwise_mergeSort
    · intro first second third one two
      exact decide_eq_true (List.le_trans (of_decide_eq_true one) (of_decide_eq_true two))
    · intro first second
      simp only [Bool.or_eq_true, decide_eq_true_eq]
      exact List.le_total first.1 second.1
  have perms : (byKey left).Perm (byKey right) :=
    (List.mergeSort_perm left _).trans (perm.trans (List.mergeSort_perm right _).symm)
  have unique : ∀ first ∈ byKey left, ∀ second ∈ byKey left,
      first.1 = second.1 → first = second := by
    intro first one second two keys
    exact List.inj_on_of_nodup_map distinct ((List.mergeSort_perm left _).mem_iff.mp one)
      ((List.mergeSort_perm left _).mem_iff.mp two) keys
  have equal : byKey left = byKey right := by
    apply List.Perm.eq_of_pairwise _ (sorted left) (sorted right) perms
    intro first second one two before after
    exact unique first one second (perms.mem_iff.mpr two)
      (List.le_antisymm (of_decide_eq_true before) (of_decide_eq_true after))
  rw [marshal_object, marshal_object, equal]

theorem perm_decoded {left right : List (GoString × Json)} (perm : left.Perm right)
    (decoded : DecodedFields left) : DecodedFields right := by
  rw [decoded_fields_iff] at decoded ⊢
  exact fun field member => decoded field (perm.mem_iff.mpr member)

mutual

/-- The same values are written alike. -/
theorem same_marshal : {left right : Json} → Same left right → Decoded left → Decoded right →
    marshal left = marshal right
  | _, _, .null, _, _ => rfl
  | _, _, .bool _, _, _ => rfl
  | _, _, .num _, _, _ => rfl
  | _, _, .str _, _, _ => rfl
  | _, _, .arr items, decoded, decoded' => by
      rw [marshal, marshal, same_marshal_items items decoded decoded']
  | _, _, @Same.obj left right left' right' first fields last, decoded, decoded' => by
      have members := same_marshal_fields fields (perm_decoded first decoded.2)
        (perm_decoded last.symm decoded'.2)
      have distinct' : (right'.map Prod.fst).Nodup :=
        (last.map Prod.fst).nodup_iff.mpr decoded'.1
      calc
        marshal (.obj left) = marshal (.obj left') :=
          marshal_object_perm left left' first decoded.1
        _ = marshal (.obj right') := by rw [marshal, marshal, members]
        _ = marshal (.obj right) := marshal_object_perm right' right last distinct'

theorem same_marshal_items : {left right : List Json} → SameItems left right →
    DecodedItems left → DecodedItems right → marshalItems left = marshalItems right
  | _, _, .nil, _, _ => rfl
  | _, _, .cons here later, decoded, decoded' => by
      rw [marshalItems, marshalItems, same_marshal here decoded.1 decoded'.1,
        same_marshal_items later decoded.2 decoded'.2]

theorem same_marshal_fields : {left right : List (GoString × Json)} → SameFields left right →
    DecodedFields left → DecodedFields right → marshalFields left = marshalFields right
  | _, _, .nil, _, _ => rfl
  | _, _, .cons _ here later, decoded, decoded' => by
      rw [marshalFields, marshalFields, same_marshal here decoded.1.2 decoded'.1.2,
        same_marshal_fields later decoded.2 decoded'.2]

end

end Writing

section Markers

mutual

theorem without_markers_decoded : (value : Json) → Decoded value →
    Decoded (withoutCacheControl value)
  | .null, decoded => decoded
  | .bool _, decoded => decoded
  | .num _, decoded => decoded
  | .str _, decoded => decoded
  | .arr items, decoded => items_without_markers_decoded items decoded
  | .obj fields, decoded =>
      have later := fields_without_markers_decoded fields decoded.2
      ⟨decoded.1.sublist later.1, later.2⟩

theorem items_without_markers_decoded : (items : List Json) → DecodedItems items →
    DecodedItems (itemsWithoutCacheControl items)
  | [], decoded => decoded
  | item :: items, decoded =>
      ⟨without_markers_decoded item decoded.1, items_without_markers_decoded items decoded.2⟩

theorem fields_without_markers_decoded : (fields : List (GoString × Json)) →
    DecodedFields fields →
    ((fieldsWithoutCacheControl fields).map Prod.fst).Sublist (fields.map Prod.fst) ∧
      DecodedFields (fieldsWithoutCacheControl fields)
  | [], decoded => ⟨List.Sublist.refl _, decoded⟩
  | (key, value) :: fields, decoded => by
      have later := fields_without_markers_decoded fields decoded.2
      rw [fieldsWithoutCacheControl]
      split_ifs
      · exact ⟨later.1.trans (List.sublist_cons_self _ _), later.2⟩
      · exact ⟨later.1.cons_cons key,
          ⟨decoded.1.1, without_markers_decoded value decoded.1.2⟩, later.2⟩

end

/-- Values that differ in the order of fields and in cache markers only. -/
def Alike (left right : Json) : Prop :=
  Same (withoutCacheControl left) (withoutCacheControl right)

theorem texts_alike (left right : Json) (leftDecoded : Decoded left)
    (rightDecoded : Decoded right)
    (texts : canonicalizeCacheValue left = canonicalizeCacheValue right) : Alike left right := by
  have nothing : Follows [] := fun _ member => absurd member (Option.not_mem_none _)
  exact (value_delimited _ (without_markers_decoded left leftDecoded) _ [] []
    (without_markers_decoded right rightDecoded) nothing nothing
    (congrArg (fun text => text ++ []) texts)).1

/-- A canonical text is that of the values that are alike, and of no others. -/
theorem canonical_text_iff (left right : Json) (leftDecoded : Decoded left)
    (rightDecoded : Decoded right) :
    canonicalizeCacheValue left = canonicalizeCacheValue right ↔ Alike left right := by
  constructor
  · exact texts_alike left right leftDecoded rightDecoded
  · exact fun alike => same_marshal alike (without_markers_decoded left leftDecoded)
      (without_markers_decoded right rightDecoded)

/-- A text block without a marker, and the same block marked, its fields in another order. -/
def plainBlock : Json := .obj [(lit "text", .str (lit "hi")), (lit "type", .str (lit "text"))]

def markedBlock : Json :=
  .obj [(lit "type", .str (lit "text")),
    (lit "cache_control", .obj [(lit "type", .str (lit "ephemeral"))]),
    (lit "text", .str (lit "hi"))]

theorem plain_block_decoded : Decoded plainBlock := by
  have distinct : [lit "text", lit "type"].Nodup := by decide
  have texts : validText (lit "hi") = true ∧ validText (lit "text") = true := by decide
  exact ⟨distinct, ⟨texts.2, texts.1⟩, ⟨by decide, texts.2⟩, trivial⟩

theorem marked_block_decoded : Decoded markedBlock := by
  have distinct : [lit "type", lit "cache_control", lit "text"].Nodup := by decide
  have texts : validText (lit "hi") = true ∧ validText (lit "text") = true := by decide
  have marker : Decoded (.obj [(lit "type", .str (lit "ephemeral"))]) := by
    have valid : validText (lit "ephemeral") = true := by decide
    exact ⟨List.nodup_singleton _, ⟨by decide, valid⟩, trivial⟩
  exact ⟨distinct, ⟨by decide, texts.2⟩, ⟨by decide, marker⟩, ⟨texts.2, texts.1⟩, trivial⟩

theorem marked_block_text :
    canonicalizeCacheValue plainBlock = canonicalizeCacheValue markedBlock ↔
      Alike plainBlock markedBlock :=
  canonical_text_iff plainBlock markedBlock plain_block_decoded marked_block_decoded

end Markers

end KiroProxy.CanonicalValues
