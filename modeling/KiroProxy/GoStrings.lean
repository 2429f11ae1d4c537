import Mathlib.Data.List.Basic
import Mathlib.Data.List.Infix
import KiroProxy.Foundation.Searching

/-!
# Go strings

A Go string is a sequence of bytes, not necessarily valid UTF-8. The functions
of package `strings` below follow their documented behaviour on bytes.
-/

namespace KiroProxy

set_option autoImplicit false

abbrev GoString := List UInt8

instance lawfulGoString : LawfulBEq GoString := inferInstance

/-- The bytes of a string literal of the source. -/
def lit (text : String) : GoString := text.toUTF8.data.toList

namespace GoStrings

open Foundation.Searching

/-- The UTF-8 encodings of the runes `unicode.IsSpace` accepts. A byte sequence
decodes to one of these runes exactly when it starts with its encoding. -/
def spaceRunes : List GoString :=
  [[0x20], [0x0A], [0x09], [0x0D], [0x0B], [0x0C], [0xC2, 0x85], [0xC2, 0xA0],
    [0xE1, 0x9A, 0x80],
    [0xE2, 0x80, 0x80], [0xE2, 0x80, 0x81], [0xE2, 0x80, 0x82], [0xE2, 0x80, 0x83],
    [0xE2, 0x80, 0x84], [0xE2, 0x80, 0x85], [0xE2, 0x80, 0x86], [0xE2, 0x80, 0x87],
    [0xE2, 0x80, 0x88], [0xE2, 0x80, 0x89], [0xE2, 0x80, 0x8A],
    [0xE2, 0x80, 0xA8], [0xE2, 0x80, 0xA9], [0xE2, 0x80, 0xAF],
    [0xE2, 0x81, 0x9F], [0xE3, 0x80, 0x80]]

def trimStartFuel (runes : List GoString) : Nat → GoString → GoString
  | 0, text => text
  | fuel + 1, text =>
      match runes.find? (fun rune => rune.isPrefixOf text) with
      | none => text
      | some rune => trimStartFuel runes fuel (text.drop rune.length)

def trimStart (runes : List GoString) (text : GoString) : GoString :=
  trimStartFuel runes text.length text

def trimEnd (runes : List GoString) (text : GoString) : GoString :=
  (trimStart (runes.map List.reverse) text.reverse).reverse

def trimSpace (text : GoString) : GoString :=
  trimEnd spaceRunes (trimStart spaceRunes text)

def lowerByte (byte : UInt8) : UInt8 :=
  if 0x41 ≤ byte ∧ byte ≤ 0x5A then byte + 0x20 else byte

def upperByte (byte : UInt8) : UInt8 :=
  if 0x61 ≤ byte ∧ byte ≤ 0x7A then byte - 0x20 else byte

/-- U+FFFD, which replaces an invalid byte when a string is mapped. -/
def replacementRune : GoString := [0xEF, 0xBF, 0xBD]

/-- `strings.ToLower` of a one-byte string: a byte that is not ASCII is invalid. -/
def toLowerOne (byte : UInt8) : GoString :=
  if byte < 0x80 then [lowerByte byte] else replacementRune

def toUpperOne (byte : UInt8) : GoString :=
  if byte < 0x80 then [upperByte byte] else replacementRune

/-- `strings.FieldsFunc` for ASCII separators, with the field read so far. -/
def fieldsFrom (separator : UInt8 → Bool) : GoString → GoString → List GoString
  | field, [] => if field = [] then [] else [field]
  | field, byte :: text =>
      if separator byte then
        if field = [] then fieldsFrom separator [] text
        else field :: fieldsFrom separator [] text
      else fieldsFrom separator (field ++ [byte]) text

def fieldsFunc (separator : UInt8 → Bool) (text : GoString) : List GoString :=
  fieldsFrom separator [] text

/-- `strings.TrimLeft` with the cutset of ASCII bytes. -/
def trimLeft (cutset : List UInt8) (text : GoString) : GoString :=
  text.dropWhile cutset.contains

/-- `strings.ContainsAny` for ASCII bytes. -/
def containsAny (bytes : List UInt8) (text : GoString) : Bool :=
  text.any bytes.contains

/-- `strings.Contains`. -/
def contains (text pattern : GoString) : Bool := (indexOf pattern text).isSome

/-- `strings.LastIndex`. -/
def lastIndex (text pattern : GoString) : Option Nat :=
  (List.range (text.length + 1)).reverse.find? (fun index =>
    pattern.isPrefixOf (text.drop index))

example : trimSpace (lit " \t key one\n") = lit "key one" := by decide

/-- `strings.ToLower` and `strings.EqualFold`. Their Unicode tables are left open but for
ASCII texts. -/
structure Letters where
  toLower : GoString → GoString
  equalFold : GoString → GoString → Bool
  lower_ascii : ∀ text, (∀ byte ∈ text, byte < 0x80) → toLower text = text.map lowerByte

/-- The letters of ASCII, on which the two functions of package `strings` agree with these. -/
def asciiLetters : Letters where
  toLower := fun text => text.map lowerByte
  equalFold := fun left right => left.map lowerByte == right.map lowerByte
  lower_ascii := fun _ _ => rfl

/-- The UTF-8 encodings of the runes `unicode.IsControl` accepts. -/
def controlRunes : List GoString :=
  (List.range 0x20).map (fun code => [UInt8.ofNat code]) ++ [[0x7F]] ++
    (List.range 0x20).map (fun code => [0xC2, 0x80 + UInt8.ofNat code])

/-- Whether a text has one of the runes. No encoding starts inside another rune. -/
def hasRune (runes : List GoString) (text : GoString) : Bool :=
  text.tails.any fun rest => runes.any fun rune => rune.isPrefixOf rest

/-- A fixed text is read byte by byte. -/
theorem ascii_bytes (text : GoString) (ascii : text.all (fun byte => decide (byte < 0x80)) = true) :
    ∀ byte ∈ text, byte < 0x80 := fun byte member =>
  of_decide_eq_true (List.all_eq_true.mp ascii byte member)

section Containing

theorem contains_iff (text pattern : GoString) (nonempty : pattern ≠ []) :
    contains text pattern = true ↔ pattern <:+: text := by
  rw [contains, Option.isSome_iff_ne_none, ne_eq, index_none_iff pattern text nonempty, not_not]

theorem contains_split (before after pattern : GoString) (separator : UInt8)
    (nonempty : pattern ≠ []) (absent : separator ∉ pattern) :
    contains (before ++ separator :: after) pattern =
      (contains before pattern || contains after pattern) := by
  rw [Bool.eq_iff_iff, Bool.or_eq_true, contains_iff _ _ nonempty, contains_iff _ _ nonempty,
    contains_iff _ _ nonempty]
  exact infix_split pattern before after separator absent

end Containing

section Trimming

theorem trim_start_spared (runes : List GoString) (text : GoString)
    (spared : ∀ rune ∈ runes, ¬rune <+: text) : trimStart runes text = text := by
  have missing : runes.find? (fun rune => rune.isPrefixOf text) = none := by
    rw [List.find?_eq_none]
    intro rune member starts
    exact spared rune member (List.isPrefixOf_iff_prefix.mp starts)
  unfold trimStart
  cases text with
  | nil => rfl
  | cons byte text =>
      rw [List.length_cons, trimStartFuel, missing]

/-- Trimming takes away bytes of the trimmed runes only. -/
theorem mem_trim_start (runes : List GoString) (text : GoString) (byte : UInt8)
    (solid : ∀ rune ∈ runes, byte ∉ rune) (member : byte ∈ text) :
    byte ∈ trimStart runes text := by
  unfold trimStart
  generalize text.length = fuel
  induction fuel generalizing text with
  | zero => exact member
  | succ fuel ih =>
      rw [trimStartFuel]
      cases found : runes.find? (fun rune => rune.isPrefixOf text) with
      | none => exact member
      | some rune =>
          have among := List.mem_of_find?_eq_some found
          have starts := List.find?_some found
          obtain ⟨rest, split⟩ := List.isPrefixOf_iff_prefix.mp starts
          apply ih
          rw [← split, List.drop_left]
          rw [← split, List.mem_append] at member
          exact member.resolve_left (solid rune among)

theorem mem_trim_space (text : GoString) (byte : UInt8)
    (solid : ∀ rune ∈ spaceRunes, byte ∉ rune) (member : byte ∈ text) :
    byte ∈ trimSpace text := by
  unfold trimSpace trimEnd
  rw [List.mem_reverse]
  apply mem_trim_start
  · intro reversed among inside
    obtain ⟨rune, held, same⟩ := List.mem_map.mp among
    rw [← same, List.mem_reverse] at inside
    exact solid rune held inside
  · rw [List.mem_reverse]
    exact mem_trim_start spaceRunes text byte solid member

theorem has_rune_of_infix (runes : List GoString) (text rune : GoString)
    (member : rune ∈ runes) (inside : rune <:+: text) : hasRune runes text = true := by
  obtain ⟨before, after, split⟩ := inside
  unfold hasRune
  rw [List.any_eq_true]
  refine ⟨rune ++ after, ?_, ?_⟩
  · rw [List.mem_tails, ← split, List.append_assoc]
    exact List.suffix_append before (rune ++ after)
  · rw [List.any_eq_true]
    exact ⟨rune, member, List.isPrefixOf_iff_prefix.mpr (List.prefix_append rune after)⟩

theorem trim_space_spared (text : GoString) (spared : hasRune spaceRunes text = false) :
    trimSpace text = text := by
  have absent : ∀ rune ∈ spaceRunes, ¬rune <:+: text := by
    intro rune member inside
    have found := has_rune_of_infix spaceRunes text rune member inside
    rw [spared] at found
    exact absurd found Bool.false_ne_true
  have front : trimStart spaceRunes text = text := by
    apply trim_start_spared
    intro rune member starts
    exact absent rune member starts.isInfix
  have back : trimStart (spaceRunes.map List.reverse) text.reverse = text.reverse := by
    apply trim_start_spared
    intro reversed member starts
    obtain ⟨rune, among, same⟩ := List.mem_map.mp member
    rw [← same, List.reverse_prefix] at starts
    exact absent rune among starts.isInfix
  rw [trimSpace, front, trimEnd, back, List.reverse_reverse]

theorem trim_fuel_stops (runes : List GoString) (nonempty : ∀ rune ∈ runes, rune ≠ [])
    (rune : GoString) (member : rune ∈ runes) (fuel : Nat) (text : GoString)
    (enough : text.length ≤ fuel) : ¬rune <+: trimStartFuel runes fuel text := by
  induction fuel generalizing text with
  | zero =>
      intro starts
      have none_ : text = [] := List.eq_nil_of_length_eq_zero (Nat.le_zero.mp enough)
      rw [trimStartFuel, none_] at starts
      exact nonempty rune member (List.prefix_nil.mp starts)
  | succ fuel ih =>
      rw [trimStartFuel]
      cases found : runes.find? (fun rune => rune.isPrefixOf text) with
      | none =>
          intro starts
          exact List.find?_eq_none.mp found rune member (List.isPrefixOf_iff_prefix.mpr starts)
      | some first =>
          apply ih
          have long : 0 < first.length :=
            List.length_pos_of_ne_nil (nonempty first (List.mem_of_find?_eq_some found))
          rw [List.length_drop]
          omega

/-- What is left begins with none of the trimmed runes. -/
theorem trim_start_stops (runes : List GoString) (text : GoString)
    (nonempty : ∀ rune ∈ runes, rune ≠ []) (rune : GoString) (member : rune ∈ runes) :
    ¬rune <+: trimStart runes text :=
  trim_fuel_stops runes nonempty rune member text.length text (Nat.le_refl _)

theorem trim_start_suffix (runes : List GoString) (text : GoString) :
    trimStart runes text <:+ text := by
  unfold trimStart
  generalize text.length = fuel
  induction fuel generalizing text with
  | zero => exact List.suffix_rfl
  | succ fuel ih =>
      rw [trimStartFuel]
      cases runes.find? (fun rune => rune.isPrefixOf text) with
      | none => exact List.suffix_rfl
      | some rune => exact (ih (text.drop rune.length)).trans (List.drop_suffix _ _)

theorem space_runes_ne_nil : ∀ rune ∈ spaceRunes, rune ≠ [] := by
  decide

theorem trim_space_front (text rune : GoString) (member : rune ∈ spaceRunes) :
    ¬rune <+: trimSpace text := by
  intro starts
  have short : trimSpace text <+: trimStart spaceRunes text := by
    rw [← List.reverse_suffix]
    unfold trimSpace trimEnd
    rw [List.reverse_reverse]
    exact trim_start_suffix _ _
  exact trim_start_stops spaceRunes text space_runes_ne_nil rune member (starts.trans short)

theorem trim_space_back (text rune : GoString) (member : rune ∈ spaceRunes) :
    ¬rune <:+ trimSpace text := by
  have reversed : ∀ rune ∈ spaceRunes.map List.reverse, rune ≠ [] := by decide
  rw [← List.reverse_prefix]
  unfold trimSpace trimEnd
  rw [List.reverse_reverse]
  exact trim_start_stops _ _ reversed rune.reverse (List.mem_map_of_mem member)

/-- A text stays as it is where no space stands at either end. -/
theorem trim_space_kept (text : GoString) (front : ∀ rune ∈ spaceRunes, ¬rune <+: text)
    (back : ∀ rune ∈ spaceRunes, ¬rune <:+ text) : trimSpace text = text := by
  have kept : trimStart (spaceRunes.map List.reverse) text.reverse = text.reverse := by
    apply trim_start_spared
    intro reversed member starts
    obtain ⟨rune, among, same⟩ := List.mem_map.mp member
    rw [← same, List.reverse_prefix] at starts
    exact back rune among starts
  rw [trimSpace, trim_start_spared spaceRunes text front, trimEnd, kept, List.reverse_reverse]

theorem trim_space_twice (text : GoString) : trimSpace (trimSpace text) = trimSpace text :=
  trim_space_kept (trimSpace text) (trim_space_front text) (trim_space_back text)

/-- Nothing is trimmed from two trimmed texts with a solid one between them. -/
theorem trim_space_joined (before between after : GoString) (first last : UInt8)
    (starts : between.head? = some first) (ends : between.getLast? = some last)
    (solid : ∀ rune ∈ spaceRunes, first ∉ rune ∧ last ∉ rune)
    (left : trimSpace before = before) (right : trimSpace after = after) :
    trimSpace (before ++ between ++ after) = before ++ between ++ after := by
  obtain ⟨rest, front⟩ := List.head?_eq_some_iff.mp starts
  obtain ⟨rest', back⟩ := List.getLast?_eq_some_iff.mp ends
  apply trim_space_kept
  · intro rune member prefixed
    have split : before ++ between ++ after = before ++ [first] ++ (rest ++ after) := by
      rw [front]
      simp
    rw [split] at prefixed
    rcases List.prefix_or_prefix_of_prefix prefixed (List.prefix_append _ _) with short | long
    · rcases List.prefix_concat_iff.mp short with whole | inside
      · exact (solid rune member).1 (whole ▸ List.mem_concat_self)
      · exact trim_space_front before rune member (left.symm ▸ inside)
    · exact (solid rune member).1 (long.subset List.mem_concat_self)
  · intro rune member suffixed
    have split : before ++ between ++ after = (before ++ rest') ++ ([last] ++ after) := by
      rw [back]
      simp
    rw [split] at suffixed
    rcases List.suffix_or_suffix_of_suffix suffixed (List.suffix_append _ _) with short | long
    · rcases List.suffix_cons_iff.mp short with whole | inside
      · exact (solid rune member).2 (whole ▸ List.mem_cons_self)
      · exact trim_space_back after rune member (right.symm ▸ inside)
    · exact (solid rune member).2 (long.subset List.mem_cons_self)

end Trimming

section Extension

theorem trim_left_append (cutset : List UInt8) (text more : GoString)
    (kept : trimLeft cutset text ≠ []) :
    trimLeft cutset (text ++ more) = trimLeft cutset text ++ more := by
  unfold trimLeft at kept ⊢
  rw [List.dropWhile_append]
  simp [List.isEmpty_iff, kept]

theorem trim_left_length (cutset : List UInt8) (text : GoString) :
    (trimLeft cutset text).length ≤ text.length :=
  (List.dropWhile_suffix _).length_le

theorem contains_any_longer (bytes : List UInt8) (short long : GoString)
    (part : short <+: long) (found : containsAny bytes short = true) :
    containsAny bytes long = true := by
  unfold containsAny at found ⊢
  rw [List.any_eq_true] at found ⊢
  obtain ⟨byte, member, match_⟩ := found
  exact ⟨byte, part.subset member, match_⟩

end Extension

end GoStrings
end KiroProxy
