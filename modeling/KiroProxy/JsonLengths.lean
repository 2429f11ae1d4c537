import KiroProxy.JsonText

/-!
# The length of a JSON string

What `json.Marshal` writes between the quotes, added up over a text. Two texts written as
one are never longer than the two of them, and the space around a text is never free.
-/

namespace KiroProxy.JsonText

open GoStrings Foundation.Searching

set_option autoImplicit false

section Lengths

def writtenLength (text : GoString) : Nat := (escapeFrom text.length text).length

theorem marshal_length (text : GoString) :
    (marshalString text).length = writtenLength text + 2 := by
  have quote : (lit "\"").length = 1 := by decide
  rw [marshalString, List.length_append, List.length_append, quote, writtenLength]
  omega

/-- More fuel than bytes changes nothing. -/
theorem escape_fuel (first second : Nat) (text : GoString) (enough : text.length ≤ first)
    (also_ : text.length ≤ second) : escapeFrom first text = escapeFrom second text := by
  induction first generalizing second text with
  | zero =>
      have empty : text = [] := List.length_eq_zero_iff.mp (Nat.le_zero.mp enough)
      rw [empty]
      cases second <;> rfl
  | succ first ih =>
      cases text with
      | nil => cases second <;> rfl
      | cons byte text =>
          cases second with
          | zero => simp at also_
          | succ second =>
              rw [List.length_cons] at enough also_
              have rest := ih second text (Nat.le_of_succ_le_succ enough)
                (Nat.le_of_succ_le_succ also_)
              rw [escapeFrom, escapeFrom, rest]
              cases found : runeSize (byte :: text) with
              | none => rfl
              | some size =>
                  obtain ⟨_, two⟩ := rune_size_le (byte :: text) size found
                  have dropped := List.length_drop (i := size) (l := byte :: text)
                  rw [List.length_cons] at dropped
                  simp only [ih second ((byte :: text).drop size) (by omega) (by omega)]

theorem written_ascii (byte : UInt8) (text : GoString) (ascii : byte < 0x80) :
    writtenLength (byte :: text) = (escapeByte byte).length + writtenLength text := by
  rw [writtenLength, List.length_cons, escapeFrom, if_pos ascii, List.length_append, writtenLength]

theorem written_invalid (byte : UInt8) (text : GoString) (wide : ¬byte < 0x80)
    (found : runeSize (byte :: text) = none) :
    writtenLength (byte :: text) = 6 + writtenLength text := by
  have mark : (lit "\\ufffd").length = 6 := by decide
  rw [writtenLength, List.length_cons, escapeFrom, if_neg wide]
  simp only [found]
  rw [List.length_append, mark, writtenLength]

theorem written_rune (byte : UInt8) (text : GoString) (size : Nat) (wide : ¬byte < 0x80)
    (found : runeSize (byte :: text) = some size) :
    writtenLength (byte :: text) =
      (escapeRune ((byte :: text).take size)).length +
        writtenLength ((byte :: text).drop size) := by
  obtain ⟨_, two⟩ := rune_size_le (byte :: text) size found
  have dropped := List.length_drop (i := size) (l := byte :: text)
  rw [List.length_cons] at dropped
  rw [writtenLength, List.length_cons, escapeFrom, if_neg wide]
  simp only [found]
  rw [List.length_append, writtenLength,
    escape_fuel text.length ((byte :: text).drop size).length _ (by omega) (Nat.le_refl _)]

/-- The bytes of a rune behind the first continue it. -/
theorem rune_continues (text : GoString) (size : Nat) (found : runeSize text = some size) :
    size ≤ 4 ∧ ∀ byte ∈ (text.take size).tail, continuation byte = true := by
  match text with
  | [] => simp [runeSize] at found
  | [_] => simp [runeSize] at found
  | [first, second] =>
      simp only [runeSize] at found
      split_ifs at found with two tail
      cases found
      simp [tail]
  | [first, second, third] =>
      simp only [runeSize] at found
      split_ifs at found with two tail three tail
      all_goals
        cases found
        simp_all
  | first :: second :: third :: fourth :: rest =>
      simp only [runeSize] at found
      split_ifs at found with two tail three tail four
      all_goals
        cases found
        simp_all

/-- A byte that continues a rune starts none. -/
theorem written_continuation (byte : UInt8) (text : GoString)
    (continues : continuation byte = true) :
    writtenLength (byte :: text) = 6 + writtenLength text := by
  rw [continuation, Bool.and_eq_true, decide_eq_true_eq, decide_eq_true_eq] at continues
  have wide : ¬byte < 0x80 := UInt8.not_lt.mpr continues.1
  have small : ∀ first : UInt8, 0xBF < first → ¬first ≤ byte := fun first above least =>
    absurd (UInt8.lt_of_lt_of_le above least) (UInt8.not_lt.mpr continues.2)
  have two := small 0xC2 (by decide)
  have three := small 0xE0 (by decide)
  have four := small 0xF0 (by decide)
  apply written_invalid byte text wide
  match text with
  | [] => rfl
  | [_] => simp [runeSize, two]
  | [_, _] => simp [runeSize, two, three]
  | _ :: _ :: _ :: _ => simp [runeSize, two, three, four]

theorem written_drop_continuations (count : Nat) (text : GoString)
    (continues : ∀ byte ∈ text.take count, continuation byte = true) :
    writtenLength (text.drop count) ≤ writtenLength text := by
  induction count generalizing text with
  | zero => exact Nat.le_refl _
  | succ count ih =>
      cases text with
      | nil => exact Nat.le_refl _
      | cons byte text =>
          rw [List.take_succ_cons] at continues
          have rest := ih text fun other member => continues other (List.mem_cons_of_mem _ member)
          rw [List.drop_succ_cons, written_continuation byte text (continues byte List.mem_cons_self)]
          omega

theorem escape_rune_bound (rune : GoString) (short : rune.length ≤ 4) :
    (escapeRune rune).length ≤ 6 := by
  unfold escapeRune
  split_ifs
  · decide
  · decide
  · omega

/-- How a rune is read at the seam of two texts: inside the first as there, or the second
begins with bytes that continue it. -/
theorem rune_at_seam (left right : GoString) :
    runeSize (left ++ right) = runeSize left ∨
      ∃ size, runeSize left = none ∧ runeSize (left ++ right) = some size ∧
        left.length < size := by
  cases found : runeSize left with
  | some size =>
      have same := rune_size_local left (left.drop size ++ right) size found
      rw [← List.append_assoc, List.take_append_drop] at same
      exact .inl same
  | none =>
      cases whole : runeSize (left ++ right) with
      | none => exact .inl rfl
      | some size =>
          refine .inr ⟨size, rfl, rfl, Nat.lt_of_not_le fun inside => ?_⟩
          have same := rune_size_local (left ++ right) (left.drop size) size whole
          rw [List.take_append_of_le_length inside, List.take_append_drop, found] at same
          exact absurd same (by simp)

/-- Two texts written as one are never longer than apart: a rune that the seam completes
stands for bytes that were each written as a replacement. -/
theorem written_append_le (left right : GoString) :
    writtenLength (left ++ right) ≤ writtenLength left + writtenLength right := by
  generalize size : left.length = count
  induction count using Nat.strong_induction_on generalizing left with
  | _ count ih =>
      cases left with
      | nil =>
          rw [List.nil_append]
          exact Nat.le_add_left _ _
      | cons byte text =>
          rw [List.length_cons] at size
          have rest := ih text.length (by omega) text rfl
          rw [List.cons_append]
          by_cases ascii : byte < 0x80
          · rw [written_ascii byte (text ++ right) ascii, written_ascii byte text ascii]
            omega
          · rcases rune_at_seam (byte :: text) right with same | ⟨width, alone, whole, beyond⟩
            · rw [List.cons_append] at same
              cases found : runeSize (byte :: text) with
              | none =>
                  rw [written_invalid byte (text ++ right) ascii (same.trans found),
                    written_invalid byte text ascii found]
                  omega
              | some width =>
                  obtain ⟨within, two⟩ := rune_size_le (byte :: text) width found
                  have dropped := List.length_drop (i := width) (l := byte :: text)
                  rw [List.length_cons] at dropped
                  have later := ih ((byte :: text).drop width).length (by omega) _ rfl
                  rw [written_rune byte (text ++ right) width ascii (same.trans found),
                    written_rune byte text width ascii found, ← List.cons_append,
                    List.take_append_of_le_length within, List.drop_append_of_le_length within]
                  omega
            · have joined : ((byte :: text) ++ right).take width =
                  (byte :: text) ++ right.take (width - (text.length + 1)) := by
                rw [List.take_append, List.take_of_length_le (Nat.le_of_lt beyond),
                  List.length_cons]
              have left_ : ((byte :: text) ++ right).drop width =
                  right.drop (width - (text.length + 1)) := by
                rw [List.drop_append, List.drop_of_length_le (Nat.le_of_lt beyond),
                  List.nil_append, List.length_cons]
              obtain ⟨four, continues⟩ := rune_continues _ width whole
              have shorter := written_drop_continuations (width - (text.length + 1)) right
                (fun other member => continues other (by
                  rw [joined, List.cons_append, List.tail_cons]
                  exact List.mem_append_right text member))
              have rune := escape_rune_bound (((byte :: text) ++ right).take width)
                ((List.length_take_le _ _).trans four)
              rw [List.cons_append] at rune left_ whole
              rw [written_rune byte (text ++ right) width ascii whole, left_,
                written_invalid byte text ascii alone]
              omega

/-- A byte that continues no rune parts a text in two. -/
theorem written_append (left : GoString) (byte : UInt8) (right : GoString)
    (starts : continuation byte = false) :
    writtenLength (left ++ byte :: right) =
      writtenLength left + writtenLength (byte :: right) := by
  generalize size : left.length = count
  induction count using Nat.strong_induction_on generalizing left with
  | _ count ih =>
      cases left with
      | nil =>
          rw [List.nil_append]
          exact (Nat.zero_add _).symm
      | cons first text =>
          rw [List.length_cons] at size
          have rest := ih text.length (by omega) text rfl
          rw [List.cons_append]
          by_cases ascii : first < 0x80
          · rw [written_ascii first (text ++ byte :: right) ascii, written_ascii first text ascii,
              rest, Nat.add_assoc]
          · rcases rune_at_seam (first :: text) (byte :: right) with
              same | ⟨width, _, whole, beyond⟩
            · rw [List.cons_append] at same
              cases found : runeSize (first :: text) with
              | none =>
                  rw [written_invalid first _ ascii (same.trans found),
                    written_invalid first text ascii found, rest, Nat.add_assoc]
              | some width =>
                  obtain ⟨within, two⟩ := rune_size_le (first :: text) width found
                  have dropped := List.length_drop (i := width) (l := first :: text)
                  rw [List.length_cons] at dropped
                  have later := ih ((first :: text).drop width).length (by omega) _ rfl
                  rw [written_rune first _ width ascii (same.trans found),
                    written_rune first text width ascii found, ← List.cons_append,
                    List.take_append_of_le_length within, List.drop_append_of_le_length within,
                    later, Nat.add_assoc]
            · obtain ⟨_, continues⟩ := rune_continues _ width whole
              have inside : byte ∈ (((first :: text) ++ byte :: right).take width).tail := by
                rw [List.take_append, List.take_of_length_le (Nat.le_of_lt beyond),
                  List.cons_append, List.tail_cons]
                obtain ⟨more, grows⟩ := Nat.exists_eq_add_of_lt beyond
                rw [grows, Nat.add_assoc, Nat.add_sub_cancel_left, List.take_succ_cons]
                exact List.mem_append_right text List.mem_cons_self
              rw [continues byte inside] at starts
              exact absurd starts.symm Bool.false_ne_true

/-- A space is one whole rune. -/
theorem space_rune_whole : ∀ rune ∈ spaceRunes, continuation (rune.headD 0) = false ∧
    (rune.length = 1 ∧ rune.headD 0 < 0x80 ∨
      ¬rune.headD 0 < 0x80 ∧ runeSize rune = some rune.length) := by
  decide

theorem written_behind_space (rune text : GoString) (space : rune ∈ spaceRunes) :
    writtenLength text ≤ writtenLength (rune ++ text) := by
  obtain ⟨_, whole⟩ := space_rune_whole rune space
  cases rune with
  | nil => exact Nat.le_refl _
  | cons byte rest =>
      rcases whole with ⟨one, ascii⟩ | ⟨wide, found⟩
      · have alone : rest = [] := List.length_eq_zero_iff.mp (Nat.succ.inj one)
        rw [alone, List.singleton_append, written_ascii byte text ascii]
        exact Nat.le_add_left _ _
      · have same := rune_size_local (byte :: rest) text _ found
        rw [List.take_length] at same
        rw [List.cons_append] at same ⊢
        rw [written_rune byte (rest ++ text) _ wide same, ← List.cons_append, List.drop_left]
        exact Nat.le_add_left _ _

theorem written_before_space (text rune : GoString) (space : rune ∈ spaceRunes) :
    writtenLength text ≤ writtenLength (text ++ rune) := by
  obtain ⟨starts, _⟩ := space_rune_whole rune space
  cases rune with
  | nil => rw [List.append_nil]
  | cons byte rest =>
      rw [written_append text byte rest starts]
      exact Nat.le_add_right _ _

theorem written_trim_start (text : GoString) :
    writtenLength (trimStart spaceRunes text) ≤ writtenLength text := by
  unfold trimStart
  generalize text.length = fuel
  induction fuel generalizing text with
  | zero => exact Nat.le_refl _
  | succ fuel ih =>
      rw [trimStartFuel]
      cases found : spaceRunes.find? (fun rune => rune.isPrefixOf text) with
      | none => exact Nat.le_refl _
      | some rune =>
          have starts := List.find?_some found
          obtain ⟨rest, split⟩ := List.isPrefixOf_iff_prefix.mp starts
          have shorter := written_behind_space rune rest (List.mem_of_find?_eq_some found)
          refine (ih (text.drop rune.length)).trans ?_
          rw [← split, List.drop_left]
          exact shorter

theorem written_trim_end (text : GoString) :
    writtenLength (trimEnd spaceRunes text) ≤ writtenLength text := by
  have back : ∀ fuel (text : GoString),
      writtenLength (trimStartFuel (spaceRunes.map List.reverse) fuel text).reverse ≤
        writtenLength text.reverse := by
    intro fuel
    induction fuel with
    | zero => exact fun text => Nat.le_refl _
    | succ fuel ih =>
        intro text
        rw [trimStartFuel]
        cases found : (spaceRunes.map List.reverse).find? (fun rune => rune.isPrefixOf text) with
        | none => exact Nat.le_refl _
        | some reversed =>
            obtain ⟨rune, space, same⟩ := List.mem_map.mp (List.mem_of_find?_eq_some found)
            have starts := List.find?_some found
            obtain ⟨rest, split⟩ := List.isPrefixOf_iff_prefix.mp starts
            have shorter := written_before_space rest.reverse rune space
            refine (ih (text.drop reversed.length)).trans ?_
            rw [← split, List.drop_left, List.reverse_append, ← same, List.reverse_reverse]
            exact shorter
  have whole := back text.reverse.length text.reverse
  rw [List.reverse_reverse] at whole
  exact whole

theorem written_trim_space (text : GoString) :
    writtenLength (trimSpace text) ≤ writtenLength text :=
  (written_trim_end _).trans (written_trim_start text)

/-- What stands around a text of ASCII ends is written apart from it. -/
theorem written_cut (before after : GoString) (first last : UInt8) (between : GoString)
    (starts : first < 0x80) (ends : last < 0x80) :
    writtenLength before + writtenLength after ≤
      writtenLength (before ++ first :: (between ++ last :: after)) := by
  have ascii : ∀ byte : UInt8, byte < 0x80 → continuation byte = false := by
    intro byte small
    rw [continuation, decide_eq_false (UInt8.not_le.mpr small), Bool.false_and]
  rw [written_append before first _ (ascii first starts), written_ascii first _ starts,
    written_append between last after (ascii last ends), written_ascii last after ends]
  omega

theorem written_intercalate (separator : GoString) (items : List GoString) (more : items ≠ []) :
    writtenLength (List.intercalate separator items) + writtenLength separator ≤
      (items.map fun item => writtenLength item + writtenLength separator).sum := by
  induction items with
  | nil => exact absurd rfl more
  | cons item items ih =>
      cases items with
      | nil => simp
      | cons next items =>
          have rest := ih (List.cons_ne_nil next items)
          have front := written_append_le (item ++ separator)
            (List.intercalate separator (next :: items))
          have pair := written_append_le item separator
          rw [List.intercalate_cons_cons, List.map_cons, List.sum_cons]
          omega

end Lengths

end KiroProxy.JsonText
