import Mathlib.Data.List.Basic

/-!
# Searching a pattern in a text

A text is a list of symbols of any type with decidable equality: bytes, characters.
-/

namespace KiroProxy.Foundation.Searching

set_option autoImplicit false

variable {Symbol : Type*} [DecidableEq Symbol]

/-- The index of the first occurrence, as `strings.Index` has it. -/
def indexOf (pattern : List Symbol) : List Symbol → Option Nat
  | [] => if pattern = [] then some 0 else none
  | symbol :: text =>
      if pattern.isPrefixOf (symbol :: text) then some 0
      else (indexOf pattern text).map (· + 1)

/-! What a search finds in a text is found again when the text grows. -/

theorem prefix_of_append (tag text more : List Symbol) (found : tag.isPrefixOf text = true) :
    tag.isPrefixOf (text ++ more) = true := by
  rw [List.isPrefixOf_iff_prefix] at found ⊢
  exact found.trans (List.prefix_append text more)

/-- A tag that starts a longer text starts the text, or the text is a part of it. -/
theorem prefix_append_cases (tag text more : List Symbol)
    (found : tag.isPrefixOf (text ++ more) = true) :
    tag.isPrefixOf text = true ∨ (text.length < tag.length ∧ text.isPrefixOf tag = true) := by
  rw [List.isPrefixOf_iff_prefix] at found
  by_cases fits : tag.length ≤ text.length
  · left
    rw [List.isPrefixOf_iff_prefix]
    exact List.prefix_of_prefix_length_le found (List.prefix_append text more) fits
  · right
    have shorter : text.length < tag.length := Nat.lt_of_not_le fits
    refine ⟨shorter, ?_⟩
    rw [List.isPrefixOf_iff_prefix]
    exact List.prefix_of_prefix_length_le (List.prefix_append text more) found
      (Nat.le_of_lt shorter)

theorem index_found (pattern text : List Symbol) (index : Nat)
    (found : indexOf pattern text = some index) :
    pattern <+: text.drop index ∧ index + pattern.length ≤ text.length := by
  induction text generalizing index with
  | nil =>
      rw [indexOf] at found
      split_ifs at found with empty
      rw [Option.some.injEq] at found
      simp [empty, ← found]
  | cons symbol text ih =>
      rw [indexOf] at found
      split_ifs at found with here
      · rw [Option.some.injEq] at found
        rw [← found, List.drop_zero]
        have starts := List.isPrefixOf_iff_prefix.mp here
        exact ⟨starts, by simpa using starts.length_le⟩
      · obtain ⟨later, shifted, same⟩ := Option.map_eq_some_iff.mp found
        have rest := ih later shifted
        rw [← same, List.drop_succ_cons, List.length_cons]
        exact ⟨rest.1, by omega⟩

theorem index_append (pattern text more : List Symbol) (index : Nat)
    (found : indexOf pattern text = some index) :
    indexOf pattern (text ++ more) = some index := by
  induction text generalizing index with
  | nil =>
      rw [indexOf] at found
      split_ifs at found with empty
      rw [← found, empty]
      cases more <;> simp [indexOf]
  | cons symbol text ih =>
      rw [indexOf] at found
      rw [List.cons_append, indexOf]
      split_ifs at found with here
      · rw [← List.cons_append, if_pos (prefix_of_append pattern _ more here)]
        exact found
      · obtain ⟨later, shifted, same⟩ := Option.map_eq_some_iff.mp found
        have fits := (index_found pattern text later shifted).2
        have apart : ¬pattern.isPrefixOf (symbol :: (text ++ more)) = true := by
          intro longer
          rcases prefix_append_cases pattern (symbol :: text) more longer with short | part
          · exact here short
          · have bound := part.1
            simp only [List.length_cons] at bound
            omega
        rw [if_neg apart, ih later shifted, ← same]
        rfl

theorem index_none (pattern text : List Symbol) (missing : indexOf pattern text = none)
    (index : Nat) (bound : index < text.length) : ¬pattern <+: text.drop index := by
  induction text generalizing index with
  | nil => simp at bound
  | cons symbol text ih =>
      rw [indexOf] at missing
      split_ifs at missing with here
      rw [Option.map_eq_none_iff] at missing
      cases index with
      | zero =>
          intro starts
          exact here (List.isPrefixOf_iff_prefix.mpr starts)
      | succ index =>
          rw [List.drop_succ_cons]
          exact ih missing index (by simpa using bound)

/-- `strings.Index` finds the first occurrence. -/
theorem index_first (pattern text : List Symbol) (stop : Nat)
    (found : indexOf pattern text = some stop) (index : Nat) (before : index < stop) :
    ¬pattern <+: text.drop index := by
  induction text generalizing stop index with
  | nil =>
      rw [indexOf] at found
      split_ifs at found
      rw [Option.some.injEq] at found
      omega
  | cons symbol text ih =>
      rw [indexOf] at found
      split_ifs at found with here
      · rw [Option.some.injEq] at found
        omega
      · obtain ⟨later, shifted, same⟩ := Option.map_eq_some_iff.mp found
        cases index with
        | zero =>
            intro starts
            exact here (List.isPrefixOf_iff_prefix.mpr starts)
        | succ index =>
            rw [List.drop_succ_cons]
            exact ih later shifted index (by omega)

/-- What is found only in the longer text reaches into what was added. -/
theorem index_new (pattern text more : List Symbol) (index : Nat) (nonempty : pattern ≠ [])
    (missing : indexOf pattern text = none)
    (found : indexOf pattern (text ++ more) = some index) :
    text.length < index + pattern.length := by
  by_contra inside
  have starts := (index_found pattern (text ++ more) index found).1
  have fits : index + pattern.length ≤ text.length := Nat.le_of_not_lt inside
  have positive := List.length_pos_iff.mpr nonempty
  rw [List.drop_append_of_le_length (by omega)] at starts
  have within := List.prefix_of_prefix_length_le starts (List.prefix_append _ more)
    (by simp only [List.length_drop]; omega)
  exact index_none pattern text missing index (by omega) within

section FirstAt

/-! The first occurrence, as a splitting of the text around it. -/

def FirstAt (pattern text before after : List Symbol) : Prop :=
  text = before ++ pattern ++ after ∧
    ∀ earlier rest, text = earlier ++ pattern ++ rest → before.length ≤ earlier.length

omit [DecidableEq Symbol] in
theorem first_unique {pattern text before after before' after' : List Symbol}
    (first : FirstAt pattern text before after)
    (second : FirstAt pattern text before' after') : before = before' ∧ after = after' := by
  have same : before.length = before'.length :=
    Nat.le_antisymm (first.2 before' after' second.1) (second.2 before after first.1)
  have texts := first.1.symm.trans second.1
  rw [List.append_assoc, List.append_assoc] at texts
  obtain ⟨befores, rests⟩ := List.append_inj texts same
  exact ⟨befores, List.append_cancel_left rests⟩

omit [DecidableEq Symbol] in
theorem first_append {pattern text before after : List Symbol}
    (first : FirstAt pattern text before after) (more : List Symbol) :
    FirstAt pattern (text ++ more) before (after ++ more) := by
  refine ⟨by rw [first.1, List.append_assoc], ?_⟩
  intro earlier rest split
  by_contra shorter
  have fits : (earlier ++ pattern).length ≤ text.length := by
    rw [first.1]
    simp only [List.length_append]
    omega
  rw [List.append_eq_append_iff] at split
  rcases split with ⟨inside, longer, _⟩ | ⟨inside, within, _⟩
  · have empty : inside = [] := by
      rw [longer, List.length_append] at fits
      exact List.eq_nil_of_length_eq_zero (by omega)
    rw [empty, List.append_nil] at longer
    exact shorter (first.2 earlier [] (by rw [List.append_nil, longer]))
  · exact shorter (first.2 earlier inside within)

omit [DecidableEq Symbol] in
theorem first_absent {pattern text before after : List Symbol} (nonempty : pattern ≠ [])
    (first : FirstAt pattern text before after) : ¬pattern <:+: before := by
  rintro ⟨earlier, between, split⟩
  have bound := first.2 earlier (between ++ pattern ++ after)
    (by rw [first.1, ← split]; simp only [List.append_assoc])
  have positive := List.length_pos_iff.mpr nonempty
  rw [← split] at bound
  simp only [List.length_append] at bound
  omega

omit [DecidableEq Symbol] in
/-- A tail that is one symbol short of the pattern keeps every later occurrence behind
the text before it. -/
theorem held_back {pattern released tail : List Symbol}
    (absent : ¬pattern <:+: released ++ tail) (long : pattern.length ≤ tail.length + 1)
    (more earlier rest : List Symbol)
    (split : released ++ (tail ++ more) = earlier ++ pattern ++ rest) :
    released.length ≤ earlier.length := by
  by_contra shorter
  have fits : (earlier ++ pattern).length ≤ (released ++ tail).length := by
    simp only [List.length_append]
    omega
  rw [← List.append_assoc] at split
  have starts : earlier ++ pattern <+: released ++ tail :=
    List.prefix_of_prefix_length_le ⟨rest, split.symm⟩ (List.prefix_append _ more) fits
  exact absent ((List.suffix_append earlier pattern).isInfix.trans starts.isInfix)

omit [DecidableEq Symbol] in
theorem first_behind {pattern released text before after : List Symbol}
    (behind : ∀ earlier rest, released ++ text = earlier ++ pattern ++ rest →
      released.length ≤ earlier.length)
    (first : FirstAt pattern text before after) :
    FirstAt pattern (released ++ text) (released ++ before) after := by
  refine ⟨by rw [first.1]; simp only [List.append_assoc], ?_⟩
  intro earlier rest split
  have bound := behind earlier rest split
  rw [List.append_assoc, List.append_eq_append_iff] at split
  rcases split with ⟨inside, longer, within⟩ | ⟨inside, shorter, within⟩
  · have nearest := first.2 inside rest (by rw [within, List.append_assoc])
    rw [longer]
    simp only [List.length_append]
    omega
  · have empty : inside = [] := by
      rw [shorter, List.length_append] at bound
      exact List.eq_nil_of_length_eq_zero (by omega)
    rw [empty] at shorter within
    have nearest := first.2 [] rest (by rw [List.nil_append, within, List.nil_append])
    rw [shorter]
    simp only [List.length_append, List.length_nil] at nearest ⊢
    omega

omit [DecidableEq Symbol] in
theorem absent_behind {pattern released text : List Symbol}
    (behind : ∀ earlier rest, released ++ text = earlier ++ pattern ++ rest →
      released.length ≤ earlier.length)
    (absent : ¬pattern <:+: text) : ¬pattern <:+: released ++ text := by
  rintro ⟨earlier, rest, split⟩
  have bound := behind earlier rest split.symm
  rw [List.append_assoc, List.append_eq_append_iff] at split
  rcases split with ⟨inside, longer, within⟩ | ⟨inside, shorter, within⟩
  · have empty : inside = [] := by
      rw [longer, List.length_append] at bound
      exact List.eq_nil_of_length_eq_zero (by omega)
    rw [empty, List.nil_append] at within
    exact absent ⟨[], rest, by rw [List.nil_append, within]⟩
  · exact absent ⟨inside, rest, by rw [within, List.append_assoc]⟩

theorem index_none_iff (pattern text : List Symbol) (nonempty : pattern ≠ []) :
    indexOf pattern text = none ↔ ¬pattern <:+: text := by
  constructor
  · intro missing ⟨before, after, split⟩
    have bound : before.length < text.length := by
      have positive := List.length_pos_iff.mpr nonempty
      rw [← split, List.length_append, List.length_append]
      omega
    apply index_none pattern text missing before.length bound
    rw [← split, List.append_assoc, List.drop_left]
    exact List.prefix_append pattern after
  · intro absent
    by_contra found
    obtain ⟨index, found⟩ := Option.ne_none_iff_exists'.mp found
    obtain ⟨after, split⟩ := (index_found pattern text index found).1
    apply absent
    refine ⟨text.take index, after, ?_⟩
    rw [List.append_assoc, split, List.take_append_drop]

theorem index_first_at (pattern text : List Symbol) (index : Nat)
    (found : indexOf pattern text = some index) :
    FirstAt pattern text (text.take index) (text.drop (index + pattern.length)) := by
  obtain ⟨starts, fits⟩ := index_found pattern text index found
  refine ⟨?_, ?_⟩
  · obtain ⟨after, split⟩ := starts
    have rest : text.drop (index + pattern.length) = after := by
      rw [← List.drop_drop, ← split, List.drop_left]
    rw [rest, List.append_assoc, split, List.take_append_drop]
  · intro earlier rest split
    rw [List.length_take, Nat.min_eq_left (by omega)]
    by_contra before
    apply index_first pattern text index found earlier.length (by omega)
    rw [split, List.append_assoc, List.drop_left]
    exact List.prefix_append pattern rest

theorem first_at_index {pattern text before after : List Symbol} (nonempty : pattern ≠ [])
    (first : FirstAt pattern text before after) :
    indexOf pattern text = some before.length := by
  cases found : indexOf pattern text with
  | none =>
      have absent := (index_none_iff pattern text nonempty).mp found
      exact absurd ⟨before, after, first.1.symm⟩ absent
  | some index =>
      have fits := (index_found pattern text index found).2
      have same := (first_unique (index_first_at pattern text index found) first).1
      rw [← same, List.length_take, Nat.min_eq_left (by omega)]

theorem exists_first_at {pattern text : List Symbol} (nonempty : pattern ≠ [])
    (occurs : pattern <:+: text) : ∃ before after, FirstAt pattern text before after := by
  cases found : indexOf pattern text with
  | none => exact absurd occurs ((index_none_iff pattern text nonempty).mp found)
  | some index => exact ⟨_, _, index_first_at pattern text index found⟩

/-! What of a text may grow into a pattern. -/

/-- The longest part of a pattern, of `bound` symbols at most, that the text ends with. -/
def longestEnd (pattern text : List Symbol) : Nat → Nat
  | 0 => 0
  | bound + 1 =>
      if (pattern.take (bound + 1)).isSuffixOf text then bound + 1
      else longestEnd pattern text bound

theorem le_longest_end (pattern text : List Symbol) (bound count : Nat) (within : count ≤ bound)
    (ends : pattern.take count <:+ text) : count ≤ longestEnd pattern text bound := by
  induction bound with
  | zero => exact within
  | succ bound ih =>
      rw [longestEnd]
      split_ifs with longest
      · exact within
      · apply ih
        by_contra beyond
        have same : count = bound + 1 := by omega
        rw [same] at ends
        exact longest (List.isSuffixOf_iff_suffix.mpr ends)

/-- An occurrence in the grown text starts in the end that may grow into the pattern. -/
theorem occurs_in_end {pattern text : List Symbol} (absent : ¬pattern <:+: text)
    (more earlier rest : List Symbol) (split : text ++ more = earlier ++ pattern ++ rest) :
    text.length - longestEnd pattern text (min (pattern.length - 1) text.length) ≤
      earlier.length := by
  rw [List.append_assoc, List.append_eq_append_iff] at split
  cases split with
  | inl beyond =>
      obtain ⟨between, longer, _⟩ := beyond
      rw [longer, List.length_append]
      omega
  | inr inside =>
      obtain ⟨part, whole, grown⟩ := inside
      have shorter : part.length < pattern.length := by
        by_contra fits
        have starts : pattern <+: part :=
          List.prefix_of_prefix_length_le ⟨rest, grown⟩ (List.prefix_append part more)
            (Nat.le_of_not_lt fits)
        apply absent
        rw [whole]
        exact starts.isInfix.trans (List.suffix_append earlier part).isInfix
      have taken : pattern.take part.length = part := by
        have same := congrArg (List.take part.length) grown
        rw [List.take_append_of_le_length (Nat.le_of_lt shorter), List.take_left] at same
        exact same
      have ends : pattern.take part.length <:+ text := by
        rw [taken, whole]
        exact List.suffix_append earlier part
      have size := congrArg List.length whole
      rw [List.length_append] at size
      have longest := le_longest_end pattern text (min (pattern.length - 1) text.length)
        part.length (by omega) ends
      omega

/-- A pattern whose head stands in it once only is first where it is put behind a text
without it. -/
theorem first_at_once (head : Symbol) (tail before after : List Symbol)
    (once : head ∉ tail) (absent : ¬(head :: tail) <:+: before) :
    FirstAt (head :: tail) (before ++ (head :: tail) ++ after) before after := by
  refine ⟨rfl, ?_⟩
  intro earlier rest split
  by_contra shorter
  rw [List.append_assoc, List.append_assoc, List.append_eq_append_iff] at split
  cases split with
  | inl longer =>
      obtain ⟨more, same, _⟩ := longer
      rw [same, List.length_append] at shorter
      omega
  | inr inside =>
      obtain ⟨middle, same, texts⟩ := inside
      have starts : (head :: tail) <+: middle ++ ((head :: tail) ++ after) :=
        ⟨rest, texts⟩
      rw [← List.isPrefixOf_iff_prefix] at starts
      cases prefix_append_cases _ middle _ starts with
      | inl here =>
          obtain ⟨more, whole⟩ := List.isPrefixOf_iff_prefix.mp here
          apply absent
          exact ⟨earlier, more, by rw [same, ← whole, List.append_assoc]⟩
      | inr part =>
          -- The second head would stand inside the pattern.
          obtain ⟨more, whole⟩ := List.isPrefixOf_iff_prefix.mp part.2
          cases middle with
          | nil =>
              rw [same, List.append_nil] at shorter
              exact shorter (Nat.le_refl _)
          | cons symbol middle =>
              rw [← whole, List.append_assoc, List.append_cancel_left_eq] at texts
              cases more with
              | nil =>
                  have size := congrArg List.length whole
                  rw [List.append_nil] at size
                  exact absurd part.1 (by omega)
              | cons second more =>
                  simp only [List.cons_append, List.cons.injEq] at texts whole
                  apply once
                  rw [← whole.2, texts.1, whole.1]
                  simp

end FirstAt

/-! A pattern without the separator is on one side of it. -/

omit [DecidableEq Symbol] in
theorem infix_split (pattern before after : List Symbol) (separator : Symbol)
    (absent : separator ∉ pattern) :
    pattern <:+: before ++ separator :: after ↔ pattern <:+: before ∨ pattern <:+: after := by
  constructor
  · intro inside
    rw [List.infix_append_iff, List.infix_cons_iff, List.prefix_cons_iff] at inside
    rcases inside with left | ((empty | ⟨rest, starts, _⟩) | right) | ⟨head, tail, split, ends, starts⟩
    · exact Or.inl left
    · rw [empty]
      exact Or.inl List.nil_infix
    · rw [starts] at absent
      exact absurd List.mem_cons_self absent
    · exact Or.inr right
    · rw [List.prefix_cons_iff] at starts
      rcases starts with empty | ⟨rest, same, _⟩
      · rw [split, empty, List.append_nil]
        exact Or.inl ends.isInfix
      · rw [split, same] at absent
        exact absurd (List.mem_append_right _ List.mem_cons_self) absent
  · intro sides
    cases sides with
    | inl left => exact left.trans (List.prefix_append _ _).isInfix
    | inr right =>
        apply right.trans
        exact ⟨before ++ [separator], [], by simp⟩

omit [DecidableEq Symbol] in
theorem last_separator_le (separator : Symbol) {before after before' after' between : List Symbol}
    (absent : separator ∉ after) (longer : before' = before ++ between)
    (rest : separator :: after = between ++ separator :: after') :
    before = before' ∧ after = after' := by
  cases between with
  | nil =>
      rw [longer, List.append_nil]
      exact ⟨rfl, (List.cons.inj rest).2⟩
  | cons head between =>
      have inside := (List.cons.inj rest).2
      rw [inside] at absent
      exact absurd (List.mem_append_right _ List.mem_cons_self) absent

omit [DecidableEq Symbol] in
/-- The last separator of a text splits it in one way. -/
theorem last_separator_unique (separator : Symbol) {before after before' after' : List Symbol}
    (absent : separator ∉ after) (absent' : separator ∉ after')
    (same : before ++ separator :: after = before' ++ separator :: after') :
    before = before' ∧ after = after' := by
  rcases List.append_eq_append_iff.mp same with ⟨between, longer, rest⟩ | ⟨between, longer, rest⟩
  · exact last_separator_le separator absent longer rest
  · obtain ⟨front, back⟩ := last_separator_le separator absent' longer rest
    exact ⟨front.symm, back.symm⟩

omit [DecidableEq Symbol] in
theorem first_separator_le (separator : Symbol) {before after before' after' between : List Symbol}
    (absent : separator ∉ before') (longer : before' = before ++ between)
    (rest : separator :: after = between ++ separator :: after') :
    before = before' ∧ after = after' := by
  cases between with
  | nil =>
      rw [longer, List.append_nil]
      exact ⟨rfl, (List.cons.inj rest).2⟩
  | cons head between =>
      rw [longer, ← (List.cons.inj rest).1] at absent
      exact absurd (List.mem_append_right _ List.mem_cons_self) absent

omit [DecidableEq Symbol] in
/-- The first separator of a text splits it in one way. -/
theorem first_separator_unique (separator : Symbol) {before after before' after' : List Symbol}
    (absent : separator ∉ before) (absent' : separator ∉ before')
    (same : before ++ separator :: after = before' ++ separator :: after') :
    before = before' ∧ after = after' := by
  rcases List.append_eq_append_iff.mp same with ⟨between, longer, rest⟩ | ⟨between, longer, rest⟩
  · exact first_separator_le separator absent' longer rest
  · obtain ⟨front, back⟩ := first_separator_le separator absent longer rest
    exact ⟨front.symm, back.symm⟩

end KiroProxy.Foundation.Searching
