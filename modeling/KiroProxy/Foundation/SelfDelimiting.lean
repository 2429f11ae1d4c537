import Mathlib.Data.List.Basic
import Mathlib.Data.List.Forall2

/-!
# Texts that tell where they end

A value is written so that its text tells both what the value is and where the text ends. The
property passes from the parts to what is put together of them: runs, sequences in front of a
closing symbol, and lists with separators.
-/

namespace KiroProxy.Foundation.SelfDelimiting

set_option autoImplicit false

variable {Symbol Value : Type*}

/-- In front of what may follow, the text of the value is no other value's. -/
def Delimited (write : Value → List Symbol) (valid : Value → Prop) (same : Value → Value → Prop)
    (follows : List Symbol → Prop) (value : Value) : Prop :=
  ∀ other rest more, valid other → follows rest → follows more →
    write value ++ rest = write other ++ more → same value other ∧ rest = more

/-- The texts of values that nothing confuses, whatever follows. -/
def Apart (code : Value → List Symbol) (valid : Value → Prop) : Prop :=
  ∀ value, valid value → Delimited code valid Eq (fun _ => True) value

/-- No text of a value begins with the symbol. -/
def Avoids (code : Value → List Symbol) (valid : Value → Prop) (symbol : Symbol) : Prop :=
  ∀ value, valid value → ∀ rest more, code value ++ rest ≠ symbol :: more

/-- A run of symbols of one kind ends where another kind begins. -/
theorem run_unique (within : Symbol → Bool) {first second rest more : List Symbol}
    (inside : ∀ symbol ∈ first, within symbol = true)
    (inside' : ∀ symbol ∈ second, within symbol = true)
    (ends : ∀ symbol ∈ rest.head?, within symbol = false)
    (ends' : ∀ symbol ∈ more.head?, within symbol = false)
    (same : first ++ rest = second ++ more) : first = second ∧ rest = more := by
  have stops : ∀ text : List Symbol, (∀ symbol ∈ text.head?, within symbol = false) →
      text.takeWhile within = [] := by
    intro text outside
    cases text with
    | nil => rfl
    | cons symbol text => simp [outside symbol rfl]
  have taken := congrArg (List.takeWhile within) same
  rw [List.takeWhile_append_of_pos inside, List.takeWhile_append_of_pos inside',
    stops rest ends, stops more ends', List.append_nil, List.append_nil] at taken
  exact ⟨taken, List.append_cancel_left (taken ▸ same)⟩

section Sequences

variable {code : Value → List Symbol} {valid : Value → Prop}

/-- A sequence of values in front of a closing symbol. -/
theorem closed_unique (apart : Apart code valid) (closer : Symbol)
    (avoids : Avoids code valid closer) (values others : List Value)
    (valids : ∀ value ∈ values, valid value) (valids' : ∀ value ∈ others, valid value)
    {rest more : List Symbol}
    (same : values.flatMap code ++ closer :: rest = others.flatMap code ++ closer :: more) :
    values = others ∧ rest = more := by
  induction values generalizing others with
  | nil =>
      cases others with
      | nil => exact ⟨rfl, (List.cons.inj same).2⟩
      | cons other others =>
          rw [List.flatMap_cons, List.append_assoc] at same
          exact absurd same.symm (avoids other (valids' other List.mem_cons_self) _ _)
  | cons value values ih =>
      obtain ⟨here, later⟩ := List.forall_mem_cons.mp valids
      cases others with
      | nil =>
          rw [List.flatMap_cons, List.append_assoc] at same
          exact absurd same (avoids value here _ _)
      | cons other others =>
          obtain ⟨here', later'⟩ := List.forall_mem_cons.mp valids'
          rw [List.flatMap_cons, List.flatMap_cons, List.append_assoc, List.append_assoc] at same
          obtain ⟨first, behind⟩ := apart value here other _ _ here' trivial trivial same
          obtain ⟨others_, ends⟩ := ih others later later' behind
          exact ⟨congrArg₂ List.cons first others_, ends⟩

/-- A sequence of values that is the whole text. -/
theorem sequence_unique (apart : Apart code valid) (some_ : ∀ value, code value ≠ [])
    (values others : List Value) (valids : ∀ value ∈ values, valid value)
    (valids' : ∀ value ∈ others, valid value)
    (same : values.flatMap code = others.flatMap code) : values = others := by
  induction values generalizing others with
  | nil =>
      cases others with
      | nil => rfl
      | cons other others =>
          exact absurd (List.append_eq_nil_iff.mp same.symm).1 (some_ other)
  | cons value values ih =>
      obtain ⟨here, later⟩ := List.forall_mem_cons.mp valids
      cases others with
      | nil => exact absurd (List.append_eq_nil_iff.mp same).1 (some_ value)
      | cons other others =>
          obtain ⟨here', later'⟩ := List.forall_mem_cons.mp valids'
          obtain ⟨first, behind⟩ := apart value here other _ _ here' trivial trivial same
          exact congrArg₂ List.cons first (ih others later later' behind)

end Sequences

section Lists

variable {write : Value → List Symbol} {valid : Value → Prop} {same : Value → Value → Prop}
  {follows : List Symbol → Prop} (separator closer : Symbol)

theorem intercalate_cons (text : List Symbol) (texts : List (List Symbol)) :
    List.intercalate [separator] (text :: texts) =
      text ++ texts.flatMap fun other => separator :: other := by
  induction texts generalizing text with
  | nil => simp
  | cons next texts ih =>
      rw [List.intercalate_cons_cons, ih, List.flatMap_cons]
      simp

/-- What stands between an item and the closing symbol begins with one of the two. -/
theorem tail_follows (separated : ∀ rest, follows (separator :: rest))
    (closed : ∀ rest, follows (closer :: rest)) (texts : List (List Symbol))
    (rest : List Symbol) :
    follows ((texts.flatMap fun other => separator :: other) ++ closer :: rest) := by
  cases texts with
  | nil => exact closed rest
  | cons text texts =>
      rw [List.flatMap_cons, List.cons_append, List.cons_append]
      exact separated _

theorem tail_unique (differ : separator ≠ closer) (separated : ∀ rest, follows (separator :: rest))
    (closed : ∀ rest, follows (closer :: rest)) (items others : List Value)
    (each : ∀ item ∈ items, Delimited write valid same follows item)
    (valids : ∀ item ∈ others, valid item) {rest more : List Symbol}
    (texts : ((items.map write).flatMap fun text => separator :: text) ++ closer :: rest =
      ((others.map write).flatMap fun text => separator :: text) ++ closer :: more) :
    List.Forall₂ same items others ∧ rest = more := by
  induction items generalizing others with
  | nil =>
      cases others with
      | nil => exact ⟨List.Forall₂.nil, (List.cons.inj texts).2⟩
      | cons other others => exact absurd (List.cons.inj texts).1.symm differ
  | cons item items ih =>
      obtain ⟨here, later⟩ := List.forall_mem_cons.mp each
      cases others with
      | nil => exact absurd (List.cons.inj texts).1 differ
      | cons other others =>
          obtain ⟨here', later'⟩ := List.forall_mem_cons.mp valids
          simp only [List.map_cons, List.flatMap_cons, List.cons_append, List.append_assoc,
            List.cons.injEq, true_and] at texts
          obtain ⟨first, behind⟩ := here other _ _ here'
            (tail_follows separator closer separated closed _ rest)
            (tail_follows separator closer separated closed _ more) texts
          obtain ⟨others_, ends⟩ := ih others later later' behind
          exact ⟨List.Forall₂.cons first others_, ends⟩

/-- A list with separators in front of a closing symbol. -/
theorem list_unique (differ : separator ≠ closer) (separated : ∀ rest, follows (separator :: rest))
    (closed : ∀ rest, follows (closer :: rest)) (avoids : Avoids write valid closer)
    (items others : List Value) (each : ∀ item ∈ items, Delimited write valid same follows item)
    (valids : ∀ item ∈ items, valid item) (valids' : ∀ item ∈ others, valid item)
    {rest more : List Symbol}
    (texts : List.intercalate [separator] (items.map write) ++ closer :: rest =
      List.intercalate [separator] (others.map write) ++ closer :: more) :
    List.Forall₂ same items others ∧ rest = more := by
  cases items with
  | nil =>
      cases others with
      | nil => exact ⟨List.Forall₂.nil, (List.cons.inj texts).2⟩
      | cons other others =>
          rw [List.map_cons, intercalate_cons, List.append_assoc] at texts
          exact absurd texts.symm (avoids other (valids' other List.mem_cons_self) _ _)
  | cons item items =>
      obtain ⟨here, later⟩ := List.forall_mem_cons.mp each
      cases others with
      | nil =>
          rw [List.map_cons, intercalate_cons, List.append_assoc] at texts
          exact absurd texts (avoids item (valids item List.mem_cons_self) _ _)
      | cons other others =>
          obtain ⟨here', later'⟩ := List.forall_mem_cons.mp valids'
          rw [List.map_cons, List.map_cons, intercalate_cons, intercalate_cons,
            List.append_assoc, List.append_assoc] at texts
          obtain ⟨first, behind⟩ := here other _ _ here'
            (tail_follows separator closer separated closed _ rest)
            (tail_follows separator closer separated closed _ more) texts
          obtain ⟨others_, ends⟩ := tail_unique separator closer differ separated closed items
            others later later' behind
          exact ⟨List.Forall₂.cons first others_, ends⟩

end Lists

end KiroProxy.Foundation.SelfDelimiting
