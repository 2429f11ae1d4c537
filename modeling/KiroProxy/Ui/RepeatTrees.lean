import KiroProxy.Ui.GoRegex
import Mathlib.Tactic.IntervalCases

/-!
# Repeats in syntax trees

Regexes of literals, groups, alternation and counted repeats, how they are written, and what
their repeats amount to along the paths of the tree.
-/

namespace KiroProxy.GoRegex

set_option autoImplicit false

section Trees

/-- `{n}`, `{n,}` and `{n,m}`. -/
inductive Count where
  | exactly (min : Nat)
  | atLeast (min : Nat)
  | between (min max : Nat)

def Count.counted : Count → Counted
  | .exactly min => ⟨min, some min⟩
  | .atLeast min => ⟨min, none⟩
  | .between min max => ⟨min, some max⟩

mutual

/-- The alternatives of a regex. -/
inductive Regex where
  | branch (branch : Branch)
  | alternate (branch : Branch) (others : Regex)

/-- Literals and groups in a row, each of them repeated or not. -/
inductive Branch where
  | empty
  | literal (char : Char) (count : Option Count) (rest : Branch)
  | group (body : Regex) (count : Option Count) (rest : Branch)

end

end Trees

section Rendering

/-- The characters that stand for something else than themselves. -/
def metaUnits : Units := units "\\.+*?()|[]\x7b\x7d^$"

def renderLiteral (char : Char) : Units :=
  if (charUnits char).any metaUnits.contains then 0x5C :: charUnits char else charUnits char

def Count.render : Count → Units
  | .exactly min => 0x7B :: units (toString min) ++ [0x7D]
  | .atLeast min => 0x7B :: units (toString min) ++ [0x2C, 0x7D]
  | .between min max => 0x7B :: units (toString min) ++ 0x2C :: units (toString max) ++ [0x7D]

def renderCount (count : Option Count) : Units := count.elim [] Count.render

mutual

def Regex.render : Regex → Units
  | .branch branch => branch.render
  | .alternate branch others => branch.render ++ 0x7C :: others.render

def Branch.render : Branch → Units
  | .empty => []
  | .literal char count rest => renderLiteral char ++ renderCount count ++ rest.render
  | .group body count rest => 0x28 :: body.render ++ 0x29 :: renderCount count ++ rest.render

end

end Rendering

section Paths

/-- What a repeat multiplies a path by; a minimum of 0 is left out. -/
def Counted.factor (counted : Counted) : Nat :=
  let count := counted.max.getD counted.min
  if count = 0 then 1 else count

/-- The products of the paths through a repeat; one whose maximum is 0 ends them. -/
def throughRepeat (count : Option Count) (products : List Nat) : List Nat :=
  count.elim products fun count =>
    if count.counted.max = some 0 then [1] else products.map (count.counted.factor * ·)

/-- A branch without items is a leaf. -/
def orLeaf (products : List Nat) : List Nat := if products = [] then [1] else products

mutual

/-- The product of the counts along each path down to a leaf. -/
def Regex.paths : Regex → List Nat
  | .branch branch => orLeaf branch.paths
  | .alternate branch others => orLeaf branch.paths ++ others.paths

def Branch.paths : Branch → List Nat
  | .empty => []
  | .literal _ count rest => throughRepeat count [1] ++ rest.paths
  | .group body count rest => throughRepeat count body.paths ++ rest.paths

end

/-- A repeat, and the products of the paths from it down. -/
structure RepeatNode where
  counted : Counted
  paths : List Nat

def repeatNode (count : Option Count) (products : List Nat) : List RepeatNode :=
  count.elim [] fun count => [⟨count.counted, throughRepeat (some count) products⟩]

mutual

def Regex.repeats : Regex → List RepeatNode
  | .branch branch => branch.repeats
  | .alternate branch others => branch.repeats ++ others.repeats

def Branch.repeats : Branch → List RepeatNode
  | .empty => []
  | .literal _ count rest => repeatNode count [1] ++ rest.repeats
  | .group body count rest => body.repeats ++ repeatNode count body.paths ++ rest.repeats

end

def RepeatNode.Valid (node : RepeatNode) : Prop :=
  node.counted.InOrder ∧ ∀ product ∈ node.paths, product ≤ maxRepeat

/-- What Go takes of repetition. -/
def Regex.Valid (regex : Regex) : Prop := ∀ node ∈ regex.repeats, node.Valid

end Paths

section Literals

theorem unit_of_nat (point : Nat) (small : point < 0x10000) : point.toUInt16.toNat = point :=
  UInt16.toNat_ofNat_of_lt small

theorem char_below (char : Char) : char.toNat < 0x110000 := by
  have valid := char.valid
  change char.toNat < 0xD800 ∨ (0xDFFF < char.toNat ∧ char.toNat < 0x110000) at valid
  omega

/-- A pair of surrogates. -/
theorem char_units_pair (char : Char) (large : 0x10000 ≤ char.toNat) :
    ∃ high low : UInt16, charUnits char = [high, low] ∧
      0xD800 ≤ high.toNat ∧ high.toNat ≤ 0xDBFF ∧ 0xDC00 ≤ low.toNat ∧ low.toNat ≤ 0xDFFF := by
  have top := char_below char
  refine ⟨_, _, if_neg (Nat.not_lt.mpr large), ?_⟩
  rw [unit_of_nat (0xD800 + (char.toNat - 0x10000) / 0x400) (by omega),
    unit_of_nat (0xDC00 + (char.toNat - 0x10000) % 0x400) (by omega)]
  omega

variable (isScript : Units → Bool) (state : State)

theorem meta_units : metaUnits =
    [0x5C, 0x2E, 0x2B, 0x2A, 0x3F, 0x28, 0x29, 0x7C, 0x5B, 0x5D, 0x7B, 0x7D, 0x5E, 0x24] := by
  decide

theorem step_plain (unit : UInt16) (rest : Units) (plain : unit ∉ metaUnits) :
    step isScript state unit rest = some (state.change (.item 1),
      (unit :: rest).drop (pointSize ((codePointAt (unit :: rest)).getD 0))) := by
  rw [meta_units] at plain
  simp only [List.mem_cons, List.not_mem_nil, or_false, not_or] at plain
  simp only [step, plain, if_false, or_self]

theorem step_escaped (unit : UInt16) (rest : Units) (meant : unit ∈ metaUnits) :
    step isScript state 0x5C (unit :: rest) = some (state.change (.item 1), rest) := by
  rw [meta_units] at meant
  simp only [List.mem_cons, List.not_mem_nil, or_false] at meant
  rcases meant with rfl | rfl | rfl | rfl | rfl | rfl | rfl | rfl | rfl | rfl | rfl | rfl |
    rfl | rfl
  all_goals rfl

theorem surrogate_plain (unit : UInt16) (large : 0xD800 ≤ unit.toNat) : unit ∉ metaUnits := by
  rw [meta_units]
  intro meant
  simp only [List.mem_cons, List.not_mem_nil, or_false] at meant
  rcases meant with rfl | rfl | rfl | rfl | rfl | rfl | rfl | rfl | rfl | rfl | rfl | rfl |
    rfl | rfl
  all_goals exact absurd large (by decide)

/-- A plain character is one round of the loop. -/
theorem step_scalar (char : Char) (rest : Units) (small : char.toNat < 0x10000)
    (plain : char.toNat.toUInt16 ∉ metaUnits) :
    step isScript state char.toNat.toUInt16 rest = some (state.change (.item 1), rest) := by
  have whole := unit_of_nat char.toNat small
  have valid := char.valid
  change char.toNat < 0xD800 ∨ (0xDFFF < char.toNat ∧ char.toNat < 0x110000) at valid
  have point : codePointAt (char.toNat.toUInt16 :: rest) = some char.toNat := by
    unfold codePointAt
    simp only
    rw [if_neg, whole]
    rw [UInt16.le_iff_toNat_le, UInt16.le_iff_toNat_le, whole]
    change ¬(0xD800 ≤ char.toNat ∧ char.toNat ≤ 0xDBFF)
    omega
  rw [step_plain isScript state _ rest plain, point, Option.getD_some, pointSize,
    if_neg (by omega)]
  rfl

theorem step_pair (high low : UInt16) (rest : Units) (highLow : 0xD800 ≤ high.toNat)
    (highHigh : high.toNat ≤ 0xDBFF) (lowLow : 0xDC00 ≤ low.toNat) (lowHigh : low.toNat ≤ 0xDFFF) :
    step isScript state high (low :: rest) = some (state.change (.item 1), rest) := by
  have point : codePointAt (high :: low :: rest) =
      some (0x10000 + (high.toNat - 0xD800) * 0x400 + (low.toNat - 0xDC00)) := by
    rw [codePointAt, if_pos]
    · rw [if_pos]
      exact ⟨UInt16.le_iff_toNat_le.mpr lowLow, UInt16.le_iff_toNat_le.mpr lowHigh⟩
    · exact ⟨UInt16.le_iff_toNat_le.mpr highLow, UInt16.le_iff_toNat_le.mpr highHigh⟩
  rw [step_plain isScript state _ _ (surrogate_plain high highLow), point, Option.getD_some,
    pointSize, if_pos (by omega)]
  rfl

/-- A literal is one round of the loop, whatever its character is. -/
theorem scan_literal (char : Char) (rest : Units) (fuel : Nat) :
    scan isScript (fuel + 1) state (renderLiteral char ++ rest) =
      scan isScript fuel (state.change (.item 1)) rest := by
  unfold renderLiteral
  by_cases small : char.toNat < 0x10000
  · have whole : charUnits char = [char.toNat.toUInt16] := if_pos small
    rw [whole]
    by_cases meant : char.toNat.toUInt16 ∈ metaUnits
    · rw [if_pos (by simpa using meant)]
      have escaped := step_escaped isScript state _ rest meant
      simp only [List.cons_append, List.nil_append, scan, escaped]
    · rw [if_neg (by simpa using meant)]
      have plain := step_scalar isScript state char rest small meant
      simp only [List.cons_append, List.nil_append, scan, plain]
  · obtain ⟨high, low, pair, highLow, highHigh, lowLow, lowHigh⟩ :=
      char_units_pair char (Nat.le_of_not_lt small)
    have first := surrogate_plain high highLow
    have second := surrogate_plain low (by omega)
    rw [pair, if_neg (by simpa using ⟨first, second⟩)]
    have taken := step_pair isScript state high low rest highLow highHigh lowLow lowHigh
    simp only [List.cons_append, List.nil_append, scan, taken]

/-- What a literal is written as starts with nothing that would make a repeat lazy. -/
theorem literal_head (char : Char) (rest : Units) :
    (renderLiteral char ++ rest).head? ≠ some 0x3F := by
  unfold renderLiteral
  split_ifs with meant
  · intro lazy
    exact absurd (Option.some.inj lazy) (by decide)
  · by_cases small : char.toNat < 0x10000
    · have whole : charUnits char = [char.toNat.toUInt16] := if_pos small
      rw [whole] at meant ⊢
      intro lazy
      have same : char.toNat.toUInt16 = 0x3F := Option.some.inj lazy
      rw [same] at meant
      exact meant (by decide)
    · obtain ⟨high, low, pair, highLow, -⟩ := char_units_pair char (Nat.le_of_not_lt small)
      rw [pair]
      intro lazy
      have same : high = 0x3F := Option.some.inj lazy
      rw [same] at highLow
      exact absurd highLow (by decide)

end Literals

section Numbers

theorem digit_unit (char : Char) (digit : char.isDigit = true) :
    charUnits char = [char.toNat.toUInt16] ∧ isDigit char.toNat.toUInt16 = true ∧
      char.toNat.toUInt16.toNat = char.toNat := by
  rw [Char.isDigit, Bool.and_eq_true, decide_eq_true_eq, decide_eq_true_eq] at digit
  have low : 0x30 ≤ char.toNat := UInt32.le_iff_toNat_le.mp digit.1
  have high : char.toNat ≤ 0x39 := UInt32.le_iff_toNat_le.mp digit.2
  have whole := unit_of_nat char.toNat (by omega)
  refine ⟨if_pos (by omega), ?_, whole⟩
  unfold isDigit
  rw [Bool.and_eq_true, decide_eq_true_eq, decide_eq_true_eq, UInt16.le_iff_toNat_le,
    UInt16.le_iff_toNat_le, whole]
  exact ⟨low, high⟩

theorem digits_units (chars : List Char) (digits : ∀ char ∈ chars, char.isDigit = true) :
    chars.flatMap charUnits = chars.map fun char => char.toNat.toUInt16 := by
  induction chars with
  | nil => rfl
  | cons char chars ih =>
      rw [List.flatMap_cons, (digit_unit char (digits char List.mem_cons_self)).1,
        ih fun other member => digits other (List.mem_cons_of_mem _ member)]
      rfl

theorem all_digits (number : Nat) : ∀ char ∈ Nat.toDigits 10 number, char.isDigit = true :=
  fun _ member => Nat.isDigit_of_mem_toDigits (by decide) (Nat.le_refl 10) member

theorem number_units (number : Nat) :
    units (toString number) = (Nat.toDigits 10 number).map fun char => char.toNat.toUInt16 := by
  unfold units
  rw [Nat.toString_eq_ofList_toDigits, String.toList_ofList]
  exact digits_units _ (all_digits number)

/-- Only 0 is written with a leading zero. -/
theorem leading_digit (number : Nat) (positive : 0 < number) :
    ∃ char chars, Nat.toDigits 10 number = char :: chars ∧ char ≠ '0' := by
  induction number using Nat.strongRecOn with
  | ind number ih =>
      by_cases small : number < 10
      · refine ⟨number.digitChar, [], Nat.toDigits_of_lt_base small, ?_⟩
        interval_cases number <;> decide
      · obtain ⟨char, chars, before, leads⟩ := ih (number / 10) (by omega) (by omega)
        refine ⟨char, chars ++ [(number % 10).digitChar], ?_, leads⟩
        rw [Nat.toDigits_of_base_le (by decide) (Nat.le_of_not_lt small), before]
        rfl

variable (rest : Units) (ends : rest.head?.any isDigit = false)

include ends in
theorem read_digits (chars : List Char) (digits : ∀ char ∈ chars, char.isDigit = true)
    (value : Nat) :
    readDigits value ((chars.map fun char => char.toNat.toUInt16) ++ rest) =
      (Nat.ofDigitChars 10 chars value, rest) := by
  induction chars generalizing value with
  | nil =>
      cases rest with
      | nil => rfl
      | cons unit rest =>
          have other : isDigit unit = false := by simpa using ends
          change readDigits value (unit :: rest) = _
          rw [readDigits, if_neg (by simp [other])]
          rfl
  | cons char chars ih =>
      have first := digit_unit char (digits char List.mem_cons_self)
      rw [List.map_cons, List.cons_append, readDigits, if_pos first.2.1, first.2.2,
        ih fun other member => digits other (List.mem_cons_of_mem _ member), Nat.mul_comm value]
      rfl

include ends in
theorem read_number (number : Nat) :
    readNumber (units (toString number) ++ rest) = some (number, rest) := by
  rw [number_units]
  by_cases zero : number = 0
  · subst zero
    rfl
  · obtain ⟨char, chars, text, leads⟩ := leading_digit number (Nat.pos_of_ne_zero zero)
    have digits := all_digits number
    have value := Nat.ofDigitChars_ten_toDigits (n := number)
    rw [text] at digits value ⊢
    have first := digit_unit char (digits char List.mem_cons_self)
    have later := read_digits rest ends chars
      (fun other member => digits other (List.mem_cons_of_mem _ member)) (char.toNat - 0x30)
    rw [List.map_cons, List.cons_append, readNumber, if_neg, if_pos first.2.1, first.2.2, later]
    · refine congrArg (fun value => some (value, rest)) (Eq.trans ?_ value)
      change Nat.ofDigitChars 10 chars (char.toNat - 0x30) =
        Nat.ofDigitChars 10 chars (10 * 0 + (char.toNat - 0x30))
      rw [Nat.mul_zero, Nat.zero_add]
    · intro same
      apply leads
      apply Char.toNat_inj.mp
      rw [← first.2.2, same]
      rfl

end Numbers

section Counts

variable (count : Count) (rest : Units)

theorem read_count : ∃ text, count.render ++ rest = 0x7B :: text ∧
    readRepeat text = some (count.counted, rest) := by
  cases count with
  | exactly min =>
      refine ⟨units (toString min) ++ 0x7D :: rest, by simp [Count.render], ?_⟩
      unfold readRepeat
      rw [read_number (0x7D :: rest) rfl min]
      rfl
  | atLeast min =>
      refine ⟨units (toString min) ++ 0x2C :: 0x7D :: rest, by simp [Count.render], ?_⟩
      unfold readRepeat
      rw [read_number (0x2C :: 0x7D :: rest) rfl min]
      rfl
  | between min max =>
      refine ⟨units (toString min) ++ 0x2C :: (units (toString max) ++ 0x7D :: rest),
        by simp [Count.render], ?_⟩
      unfold readRepeat
      rw [read_number (0x2C :: _) rfl min]
      simp only
      rw [read_number (0x7D :: rest) rfl max]
      rfl

end Counts

end KiroProxy.GoRegex
