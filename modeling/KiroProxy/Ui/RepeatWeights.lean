import KiroProxy.Ui.RepeatTrees

/-!
# Weights of repeats

The scan of a written regex keeps the weights of the open groups only; they are the heaviest
paths of the tree.
-/

namespace KiroProxy.GoRegex

set_option autoImplicit false

section Weights

def weighed (count : Option Count) (operand : Nat) : Nat :=
  count.elim operand fun count => repeatWeight operand count.counted

def countFits (count : Option Count) (operand : Nat) : Bool :=
  count.elim true fun count =>
    decide (count.counted.InOrder ∧ repeatWeight operand count.counted ≤ maxRepeat)

mutual

/-- The heaviest item of a regex. -/
def Regex.weight : Regex → Nat
  | .branch branch => branch.weight
  | .alternate branch others => max branch.weight others.weight

def Branch.weight : Branch → Nat
  | .empty => 1
  | .literal _ count rest => max (weighed count 1) rest.weight
  | .group body count rest => max (weighed count body.weight) rest.weight

end

mutual

/-- Whether every repeat fits over the weight of what it repeats. -/
def Regex.fits : Regex → Bool
  | .branch branch => branch.fits
  | .alternate branch others => branch.fits && others.fits

def Branch.fits : Branch → Bool
  | .empty => true
  | .literal _ count rest => countFits count 1 && rest.fits
  | .group body count rest => body.fits && (countFits count body.weight && rest.fits)

end

mutual

/-- What the frame of a group is behind a part of its text. -/
def Regex.pass : Regex → Frame → Frame
  | .branch branch, frame => branch.pass frame
  | .alternate branch others, frame => others.pass (branch.pass frame).alternate

def Branch.pass : Branch → Frame → Frame
  | .empty, frame => frame
  | .literal _ count rest, frame => rest.pass (frame.item (weighed count 1))
  | .group body count rest, frame => rest.pass (frame.item (weighed count body.weight))

end

mutual

/-- Whether the last thing behind a part of the text is a repetition. -/
def Regex.repeatsLast : Regex → Bool → Bool
  | .branch branch, last => branch.repeatsLast last
  | .alternate _ others, _ => others.repeatsLast false

def Branch.repeatsLast : Branch → Bool → Bool
  | .empty, last => last
  | .literal _ count rest, _ => rest.repeatsLast count.isSome
  | .group _ count rest, _ => rest.repeatsLast count.isSome

end

def countRounds (count : Option Count) : Nat := count.elim 0 fun _ => 1

mutual

/-- The rounds of the loop that read the text. -/
def Regex.rounds : Regex → Nat
  | .branch branch => branch.rounds
  | .alternate branch others => others.rounds + 1 + branch.rounds

def Branch.rounds : Branch → Nat
  | .empty => 0
  | .literal _ count rest => rest.rounds + countRounds count + 1
  | .group body count rest => rest.rounds + countRounds count + 1 + body.rounds + 1

end

end Weights

section Scans

variable (isScript : Units → Bool)

theorem heaviest_item (frame : Frame) (weight : Nat) :
    (frame.item weight).heaviest = max frame.heaviest weight := rfl

theorem factor_positive (counted : Counted) : 1 ≤ counted.factor := by
  unfold Counted.factor
  simp only
  split_ifs with none_
  · exact Nat.le_refl 1
  · exact Nat.pos_of_ne_zero none_

theorem repeat_weight (operand : Nat) (counted : Counted) :
    repeatWeight operand counted =
      if counted.max = some 0 then 1 else operand * counted.factor := by
  unfold repeatWeight Counted.factor
  by_cases none_ : counted.max = some 0
  · rw [if_pos none_, if_pos none_]
  · rw [if_neg none_, if_neg none_]
    by_cases zero : counted.max.getD counted.min = 0
    · simp only [zero, Nat.lt_irrefl, if_true, if_false, Nat.mul_one]
    · simp only [zero, Nat.pos_of_ne_zero zero, if_true, if_false]

/-- A frame keeps the heaviest item of what it has passed. -/
theorem Branch.pass_heaviest (branch : Branch) (frame : Frame) (positive : 1 ≤ frame.heaviest) :
    (branch.pass frame).heaviest = max frame.heaviest branch.weight := by
  cases branch with
  | empty =>
      rw [Branch.pass, Branch.weight]
      omega
  | literal char count rest =>
      rw [Branch.pass, Branch.weight,
        rest.pass_heaviest _ (by rw [heaviest_item]; omega), heaviest_item, Nat.max_assoc]
  | group body count rest =>
      rw [Branch.pass, Branch.weight,
        rest.pass_heaviest _ (by rw [heaviest_item]; omega), heaviest_item, Nat.max_assoc]

theorem Regex.pass_heaviest (regex : Regex) (frame : Frame) (positive : 1 ≤ frame.heaviest) :
    (regex.pass frame).heaviest = max frame.heaviest regex.weight := by
  cases regex with
  | branch branch => exact branch.pass_heaviest frame positive
  | alternate branch others =>
      have first := branch.pass_heaviest frame positive
      have even : (branch.pass frame).alternate.heaviest = max (branch.pass frame).heaviest 1 := rfl
      rw [Regex.pass, Regex.weight, others.pass_heaviest _ (by omega), even, first]
      omega

theorem after_eager_repeat (operand done : Nat) (below : List Frame) (counted : Counted)
    (rest : Units) (eager : rest.head? ≠ some 0x3F) :
    afterRepeat ⟨⟨done, some operand⟩, below, false⟩ (some counted) rest =
      if maxRepeat < repeatWeight operand counted then none
      else some (⟨⟨done, some (repeatWeight operand counted)⟩, below, true⟩, rest) := by
  unfold afterRepeat
  split
  · exact absurd rfl eager
  · rfl

theorem scan_count (count : Option Count) (operand done : Nat) (below : List Frame)
    (rest : Units) (eager : rest.head? ≠ some 0x3F) (fuel : Nat) :
    scan isScript (fuel + countRounds count) ⟨⟨done, some operand⟩, below, false⟩
        (renderCount count ++ rest) =
      (countFits count operand &&
        scan isScript fuel ⟨⟨done, some (weighed count operand)⟩, below, count.isSome⟩ rest) := by
  cases count with
  | none => rfl
  | some count =>
      obtain ⟨text, written, read⟩ := read_count count rest
      have stepped : step isScript ⟨⟨done, some operand⟩, below, false⟩ 0x7B text =
          if count.counted.InOrder then
            afterRepeat ⟨⟨done, some operand⟩, below, false⟩ (some count.counted) rest
          else none := by
        simp [step, read]
      change scan isScript (fuel + 1) _ (count.render ++ rest) = _
      rw [written, scan, stepped, after_eager_repeat _ _ _ _ _ eager]
      unfold countFits weighed
      simp only [Option.elim_some, Option.isSome_some]
      by_cases inOrder : count.counted.InOrder
      · by_cases heavy : maxRepeat < repeatWeight operand count.counted
        · simp [inOrder, heavy]
        · simp [inOrder, heavy, Nat.le_of_not_lt heavy]
      · simp [inOrder]

theorem step_open (state : State) (text : Units) (eager : text.head? ≠ some 0x3F) :
    step isScript state 0x28 text = some (state.enter, text) := by
  unfold step
  rw [if_pos rfl]
  split
  · exact absurd rfl eager
  · rfl

theorem Branch.render_head (branch : Branch) (rest : Units) (eager : rest.head? ≠ some 0x3F) :
    (branch.render ++ rest).head? ≠ some 0x3F := by
  cases branch with
  | empty => exact eager
  | literal char count later =>
      rw [Branch.render, List.append_assoc, List.append_assoc]
      exact literal_head char _
  | group body count later =>
      intro lazy
      exact absurd (Option.some.inj lazy) (by decide)

theorem Regex.render_head (regex : Regex) (rest : Units) (eager : rest.head? ≠ some 0x3F) :
    (regex.render ++ rest).head? ≠ some 0x3F := by
  cases regex with
  | branch branch => exact branch.render_head rest eager
  | alternate branch others =>
      rw [Regex.render, List.append_assoc]
      apply branch.render_head
      intro lazy
      exact absurd (Option.some.inj lazy) (by decide)

theorem Branch.weight_positive (branch : Branch) : 1 ≤ branch.weight := by
  cases branch with
  | empty => exact Nat.le_refl 1
  | literal char count rest =>
      have later := rest.weight_positive
      rw [Branch.weight]
      omega
  | group body count rest =>
      have later := rest.weight_positive
      rw [Branch.weight]
      omega

theorem Regex.weight_positive (regex : Regex) : 1 ≤ regex.weight := by
  cases regex with
  | branch branch => exact branch.weight_positive
  | alternate branch others =>
      have first := branch.weight_positive
      rw [Regex.weight]
      omega

/-- What a group weighs when it is closed. -/
theorem closed_weight (body : Regex) : (body.pass .start).heaviest = body.weight := by
  have positive := body.weight_positive
  have start : Frame.start.heaviest = 1 := rfl
  rw [body.pass_heaviest _ (Nat.le_of_eq start.symm), start]
  omega

mutual

theorem Branch.scan_render (branch : Branch) (top : Frame) (below : List Frame) (last : Bool)
    (rest : Units) (eager : rest.head? ≠ some 0x3F) (fuel : Nat) :
    scan isScript (fuel + branch.rounds) ⟨top, below, last⟩ (branch.render ++ rest) =
      (branch.fits &&
        scan isScript fuel ⟨branch.pass top, below, branch.repeatsLast last⟩ rest) := by
  cases branch with
  | empty =>
      rw [Branch.fits, Bool.true_and]
      rfl
  | literal char count later =>
      have tail := later.render_head rest eager
      rw [Branch.render, Branch.rounds, Branch.fits, Branch.pass, Branch.repeatsLast,
        List.append_assoc, List.append_assoc, ← Nat.add_assoc, scan_literal, ← Nat.add_assoc]
      change scan isScript _ ⟨⟨top.heaviest, some 1⟩, below, false⟩ _ = _
      rw [scan_count isScript count 1 _ _ _ tail, later.scan_render _ _ _ _ eager,
        ← Bool.and_assoc]
      rfl
  | group body count later =>
      have tail := later.render_head rest eager
      have inner : (0x29 :: (renderCount count ++ (later.render ++ rest))).head? ≠ some 0x3F := by
        intro lazy
        exact absurd (Option.some.inj lazy) (by decide)
      have head := body.render_head _ inner
      have text : (Branch.group body count later).render ++ rest =
          0x28 :: (body.render ++ 0x29 :: (renderCount count ++ (later.render ++ rest))) := by
        simp [Branch.render]
      have rounds : fuel + (Branch.group body count later).rounds =
          (fuel + later.rounds + countRounds count + 1 + body.rounds) + 1 := by
        rw [Branch.rounds]
        omega
      rw [text, rounds, scan, step_open isScript _ _ head]
      simp only [State.enter]
      rw [body.scan_render _ _ _ _ inner, Branch.fits, Bool.and_assoc, Bool.and_assoc]
      congr 1
      change scan isScript _ ⟨⟨top.heaviest, some (body.pass .start).heaviest⟩, below, false⟩ _ = _
      rw [closed_weight, scan_count isScript count body.weight _ _ _ tail,
        later.scan_render _ _ _ _ eager]
      rfl

theorem Regex.scan_render (regex : Regex) (top : Frame) (below : List Frame) (last : Bool)
    (rest : Units) (eager : rest.head? ≠ some 0x3F) (fuel : Nat) :
    scan isScript (fuel + regex.rounds) ⟨top, below, last⟩ (regex.render ++ rest) =
      (regex.fits &&
        scan isScript fuel ⟨regex.pass top, below, regex.repeatsLast last⟩ rest) := by
  cases regex with
  | branch branch => exact branch.scan_render top below last rest eager fuel
  | alternate branch others =>
      have bar : (0x7C :: (others.render ++ rest)).head? ≠ some 0x3F := by
        intro lazy
        exact absurd (Option.some.inj lazy) (by decide)
      rw [Regex.render, Regex.rounds, Regex.fits, Regex.pass, Regex.repeatsLast,
        List.append_assoc, ← Nat.add_assoc, List.cons_append, branch.scan_render _ _ _ _ bar,
        ← Nat.add_assoc, Bool.and_assoc]
      congr 1
      exact others.scan_render _ below false rest eager fuel

end

end Scans

section Rounds

theorem count_rounds (count : Option Count) : countRounds count ≤ (renderCount count).length := by
  cases count with
  | none => exact Nat.le_refl 0
  | some count =>
      change 1 ≤ count.render.length
      cases count <;> simp [Count.render]

theorem literal_length (char : Char) : 1 ≤ (renderLiteral char).length := by
  have some_ : 1 ≤ (charUnits char).length := by
    unfold charUnits
    split_ifs <;> simp
  unfold renderLiteral
  split_ifs
  · exact Nat.succ_pos _
  · exact some_

mutual

theorem Branch.rounds_le (branch : Branch) : branch.rounds ≤ branch.render.length := by
  cases branch with
  | empty => exact Nat.le_refl 0
  | literal char count rest =>
      have first := literal_length char
      have counted := count_rounds count
      have later := rest.rounds_le
      rw [Branch.rounds, Branch.render, List.length_append, List.length_append]
      omega
  | group body count rest =>
      have inner := body.rounds_le
      have counted := count_rounds count
      have later := rest.rounds_le
      rw [Branch.rounds, Branch.render]
      simp only [List.cons_append, List.append_assoc, List.length_cons, List.length_append]
      omega

theorem Regex.rounds_le (regex : Regex) : regex.rounds ≤ regex.render.length := by
  cases regex with
  | branch branch => exact branch.rounds_le
  | alternate branch others =>
      have first := branch.rounds_le
      have later := others.rounds_le
      rw [Regex.rounds, Regex.render, List.length_append, List.length_cons]
      omega

end

/-- The check of a written regex is that its repeats fit over their weights. -/
theorem compiles_fits (isScript : Units → Bool) (regex : Regex) :
    compilesInGo isScript regex.render = regex.fits := by
  obtain ⟨spare, enough⟩ := Nat.exists_eq_add_of_le' regex.rounds_le
  have scanned := regex.scan_render isScript .start [] false [] (by decide) spare
  rw [List.append_nil, ← enough] at scanned
  unfold compilesInGo
  rw [scanned, scan]
  exact Bool.and_true _

end Rounds

section Heaviest

/-- The products have no factor 0, and the weight is the largest of them. -/
structure Heaviest (products : List Nat) (weight : Nat) : Prop where
  positive : ∀ product ∈ products, 1 ≤ product
  bounds : ∀ product ∈ products, product ≤ weight
  reached : weight ∈ products

theorem leaf_heaviest : Heaviest [1] 1 where
  positive := by simp
  bounds := by simp
  reached := by simp

theorem heaviest_through (count : Option Count) (products : List Nat) (weight : Nat)
    (heaviest : Heaviest products weight) :
    Heaviest (throughRepeat count products) (weighed count weight) := by
  cases count with
  | none => exact heaviest
  | some count =>
      change Heaviest (if count.counted.max = some 0 then [1] else _)
        (repeatWeight weight count.counted)
      rw [repeat_weight]
      split_ifs
      · exact leaf_heaviest
      · constructor
        · intro product member
          obtain ⟨before, inside, rfl⟩ := List.mem_map.mp member
          exact Nat.mul_pos (factor_positive _) (heaviest.positive before inside)
        · intro product member
          obtain ⟨before, inside, rfl⟩ := List.mem_map.mp member
          rw [Nat.mul_comm weight]
          exact Nat.mul_le_mul_left _ (heaviest.bounds before inside)
        · rw [Nat.mul_comm weight]
          exact List.mem_map.mpr ⟨weight, heaviest.reached, rfl⟩

theorem heaviest_append (first later : List Nat) (left right : Nat) (head : Heaviest first left)
    (tail : Heaviest later right) : Heaviest (first ++ later) (max left right) where
  positive := fun product member =>
    (List.mem_append.mp member).elim (head.positive product) (tail.positive product)
  bounds := by
    intro product member
    rcases List.mem_append.mp member with inFirst | inLater
    · have bound := head.bounds product inFirst
      omega
    · have bound := tail.bounds product inLater
      omega
  reached := by
    rcases Nat.le_total left right with less | less
    · rw [Nat.max_eq_right less]
      exact List.mem_append_right first tail.reached
    · rw [Nat.max_eq_left less]
      exact List.mem_append_left later head.reached

/-- The items of a branch in front of others, if there are others. -/
theorem heaviest_items (first later : List Nat) (left right : Nat) (head : Heaviest first left)
    (tail : Heaviest (orLeaf later) right) :
    Heaviest (orLeaf (first ++ later)) (max left right) := by
  have some_ : first ++ later ≠ [] := by
    intro none_
    have reached := head.reached
    rw [(List.append_eq_nil_iff.mp none_).1] at reached
    exact absurd reached List.not_mem_nil
  have whole : orLeaf (first ++ later) = first ++ later := if_neg some_
  rw [whole]
  by_cases last : later = []
  · subst last
    have one : right = 1 := List.mem_singleton.mp tail.reached
    have positive := head.positive left head.reached
    rw [List.append_nil, one, Nat.max_eq_left positive]
    exact head
  · have rest : orLeaf later = later := if_neg last
    rw [rest] at tail
    exact heaviest_append first later left right head tail

mutual

theorem Branch.heaviest (branch : Branch) : Heaviest (orLeaf branch.paths) branch.weight := by
  cases branch with
  | empty => exact leaf_heaviest
  | literal char count rest =>
      exact heaviest_items _ _ _ _ (heaviest_through count [1] 1 leaf_heaviest) rest.heaviest
  | group body count rest =>
      exact heaviest_items _ _ _ _ (heaviest_through count _ _ body.heaviest) rest.heaviest

theorem Regex.heaviest (regex : Regex) : Heaviest regex.paths regex.weight := by
  cases regex with
  | branch branch => exact branch.heaviest
  | alternate branch others => exact heaviest_append _ _ _ _ branch.heaviest others.heaviest

end

theorem count_fits_iff (count : Option Count) (products : List Nat) (weight : Nat)
    (heaviest : Heaviest products weight) :
    countFits count weight = true ↔ ∀ node ∈ repeatNode count products, node.Valid := by
  cases count with
  | none => simp [countFits, repeatNode]
  | some count =>
      have through := heaviest_through (some count) products weight heaviest
      change Heaviest _ (repeatWeight weight count.counted) at through
      have bound : repeatWeight weight count.counted ≤ maxRepeat ↔
          ∀ product ∈ throughRepeat (some count) products, product ≤ maxRepeat :=
        ⟨fun light product member => (through.bounds product member).trans light,
          fun light => light _ through.reached⟩
      unfold countFits repeatNode RepeatNode.Valid
      simp only [Option.elim_some, decide_eq_true_eq, List.mem_singleton, forall_eq, bound]

mutual

theorem Branch.fits_iff (branch : Branch) :
    branch.fits = true ↔ ∀ node ∈ branch.repeats, node.Valid := by
  cases branch with
  | empty => simp [Branch.fits, Branch.repeats]
  | literal char count rest =>
      rw [Branch.fits, Branch.repeats, Bool.and_eq_true, List.forall_mem_append, rest.fits_iff,
        count_fits_iff count [1] 1 leaf_heaviest]
  | group body count rest =>
      rw [Branch.fits, Branch.repeats, Bool.and_eq_true, Bool.and_eq_true, List.append_assoc,
        List.forall_mem_append, List.forall_mem_append, rest.fits_iff, body.fits_iff,
        count_fits_iff count body.paths body.weight body.heaviest]
      rfl

theorem Regex.fits_iff (regex : Regex) : regex.fits = true ↔ regex.Valid := by
  unfold Regex.Valid
  cases regex with
  | branch branch => exact branch.fits_iff
  | alternate branch others =>
      rw [Regex.fits, Regex.repeats, Bool.and_eq_true, List.forall_mem_append, branch.fits_iff,
        others.fits_iff]
      rfl

end

/-- The check passes exactly the trees whose counts and paths Go takes. -/
theorem compiles_iff_valid (isScript : Units → Bool) (regex : Regex) :
    compilesInGo isScript regex.render = true ↔ regex.Valid := by
  rw [compiles_fits, regex.fits_iff]

end Heaviest

end KiroProxy.GoRegex
