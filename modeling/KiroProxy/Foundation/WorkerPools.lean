import Mathlib.Data.List.Perm.Basic
import Mathlib.Data.List.Range
import Mathlib.Tactic.Ring.RingNF

/-!
# Items handed to workers

The items of a list are handed out one by one, in order, to a fixed number of workers; each
writes the answer into the slot of its item. Whatever the interleaving, no item is handed out
twice, and when all workers have gone every slot holds the one answer for its item.
-/

namespace KiroProxy.Foundation.WorkerPools

set_option autoImplicit false

inductive Worker where
  | waiting
  | busy (item : Nat)
  | gone
  deriving DecidableEq

/-- The log remembers the answers in the order they came in. -/
structure Pool (Answer : Type*) where
  count : Nat
  next : Nat
  closed : Bool
  workers : List Worker
  slots : List (Option Answer)
  log : List (Nat × Answer)

inductive Action (Answer : Type*) where
  | hand (worker : Nat)
  | finish (worker : Nat) (answer : Answer)
  | close
  | leave (worker : Nat)

variable {Answer : Type*}

def start (width count : Nat) : Pool Answer where
  count := count
  next := 0
  closed := false
  workers := List.replicate width .waiting
  slots := List.replicate count none
  log := []

def Pool.handed (pool : Pool Answer) (worker : Nat) : Pool Answer :=
  { pool with next := pool.next + 1, workers := pool.workers.set worker (.busy pool.next) }

def Pool.answered (pool : Pool Answer) (worker item : Nat) (answer : Answer) : Pool Answer :=
  { pool with
    workers := pool.workers.set worker .waiting
    slots := pool.slots.set item (some answer)
    log := pool.log ++ [(item, answer)] }

def Pool.shut (pool : Pool Answer) : Pool Answer := { pool with closed := true }

def Pool.left (pool : Pool Answer) (worker : Nat) : Pool Answer :=
  { pool with workers := pool.workers.set worker .gone }

def step (pool : Pool Answer) : Action Answer → Pool Answer
  | .hand worker =>
      match pool.workers[worker]? with
      | some .waiting => if pool.next < pool.count then pool.handed worker else pool
      | _ => pool
  | .finish worker answer =>
      match pool.workers[worker]? with
      | some (.busy item) => pool.answered worker item answer
      | _ => pool
  | .close => if pool.next = pool.count ∧ pool.closed = false then pool.shut else pool
  | .leave worker =>
      match pool.workers[worker]? with
      | some .waiting => if pool.closed then pool.left worker else pool
      | _ => pool

/-- The items that are worked on. -/
def inFlight (pool : Pool Answer) : List Nat :=
  pool.workers.filterMap fun worker =>
    match worker with
    | .busy item => some item
    | _ => none

def staying (pool : Pool Answer) : Nat := pool.workers.countP (· ≠ .gone)

/-- The items were handed out and all workers have gone. -/
def Returned (pool : Pool Answer) : Prop :=
  pool.closed = true ∧ ∀ worker ∈ pool.workers, worker = .gone

/-- The steps that are left. -/
def remaining (pool : Pool Answer) : Nat :=
  2 * (pool.count - pool.next) + (inFlight pool).length + (if pool.closed then 0 else 1) +
    staying pool

/-- Each item handed out so far is in flight or answered, once. -/
structure Sound (pool : Pool Answer) : Prop where
  within : pool.next ≤ pool.count
  items : (inFlight pool ++ pool.log.map Prod.fst).Perm (List.range pool.next)
  length : pool.slots.length = pool.count
  slots : ∀ entry ∈ pool.log, pool.slots[entry.1]? = some (some entry.2)
  closed : pool.closed = true → pool.next = pool.count
  gone : Worker.gone ∈ pool.workers → pool.closed = true

theorem in_flight_le (pool : Pool Answer) : (inFlight pool).length ≤ pool.workers.length :=
  List.length_filterMap_le _ _

theorem start_idle (width count : Nat) : inFlight (start width count : Pool Answer) = [] := by
  rw [inFlight, List.filterMap_eq_nil_iff]
  intro worker member
  rw [List.eq_of_mem_replicate member]

theorem start_sound (width count : Nat) : Sound (start width count : Pool Answer) where
  within := Nat.zero_le count
  items := by
    rw [start_idle]
    exact List.Perm.refl _
  length := List.length_replicate
  slots := fun entry member => absurd member List.not_mem_nil
  closed := fun shut => absurd shut Bool.false_ne_true
  gone := fun member => by cases List.eq_of_mem_replicate member

section Workers

/-- A worker among the others. -/
theorem worker_split {workers : List Worker} {place : Nat} {old : Worker}
    (found : workers[place]? = some old) :
    ∃ before after, workers = before ++ old :: after ∧
      ∀ new, workers.set place new = before ++ new :: after := by
  obtain ⟨bound, here⟩ := List.getElem?_eq_some_iff.mp found
  refine ⟨workers.take place, workers.drop (place + 1), ?_, ?_⟩
  · rw [← here, ← List.drop_eq_getElem_cons bound, List.take_append_drop]
  · exact fun new => List.set_eq_take_append_cons_drop .. |>.trans (if_pos bound)

variable {pool : Pool Answer} {place : Nat}

theorem handed_flight (found : pool.workers[place]? = some .waiting) :
    (inFlight (pool.handed place)).Perm (pool.next :: inFlight pool) ∧
      staying (pool.handed place) = staying pool := by
  obtain ⟨before, after, split, set⟩ := worker_split found
  constructor
  · rw [inFlight, inFlight, Pool.handed, set, split]
    simp only [List.filterMap_append, List.filterMap_cons]
    exact List.perm_middle
  · rw [staying, staying, Pool.handed, set, split]
    simp

theorem answered_flight {item : Nat} (found : pool.workers[place]? = some (.busy item))
    (answer : Answer) :
    (inFlight pool).Perm (item :: inFlight (pool.answered place item answer)) ∧
      staying (pool.answered place item answer) = staying pool := by
  obtain ⟨before, after, split, set⟩ := worker_split found
  constructor
  · rw [inFlight, inFlight, Pool.answered, set, split]
    simp only [List.filterMap_append, List.filterMap_cons]
    exact List.perm_middle
  · rw [staying, staying, Pool.answered, set, split]
    simp

theorem left_flight (found : pool.workers[place]? = some .waiting) :
    inFlight (pool.left place) = inFlight pool ∧ staying (pool.left place) + 1 = staying pool := by
  obtain ⟨before, after, split, set⟩ := worker_split found
  constructor
  · rw [inFlight, inFlight, Pool.left, set, split]
    simp only [List.filterMap_append, List.filterMap_cons]
  · rw [staying, staying, Pool.left, set, split]
    simp
    omega

theorem gone_set {new : Worker} (stays : new ≠ .gone) (workers : List Worker)
    (member : Worker.gone ∈ workers.set place new) : Worker.gone ∈ workers := by
  rcases List.mem_or_eq_of_mem_set member with old | same
  · exact old
  · exact absurd same.symm stays

end Workers

section Steps

variable {pool : Pool Answer} {place : Nat}

theorem handed_sound (sound : Sound pool) (found : pool.workers[place]? = some .waiting)
    (more : pool.next < pool.count) :
    Sound (pool.handed place) ∧ remaining (pool.handed place) + 1 = remaining pool := by
  obtain ⟨flight, stays⟩ := handed_flight found
  refine ⟨⟨more, ?_, sound.length, sound.slots, ?_, ?_⟩, ?_⟩
  · calc
      List.Perm (inFlight (pool.handed place) ++ pool.log.map Prod.fst)
          (pool.next :: (inFlight pool ++ pool.log.map Prod.fst)) := flight.append_right _
      List.Perm _ (pool.next :: List.range pool.next) := sound.items.cons pool.next
      List.Perm _ (List.range (pool.next + 1)) := by
        rw [List.range_succ]
        exact (List.perm_append_singleton _ _).symm
  · exact fun shut => absurd (sound.closed shut) (Nat.ne_of_lt more)
  · exact fun member => sound.gone (gone_set (by simp) _ member)
  · have lengths := flight.length_eq
    rw [List.length_cons] at lengths
    rw [remaining, lengths, stays, remaining, Pool.handed]
    dsimp only
    omega

/-- What is worked on has no answer yet. -/
theorem busy_apart (sound : Sound pool) {item : Nat}
    (found : pool.workers[place]? = some (.busy item)) :
    item ∈ inFlight pool ∧ ∀ entry ∈ pool.log, item ≠ entry.1 := by
  have distinct : (inFlight pool ++ pool.log.map Prod.fst).Nodup :=
    sound.items.nodup_iff.mpr List.nodup_range
  have here : item ∈ inFlight pool :=
    List.mem_filterMap.mpr ⟨.busy item, List.mem_of_getElem? found, rfl⟩
  refine ⟨here, fun entry member same => ?_⟩
  exact (List.nodup_append.mp distinct).2.2 item here entry.1 (List.mem_map_of_mem member) same

theorem answered_sound (sound : Sound pool) {item : Nat}
    (found : pool.workers[place]? = some (.busy item)) (answer : Answer) :
    Sound (pool.answered place item answer) ∧
      remaining (pool.answered place item answer) + 1 = remaining pool := by
  obtain ⟨flight, stays⟩ := answered_flight found answer
  obtain ⟨here, apart⟩ := busy_apart sound found
  have bound : item < pool.slots.length := by
    have handed := sound.items.mem_iff.mp (List.mem_append_left _ here)
    rw [sound.length]
    exact Nat.lt_of_lt_of_le (List.mem_range.mp handed) sound.within
  refine ⟨⟨sound.within, ?_, ?_, ?_, sound.closed, ?_⟩, ?_⟩
  · have moved : (inFlight (pool.answered place item answer) ++
        (pool.log ++ [(item, answer)]).map Prod.fst).Perm
        (inFlight pool ++ pool.log.map Prod.fst) := by
      rw [List.map_append, List.map_singleton, ← List.append_assoc]
      exact (List.perm_append_singleton _ _).trans (flight.append_right _).symm
    exact moved.trans sound.items
  · rw [Pool.answered, List.length_set]
    exact sound.length
  · intro entry member
    rcases List.mem_append.mp member with old | last
    · rw [Pool.answered, List.getElem?_set_ne (apart entry old)]
      exact sound.slots entry old
    · rw [List.mem_singleton.mp last]
      exact List.getElem?_set_self bound
  · exact fun member => sound.gone (gone_set (by simp) _ member)
  · have lengths := flight.length_eq
    rw [List.length_cons] at lengths
    rw [remaining, stays, remaining, lengths, Pool.answered]
    dsimp only
    omega

theorem shut_sound (sound : Sound pool) (whole : pool.next = pool.count)
    (open_ : pool.closed = false) :
    Sound pool.shut ∧ remaining pool.shut + 1 = remaining pool := by
  refine ⟨⟨sound.within, sound.items, sound.length, sound.slots, fun _ => whole,
    fun _ => rfl⟩, ?_⟩
  have flight : inFlight pool.shut = inFlight pool := rfl
  have stays : staying pool.shut = staying pool := rfl
  rw [remaining, remaining, flight, stays, open_, Pool.shut]
  simp only [if_true, Bool.false_eq_true, if_false]
  omega

theorem left_sound (sound : Sound pool) (found : pool.workers[place]? = some .waiting)
    (shut : pool.closed = true) :
    Sound (pool.left place) ∧ remaining (pool.left place) + 1 = remaining pool := by
  obtain ⟨flight, stays⟩ := left_flight found
  refine ⟨⟨sound.within, ?_, sound.length, sound.slots, sound.closed, fun _ => shut⟩, ?_⟩
  · rw [flight]
    exact sound.items
  · rw [remaining, flight, remaining, Pool.left]
    rw [Pool.left] at stays
    dsimp only
    omega

/-- An action does nothing, or takes one of the steps that are left. -/
theorem step_sound (pool : Pool Answer) (action : Action Answer) (sound : Sound pool) :
    Sound (step pool action) ∧
      (step pool action = pool ∨ remaining (step pool action) + 1 = remaining pool) := by
  cases action with
  | hand worker =>
      rw [step]
      split
      · next found =>
          split_ifs with more
          · exact (handed_sound sound found more).imp_right .inr
          · exact ⟨sound, .inl rfl⟩
      · exact ⟨sound, .inl rfl⟩
  | finish worker answer =>
      rw [step]
      split
      · next item found => exact (answered_sound sound found answer).imp_right .inr
      · exact ⟨sound, .inl rfl⟩
  | close =>
      rw [step]
      split_ifs with whole
      · exact (shut_sound sound whole.1 whole.2).imp_right .inr
      · exact ⟨sound, .inl rfl⟩
  | leave worker =>
      rw [step]
      split
      · next found =>
          split_ifs with shut
          · exact (left_sound sound found shut).imp_right .inr
          · exact ⟨sound, .inl rfl⟩
      · exact ⟨sound, .inl rfl⟩

theorem step_width (pool : Pool Answer) (action : Action Answer) :
    (step pool action).workers.length = pool.workers.length ∧
      (step pool action).count = pool.count := by
  cases action <;> rw [step]
  · split
    · split_ifs <;> simp [Pool.handed]
    · exact ⟨rfl, rfl⟩
  · split <;> simp [Pool.answered]
  · split_ifs <;> exact ⟨rfl, rfl⟩
  · split
    · split_ifs <;> simp [Pool.left]
    · exact ⟨rfl, rfl⟩

end Steps

theorem returned_idle {pool : Pool Answer} (returned : Returned pool) : inFlight pool = [] := by
  rw [inFlight, List.filterMap_eq_nil_iff]
  intro worker member
  rw [returned.2 worker member]

/-- Every item is answered once, and its slot holds the answer. -/
theorem returned_complete (pool : Pool Answer) (sound : Sound pool) (returned : Returned pool) :
    (pool.log.map Prod.fst).Perm (List.range pool.count) ∧
      ∀ item < pool.count, ∃ answer, (item, answer) ∈ pool.log ∧
        pool.slots[item]? = some (some answer) := by
  have items := sound.items
  rw [returned_idle returned, List.nil_append, sound.closed returned.1] at items
  refine ⟨items, fun item below => ?_⟩
  obtain ⟨entry, member, rfl⟩ :=
    List.mem_map.mp (items.mem_iff.mpr (List.mem_range.mpr below))
  exact ⟨entry.2, member, sound.slots entry member⟩

/-- As long as the workers have not all gone, some step is left to be taken. -/
theorem progress (pool : Pool Answer) (sound : Sound pool) (some_ : pool.workers ≠ [])
    (pending : ¬ Returned pool) (answer : Answer) :
    ∃ action, remaining (step pool action) + 1 = remaining pool := by
  by_cases busy : ∃ item, Worker.busy item ∈ pool.workers
  · obtain ⟨item, member⟩ := busy
    obtain ⟨place, found⟩ := List.mem_iff_getElem?.mp member
    refine ⟨.finish place answer, ?_⟩
    rw [step, found]
    exact (answered_sound sound found answer).2
  · have idle : ∀ worker ∈ pool.workers, worker ≠ .gone → worker = .waiting := by
      intro worker member stays
      cases worker with
      | waiting => rfl
      | busy item => exact absurd ⟨item, member⟩ busy
      | gone => exact absurd rfl stays
    cases shut : pool.closed with
    | true =>
        have left : ∃ worker ∈ pool.workers, worker ≠ .gone := by
          by_contra none_
          exact pending ⟨shut, fun worker member => by
            by_contra stays
            exact none_ ⟨worker, member, stays⟩⟩
        obtain ⟨worker, member, stays⟩ := left
        rw [idle worker member stays] at member
        obtain ⟨place, found⟩ := List.mem_iff_getElem?.mp member
        refine ⟨.leave place, ?_⟩
        rw [step, found]
        dsimp only
        rw [if_pos shut]
        exact (left_sound sound found shut).2
    | false =>
        by_cases whole : pool.next = pool.count
        · refine ⟨.close, ?_⟩
          rw [step, if_pos ⟨whole, shut⟩]
          exact (shut_sound sound whole shut).2
        · obtain ⟨worker, others, workers⟩ := List.exists_cons_of_ne_nil some_
          have first : worker ∈ pool.workers := workers ▸ List.mem_cons_self
          have stays : worker ≠ .gone := by
            intro away
            rw [sound.gone (away ▸ first)] at shut
            cases shut
          have found : pool.workers[0]? = some .waiting := by
            rw [workers, List.getElem?_cons_zero, idle worker first stays]
          have more : pool.next < pool.count := Nat.lt_of_le_of_ne sound.within whole
          refine ⟨.hand 0, ?_⟩
          rw [step, found]
          dsimp only
          rw [if_pos more]
          exact (handed_sound sound found more).2

end KiroProxy.Foundation.WorkerPools
