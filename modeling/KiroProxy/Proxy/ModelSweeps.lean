import KiroProxy.Foundation.Runs
import KiroProxy.Foundation.SharedFlights
import KiroProxy.Foundation.WorkerPools
import KiroProxy.Proxy.ModelLists

/-!
# Model sweeps

`proxy/background_refresh.go` and the sweep of `proxy/handler.go` that lists the models of every
enabled account. Overlapping calls share one sweep; its accounts are asked by at most eight
workers, and what they list is merged in account order. What the accounts answer, and the models
an admin fetches for one account, are events.
-/

namespace KiroProxy.ModelSweeps

open Foundation.Runs
open Foundation.SharedFlights (Group Call Stage)
open Foundation.WorkerPools (Pool Action Returned inFlight)
open GoStrings ModelLists

set_option autoImplicit false

def backgroundRefreshWorkers : Nat := 8

structure AccountResult where
  id : GoString
  ok : Bool
  error : GoString
  status : GoString
  deriving DecidableEq

inductive Answer (Rate : Type) where
  | tokenFailed (error : GoString)
  | listFailed (error : GoString)
  | listed (models : List (ModelInfo Rate))

inductive Phase where
  | listing
  | asking
  | reporting
  | told
  deriving DecidableEq

structure Sweep (Rate : Type) where
  phase : Phase
  accounts : List GoString
  pool : Pool (Answer Rate)

/-- What a sweep merged, or the models of one account that were put in. -/
inductive Store (Rate : Type) where
  | sweep (number : Nat) (lists : List (List (ModelInfo Rate)))
  | account (models : List (ModelInfo Rate))

/-- The body of the admin's answer. -/
structure Reply where
  accounts : Nat
  refreshed : Nat
  failed : Nat
  models : Nat
  results : List AccountResult

/-- Sweeps are numbered like the flights of the group; the last three fields remember what was
stored, the sweep last reported and the calls answered. -/
structure State (Rate : Type) where
  group : Group
  sweeps : List (Sweep Rate)
  cachedModels : List (ModelInfo Rate)
  lastModelsSweep : List AccountResult
  stores : List (Store Rate)
  reported : Option Nat
  replies : List (Nat × Reply)

inductive Event (Rate : Type) where
  | arrive
  | enter (call : Nat)
  | accounts (call : Nat) (ids : List GoString)
  | work (call : Nat) (action : Action (Answer Rate))
  | store (call : Nat)
  | report (call : Nat)
  | clear (call : Nat)
  | close (call : Nat)
  | wake (call : Nat)
  | fetched (models : List (ModelInfo Rate))
  | reply (call : Nat)

section Sweeping

variable {Rate : Type}

def accountResult (id : GoString) : Answer Rate → AccountResult
  | .tokenFailed error => ⟨id, false, lit "token refresh failed: " ++ error, []⟩
  | .listFailed error => ⟨id, false, error, []⟩
  | .listed _ => ⟨id, true, [], []⟩

def listedModels : Answer Rate → List (ModelInfo Rate)
  | .listed models => models
  | _ => []

/-- A slot that no worker wrote has the zero value. -/
def slotResult (id : GoString) (slot : Option (Answer Rate)) : AccountResult :=
  (slot.map (accountResult id)).getD ⟨[], false, [], []⟩

def forEachAccount {Result : Type} (accounts : List GoString) (workers : Nat) : Pool Result :=
  if accounts = [] then (Foundation.WorkerPools.start 0 0).shut
  else Foundation.WorkerPools.start (max 1 (min workers accounts.length)) accounts.length

def Sweep.fresh : Sweep Rate := ⟨.listing, [], Foundation.WorkerPools.start 0 0⟩

def Sweep.begun (accounts : List GoString) : Sweep Rate :=
  if accounts = [] then ⟨.reporting, [], Foundation.WorkerPools.start 0 0⟩
  else ⟨.asking, accounts, forEachAccount accounts backgroundRefreshWorkers⟩

def Sweep.worked (sweep : Sweep Rate) (action : Action (Answer Rate)) : Sweep Rate :=
  { sweep with pool := Foundation.WorkerPools.step sweep.pool action }

def Sweep.moved (sweep : Sweep Rate) (phase : Phase) : Sweep Rate := { sweep with phase := phase }

def Sweep.results (sweep : Sweep Rate) : List AccountResult :=
  List.zipWith slotResult sweep.accounts sweep.pool.slots

def Sweep.listed (sweep : Sweep Rate) : List (List (ModelInfo Rate)) :=
  sweep.pool.slots.map fun slot => (slot.map listedModels).getD []

def countResults (results : List AccountResult) : Nat × Nat :=
  results.foldl
    (fun counts res => if res.ok then (counts.1 + 1, counts.2) else (counts.1, counts.2 + 1)) (0, 0)

def apiRefreshAllAccountsModels (results : List AccountResult) (cached : List (ModelInfo Rate)) :
    Reply where
  accounts := results.length
  refreshed := (countResults results).1
  failed := (countResults results).2
  models := cached.length
  results := results

instance (pool : Pool (Answer Rate)) : Decidable (Returned pool) :=
  inferInstanceAs (Decidable (_ ∧ _))

variable [Zero Rate] [DecidableEq Rate] (letters : Letters)

/-- Sweeps that listed no model leave what was known. -/
def storeModels (cached : List (ModelInfo Rate)) : Store Rate → List (ModelInfo Rate)
  | .sweep _ lists =>
      let aggregated := mergeAll letters lists
      if aggregated = [] then cached else aggregated
  | .account models => mergeUniqueModels letters cached models

def State.start : State Rate := ⟨.idle, [], [], [], [], none, []⟩

def State.putGroup (state : State Rate) (group : Group) : State Rate :=
  { state with group := group }

def State.putSweep (state : State Rate) (number : Nat) (sweep : Sweep Rate) : State Rate :=
  { state with sweeps := state.sweeps.set number sweep }

def State.putStore (state : State Rate) (store : Store Rate) : State Rate :=
  { state with
    cachedModels := storeModels letters state.cachedModels store
    stores := state.stores ++ [store] }

def State.entered (state : State Rate) (group : Group) : State Rate :=
  { state with
    group := group
    sweeps := if group.stages.length = state.group.stages.length then state.sweeps
      else state.sweeps ++ [.fresh] }

def State.published (state : State Rate) (number : Nat) (results : List AccountResult) :
    State Rate :=
  { state with lastModelsSweep := results, reported := some number }

/-- The sweep that a call leads. -/
def State.led (state : State Rate) (call : Nat) : Option (Nat × Sweep Rate) :=
  match state.group.calls[call]? with
  | some (.leading _ number) => state.sweeps[number]?.map fun sweep => (number, sweep)
  | _ => none

def step (state : State Rate) : Event Rate → State Rate
  | .arrive => state.putGroup (Foundation.SharedFlights.step state.group .arrive)
  | .enter call => state.entered (Foundation.SharedFlights.step state.group (.enter call))
  | .accounts call ids =>
      match state.led call with
      | some (number, sweep) =>
          if sweep.phase = .listing then state.putSweep number (.begun ids) else state
      | none => state
  | .work call action =>
      match state.led call with
      | some (number, sweep) =>
          if sweep.phase = .asking then state.putSweep number (sweep.worked action) else state
      | none => state
  | .store call =>
      match state.led call with
      | some (number, sweep) =>
          if sweep.phase = .asking ∧ Returned sweep.pool then
            (state.putSweep number (sweep.moved .reporting)).putStore letters
              (.sweep number sweep.listed)
          else state
      | none => state
  | .report call =>
      match state.led call with
      | some (number, sweep) =>
          if sweep.phase = .reporting then
            ((state.putSweep number (sweep.moved .told)).published number sweep.results).putGroup
              (Foundation.SharedFlights.step state.group (.finish call))
          else state
      | none => state
  | .clear call => state.putGroup (Foundation.SharedFlights.step state.group (.clear call))
  | .close call => state.putGroup (Foundation.SharedFlights.step state.group (.close call))
  | .wake call => state.putGroup (Foundation.SharedFlights.step state.group (.wake call))
  | .fetched models => state.putStore letters (.account models)
  | .reply call =>
      match state.group.calls[call]? with
      | some (.returned _ _) =>
          { state with
            replies := state.replies ++
              [(call, apiRefreshAllAccountsModels state.lastModelsSweep state.cachedModels)] }
      | _ => state

end Sweeping

section Asking

variable {Rate : Type}

/-- Every account was asked once, and its places hold what it answered. -/
structure Answered (sweep : Sweep Rate) : Prop where
  once : (sweep.pool.log.map Prod.fst).Perm (List.range sweep.accounts.length)
  lengths : sweep.results.length = sweep.accounts.length ∧
    sweep.listed.length = sweep.accounts.length
  answers : ∀ (place : Nat) (id : GoString), sweep.accounts[place]? = some id →
    ∃ answer, (place, answer) ∈ sweep.pool.log ∧
      sweep.results[place]? = some (accountResult id answer) ∧
      sweep.listed[place]? = some (listedModels answer)

/-- The accounts have all answered. -/
def Asked (sweep : Sweep Rate) : Prop := sweep.phase = .reporting ∨ sweep.phase = .told

theorem listing_unasked {sweep : Sweep Rate} (lists : sweep.phase = .listing) : ¬ Asked sweep := by
  rintro (asked | asked)
  · cases lists.symm.trans asked
  · cases lists.symm.trans asked

theorem asking_unasked {sweep : Sweep Rate} (asks : sweep.phase = .asking) : ¬ Asked sweep := by
  rintro (asked | asked)
  · cases asks.symm.trans asked
  · cases asks.symm.trans asked

structure SweepSound (sweep : Sweep Rate) : Prop where
  pool : Foundation.WorkerPools.Sound sweep.pool
  count : sweep.pool.count = sweep.accounts.length
  width : sweep.pool.workers.length ≤ backgroundRefreshWorkers
  staffed : sweep.phase = .asking → sweep.pool.workers ≠ []
  quiet : sweep.phase ≠ .asking → inFlight sweep.pool = []
  answered : Asked sweep → Answered sweep

theorem unasked_sound (phase : Phase) (rests : phase ≠ .asking) :
    SweepSound (⟨phase, [], Foundation.WorkerPools.start 0 0⟩ : Sweep Rate) where
  pool := Foundation.WorkerPools.start_sound 0 0
  count := rfl
  width := Nat.zero_le _
  staffed := fun asks => absurd asks rests
  quiet := fun _ => Foundation.WorkerPools.start_idle 0 0
  answered := fun _ => ⟨List.Perm.refl _, ⟨rfl, rfl⟩, fun place id here => by cases here⟩

theorem for_each_account {Result : Type} (accounts : List GoString) (workers : Nat) :
    Foundation.WorkerPools.Sound (forEachAccount accounts workers : Pool Result) ∧
      (forEachAccount accounts workers : Pool Result).count = accounts.length ∧
      (forEachAccount accounts workers : Pool Result).log = [] ∧
      (0 < workers → (forEachAccount accounts workers : Pool Result).workers.length ≤ workers) ∧
      (accounts ≠ [] → (forEachAccount accounts workers : Pool Result).workers ≠ []) ∧
      ((forEachAccount accounts workers : Pool Result).workers = [] →
        (forEachAccount accounts workers : Pool Result).closed = true) := by
  rw [forEachAccount]
  split_ifs with empty
  · refine ⟨(Foundation.WorkerPools.shut_sound (Foundation.WorkerPools.start_sound 0 0) rfl
      rfl).1, ?_, rfl, fun _ => Nat.zero_le _, fun some_ => absurd empty some_, fun _ => rfl⟩
    rw [empty]
    rfl
  · have staffed : (Foundation.WorkerPools.start (max 1 (min workers accounts.length))
        accounts.length : Pool Result).workers ≠ [] := by
      intro none_
      have width := congrArg List.length none_
      rw [Foundation.WorkerPools.start, List.length_replicate, List.length_nil] at width
      omega
    refine ⟨Foundation.WorkerPools.start_sound _ _, rfl, rfl, ?_, fun _ => staffed,
      fun none_ => absurd none_ staffed⟩
    intro some_
    rw [Foundation.WorkerPools.start, List.length_replicate]
    omega

theorem begun_sound (accounts : List GoString) :
    SweepSound (.begun accounts : Sweep Rate) ∧
      (Sweep.begun accounts : Sweep Rate).phase ≠ .told := by
  rw [Sweep.begun]
  split_ifs with empty
  · exact ⟨unasked_sound .reporting (by simp), by simp⟩
  · obtain ⟨sound, count, _, width, staffed, _⟩ :=
      @for_each_account (Answer Rate) accounts backgroundRefreshWorkers
    refine ⟨⟨sound, count, width (by decide), fun _ => staffed empty, ?_, ?_⟩, by simp⟩
    · intro rests
      exact absurd rfl rests
    · rintro (asked | asked) <;> cases asked

theorem worked_sound (sweep : Sweep Rate) (action : Action (Answer Rate))
    (sound : SweepSound sweep) (asks : sweep.phase = .asking) :
    SweepSound (sweep.worked action) := by
  obtain ⟨width, count⟩ := Foundation.WorkerPools.step_width sweep.pool action
  refine ⟨(Foundation.WorkerPools.step_sound sweep.pool action sound.pool).1,
    count.trans sound.count, ?_, ?_, fun rests => absurd asks rests, ?_⟩
  · rw [Sweep.worked, width]
    exact sound.width
  · intro _ none_
    apply sound.staffed asks
    rw [← List.length_eq_zero_iff, ← width]
    exact List.length_eq_zero_iff.mpr none_
  · exact fun asked => absurd asked (asking_unasked asks)

theorem returned_answered (sweep : Sweep Rate) (sound : SweepSound sweep)
    (returned : Returned sweep.pool) : Answered sweep := by
  obtain ⟨once, slots⟩ := Foundation.WorkerPools.returned_complete _ sound.pool returned
  have length := sound.pool.length.trans sound.count
  refine ⟨sound.count ▸ once, ⟨?_, ?_⟩, ?_⟩
  · rw [Sweep.results, List.length_zipWith, length, Nat.min_self]
  · rw [Sweep.listed, List.length_map, length]
  · intro place id here
    have bound := (List.getElem?_eq_some_iff.mp here).1
    obtain ⟨answer, member, slot⟩ := slots place (sound.count ▸ bound)
    refine ⟨answer, member, ?_, ?_⟩
    · rw [Sweep.results, List.getElem?_zipWith, here, slot]
      rfl
    · rw [Sweep.listed, List.getElem?_map, slot]
      rfl

theorem moved_sound (sweep : Sweep Rate) (sound : SweepSound sweep) (phase : Phase)
    (rests : phase ≠ .asking) (answered : Answered sweep) (idle : inFlight sweep.pool = []) :
    SweepSound (sweep.moved phase) where
  pool := sound.pool
  count := sound.count
  width := sound.width
  staffed := fun asks => absurd asks rests
  quiet := fun _ => idle
  answered := fun _ => ⟨answered.once, answered.lengths, answered.answers⟩

end Asking

section Counting

theorem count_results (results : List AccountResult) :
    countResults results =
      (results.countP AccountResult.ok, results.countP fun res : AccountResult => !res.ok) := by
  have counted : ∀ (results : List AccountResult) (done failed : Nat),
      results.foldl (fun counts res =>
        if res.ok then (counts.1 + 1, counts.2) else (counts.1, counts.2 + 1)) (done, failed) =
        (done + results.countP AccountResult.ok,
          failed + results.countP fun res : AccountResult => !res.ok) := by
    intro results
    induction results with
    | nil => exact fun done failed => rfl
    | cons res results ih =>
        intro done failed
        rw [List.foldl_cons, List.countP_cons, List.countP_cons]
        cases ok : res.ok with
        | true =>
            rw [if_pos rfl, ih]
            simp only [if_true, Bool.not_true, Bool.false_eq_true, if_false, Nat.add_zero]
            rw [Nat.add_right_comm, Nat.add_assoc]
        | false =>
            rw [if_neg Bool.false_ne_true, ih]
            simp only [if_true, Bool.not_false, Bool.false_eq_true, if_false, Nat.add_zero]
            rw [Nat.add_right_comm, Nat.add_assoc]
  rw [countResults, counted, Nat.zero_add, Nat.zero_add]

theorem results_counted (results : List AccountResult) :
    (countResults results).1 + (countResults results).2 = results.length := by
  rw [count_results]
  have whole : results.length = results.countP AccountResult.ok +
      results.countP fun res => ¬ res.ok := List.length_eq_countP_add_countP AccountResult.ok
  simpa using whole.symm

end Counting

section Invariant

variable {Rate : Type} [Zero Rate] [DecidableEq Rate]

def Store.number : Store Rate → Option Nat
  | .sweep number _ => some number
  | .account _ => none

/-- An answer tells of a sweep that was not over when the call came. -/
def Replied (state : State Rate) (entry : Nat × Reply) : Prop :=
  ∃ (since flight number : Nat) (sweep : Sweep Rate),
    state.group.calls[entry.1]? = some (.returned since flight) ∧ since ≤ number ∧
    state.sweeps[number]? = some sweep ∧ sweep.phase = .told ∧
    entry.2.results = sweep.results ∧ entry.2.accounts = sweep.accounts.length ∧
    entry.2.refreshed = (sweep.results.countP AccountResult.ok) ∧
    entry.2.refreshed + entry.2.failed = entry.2.accounts

structure Sound (letters : Letters) (state : State Rate) : Prop where
  group : Foundation.SharedFlights.Sound state.group
  lengths : state.sweeps.length = state.group.stages.length
  works : ∀ (number : Nat) (sweep : Sweep Rate), state.sweeps[number]? = some sweep →
    (sweep.phase ≠ .told ↔ state.group.stages[number]? = some .working)
  sweeps : ∀ sweep ∈ state.sweeps, SweepSound sweep
  cache : state.cachedModels = state.stores.foldl (storeModels letters) []
  stored : ∀ number lists, Store.sweep number lists ∈ state.stores →
    ∃ sweep, state.sweeps[number]? = some sweep ∧ Asked sweep ∧ lists = sweep.listed
  ordered : (state.stores.filterMap Store.number).Pairwise (· < ·)
  last : ∀ number, state.reported = some number →
    ∃ sweep, state.sweeps[number]? = some sweep ∧ sweep.phase = .told ∧
      state.lastModelsSweep = sweep.results
  latest : ∀ (number : Nat) (sweep : Sweep Rate), state.sweeps[number]? = some sweep →
    sweep.phase = .told → ∃ reported, state.reported = some reported ∧ number ≤ reported
  replies : ∀ entry ∈ state.replies, Replied state entry

variable {letters : Letters} {state : State Rate}

omit [Zero Rate] [DecidableEq Rate] in
theorem replied_kept {later : State Rate} {entry : Nat × Reply} (replied : Replied state entry)
    (calls : ∀ (place since flight : Nat),
      state.group.calls[place]? = some (.returned since flight) →
      later.group.calls[place]? = some (.returned since flight))
    (sweeps : ∀ (number : Nat) (sweep : Sweep Rate), state.sweeps[number]? = some sweep →
      sweep.phase = .told → later.sweeps[number]? = some sweep) : Replied later entry := by
  obtain ⟨since, flight, number, sweep, returned, earlier, here, ended, told⟩ := replied
  exact ⟨since, flight, number, sweep, calls _ _ _ returned, earlier,
    sweeps number sweep here ended, ended, told⟩

theorem start_sound : Sound letters (State.start : State Rate) where
  group := Foundation.SharedFlights.idle_sound
  lengths := rfl
  works := fun number sweep here => by cases here
  sweeps := fun sweep member => absurd member List.not_mem_nil
  cache := rfl
  stored := fun number lists member => absurd member List.not_mem_nil
  ordered := List.Pairwise.nil
  last := fun number here => by cases here
  latest := fun number sweep here => by cases here
  replies := fun entry member => absurd member List.not_mem_nil

theorem group_sound (sound : Sound letters state) (event : Foundation.SharedFlights.Event)
    (enters : ∀ place, event ≠ .enter place) (finishes : ∀ place, event ≠ .finish place) :
    Sound letters (state.putGroup (Foundation.SharedFlights.step state.group event)) := by
  obtain ⟨length, works⟩ :=
    Foundation.SharedFlights.step_works state.group event enters finishes
  refine ⟨Foundation.SharedFlights.step_sound _ event sound.group,
    sound.lengths.trans length.symm, ?_, sound.sweeps, sound.cache, sound.stored, sound.ordered,
    sound.last, sound.latest, ?_⟩
  · intro number sweep here
    exact (sound.works number sweep here).trans (works number).symm
  · intro entry member
    refine replied_kept (sound.replies entry member) ?_ (fun number sweep here _ => here)
    intro place since flight here
    exact Foundation.SharedFlights.step_returned state.group event here

theorem entered_sound (sound : Sound letters state) (call : Nat) :
    Sound letters
      (state.entered (Foundation.SharedFlights.step state.group (.enter call))) := by
  have group := Foundation.SharedFlights.step_sound _ (.enter call) sound.group
  have returned : ∀ (place since flight : Nat),
      state.group.calls[place]? = some (.returned since flight) →
      (Foundation.SharedFlights.step state.group (.enter call)).calls[place]? =
        some (.returned since flight) := by
    intro place since flight here
    exact Foundation.SharedFlights.step_returned state.group (.enter call) here
  rcases Foundation.SharedFlights.enter_stages state.group call with same | grown
  · rw [State.entered, same, if_pos rfl]
    refine ⟨group, sound.lengths.trans (congrArg List.length same).symm, ?_, sound.sweeps,
      sound.cache, sound.stored, sound.ordered, sound.last, sound.latest, ?_⟩
    · intro number sweep here
      rw [same]
      exact sound.works number sweep here
    · intro entry member
      exact replied_kept (sound.replies entry member) returned (fun number sweep here _ => here)
  · have apart : (Foundation.SharedFlights.step state.group (.enter call)).stages.length ≠
        state.group.stages.length := by
      rw [grown, List.length_append, List.length_singleton]
      omega
    have kept : ∀ (number : Nat) (sweep : Sweep Rate), state.sweeps[number]? = some sweep →
        (state.sweeps ++ [.fresh])[number]? = some sweep := by
      intro number sweep here
      exact (List.getElem?_append_left (List.getElem?_eq_some_iff.mp here).1).trans here
    have cases_ : ∀ (number : Nat) (sweep : Sweep Rate),
        (state.sweeps ++ [.fresh])[number]? = some sweep →
        state.sweeps[number]? = some sweep ∨
          number = state.group.stages.length ∧ sweep = .fresh := by
      intro number sweep here
      rw [List.getElem?_append] at here
      split_ifs at here with early
      · exact .inl here
      · have member := List.mem_of_getElem? here
        have bound := (List.getElem?_eq_some_iff.mp here).1
        rw [List.length_singleton] at bound
        have length := sound.lengths
        exact .inr ⟨by omega, List.mem_singleton.mp member⟩
    rw [State.entered, if_neg apart]
    refine ⟨group, ?_, ?_, ?_, sound.cache, ?_, sound.ordered, ?_, ?_, ?_⟩
    · rw [grown, List.length_append, List.length_append, sound.lengths]
      rfl
    · intro number sweep here
      rw [grown]
      rcases cases_ number sweep here with old | ⟨rfl, rfl⟩
      · have bound := (List.getElem?_eq_some_iff.mp old).1
        rw [List.getElem?_append_left (sound.lengths ▸ bound)]
        exact sound.works number sweep old
      · rw [List.getElem?_concat_length]
        simp [Sweep.fresh]
    · intro sweep member
      rcases List.mem_append.mp member with old | new
      · exact sound.sweeps sweep old
      · rw [List.mem_singleton.mp new]
        exact unasked_sound .listing (by simp)
    · intro number lists member
      obtain ⟨sweep, here, asked, same⟩ := sound.stored number lists member
      exact ⟨sweep, kept number sweep here, asked, same⟩
    · intro number reported
      obtain ⟨sweep, here, told⟩ := sound.last number reported
      exact ⟨sweep, kept number sweep here, told⟩
    · intro number sweep here ended
      rcases cases_ number sweep here with old | ⟨_, rfl⟩
      · exact sound.latest number sweep old ended
      · cases ended
    · intro entry member
      exact replied_kept (sound.replies entry member) returned
        (fun number sweep here _ => kept number sweep here)

omit [Zero Rate] [DecidableEq Rate] in
theorem led_found {call number : Nat} {sweep : Sweep Rate}
    (led : state.led call = some (number, sweep)) :
    (∃ since, state.group.calls[call]? = some (.leading since number)) ∧
      state.sweeps[number]? = some sweep := by
  rw [State.led] at led
  split at led
  · next since flight found =>
      obtain ⟨other, here, same⟩ := Option.map_eq_some_iff.mp led
      obtain ⟨rfl, rfl⟩ := Prod.mk.inj same
      exact ⟨⟨since, found⟩, here⟩
  · cases led

/-- A sweep on its way takes a step. -/
theorem put_sound (sound : Sound letters state) {number : Nat} {old new : Sweep Rate}
    (here : state.sweeps[number]? = some old) (unasked : ¬ Asked old) (fits : SweepSound new)
    (pending : new.phase ≠ .told) : Sound letters (state.putSweep number new) := by
  have bound := (List.getElem?_eq_some_iff.mp here).1
  have kept : ∀ (other : Nat) (sweep : Sweep Rate), state.sweeps[other]? = some sweep →
      Asked sweep → (state.sweeps.set number new)[other]? = some sweep := by
    intro other sweep there asked
    have apart : number ≠ other := by
      intro same
      rw [← same, here] at there
      exact unasked (Option.some.inj there ▸ asked)
    rw [List.getElem?_set_ne apart]
    exact there
  refine ⟨sound.group, List.length_set.trans sound.lengths, ?_, ?_, sound.cache, ?_,
    sound.ordered, ?_, ?_, ?_⟩
  · intro other sweep there
    rcases Foundation.SharedFlights.set_found there with ⟨same, rfl⟩ | ⟨_, there⟩
    · have works := sound.works number old here
      rw [← same]
      exact ⟨fun _ => works.mp fun ended => unasked (.inr ended), fun _ => pending⟩
    · exact sound.works other sweep there
  · intro sweep member
    rcases List.mem_or_eq_of_mem_set member with member | rfl
    · exact sound.sweeps sweep member
    · exact fits
  · intro other lists member
    obtain ⟨sweep, there, asked, same⟩ := sound.stored other lists member
    exact ⟨sweep, kept other sweep there asked, asked, same⟩
  · intro other reported
    obtain ⟨sweep, there, ended, same⟩ := sound.last other reported
    exact ⟨sweep, kept other sweep there (.inr ended), ended, same⟩
  · intro other sweep there ended
    rcases Foundation.SharedFlights.set_found there with ⟨_, rfl⟩ | ⟨_, there⟩
    · exact absurd ended pending
    · exact sound.latest other sweep there ended
  · intro entry member
    exact replied_kept (sound.replies entry member) (fun place since flight found => found)
      fun other sweep there ended => kept other sweep there (.inr ended)

theorem store_sound (sound : Sound letters state) (store : Store Rate)
    (holds : ∀ number lists, store = .sweep number lists →
      (∃ sweep, state.sweeps[number]? = some sweep ∧ Asked sweep ∧ lists = sweep.listed) ∧
      ∀ earlier ∈ state.stores.filterMap Store.number, earlier < number) :
    Sound letters (state.putStore letters store) := by
  refine ⟨sound.group, sound.lengths, sound.works, sound.sweeps, ?_, ?_, ?_, sound.last,
    sound.latest, sound.replies⟩
  · rw [State.putStore, List.foldl_append, ← sound.cache]
    rfl
  · intro number lists member
    rcases List.mem_append.mp member with old | new
    · exact sound.stored number lists old
    · exact (holds number lists (List.mem_singleton.mp new).symm).1
  · rw [State.putStore, List.filterMap_append, List.pairwise_append]
    refine ⟨sound.ordered, ?_, ?_⟩
    · cases store with
      | sweep number lists => exact List.pairwise_singleton _ number
      | account models => exact List.Pairwise.nil
    · intro earlier before number member
      obtain ⟨stored, inside, named⟩ := List.mem_filterMap.mp member
      rw [List.mem_singleton] at inside
      rw [inside] at named
      cases store with
      | sweep other lists =>
          rw [← Option.some.inj named]
          exact (holds other lists rfl).2 earlier before
      | account models => cases named

/-- A sweep is stored after all that were stored before. -/
theorem stores_before (sound : Sound letters state) {number : Nat} {sweep : Sweep Rate}
    (here : state.sweeps[number]? = some sweep) (asks : sweep.phase = .asking) :
    ∀ earlier ∈ state.stores.filterMap Store.number, earlier < number := by
  intro earlier member
  have works := (sound.works number sweep here).mp (by simp [asks])
  have last := sound.group.last number ((sound.group.running number).mpr (.inl works))
  obtain ⟨store, inside, named⟩ := List.mem_filterMap.mp member
  cases store with
  | account models => cases named
  | sweep other lists =>
      rw [← Option.some.inj named]
      obtain ⟨another, there, asked, _⟩ := sound.stored other lists inside
      have bound := (List.getElem?_eq_some_iff.mp there).1
      have apart : other ≠ number := by
        intro same
        rw [same, here] at there
        exact asking_unasked asks (Option.some.inj there ▸ asked)
      have lengths := sound.lengths
      omega

theorem stored_sound (sound : Sound letters state) {number : Nat} {sweep : Sweep Rate}
    (here : state.sweeps[number]? = some sweep) (asks : sweep.phase = .asking)
    (returned : Returned sweep.pool) :
    Sound letters ((state.putSweep number (sweep.moved .reporting)).putStore letters
      (.sweep number sweep.listed)) := by
  have fits := sound.sweeps sweep (List.mem_of_getElem? here)
  have moved := moved_sound sweep fits .reporting (by simp)
    (returned_answered sweep fits returned) (Foundation.WorkerPools.returned_idle returned)
  refine store_sound
    (put_sound sound here (asking_unasked asks) moved (by simp [Sweep.moved])) _ ?_
  intro other lists same
  obtain ⟨rfl, rfl⟩ := Store.sweep.inj same
  refine ⟨⟨sweep.moved .reporting, ?_, .inl rfl, rfl⟩, stores_before sound here asks⟩
  exact List.getElem?_set_self (List.getElem?_eq_some_iff.mp here).1

theorem reported_sound (sound : Sound letters state) {call since number : Nat}
    {sweep : Sweep Rate} (found : state.group.calls[call]? = some (.leading since number))
    (here : state.sweeps[number]? = some sweep) (reports : sweep.phase = .reporting) :
    Sound letters (((state.putSweep number (sweep.moved .told)).published number
      sweep.results).putGroup
        (Foundation.SharedFlights.step state.group (.finish call))) := by
  have group := Foundation.SharedFlights.step_sound _ (.finish call) sound.group
  have works := (sound.works number sweep here).mp (by simp [reports])
  have finished := Foundation.SharedFlights.finish_stages found works
  have last := sound.group.last number ((sound.group.running number).mpr (.inl works))
  have bound := (List.getElem?_eq_some_iff.mp here).1
  have moved : (state.sweeps.set number (sweep.moved .told))[number]? =
    some (sweep.moved .told) := List.getElem?_set_self bound
  have kept : ∀ {other : Nat}, number ≠ other →
      (state.sweeps.set number (sweep.moved .told))[other]? = state.sweeps[other]? :=
    fun apart => List.getElem?_set_ne apart
  have over_kept : ∀ (other : Nat) (another : Sweep Rate), state.sweeps[other]? = some another →
      another.phase = .told →
      (state.sweeps.set number (sweep.moved .told))[other]? = some another := by
    intro other another there ended
    have apart : number ≠ other := by
      intro same
      rw [← same, here] at there
      cases reports.symm.trans (Option.some.inj there ▸ ended)
    exact (kept apart).trans there
  have fits := sound.sweeps sweep (List.mem_of_getElem? here)
  refine ⟨group, ?_, ?_, ?_, sound.cache, ?_, sound.ordered, ?_, ?_, ?_⟩
  · rw [State.putGroup, finished, Group.move, List.length_set]
    exact List.length_set.trans sound.lengths
  · intro other another there
    rw [State.putGroup, finished, Group.move]
    rcases Foundation.SharedFlights.set_found there with ⟨same, rfl⟩ | ⟨apart, there⟩
    · rw [← same, List.getElem?_set_self (sound.lengths ▸ bound)]
      simp [Sweep.moved]
    · rw [List.getElem?_set_ne apart]
      exact sound.works other another there
  · intro another member
    rcases List.mem_or_eq_of_mem_set member with member | rfl
    · exact sound.sweeps another member
    · exact moved_sound sweep fits .told (by simp) (fits.answered (.inl reports))
        (fits.quiet (by simp [reports]))
  · intro other lists member
    obtain ⟨another, there, asked, same⟩ := sound.stored other lists member
    by_cases equal : number = other
    · rw [← equal, here] at there
      refine ⟨sweep.moved .told, equal ▸ moved, .inr rfl, ?_⟩
      rw [same, ← Option.some.inj there]
      rfl
    · exact ⟨another, (kept equal).trans there, asked, same⟩
  · intro other reported
    rw [← Option.some.inj reported]
    exact ⟨sweep.moved .told, moved, rfl, rfl⟩
  · intro other another there ended
    have within := (List.getElem?_eq_some_iff.mp there).1
    rw [State.putGroup, State.published, State.putSweep, List.length_set, sound.lengths] at within
    exact ⟨number, rfl, by omega⟩
  · intro entry member
    refine replied_kept (sound.replies entry member) ?_ over_kept
    intro place since flight returned
    exact Foundation.SharedFlights.step_returned state.group (.finish call) returned

theorem reply_sound (sound : Sound letters state) {call since flight : Nat}
    (found : state.group.calls[call]? = some (.returned since flight)) :
    Replied state
      (call, apiRefreshAllAccountsModels state.lastModelsSweep state.cachedModels) := by
  obtain ⟨early, closed⟩ := sound.group.calls call _ found
  have bound := (List.getElem?_eq_some_iff.mp closed).1
  obtain ⟨shared, here⟩ : ∃ sweep, state.sweeps[flight]? = some sweep :=
    ⟨_, List.getElem?_eq_getElem (sound.lengths.symm ▸ bound)⟩
  have ended : shared.phase = .told := by
    by_contra pending
    have works := (sound.works flight shared here).mp pending
    cases closed.symm.trans works
  obtain ⟨number, reported, later⟩ := sound.latest flight shared here ended
  obtain ⟨sweep, there, ended, results⟩ := sound.last number reported
  have fits := sound.sweeps sweep (List.mem_of_getElem? there)
  refine ⟨since, flight, number, sweep, found, Nat.le_trans early later, there, ended, results,
    ?_, ?_, ?_⟩
  · rw [apiRefreshAllAccountsModels, results]
    exact (fits.answered (.inr ended)).lengths.1
  · rw [apiRefreshAllAccountsModels, results, count_results]
  · exact results_counted state.lastModelsSweep

theorem step_sound (state : State Rate) (event : Event Rate) (sound : Sound letters state) :
    Sound letters (step letters state event) := by
  cases event with
  | arrive => exact group_sound sound .arrive (by simp) (by simp)
  | enter call => exact entered_sound sound call
  | accounts call ids =>
      rw [step]
      split
      · next number sweep led =>
          split_ifs with lists
          · have begun : SweepSound (.begun ids : Sweep Rate) ∧
                (Sweep.begun ids : Sweep Rate).phase ≠ .told := begun_sound ids
            exact put_sound sound (led_found led).2 (listing_unasked lists) begun.1 begun.2
          · exact sound
      · exact sound
  | work call action =>
      rw [step]
      split
      · next number sweep led =>
          split_ifs with asks
          · have here := (led_found led).2
            have fits := sound.sweeps sweep (List.mem_of_getElem? here)
            have pending : (sweep.worked action).phase ≠ .told := by
              rw [Sweep.worked, asks]
              simp
            exact put_sound sound here (asking_unasked asks)
              (worked_sound sweep action fits asks) pending
          · exact sound
      · exact sound
  | store call =>
      rw [step]
      split
      · next number sweep led =>
          split_ifs with ready
          · exact stored_sound sound (led_found led).2 ready.1 ready.2
          · exact sound
      · exact sound
  | report call =>
      rw [step]
      split
      · next number sweep led =>
          split_ifs with reports
          · obtain ⟨⟨since, found⟩, here⟩ := led_found led
            exact reported_sound sound found here reports
          · exact sound
      · exact sound
  | clear call => exact group_sound sound (.clear call) (by simp) (by simp)
  | close call => exact group_sound sound (.close call) (by simp) (by simp)
  | wake call => exact group_sound sound (.wake call) (by simp) (by simp)
  | fetched models =>
      exact store_sound sound (.account models) fun number lists same => by cases same
  | reply call =>
      rw [step]
      split
      · next found =>
          refine { sound with replies := ?_ }
          intro entry member
          rcases List.mem_append.mp member with old | new
          · exact sound.replies entry old
          · rw [List.mem_singleton.mp new]
            exact reply_sound sound found
      · exact sound

end Invariant

section Progress

variable {Rate : Type} [Zero Rate] [DecidableEq Rate] {letters : Letters} {state : State Rate}

def Sweep.left (sweep : Sweep Rate) : Nat :=
  match sweep.phase with
  | .listing => 2
  | .asking => Foundation.WorkerPools.remaining sweep.pool + 2
  | .reporting => 1
  | .told => 0

/-- The steps that are left when no account is added and no call comes. -/
def remaining (state : State Rate) : Nat :=
  3 * Foundation.SharedFlights.remaining state.group + (state.sweeps.map Sweep.left).sum

omit [Zero Rate] [DecidableEq Rate] in
theorem put_remaining {number : Nat} {old new : Sweep Rate}
    (here : state.sweeps[number]? = some old) (less : new.left < old.left) :
    remaining (state.putSweep number new) < remaining state := by
  have weight := Foundation.SharedFlights.set_weight Sweep.left state.sweeps here new
  rw [remaining, remaining, State.putSweep]
  dsimp only
  omega

theorem group_progress (event : Foundation.SharedFlights.Event)
    (starts : ∀ call, event ≠ .finish call)
    (less : Foundation.SharedFlights.remaining (Foundation.SharedFlights.step state.group event) <
      Foundation.SharedFlights.remaining state.group) :
    ∃ event, remaining (step letters state event) < remaining state := by
  cases event with
  | arrive =>
      refine ⟨.arrive, ?_⟩
      rw [step, remaining, remaining, State.putGroup]
      dsimp only
      omega
  | enter call =>
      have fresh : (Sweep.fresh : Sweep Rate).left = 2 := rfl
      refine ⟨.enter call, ?_⟩
      rw [step, remaining, remaining, State.entered]
      dsimp only
      split_ifs
      · omega
      · rw [List.map_append, List.sum_append, List.map_singleton, List.sum_singleton, fresh]
        omega
  | finish call => exact absurd rfl (starts call)
  | clear call =>
      refine ⟨.clear call, ?_⟩
      rw [step, remaining, remaining, State.putGroup]
      dsimp only
      omega
  | close call =>
      refine ⟨.close call, ?_⟩
      rw [step, remaining, remaining, State.putGroup]
      dsimp only
      omega
  | wake call =>
      refine ⟨.wake call, ?_⟩
      rw [step, remaining, remaining, State.putGroup]
      dsimp only
      omega

/-- A sweep that is not over can go on. -/
theorem sweep_progress (sound : Sound letters state) {call since number : Nat}
    (found : state.group.calls[call]? = some (.leading since number)) {sweep : Sweep Rate}
    (here : state.sweeps[number]? = some sweep) (pending : sweep.phase ≠ .told) :
    ∃ event, remaining (step letters state event) < remaining state := by
  have led : state.led call = some (number, sweep) := by
    rw [State.led, found]
    dsimp only
    rw [here, Option.map_some]
  have fits := sound.sweeps sweep (List.mem_of_getElem? here)
  cases phase : sweep.phase with
  | listing =>
      refine ⟨.accounts call [], ?_⟩
      rw [step, led]
      dsimp only
      rw [if_pos phase]
      exact put_remaining here (by simp [Sweep.left, Sweep.begun, phase])
  | asking =>
      by_cases returned : Returned sweep.pool
      · have less : remaining (state.putSweep number (sweep.moved .reporting)) < remaining state :=
          put_remaining here (by simp [Sweep.left, Sweep.moved, phase])
        refine ⟨.store call, ?_⟩
        rw [step, led]
        dsimp only
        rw [if_pos ⟨phase, returned⟩]
        exact less
      · obtain ⟨action, less⟩ := Foundation.WorkerPools.progress sweep.pool fits.pool
          (fits.staffed phase) returned (.listFailed [])
        refine ⟨.work call action, ?_⟩
        rw [step, led]
        dsimp only
        rw [if_pos phase]
        apply put_remaining here
        simp only [Sweep.left, Sweep.worked, phase]
        omega
  | reporting =>
      have works := (sound.works number sweep here).mp pending
      have group := Foundation.SharedFlights.finish_remaining found works
      have less : remaining (state.putSweep number (sweep.moved .told)) < remaining state :=
        put_remaining here (by simp [Sweep.left, Sweep.moved, phase])
      rw [remaining, remaining, State.putSweep] at less
      dsimp only at less
      refine ⟨.report call, ?_⟩
      rw [step, led]
      dsimp only
      rw [if_pos phase, remaining, remaining, State.putGroup, State.published, State.putSweep]
      dsimp only
      omega
  | told => exact absurd phase pending

theorem progress (sound : Sound letters state) {place : Nat} {call : Call}
    (found : state.group.calls[place]? = some call)
    (pending : ∀ since flight, call ≠ .returned since flight) :
    ∃ event, remaining (step letters state event) < remaining state := by
  rcases Foundation.SharedFlights.progress sound.group found pending with works | waits
  · obtain ⟨leader, since, flight, leads, works⟩ := works
    have bound := (List.getElem?_eq_some_iff.mp works).1
    obtain ⟨sweep, here⟩ : ∃ sweep, state.sweeps[flight]? = some sweep :=
      ⟨_, List.getElem?_eq_getElem (sound.lengths.symm ▸ bound)⟩
    exact sweep_progress sound leads here ((sound.works flight sweep here).mpr works)
  · obtain ⟨event, starts, less⟩ := waits
    exact group_progress event starts less

theorem step_calls (state : State Rate) (event : Event Rate) :
    state.group.calls.length ≤ (step letters state event).group.calls.length := by
  have grown := Foundation.SharedFlights.step_calls state.group
  cases event with
  | arrive => exact grown .arrive
  | enter call => exact grown (.enter call)
  | accounts call ids =>
      rw [step]
      split
      · split_ifs <;> exact Nat.le_refl _
      · exact Nat.le_refl _
  | work call action =>
      rw [step]
      split
      · split_ifs <;> exact Nat.le_refl _
      · exact Nat.le_refl _
  | store call =>
      rw [step]
      split
      · split_ifs <;> exact Nat.le_refl _
      · exact Nat.le_refl _
  | report call =>
      rw [step]
      split
      · split_ifs
        · exact grown (.finish call)
        · exact Nat.le_refl _
      · exact Nat.le_refl _
  | clear call => exact grown (.clear call)
  | close call => exact grown (.close call)
  | wake call => exact grown (.wake call)
  | fetched models => exact Nat.le_refl _
  | reply call =>
      rw [step]
      split <;> exact Nat.le_refl _

/-- No call is stuck: the calls that have come can all return. -/
theorem calls_settle (sound : Sound letters state) :
    ∃ more, ∀ place < state.group.calls.length, ∃ since flight,
      (run (step letters) state more).group.calls[place]? = some (.returned since flight) := by
  induction left : remaining state using Nat.strong_induction_on generalizing state with
  | _ left_ ih =>
      subst left
      by_cases pending : ∃ (place : Nat) (call : Call), state.group.calls[place]? = some call ∧
          ∀ since flight, call ≠ .returned since flight
      · obtain ⟨place, call, found, pending⟩ := pending
        obtain ⟨event, less⟩ := progress sound found pending
        obtain ⟨more, settled⟩ := ih _ less (step_sound state event sound) rfl
        refine ⟨event :: more, fun other within => ?_⟩
        exact settled other (Nat.lt_of_lt_of_le within (step_calls state event))
      · refine ⟨[], fun place within => ?_⟩
        by_contra unreturned
        apply pending
        refine ⟨place, _, List.getElem?_eq_getElem within, fun since flight same => ?_⟩
        exact unreturned ⟨since, flight, (List.getElem?_eq_getElem within).trans
          (congrArg some same)⟩

end Progress

section Runs

variable {Rate : Type} [Zero Rate] [DecidableEq Rate]

/-- What holds however calls, workers and answers interleave. -/
structure Kept (letters : Letters) (state : State Rate) : Prop where
  one : ∀ (number other : Nat) (sweep another : Sweep Rate),
    state.sweeps[number]? = some sweep → state.sweeps[other]? = some another →
    sweep.phase ≠ .told → another.phase ≠ .told → number = other
  bounded : (state.sweeps.map fun sweep => (inFlight sweep.pool).length).sum ≤
    backgroundRefreshWorkers
  answered : ∀ sweep ∈ state.sweeps, sweep.phase = .told → Answered sweep
  cache : state.cachedModels = state.stores.foldl (storeModels letters) []
  distinct : (keys letters state.cachedModels).Nodup ∧ [] ∉ keys letters state.cachedModels
  stored : ∀ number lists, Store.sweep number lists ∈ state.stores →
    (∃ sweep, state.sweeps[number]? = some sweep ∧ Answered sweep ∧ lists = sweep.listed) ∧
      MergedFrom letters lists.flatten (mergeAll letters lists)
  ordered : (state.stores.filterMap Store.number).Pairwise (· < ·)
  returned : ∀ (place since flight : Nat),
    state.group.calls[place]? = some (.returned since flight) → since ≤ flight ∧
      ∃ sweep, state.sweeps[flight]? = some sweep ∧ sweep.phase = .told
  replies : ∀ entry ∈ state.replies, Replied state entry
  settle : ∃ more, ∀ place < state.group.calls.length, ∃ since flight,
    (run (step letters) state more).group.calls[place]? = some (.returned since flight)

variable {letters : Letters} {state : State Rate}

theorem one_sweep (sound : Sound letters state) {number other : Nat} {sweep another : Sweep Rate}
    (here : state.sweeps[number]? = some sweep) (there : state.sweeps[other]? = some another)
    (pending : sweep.phase ≠ .told) (alike : another.phase ≠ .told) : number = other :=
  Foundation.SharedFlights.one_works sound.group ((sound.works number sweep here).mp pending)
    ((sound.works other another there).mp alike)

theorem few_asked (sound : Sound letters state) :
    (state.sweeps.map fun sweep => (inFlight sweep.pool).length).sum ≤
      backgroundRefreshWorkers := by
  have quiet : ∀ (sweeps : List (Sweep Rate)), (∀ sweep ∈ sweeps, inFlight sweep.pool = []) →
      (sweeps.map fun sweep => (inFlight sweep.pool).length).sum = 0 := by
    intro sweeps idle
    induction sweeps with
    | nil => rfl
    | cons sweep sweeps ih =>
        rw [List.map_cons, List.sum_cons, idle sweep List.mem_cons_self, List.length_nil,
          ih fun other member => idle other (List.mem_cons_of_mem sweep member)]
  by_cases asks : ∃ sweep ∈ state.sweeps, sweep.phase = .asking
  · obtain ⟨sweep, member, asks⟩ := asks
    obtain ⟨number, here⟩ := List.mem_iff_getElem?.mp member
    have weight := Foundation.SharedFlights.set_weight
      (fun sweep : Sweep Rate => (inFlight sweep.pool).length) state.sweeps here .fresh
    have fresh : inFlight (Sweep.fresh : Sweep Rate).pool = [] :=
      Foundation.WorkerPools.start_idle 0 0
    have others : ∀ another ∈ state.sweeps.set number .fresh, inFlight another.pool = [] := by
      intro another inside
      obtain ⟨other, there⟩ := List.mem_iff_getElem?.mp inside
      rcases Foundation.SharedFlights.set_found there with ⟨_, rfl⟩ | ⟨apart, there⟩
      · exact fresh
      · apply (sound.sweeps another (List.mem_of_getElem? there)).quiet
        intro alike
        exact apart (one_sweep sound here there (by simp [asks]) (by simp [alike]))
    rw [quiet _ others, fresh, List.length_nil] at weight
    have width := (sound.sweeps sweep member).width
    have flight := Foundation.WorkerPools.in_flight_le sweep.pool
    omega
  · rw [quiet]
    · exact Nat.zero_le _
    · intro sweep member
      exact (sound.sweeps sweep member).quiet fun alike => asks ⟨sweep, member, alike⟩

theorem store_distinct (cached : List (ModelInfo Rate)) (store : Store Rate)
    (distinct : (keys letters cached).Nodup ∧ [] ∉ keys letters cached) :
    (keys letters (storeModels letters cached store)).Nodup ∧
      [] ∉ keys letters (storeModels letters cached store) := by
  cases store with
  | sweep number lists =>
      have merged : MergedFrom letters lists.flatten (mergeAll letters lists) :=
        merge_all_merged lists
      rw [storeModels]
      split_ifs
      · exact distinct
      · exact ⟨merged.distinct, merged.named⟩
  | account models => exact merge_unique_distinct cached models distinct.1 distinct.2

theorem kept_of_sound (sound : Sound letters state) : Kept letters state where
  one := fun number other sweep another here there pending alike =>
    one_sweep sound here there pending alike
  bounded := few_asked sound
  answered := fun sweep member ended => (sound.sweeps sweep member).answered (.inr ended)
  cache := sound.cache
  distinct := by
    rw [sound.cache]
    exact invariant_of_steps (storeModels letters)
      (fun cached => (keys letters cached).Nodup ∧ [] ∉ keys letters cached) store_distinct []
      ⟨List.nodup_nil, List.not_mem_nil⟩ state.stores
  stored := by
    intro number lists member
    obtain ⟨sweep, here, asked, same⟩ := sound.stored number lists member
    have fits := sound.sweeps sweep (List.mem_of_getElem? here)
    exact ⟨⟨sweep, here, fits.answered asked, same⟩, merge_all_merged lists⟩
  ordered := sound.ordered
  returned := by
    intro place since flight found
    obtain ⟨early, closed⟩ := sound.group.calls place _ found
    have bound := (List.getElem?_eq_some_iff.mp closed).1
    obtain ⟨sweep, here⟩ : ∃ sweep, state.sweeps[flight]? = some sweep :=
      ⟨_, List.getElem?_eq_getElem (sound.lengths.symm ▸ bound)⟩
    refine ⟨early, sweep, here, ?_⟩
    by_contra pending
    cases closed.symm.trans ((sound.works flight sweep here).mp pending)
  replies := sound.replies
  settle := calls_settle sound

theorem model_sweeps_kept (letters : Letters) (events : List (Event Rate)) :
    Kept letters (run (step letters) State.start events) :=
  kept_of_sound (invariant_of_steps (step letters) (Sound letters) step_sound State.start
    start_sound events)

end Runs

end KiroProxy.ModelSweeps
