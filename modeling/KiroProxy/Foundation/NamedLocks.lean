import KiroProxy.Foundation.Runs
import KiroProxy.Foundation.Tables
import Mathlib.Logic.Function.Basic

/-!
# Named locks

Locks that are made when the first client asks for a name and forgotten when the last one
leaves. A registry gives the address of a name's entry; an entry counts the clients that refer
to it and has a gate with room for one. The names and the counts change together, in one step;
the gate is filled and emptied apart from them, so a client can be between the two.
-/

namespace KiroProxy.Foundation.NamedLocks

open Foundation.Runs Foundation.Tables

set_option autoImplicit false

structure Entry where
  full : Bool
  refs : Int

structure Registry (Key : Type*) where
  names : Table Key Nat
  entries : Nat → Entry
  next : Nat

section Operations

variable {Key : Type*}

def Registry.empty : Registry Key := ⟨Table.empty, fun _ => ⟨false, 0⟩, 0⟩

def Registry.change (registry : Registry Key) (address : Nat) (entry : Entry) : Registry Key :=
  { registry with entries := Function.update registry.entries address entry }

def Registry.count (registry : Registry Key) (address : Nat) (amount : Int) : Registry Key :=
  registry.change address
    { registry.entries address with refs := (registry.entries address).refs + amount }

def Registry.gate (registry : Registry Key) (address : Nat) (full : Bool) : Registry Key :=
  registry.change address { registry.entries address with full := full }

variable [DecidableEq Key]

/-- The entry of a name, made when there is none. -/
def Registry.find (registry : Registry Key) (key : Key) : Registry Key × Nat :=
  match registry.names.get key with
  | some address => (registry, address)
  | none =>
      (⟨registry.names.put key registry.next,
        Function.update registry.entries registry.next ⟨false, 0⟩, registry.next + 1⟩,
        registry.next)

def Registry.refer (registry : Registry Key) (key : Key) : Registry Key × Nat :=
  let found := registry.find key
  (found.1.count found.2 1, found.2)

/-- A name whose entry nothing refers to is forgotten. -/
def Registry.forget (registry : Registry Key) (key : Key) (address : Nat) : Registry Key :=
  if (registry.entries address).refs = 0 then
    { registry with names := registry.names.erase key }
  else registry

def Registry.drop (registry : Registry Key) (key : Key) (address : Nat) : Registry Key :=
  (registry.count address (-1)).forget key address

end Operations

/-- Where a client is. One that leaves no longer waits or holds, and still refers. -/
inductive Phase (Key : Type*) where
  | outside
  | waiting (key : Key) (address : Nat)
  | holding (key : Key) (address : Nat)
  | leaving (key : Key) (address : Nat)

inductive Move (Key : Type*) where
  | refer (key : Key)
  | acquire
  | abandon
  | unlock
  | drop

structure State (Key : Type*) where
  registry : Registry Key
  clients : List (Phase Key)

section Machine

variable {Key : Type*}

/-- The name a client refers to, and the entry it refers to it by. -/
def Phase.claim : Phase Key → Option (Key × Nat)
  | .outside => none
  | .waiting key address => some (key, address)
  | .holding key address => some (key, address)
  | .leaving key address => some (key, address)

variable [DecidableEq Key]

def Phase.refersTo (key : Key) (phase : Phase Key) : Bool :=
  decide (phase.claim.map Prod.fst = some key)

/-- What a client's move makes of the registry and of the client, where it can move so. -/
def advance (registry : Registry Key) :
    Phase Key → Move Key → Option (Registry Key × Phase Key)
  | .outside, .refer key =>
      some ((registry.refer key).1, .waiting key (registry.refer key).2)
  | .waiting key address, .acquire =>
      if (registry.entries address).full then none
      else some (registry.gate address true, .holding key address)
  | .waiting key address, .abandon => some (registry, .leaving key address)
  | .holding key address, .unlock =>
      some (registry.gate address false, .leaving key address)
  | .leaving key address, .drop => some (registry.drop key address, .outside)
  | _, _ => none

def step (state : State Key) (event : Nat × Move Key) : State Key :=
  match state.clients[event.1]? with
  | none => state
  | some phase =>
      match advance state.registry phase event.2 with
      | none => state
      | some (registry, phase) => ⟨registry, state.clients.set event.1 phase⟩

end Machine

section Entries

variable {Key : Type*}

theorem entries_change (registry : Registry Key) (address other : Nat) (entry : Entry) :
    (registry.change address entry).entries other =
      if other = address then entry else registry.entries other :=
  Function.update_apply registry.entries address entry other

theorem refs_count (registry : Registry Key) (address other : Nat) (amount : Int) :
    ((registry.count address amount).entries other).refs =
      (registry.entries other).refs + if other = address then amount else 0 := by
  rw [Registry.count, entries_change]
  split_ifs with same
  · rw [same]
  · rw [Int.add_zero]

theorem full_count (registry : Registry Key) (address other : Nat) (amount : Int) :
    ((registry.count address amount).entries other).full = (registry.entries other).full := by
  rw [Registry.count, entries_change]
  split_ifs with same
  · rw [same]
  · rfl

theorem refs_gate (registry : Registry Key) (address other : Nat) (full : Bool) :
    ((registry.gate address full).entries other).refs = (registry.entries other).refs := by
  rw [Registry.gate, entries_change]
  split_ifs with same
  · rw [same]
  · rfl

theorem full_gate (registry : Registry Key) (address other : Nat) (full : Bool) :
    ((registry.gate address full).entries other).full =
      if other = address then full else (registry.entries other).full := by
  rw [Registry.gate, entries_change]
  split_ifs <;> rfl

end Entries

section Places

variable {Value : Type*}

theorem count_set (test : Value → Bool) (values : List Value) (place : Nat) (old new : Value)
    (here : values[place]? = some old) :
    (values.set place new).countP test + (if test old then 1 else 0) =
      values.countP test + (if test new then 1 else 0) := by
  induction values generalizing place with
  | nil => simp at here
  | cons value values ih =>
      cases place with
      | zero =>
          rw [List.getElem?_cons_zero, Option.some.injEq] at here
          rw [List.set_cons_zero, List.countP_cons, List.countP_cons, here]
          omega
      | succ place =>
          have later := ih place here
          rw [List.set_cons_succ, List.countP_cons, List.countP_cons]
          omega

/-- A write that neither takes nor puts a value leaves it where it is. -/
theorem mem_set_iff (values : List Value) (place : Nat) (old new value : Value)
    (here : values[place]? = some old) (kept : old ≠ value) (apart : new ≠ value) :
    value ∈ values.set place new ↔ value ∈ values := by
  rw [List.mem_iff_getElem?, List.mem_iff_getElem?]
  apply exists_congr
  intro other
  rw [List.getElem?_set]
  split_ifs with same bound
  · rw [← same, here]
    simp [kept, apart]
  · rw [← same, here]
    simp [kept]
  · exact Iff.rfl

end Places

section Invariant

variable {Key : Type*} [DecidableEq Key]

def Exclusive (clients : List (Phase Key)) : Prop :=
  ∀ (first second : Nat) (key : Key) (address other : Nat),
    clients[first]? = some (Phase.holding key address) →
    clients[second]? = some (Phase.holding key other) → first = second

/-- A client refers to the current entry of its name, whose count and gate are right. -/
structure Sound (state : State Key) : Prop where
  bounded : ∀ key address, state.registry.names.get key = some address →
    address < state.registry.next
  separate : ∀ first second address, state.registry.names.get first = some address →
    state.registry.names.get second = some address → first = second
  current : ∀ phase ∈ state.clients, ∀ key address, phase.claim = some (key, address) →
    state.registry.names.get key = some address
  counted : ∀ key address, state.registry.names.get key = some address →
    (state.registry.entries address).refs = state.clients.countP (Phase.refersTo key)
  gated : ∀ key address, state.registry.names.get key = some address →
    ((state.registry.entries address).full = true ↔ .holding key address ∈ state.clients)
  exclusive : Exclusive state.clients

def InUse (state : State Key) : Prop :=
  ∀ key address, state.registry.names.get key = some address →
    0 < state.clients.countP (Phase.refersTo key)

theorem refers_iff (phase : Phase Key) (key : Key) :
    phase.refersTo key = true ↔ ∃ address, phase.claim = some (key, address) := by
  cases phase <;> simp [Phase.refersTo, Phase.claim]

theorem none_refers (state : State Key) (sound : Sound state) (key : Key)
    (absent : state.registry.names.get key = none) :
    state.clients.countP (Phase.refersTo key) = 0 := by
  rw [List.countP_eq_zero]
  intro phase member refers
  obtain ⟨address, claimed⟩ := (refers_iff phase key).mp refers
  have stored := sound.current phase member key address claimed
  rw [absent] at stored
  cases stored

theorem sound_find (state : State Key) (sound : Sound state) (key : Key) :
    Sound ⟨(state.registry.find key).1, state.clients⟩ ∧
      (state.registry.find key).1.names.get key = some (state.registry.find key).2 := by
  obtain ⟨registry, clients⟩ := state
  cases found : registry.names.get key with
  | some address =>
      have same : registry.find key = (registry, address) := by
        rw [Registry.find, found]
      rw [same]
      exact ⟨sound, found⟩
  | none =>
      have made : registry.find key = (⟨registry.names.put key registry.next,
          Function.update registry.entries registry.next ⟨false, 0⟩, registry.next + 1⟩,
          registry.next) := by
        rw [Registry.find, found]
      have older : ∀ other address, registry.names.get other = some address →
          address ≠ registry.next := by
        intro other address stored
        exact Nat.ne_of_lt (sound.bounded other address stored)
      rw [made]
      constructor
      · constructor
        · intro other address stored
          simp only [get_put] at stored
          split_ifs at stored with same
          · cases stored
            exact Nat.lt_succ_self registry.next
          · exact Nat.lt_succ_of_lt (sound.bounded other address stored)
        · intro first second address left right
          simp only [get_put] at left right
          split_ifs at left right with one two two
          · rw [one, two]
          · cases left
            exact absurd rfl (older second registry.next right)
          · cases right
            exact absurd rfl (older first registry.next left)
          · exact sound.separate first second address left right
        · intro phase member other address claimed
          have stored := sound.current phase member other address claimed
          have apart : other ≠ key := by
            intro same
            rw [same, found] at stored
            cases stored
          rw [get_put, if_neg apart]
          exact stored
        · intro other address stored
          simp only [get_put] at stored
          split_ifs at stored with same
          · cases stored
            rw [same, none_refers ⟨registry, clients⟩ sound key found]
            simp
          · have apart := older other address stored
            simp only [Function.update_of_ne apart]
            exact sound.counted other address stored
        · intro other address stored
          simp only [get_put] at stored
          split_ifs at stored with same
          · cases stored
            simp only [Function.update_self, Bool.false_eq_true, false_iff]
            intro member
            have stored := sound.current _ member other registry.next rfl
            rw [same, found] at stored
            cases stored
          · have apart := older other address stored
            simp only [Function.update_of_ne apart]
            exact sound.gated other address stored
        · exact sound.exclusive
      · rw [get_put, if_pos rfl]

/-- What a client's change of phase must keep, where the names stay. -/
theorem sound_set (state : State Key) (sound : Sound state) (client : Nat) (old new : Phase Key)
    (here : state.clients[client]? = some old) (registry : Registry Key)
    (names : registry.names = state.registry.names)
    (next : registry.next = state.registry.next)
    (current : ∀ key address, new.claim = some (key, address) →
      state.registry.names.get key = some address)
    (counted : ∀ key address, state.registry.names.get key = some address →
      (registry.entries address).refs + (if old.refersTo key then 1 else 0) =
        (state.registry.entries address).refs + (if new.refersTo key then 1 else 0))
    (gated : ∀ key address, state.registry.names.get key = some address →
      ((registry.entries address).full = true ↔
        .holding key address ∈ state.clients.set client new))
    (exclusive : Exclusive (state.clients.set client new)) :
    Sound ⟨registry, state.clients.set client new⟩ := by
  constructor
  · simp only [names, next]
    exact sound.bounded
  · simp only [names]
    exact sound.separate
  · intro phase member key address claimed
    simp only [names]
    cases List.mem_or_eq_of_mem_set member with
    | inl member => exact sound.current phase member key address claimed
    | inr same => exact current key address (same ▸ claimed)
  · intro key address stored
    simp only [names] at stored
    have moved := count_set (Phase.refersTo key) state.clients client old new here
    have before := sound.counted key address stored
    have change := counted key address stored
    change (registry.entries address).refs =
      ((state.clients.set client new).countP (Phase.refersTo key) : Int)
    split_ifs at moved change <;> omega
  · intro key address stored
    simp only [names] at stored
    exact gated key address stored
  · exact exclusive

omit [DecidableEq Key] in
theorem exclusive_set (clients : List (Phase Key)) (exclusive : Exclusive clients) (client : Nat)
    (new : Phase Key) (free : ∀ key address, new ≠ .holding key address) :
    Exclusive (clients.set client new) := by
  have before : ∀ (place : Nat) (key : Key) (address : Nat),
      (clients.set client new)[place]? = some (.holding key address) →
      clients[place]? = some (.holding key address) := by
    intro place key address held
    rw [List.getElem?_set] at held
    split_ifs at held with same bound
    · exact absurd (Option.some.inj held) (free key address)
    · exact held
  intro first second key address other left right
  exact exclusive first second key address other (before first key address left)
    (before second key other right)

theorem sound_refer (state : State Key) (sound : Sound state) (client : Nat)
    (here : state.clients[client]? = some .outside) (key : Key) :
    Sound ⟨(state.registry.refer key).1,
      state.clients.set client (.waiting key (state.registry.refer key).2)⟩ := by
  obtain ⟨found, stored⟩ := sound_find state sound key
  apply sound_set _ found client .outside _ here (state.registry.refer key).1 rfl rfl
  · intro other address claimed
    cases claimed
    exact stored
  · intro other address named
    rw [Registry.refer, refs_count]
    by_cases same : other = key
    · rw [same, stored] at named
      cases named
      simp [same, Phase.refersTo, Phase.claim]
    · have apart : address ≠ (state.registry.find key).2 := by
        intro equal
        exact same (found.separate other key address named (equal ▸ stored))
      simp [apart, Ne.symm same, Phase.refersTo, Phase.claim]
  · intro other address named
    rw [Registry.refer, full_count, mem_set_iff _ _ _ _ _ here (by simp) (by simp)]
    exact found.gated other address named
  · exact exclusive_set _ found.exclusive client _ (by simp)

theorem sound_acquire (state : State Key) (sound : Sound state) (client : Nat) (key : Key)
    (address : Nat) (here : state.clients[client]? = some (.waiting key address))
    (free : (state.registry.entries address).full = false) :
    Sound ⟨state.registry.gate address true,
      state.clients.set client (.holding key address)⟩ := by
  have stored := sound.current _ (List.mem_of_getElem? here) key address rfl
  have unheld : ∀ other, Phase.holding key other ∉ state.clients := by
    intro other member
    have again := sound.current _ member key other rfl
    rw [stored] at again
    cases again
    rw [← sound.gated key address stored, free] at member
    cases member
  apply sound_set state sound client _ _ here (state.registry.gate address true) rfl rfl
  · intro other place claimed
    cases claimed
    exact stored
  · intro other place named
    rw [refs_gate]
    rfl
  · intro other place named
    rw [full_gate]
    split_ifs with same
    · have equal := sound.separate other key address (same ▸ named) stored
      rw [same, equal]
      simp only [true_iff]
      have inside : client < state.clients.length := (List.getElem?_eq_some_iff.mp here).1
      exact List.mem_of_getElem? (List.getElem?_set_self inside)
    · rw [mem_set_iff _ _ _ _ _ here (by simp) (by simp [Ne.symm same])]
      exact sound.gated other place named
  · intro first second other left right heldLeft heldRight
    rw [List.getElem?_set] at heldLeft heldRight
    split_ifs at heldLeft heldRight with one _ two _ two
    · exact one.symm.trans two
    · cases heldLeft
      exact absurd (List.mem_of_getElem? heldRight) (unheld right)
    · cases heldRight
      exact absurd (List.mem_of_getElem? heldLeft) (unheld left)
    · exact sound.exclusive first second other left right heldLeft heldRight

theorem sound_abandon (state : State Key) (sound : Sound state) (client : Nat) (key : Key)
    (address : Nat) (here : state.clients[client]? = some (.waiting key address)) :
    Sound ⟨state.registry, state.clients.set client (.leaving key address)⟩ := by
  have stored := sound.current _ (List.mem_of_getElem? here) key address rfl
  apply sound_set state sound client _ _ here state.registry rfl rfl
  · intro other place claimed
    cases claimed
    exact stored
  · intro other place named
    rfl
  · intro other place named
    rw [mem_set_iff _ _ _ _ _ here (by simp) (by simp)]
    exact sound.gated other place named
  · exact exclusive_set _ sound.exclusive client _ (by simp)

theorem sound_unlock (state : State Key) (sound : Sound state) (client : Nat) (key : Key)
    (address : Nat) (here : state.clients[client]? = some (.holding key address)) :
    Sound ⟨state.registry.gate address false,
      state.clients.set client (.leaving key address)⟩ := by
  have stored := sound.current _ (List.mem_of_getElem? here) key address rfl
  apply sound_set state sound client _ _ here (state.registry.gate address false) rfl rfl
  · intro other place claimed
    cases claimed
    exact stored
  · intro other place named
    rw [refs_gate]
    rfl
  · intro other place named
    rw [full_gate]
    split_ifs with same
    · have equal := sound.separate other key address (same ▸ named) stored
      rw [same, equal]
      simp only [false_iff]
      -- another holder of the name would be this client
      intro member
      obtain ⟨second, held⟩ := List.mem_iff_getElem?.mp member
      rw [List.getElem?_set] at held
      split_ifs at held with itself bound
      · cases held
      · exact itself (sound.exclusive client second key address address here held)
    · rw [mem_set_iff _ _ _ _ _ here (by simp [Ne.symm same]) (by simp)]
      exact sound.gated other place named
  · exact exclusive_set _ sound.exclusive client _ (by simp)

theorem sound_forget (state : State Key) (sound : Sound state) (key : Key) (address : Nat)
    (stored : state.registry.names.get key = some address) :
    Sound ⟨state.registry.forget key address, state.clients⟩ := by
  rw [Registry.forget]
  split_ifs with unused
  · have unreferred : state.clients.countP (Phase.refersTo key) = 0 := by
      have counted := sound.counted key address stored
      omega
    have older : ∀ other place, (state.registry.names.erase key).get other = some place →
        state.registry.names.get other = some place := by
      intro other place named
      rw [get_erase] at named
      split_ifs at named
      exact named
    constructor
    · intro other place named
      exact sound.bounded other place (older other place named)
    · intro first second place left right
      exact sound.separate first second place (older first place left) (older second place right)
    · intro phase member other place claimed
      have apart : other ≠ key := by
        intro same
        rw [List.countP_eq_zero] at unreferred
        exact unreferred phase member ((refers_iff phase key).mpr ⟨place, same ▸ claimed⟩)
      rw [get_erase, if_neg apart]
      exact sound.current phase member other place claimed
    · intro other place named
      exact sound.counted other place (older other place named)
    · intro other place named
      exact sound.gated other place (older other place named)
    · exact sound.exclusive
  · exact sound

theorem sound_drop (state : State Key) (sound : Sound state) (client : Nat) (key : Key)
    (address : Nat) (here : state.clients[client]? = some (.leaving key address)) :
    Sound ⟨state.registry.drop key address, state.clients.set client .outside⟩ := by
  have stored := sound.current _ (List.mem_of_getElem? here) key address rfl
  have counted : Sound ⟨state.registry.count address (-1),
      state.clients.set client .outside⟩ := by
    apply sound_set state sound client _ _ here (state.registry.count address (-1)) rfl rfl
    · intro other place claimed
      cases claimed
    · intro other place named
      rw [refs_count]
      by_cases same : other = key
      · rw [same, stored] at named
        cases named
        have referred : (Phase.leaving key address).refersTo key = true := by
          simp [Phase.refersTo, Phase.claim]
        have unreferred : ¬(Phase.outside : Phase Key).refersTo key = true := by
          simp [Phase.refersTo, Phase.claim]
        rw [if_pos rfl, same, if_pos referred, if_neg unreferred]
        omega
      · have apart : place ≠ address := by
          intro equal
          exact same (sound.separate other key place named (equal ▸ stored))
        simp [apart, Ne.symm same, Phase.refersTo, Phase.claim]
    · intro other place named
      rw [full_count, mem_set_iff _ _ _ _ _ here (by simp) (by simp)]
      exact sound.gated other place named
    · exact exclusive_set _ sound.exclusive client _ (by simp)
  exact sound_forget _ counted key address stored

theorem in_use_set (clients : List (Phase Key)) (client : Nat) (old new : Phase Key)
    (here : clients[client]? = some old) (key : Key)
    (same : new.refersTo key = old.refersTo key) :
    (clients.set client new).countP (Phase.refersTo key) =
      clients.countP (Phase.refersTo key) := by
  have moved := count_set (Phase.refersTo key) clients client old new here
  rw [same] at moved
  exact Nat.add_right_cancel moved

theorem in_use_move (state : State Key) (used : InUse state) (client : Nat) (old new : Phase Key)
    (here : state.clients[client]? = some old) (same : new.claim = old.claim)
    (registry : Registry Key) (names : registry.names = state.registry.names) :
    InUse ⟨registry, state.clients.set client new⟩ := by
  intro key address stored
  simp only [names] at stored
  have kept := in_use_set state.clients client old new here key
    (by rw [Phase.refersTo, Phase.refersTo, same])
  change 0 < (state.clients.set client new).countP (Phase.refersTo key)
  rw [kept]
  exact used key address stored

theorem in_use_refer (state : State Key) (used : InUse state) (client : Nat)
    (here : state.clients[client]? = some .outside) (key : Key) :
    InUse ⟨(state.registry.refer key).1,
      state.clients.set client (.waiting key (state.registry.refer key).2)⟩ := by
  intro other address stored
  have before : other ≠ key → state.registry.names.get other = some address := by
    intro apart
    change (state.registry.find key).1.names.get other = some address at stored
    rw [Registry.find] at stored
    cases found : state.registry.names.get key with
    | some _ => simpa only [found] using stored
    | none => simpa only [found, get_put, if_neg apart] using stored
  by_cases same : other = key
  · have inside : client < state.clients.length := (List.getElem?_eq_some_iff.mp here).1
    apply List.countP_pos_iff.mpr
    refine ⟨.waiting key (state.registry.refer key).2, ?_, ?_⟩
    · exact List.mem_of_getElem? (List.getElem?_set_self inside)
    · simp [same, Phase.refersTo, Phase.claim]
  · have positive := used other address (before same)
    change 0 < (state.clients.set client (.waiting key _)).countP (Phase.refersTo other)
    have kept := in_use_set state.clients client .outside
      (.waiting key (state.registry.refer key).2) here other
      (by simp [Phase.refersTo, Phase.claim, Ne.symm same])
    omega

theorem in_use_drop (state : State Key) (sound : Sound state) (used : InUse state) (client : Nat)
    (key : Key) (address : Nat) (here : state.clients[client]? = some (.leaving key address)) :
    InUse ⟨state.registry.drop key address, state.clients.set client .outside⟩ := by
  have after := sound_drop state sound client key address here
  intro other place stored
  by_cases same : other = key
  · -- a name that stays has an entry whose count is not zero
    have counted := after.counted other place stored
    have nonzero : ((state.registry.drop key address).entries place).refs ≠ 0 := by
      have named := sound.current _ (List.mem_of_getElem? here) key address rfl
      intro zero
      rw [Registry.drop, Registry.forget] at zero stored
      split_ifs at zero stored with unused
      · simp only [get_erase, same, if_true, reduceCtorEq] at stored
      · rw [same] at stored
        change state.registry.names.get key = some place at stored
        rw [named] at stored
        cases stored
        exact unused zero
    dsimp only at counted ⊢
    omega
  · have before : state.registry.names.get other = some place := by
      rw [Registry.drop, Registry.forget] at stored
      split_ifs at stored
      · simp only [get_erase, if_neg same] at stored
        exact stored
      · exact stored
    have kept := in_use_set state.clients client (.leaving key address) .outside here other
      (by simp [Phase.refersTo, Phase.claim, Ne.symm same])
    change 0 < (state.clients.set client .outside).countP (Phase.refersTo other)
    rw [kept]
    exact used other place before

end Invariant

section Moves

variable {Key : Type*} [DecidableEq Key]

/-- A client's move, or nothing. -/
theorem step_cases (state : State Key) (event : Nat × Move Key) :
    step state event = state ∨
      ∃ old registry new, state.clients[event.1]? = some old ∧
        advance state.registry old event.2 = some (registry, new) ∧
        step state event = ⟨registry, state.clients.set event.1 new⟩ := by
  cases here : state.clients[event.1]? with
  | none => exact Or.inl (by rw [step, here])
  | some old =>
      cases moved : advance state.registry old event.2 with
      | none => exact Or.inl (by rw [step, here]; simp only [moved])
      | some result =>
          exact Or.inr ⟨old, result.1, result.2, rfl, moved, by rw [step, here]; simp only [moved]⟩

theorem sound_step (state : State Key) (event : Nat × Move Key) (sound : Sound state)
    (used : InUse state) : Sound (step state event) ∧ InUse (step state event) := by
  obtain same | ⟨old, registry, new, here, moved, after⟩ := step_cases state event
  · rw [same]
    exact ⟨sound, used⟩
  · obtain ⟨client, move⟩ := event
    rw [after]
    cases old with
    | outside =>
        cases move with
        | refer key =>
            cases moved
            exact ⟨sound_refer state sound client here key,
              in_use_refer state used client here key⟩
        | acquire | abandon | unlock | drop => cases moved
    | waiting key address =>
        cases move with
        | acquire =>
            rw [advance] at moved
            split_ifs at moved with full
            cases moved
            exact ⟨sound_acquire state sound client key address here (by simpa using full),
              in_use_move state used client _ (.holding key address) here rfl
                (state.registry.gate address true) rfl⟩
        | abandon =>
            cases moved
            exact ⟨sound_abandon state sound client key address here,
              in_use_move state used client _ (.leaving key address) here rfl
                state.registry rfl⟩
        | refer _ | unlock | drop => cases moved
    | holding key address =>
        cases move with
        | unlock =>
            cases moved
            exact ⟨sound_unlock state sound client key address here,
              in_use_move state used client _ (.leaving key address) here rfl
                (state.registry.gate address false) rfl⟩
        | refer _ | acquire | abandon | drop => cases moved
    | leaving key address =>
        cases move with
        | drop =>
            cases moved
            exact ⟨sound_drop state sound client key address here,
              in_use_drop state sound used client key address here⟩
        | refer _ | acquire | abandon | unlock => cases moved

theorem sound_start (clients : List (Phase Key)) (idle : ∀ phase ∈ clients, phase = .outside) :
    Sound (⟨Registry.empty, clients⟩ : State Key) ∧ InUse ⟨Registry.empty, clients⟩ := by
  constructor
  · constructor
    · intro key address stored
      cases stored
    · intro first second address stored
      cases stored
    · intro phase member key address claimed
      rw [idle phase member] at claimed
      cases claimed
    · intro key address stored
      cases stored
    · intro key address stored
      cases stored
    · intro first second key address other held
      cases idle _ (List.mem_of_getElem? held)
  · intro key address stored
    cases stored

theorem run_sound (clients : List (Phase Key)) (idle : ∀ phase ∈ clients, phase = .outside)
    (events : List (Nat × Move Key)) :
    Sound (run step ⟨Registry.empty, clients⟩ events) ∧
      InUse (run step ⟨Registry.empty, clients⟩ events) := by
  apply invariant_of_steps step (fun state => Sound state ∧ InUse state)
  · rintro state event ⟨sound, used⟩
    exact sound_step state event sound used
  · exact sound_start clients idle

/-- A name is in the registry exactly while a client refers to it. -/
theorem named_iff (state : State Key) (sound : Sound state) (used : InUse state) (key : Key) :
    (state.registry.names.get key).isSome = true ↔
      ∃ phase ∈ state.clients, phase.refersTo key = true := by
  constructor
  · intro named
    obtain ⟨address, stored⟩ := Option.isSome_iff_exists.mp named
    exact List.countP_pos_iff.mp (used key address stored)
  · rintro ⟨phase, member, refers⟩
    obtain ⟨address, claimed⟩ := (refers_iff phase key).mp refers
    rw [sound.current phase member key address claimed]
    rfl

/-- A client that waits for a name nobody holds finds the gate empty. -/
theorem gate_empty (state : State Key) (sound : Sound state) (key : Key) (address : Nat)
    (waits : .waiting key address ∈ state.clients)
    (free : ∀ other, .holding key other ∉ state.clients) :
    (state.registry.entries address).full = false := by
  have stored := sound.current _ waits key address rfl
  rw [← Bool.not_eq_true]
  intro full
  exact free address ((sound.gated key address stored).mp full)

end Moves

end KiroProxy.Foundation.NamedLocks
