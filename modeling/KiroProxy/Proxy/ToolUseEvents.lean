import KiroProxy.Foundation.Emissions
import KiroProxy.Foundation.KeyedList
import KiroProxy.JsonText
import KiroProxy.Proxy.KiroTypes
import Mathlib.Data.List.Dedup
import Mathlib.Data.List.Nodup
import Mathlib.Logic.Function.Basic

/-!
# Tool use events

`pendingToolUses`, `handleToolUseEvent` and `finishToolUse` of `proxy/kiro.go`: the fragments
of parallel tool calls are collected by tool use id.
-/

namespace KiroProxy.ToolUseEvents

open Foundation.Emissions Foundation.Emissions.Emission Foundation.KeyedList GoStrings KiroTypes

set_option autoImplicit false

section Fields

/-- The first of the fields that is a string with text. -/
def firstStringField (event : JsonFields) : List GoString → GoString
  | [] => []
  | key :: keys =>
      match event.get key with
      | some (.str text) => if text ≠ [] then text else firstStringField event keys
      | _ => firstStringField event keys

def firstBoolField (event : JsonFields) : List GoString → Bool
  | [] => false
  | key :: keys =>
      match event.get key with
      | some (.bool value) => value
      | _ => firstBoolField event keys

def eventToolUseID (event : JsonFields) : GoString :=
  firstStringField event [lit "toolUseId", lit "toolUseID", lit "tool_use_id", lit "id"]

def eventName (event : JsonFields) : GoString :=
  firstStringField event [lit "name", lit "toolName", lit "tool_name"]

def eventIsStop (event : JsonFields) : Bool :=
  firstBoolField event [lit "stop", lit "isStop", lit "done"]

end Fields

section Pending

structure ToolUseState where
  toolUseID : GoString
  name : GoString
  inputBuffer : GoString
  generatedID : Bool

structure PendingToolUses where
  byID : GoString → Option ToolUseState
  order : List GoString
  lastID : GoString

namespace PendingToolUses

def empty : PendingToolUses := ⟨fun _ => none, [], []⟩

def get (pending : PendingToolUses) (id : GoString) : Option ToolUseState := pending.byID id

/-- The entry of a state that is pending already. -/
def put (pending : PendingToolUses) (state : ToolUseState) : PendingToolUses :=
  { pending with byID := Function.update pending.byID state.toolUseID (some state) }

def add (pending : PendingToolUses) (state : ToolUseState) : PendingToolUses where
  byID := Function.update pending.byID state.toolUseID (some state)
  order := pending.order ++ [state.toolUseID]
  lastID := state.toolUseID

def rekey (pending : PendingToolUses) (state : ToolUseState) (newID : GoString) :
    PendingToolUses where
  byID := Function.update (Function.update pending.byID state.toolUseID none) newID
    (some { state with toolUseID := newID, generatedID := false })
  order := updateFirst (fun id => id == state.toolUseID) (fun _ => newID) pending.order
  lastID := if pending.lastID = state.toolUseID then newID else pending.lastID

def remove (pending : PendingToolUses) (id : GoString) : PendingToolUses where
  byID := Function.update pending.byID id none
  order := pending.order.erase id
  lastID := if pending.lastID = id then [] else pending.lastID

end PendingToolUses

end Pending

section Events

/-- `errIncompleteKiroToolInput` with the name of the tool. -/
structure IncompleteToolInput where
  name : GoString
  deriving DecidableEq

abbrev ToolUseRun (State : Type) := Emission State KiroToolUse IncompleteToolInput

variable (unmarshal : GoString → Option Json)

/-- The arguments a buffer decodes to; none where `json.Unmarshal` into a map fails. -/
def toolInput (inputBuffer : GoString) : Option JsonFields :=
  let raw := trimSpace inputBuffer
  if raw = [] then some []
  else
    match unmarshal raw with
    | some (.obj input) => some input
    | some .null => some []
    | _ => none

/-- `newID` is the id made for a state without one. -/
def finishToolUse (newID : GoString) (pending : PendingToolUses) (state : Option ToolUseState) :
    ToolUseRun PendingToolUses :=
  match state with
  | none => done pending
  | some state =>
      if state.name = [] then done pending
      else
        match toolInput unmarshal state.inputBuffer with
        | none => ⟨pending, [], some ⟨state.name⟩⟩
        | some input =>
            ⟨pending, [⟨if state.toolUseID = [] then newID else state.toolUseID, state.name, input⟩],
              none⟩

/-- What is pending is cleared before the first state is finished. -/
def flushAll (newID : GoString) (pending : PendingToolUses) : ToolUseRun PendingToolUses :=
  emitAll (fun cleared id => finishToolUse unmarshal newID cleared (pending.byID id)) .empty
    pending.order

/-- The synthetic entry that an opening fragment without an id has left. -/
def adopted (pending : PendingToolUses) (name : GoString) : Option ToolUseState :=
  if pending.lastID = [] then none
  else (pending.get pending.lastID).filter fun prev =>
    prev.generatedID && (name == [] || prev.name == name)

/-- The state a fragment with an id belongs to; none where the fragment is ignored. -/
def openByID (pending : PendingToolUses) (toolUseID name : GoString) :
    PendingToolUses × Option ToolUseState :=
  let found :=
    match pending.get toolUseID with
    | some state => (pending, some state)
    | none =>
        match adopted pending name with
        | some prev => (pending.rekey prev toolUseID,
            some { prev with toolUseID := toolUseID, generatedID := false })
        | none => (pending, none)
  match found.2 with
  | none =>
      if name = [] then (pending, none)
      else (pending.add ⟨toolUseID, name, [], false⟩, some ⟨toolUseID, name, [], false⟩)
  | some state =>
      let state := if name ≠ [] && state.name == [] then { state with name := name } else state
      ({ found.1.put state with lastID := state.toolUseID }, some state)

def openToolUse (newID : GoString) (pending : PendingToolUses) (toolUseID name : GoString) :
    ToolUseRun (PendingToolUses × Option ToolUseState) :=
  if toolUseID ≠ [] then done (openByID pending toolUseID name)
  else
    match if pending.lastID = [] then none else pending.get pending.lastID with
    | some state =>
        if name ≠ [] && state.name != name then
          let finished := finishToolUse unmarshal newID pending (some state)
          let opened : ToolUseState := ⟨newID, name, [], true⟩
          match finished.fault with
          | some fault => ⟨(pending, none), finished.outputs, some fault⟩
          | none =>
              ⟨((pending.remove state.toolUseID).add opened, some opened), finished.outputs, none⟩
        else done (pending, some state)
    | none =>
        if name ≠ [] then done (pending.add ⟨newID, name, [], true⟩, some ⟨newID, name, [], true⟩)
        else done (pending, none)

def writeInput (state : ToolUseState) (event : JsonFields) : ToolUseState :=
  match event.get (lit "input") with
  | some (.str input) => { state with inputBuffer := state.inputBuffer ++ input }
  | some (.obj input) => { state with inputBuffer := JsonText.marshal (.obj input) }
  | _ => state

/-- A fragment's input behind its opening. -/
def continueToolUse (newID : GoString) (pending : PendingToolUses) (state : ToolUseState)
    (event : JsonFields) : ToolUseRun PendingToolUses :=
  let state := writeInput state event
  let pending := pending.put state
  if eventIsStop event then
    (finishToolUse unmarshal newID pending (some state)).andThen fun pending =>
      done (pending.remove state.toolUseID)
  else done pending

def handleToolUseEvent (newID : GoString) (pending : PendingToolUses) (event : JsonFields) :
    ToolUseRun PendingToolUses :=
  let opened := openToolUse unmarshal newID pending (eventToolUseID event) (eventName event)
  match opened.fault, opened.state with
  | some fault, (pending, _) => ⟨pending, opened.outputs, some fault⟩
  | none, (pending, none) => ⟨pending, opened.outputs, none⟩
  | none, (pending, some state) =>
      let continued := continueToolUse unmarshal newID pending state event
      ⟨continued.state, opened.outputs ++ continued.outputs, continued.fault⟩

end Events

section Keys

/-- The order lists each key of the map once, and the last id is one of them if any. -/
structure Sound (pending : PendingToolUses) : Prop where
  distinct : pending.order.Nodup
  keys : ∀ id, id ∈ pending.order ↔ (pending.byID id).isSome
  named : ∀ id state, pending.byID id = some state → state.toolUseID = id
  last : pending.lastID = [] ∨ (pending.byID pending.lastID).isSome

theorem empty_sound : Sound .empty := by
  constructor
  · exact List.nodup_nil
  · intro id
    simp [PendingToolUses.empty]
  · intro id state found
    simp [PendingToolUses.empty] at found
  · exact Or.inl rfl

theorem put_sound (pending : PendingToolUses) (sound : Sound pending) (state : ToolUseState)
    (held : (pending.byID state.toolUseID).isSome) : Sound (pending.put state) := by
  have same : ∀ id, ((pending.put state).byID id).isSome = (pending.byID id).isSome := by
    intro id
    by_cases here : id = state.toolUseID
    · rw [here, held]
      simp [PendingToolUses.put]
    · simp [PendingToolUses.put, Function.update_of_ne here]
  constructor
  · exact sound.distinct
  · intro id
    rw [same]
    exact sound.keys id
  · intro id other found
    by_cases here : id = state.toolUseID
    · simp only [PendingToolUses.put, here, Function.update_self, Option.some.injEq] at found
      rw [← found, here]
    · simp only [PendingToolUses.put, Function.update_of_ne here] at found
      exact sound.named id other found
  · rw [same]
    exact sound.last

theorem add_sound (pending : PendingToolUses) (sound : Sound pending) (state : ToolUseState)
    (absent : pending.byID state.toolUseID = none) : Sound (pending.add state) := by
  have fresh : state.toolUseID ∉ pending.order := by
    rw [sound.keys, absent]
    simp
  constructor
  · exact List.Nodup.append sound.distinct (List.nodup_singleton _) (by simpa using fresh)
  · intro id
    simp only [PendingToolUses.add, List.mem_append, List.mem_singleton]
    by_cases here : id = state.toolUseID
    · simp [here]
    · rw [Function.update_of_ne here, sound.keys]
      simp [here]
  · intro id other found
    by_cases here : id = state.toolUseID
    · simp only [PendingToolUses.add, here, Function.update_self, Option.some.injEq] at found
      rw [← found, here]
    · simp only [PendingToolUses.add, Function.update_of_ne here] at found
      exact sound.named id other found
  · right
    simp [PendingToolUses.add]

theorem remove_sound (pending : PendingToolUses) (sound : Sound pending) (id : GoString) :
    Sound (pending.remove id) := by
  constructor
  · exact sound.distinct.erase id
  · intro other
    simp only [PendingToolUses.remove]
    rw [sound.distinct.mem_erase_iff, sound.keys]
    by_cases here : other = id
    · simp [here]
    · simp [here]
  · intro other state found
    by_cases here : other = id
    · simp [PendingToolUses.remove, here] at found
    · simp only [PendingToolUses.remove, Function.update_of_ne here] at found
      exact sound.named other state found
  · simp only [PendingToolUses.remove]
    split_ifs with here
    · exact Or.inl rfl
    · rw [Function.update_of_ne here]
      exact sound.last

theorem mem_rekeyed (oldID newID id : GoString) (order : List GoString) (distinct : order.Nodup)
    (member : oldID ∈ order) (fresh : newID ∉ order) :
    id ∈ updateFirst (fun id => id == oldID) (fun _ => newID) order ↔
      id = newID ∨ (id ∈ order ∧ id ≠ oldID) := by
  induction order with
  | nil => simp at member
  | cons first order ih =>
      rw [List.nodup_cons] at distinct
      rw [updateFirst]
      by_cases here : first = oldID
      · have apart : ∀ other ∈ order, other ≠ oldID := by
          intro other inside same
          rw [here, ← same] at distinct
          exact distinct.1 inside
        rw [if_pos (by simpa using here), List.mem_cons, List.mem_cons, here]
        constructor
        · intro inside
          cases inside with
          | inl new => exact Or.inl new
          | inr old => exact Or.inr ⟨Or.inr old, apart id old⟩
        · intro inside
          cases inside with
          | inl new => exact Or.inl new
          | inr old =>
              cases old.1 with
              | inl same => exact absurd same old.2
              | inr inside => exact Or.inr inside
      · have inside : oldID ∈ order := by
          cases List.mem_cons.mp member with
          | inl same => exact absurd same.symm here
          | inr inside => exact inside
        have rest := ih distinct.2 inside fun new => fresh (List.mem_cons_of_mem _ new)
        rw [if_neg (by simpa using here), List.mem_cons, List.mem_cons, rest]
        constructor
        · intro inside
          cases inside with
          | inl same => exact Or.inr ⟨Or.inl same, same ▸ here⟩
          | inr other =>
              cases other with
              | inl new => exact Or.inl new
              | inr old => exact Or.inr ⟨Or.inr old.1, old.2⟩
        · intro inside
          cases inside with
          | inl new => exact Or.inr (Or.inl new)
          | inr old =>
              cases old.1 with
              | inl same => exact Or.inl same
              | inr inside => exact Or.inr (Or.inr ⟨inside, old.2⟩)

theorem rekeyed_nodup (oldID newID : GoString) (order : List GoString) (distinct : order.Nodup)
    (fresh : newID ∉ order) :
    (updateFirst (fun id => id == oldID) (fun _ => newID) order).Nodup := by
  induction order with
  | nil => exact List.nodup_nil
  | cons first order ih =>
      rw [List.nodup_cons] at distinct
      rw [List.mem_cons, not_or] at fresh
      rw [updateFirst]
      split_ifs
      · exact List.nodup_cons.mpr ⟨fresh.2, distinct.2⟩
      · refine List.nodup_cons.mpr ⟨?_, ih distinct.2 fresh.2⟩
        by_cases member : oldID ∈ order
        · rw [mem_rekeyed oldID newID first order distinct.2 member fresh.2]
          exact fun inside => inside.elim (fun same => fresh.1 same.symm)
            (fun old => distinct.1 old.1)
        · have same : updateFirst (fun id => id == oldID) (fun _ => newID) order = order := by
            apply update_first_absent
            intro id inside
            exact beq_eq_false_iff_ne.mpr fun equal => member (equal ▸ inside)
          rw [same]
          exact distinct.1

theorem rekey_by_id (pending : PendingToolUses) (state : ToolUseState) (newID id : GoString) :
    (pending.rekey state newID).byID id =
      if id = newID then some { state with toolUseID := newID, generatedID := false }
      else if id = state.toolUseID then none
      else pending.byID id := by
  simp only [PendingToolUses.rekey, Function.update_apply]

theorem rekey_sound (pending : PendingToolUses) (sound : Sound pending) (state : ToolUseState)
    (newID : GoString) (held : (pending.byID state.toolUseID).isSome)
    (fresh : pending.byID newID = none) : Sound (pending.rekey state newID) := by
  have inside := (sound.keys state.toolUseID).mpr held
  have absent : newID ∉ pending.order := by
    rw [sound.keys, fresh]
    simp
  have known : ∀ id, ((pending.rekey state newID).byID id).isSome ↔
      id = newID ∨ ((pending.byID id).isSome ∧ id ≠ state.toolUseID) := by
    intro id
    rw [rekey_by_id]
    split_ifs with new old
    · simp [new]
    · have apart : state.toolUseID ≠ newID := old ▸ new
      simp [old, apart]
    · simp [new, old]
  constructor
  · exact rekeyed_nodup _ _ _ sound.distinct absent
  · intro id
    rw [known, ← sound.keys]
    exact mem_rekeyed _ _ _ _ sound.distinct inside absent
  · intro id other found
    rw [rekey_by_id] at found
    split_ifs at found with new old
    · rw [← Option.some.inj found, new]
    · exact sound.named id other found
  · rw [known]
    simp only [PendingToolUses.rekey]
    split_ifs with here
    · exact Or.inr (Or.inl rfl)
    · exact sound.last.imp_right fun some_ => Or.inr ⟨some_, here⟩

theorem last_sound (pending : PendingToolUses) (sound : Sound pending) (id : GoString)
    (held : (pending.byID id).isSome) : Sound { pending with lastID := id } :=
  ⟨sound.distinct, sound.keys, sound.named, Or.inr held⟩

/-- What an opened state is: the pending entry of its id. -/
def Opened (opened : PendingToolUses × Option ToolUseState) : Prop :=
  Sound opened.1 ∧ ∀ state, opened.2 = some state → opened.1.byID state.toolUseID = some state

theorem add_opened (pending : PendingToolUses) (sound : Sound pending) (state : ToolUseState)
    (absent : pending.byID state.toolUseID = none) : Opened (pending.add state, some state) := by
  refine ⟨add_sound pending sound state absent, ?_⟩
  intro other same
  rw [← Option.some.inj same]
  simp [PendingToolUses.add]

theorem put_opened (pending : PendingToolUses) (sound : Sound pending) (state : ToolUseState)
    (held : (pending.byID state.toolUseID).isSome) :
    Opened ({ pending.put state with lastID := state.toolUseID }, some state) := by
  have entry : (pending.put state).byID state.toolUseID = some state := by
    simp [PendingToolUses.put]
  refine ⟨last_sound _ (put_sound pending sound state held) _ (by rw [entry]; rfl), ?_⟩
  intro other same
  rw [← Option.some.inj same]
  exact entry

theorem adopted_held (pending : PendingToolUses) (sound : Sound pending) (name : GoString)
    (prev : ToolUseState) (found : adopted pending name = some prev) :
    pending.byID prev.toolUseID = some prev := by
  unfold adopted at found
  split_ifs at found
  have entry := (Option.filter_eq_some_iff.mp found).1
  have id := sound.named _ prev entry
  rw [id]
  exact entry

theorem open_by_id_sound (pending : PendingToolUses) (sound : Sound pending)
    (toolUseID name : GoString) : Opened (openByID pending toolUseID name) := by
  unfold openByID
  cases entry : pending.get toolUseID with
  | some state =>
      have id := sound.named toolUseID state entry
      simp only
      apply put_opened pending sound
      split_ifs
      · rw [id]
        exact Option.isSome_of_mem entry
      · rw [id]
        exact Option.isSome_of_mem entry
  | none =>
      cases taken : adopted pending name with
      | none =>
          simp only
          split_ifs
          · exact ⟨sound, by simp⟩
          · exact add_opened pending sound ⟨toolUseID, name, [], false⟩ entry
      | some prev =>
          have held := adopted_held pending sound name prev taken
          have keyed := rekey_sound pending sound prev toolUseID (by rw [held]; rfl) entry
          simp only
          apply put_opened _ keyed
          split_ifs <;> simp [PendingToolUses.rekey]

variable (unmarshal : GoString → Option Json)

@[simp] theorem finish_state (newID : GoString) (pending : PendingToolUses)
    (state : Option ToolUseState) :
    (finishToolUse unmarshal newID pending state).state = pending := by
  unfold finishToolUse
  cases state with
  | none => rfl
  | some state =>
      by_cases unnamed : state.name = []
      · simp only [if_pos unnamed]
        rfl
      · simp only [if_neg unnamed]
        split <;> rfl

theorem finish_decoded (newID : GoString) (pending : PendingToolUses) (state : ToolUseState)
    (named : state.name ≠ []) (identified : state.toolUseID ≠ []) (input : JsonFields)
    (decoded : toolInput unmarshal state.inputBuffer = some input) :
    finishToolUse unmarshal newID pending (some state) =
      ⟨pending, [⟨state.toolUseID, state.name, input⟩], none⟩ := by
  simp only [finishToolUse, if_neg named, decoded, if_neg identified]

theorem finish_undecoded (newID : GoString) (pending : PendingToolUses) (state : ToolUseState)
    (named : state.name ≠ []) (undecoded : toolInput unmarshal state.inputBuffer = none) :
    finishToolUse unmarshal newID pending (some state) = ⟨pending, [], some ⟨state.name⟩⟩ := by
  simp only [finishToolUse, if_neg named, undecoded]

theorem open_tool_use_sound (newID : GoString) (pending : PendingToolUses)
    (sound : Sound pending) (toolUseID name : GoString)
    (fresh : toolUseID = [] → pending.byID newID = none) :
    Opened (openToolUse unmarshal newID pending toolUseID name).state := by
  unfold openToolUse
  by_cases named : toolUseID ≠ []
  · rw [if_pos named]
    exact open_by_id_sound pending sound toolUseID name
  · have unused := fresh (not_not.mp named)
    rw [if_neg named]
    cases latest : (if pending.lastID = [] then none else pending.get pending.lastID) with
    | none =>
        simp only
        split_ifs
        · exact add_opened pending sound ⟨newID, name, [], true⟩ unused
        · exact ⟨sound, by simp [done]⟩
    | some state =>
        have held : pending.byID pending.lastID = some state := by
          split_ifs at latest
          exact latest
        simp only
        split_ifs
        · cases (finishToolUse unmarshal newID pending (some state)).fault with
          | some fault => exact ⟨sound, by simp⟩
          | none =>
              apply add_opened _ (remove_sound pending sound state.toolUseID)
              simp [PendingToolUses.remove, Function.update_apply, unused]
        · refine ⟨sound, ?_⟩
          intro other same
          rw [← Option.some.inj same, sound.named _ state held]
          exact held

theorem write_input_id (state : ToolUseState) (event : JsonFields) :
    (writeInput state event).toolUseID = state.toolUseID := by
  unfold writeInput
  split <;> rfl

theorem continue_sound (newID : GoString) (pending : PendingToolUses) (sound : Sound pending)
    (state : ToolUseState) (held : (pending.byID state.toolUseID).isSome) (event : JsonFields) :
    Sound (continueToolUse unmarshal newID pending state event).state := by
  have written := put_sound pending sound (writeInput state event) (by
    rwa [write_input_id])
  unfold continueToolUse
  simp only
  split_ifs
  · cases faulty : (finishToolUse unmarshal newID (pending.put (writeInput state event))
      (some (writeInput state event))).fault with
    | some fault =>
        rw [then_of_fault _ _ fault faulty, finish_state]
        exact written
    | none =>
        rw [then_of_none _ _ faulty, finish_state]
        exact remove_sound _ written _
  · exact written

/-- Every event keeps the keys, whatever it says, as long as a made id is new. -/
theorem handle_sound (newID : GoString) (pending : PendingToolUses) (sound : Sound pending)
    (event : JsonFields) (fresh : eventToolUseID event = [] → pending.byID newID = none) :
    Sound (handleToolUseEvent unmarshal newID pending event).state := by
  have opened := open_tool_use_sound unmarshal newID pending sound (eventToolUseID event)
    (eventName event) fresh
  unfold handleToolUseEvent
  simp only
  split
  · rename_i pair
    rw [pair] at opened
    exact opened.1
  · rename_i pair
    rw [pair] at opened
    exact opened.1
  · rename_i state _ pair
    rw [pair] at opened
    exact continue_sound unmarshal newID _ opened.1 state
      (Option.isSome_of_mem (opened.2 state rfl)) event

end Keys

end KiroProxy.ToolUseEvents
