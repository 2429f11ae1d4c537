import KiroProxy.Proxy.ToolUseEvents

/-!
# Fragments of tool calls

Any interleaving of the fragments of calls with ids of their own is put together again, call
by call.
-/

namespace KiroProxy.ToolUseEvents

open Foundation.Emissions Foundation.Emissions.Emission GoStrings KiroTypes

set_option autoImplicit false

section Calls

/-- An event with the id that is made if it needs one. -/
structure Arrival where
  event : JsonFields
  newID : GoString

namespace Arrival

def id (arrival : Arrival) : GoString := eventToolUseID arrival.event

def name (arrival : Arrival) : GoString := eventName arrival.event

def stops (arrival : Arrival) : Bool := eventIsStop arrival.event

def text (arrival : Arrival) : GoString :=
  match arrival.event.get (lit "input") with
  | some (.str input) => input
  | _ => []

end Arrival

variable (unmarshal : GoString → Option Json)

/-- The events of a stream without what is left pending at its end. -/
def handleAll (events : List Arrival) : ToolUseRun PendingToolUses :=
  emitAll (fun pending arrival =>
    handleToolUseEvent unmarshal arrival.newID pending arrival.event) .empty events

/-- The events of a stream, then what never got a stop. -/
def collectToolUses (newID : GoString) (events : List Arrival) : ToolUseRun PendingToolUses :=
  (handleAll unmarshal events).andThen (flushAll unmarshal newID)

def fragments (id : GoString) (events : List Arrival) : List Arrival :=
  events.filter fun arrival => arrival.id == id

def callName (id : GoString) (events : List Arrival) : GoString :=
  ((fragments id events).head?.map Arrival.name).getD []

def callText (id : GoString) (events : List Arrival) : GoString :=
  (fragments id events).flatMap Arrival.text

def stopped (id : GoString) (events : List Arrival) : Bool :=
  (fragments id events).any Arrival.stops

def callIDs (events : List Arrival) : List GoString := (events.map Arrival.id).dedup

/-- The call that the fragments of an id make. -/
def call (events : List Arrival) (id : GoString) : KiroToolUse :=
  ⟨id, callName id events, (toolInput unmarshal (callText id events)).getD []⟩

/-- Go's nil map and no text at all stand for an object without fields. -/
def IsCallInput (text : GoString) : Prop :=
  trimSpace text = [] ∨ unmarshal (trimSpace text) = some .null ∨
    ∃ input, unmarshal (trimSpace text) = some (.obj input)

theorem call_input_iff (text : GoString) :
    IsCallInput unmarshal text ↔ toolInput unmarshal text ≠ none := by
  unfold IsCallInput toolInput
  by_cases blank : trimSpace text = []
  · simp [blank]
  · simp only [blank, false_or, if_false]
    cases unmarshal (trimSpace text) with
    | none => simp
    | some value => cases value <;> simp

/-- A fragment carries its id and a string, the first of a call its name, and none follows
the stop of its call. -/
structure FragmentAfter (before : List Arrival) (arrival : Arrival) : Prop where
  id : arrival.id ≠ []
  text : ∀ input, arrival.event.get (lit "input") ≠ some (.obj input)
  name : fragments arrival.id before = [] → arrival.name ≠ []
  running : stopped arrival.id before = false

def Fragments (events : List Arrival) : Prop :=
  ∀ earlier arrival later, events = earlier ++ arrival :: later → FragmentAfter earlier arrival

theorem fragments_concat (id : GoString) (before : List Arrival) (arrival : Arrival) :
    fragments id (before ++ [arrival]) =
      if arrival.id = id then fragments id before ++ [arrival] else fragments id before := by
  by_cases own : arrival.id = id
  · simp [fragments, own]
  · simp [fragments, own]

theorem other_concat (id : GoString) (before : List Arrival) (arrival : Arrival)
    (other : arrival.id ≠ id) :
    callName id (before ++ [arrival]) = callName id before ∧
      callText id (before ++ [arrival]) = callText id before ∧
      stopped id (before ++ [arrival]) = stopped id before := by
  unfold callName callText stopped
  rw [fragments_concat, if_neg other]
  exact ⟨rfl, rfl, rfl⟩

theorem own_concat (before : List Arrival) (arrival : Arrival) :
    callText arrival.id (before ++ [arrival]) = callText arrival.id before ++ arrival.text ∧
      stopped arrival.id (before ++ [arrival]) =
        (stopped arrival.id before || arrival.stops) := by
  unfold callText stopped
  rw [fragments_concat, if_pos rfl]
  simp

theorem own_name_first (before : List Arrival) (arrival : Arrival)
    (none : fragments arrival.id before = []) :
    callName arrival.id (before ++ [arrival]) = arrival.name := by
  unfold callName
  rw [fragments_concat, if_pos rfl, none]
  rfl

theorem own_name_later (before : List Arrival) (arrival : Arrival)
    (some_ : fragments arrival.id before ≠ []) :
    callName arrival.id (before ++ [arrival]) = callName arrival.id before := by
  unfold callName
  rw [fragments_concat, if_pos rfl, List.head?_append_of_ne_nil _ some_]

end Calls

section Steps

/-- The entry of a call that is under way. -/
def openState (id : GoString) (events : List Arrival) : ToolUseState :=
  ⟨id, callName id events, callText id events, false⟩

variable (unmarshal : GoString → Option Json)

/-- What is pending and what was emitted, in terms of the fragments so far. -/
structure Tracks (before : List Arrival) (uses : List KiroToolUse) (pending : PendingToolUses) :
    Prop where
  entries : ∀ id, pending.byID id =
    if fragments id before = [] ∨ stopped id before = true then none
    else some (openState id before)
  uses : uses = ((before.filter Arrival.stops).map Arrival.id).map (call unmarshal before)
  once : ((before.filter Arrival.stops).map Arrival.id).Nodup
  named : ∀ arrival ∈ before, callName arrival.id before ≠ []
  decoded : ∀ arrival ∈ before, arrival.stops = true →
    toolInput unmarshal (callText arrival.id before) ≠ none

theorem known_name (before : List Arrival) (uses : List KiroToolUse) (pending : PendingToolUses)
    (tracks : Tracks unmarshal before uses pending) (id : GoString)
    (some_ : fragments id before ≠ []) : callName id before ≠ [] := by
  obtain ⟨earlier, member⟩ := List.exists_mem_of_ne_nil _ some_
  have inside := List.mem_filter.mp member
  have named := tracks.named earlier inside.1
  rwa [beq_iff_eq.mp inside.2] at named

theorem next_name (before : List Arrival) (uses : List KiroToolUse) (pending : PendingToolUses)
    (tracks : Tracks unmarshal before uses pending) (arrival : Arrival)
    (fragment : FragmentAfter before arrival) :
    callName arrival.id (before ++ [arrival]) ≠ [] := by
  by_cases first : fragments arrival.id before = []
  · rw [own_name_first before arrival first]
    exact fragment.name first
  · rw [own_name_later before arrival first]
    exact known_name unmarshal before uses pending tracks arrival.id first

/-- A fragment opens the entry of its call. -/
theorem open_fragment (before : List Arrival) (uses : List KiroToolUse)
    (pending : PendingToolUses) (tracks : Tracks unmarshal before uses pending)
    (arrival : Arrival) (fragment : FragmentAfter before arrival) :
    ∃ opened, openByID pending arrival.id arrival.name =
        (opened, some ⟨arrival.id, callName arrival.id (before ++ [arrival]),
          callText arrival.id before, false⟩) ∧
      ∀ id, id ≠ arrival.id → opened.byID id = pending.byID id := by
  have entry := tracks.entries arrival.id
  by_cases first : fragments arrival.id before = []
  · rw [if_pos (Or.inl first)] at entry
    have taken : adopted pending arrival.name = none := by
      unfold adopted
      split_ifs
      · rfl
      · rw [Option.filter_eq_none_iff]
        intro prev found
        have known := tracks.entries pending.lastID
        rw [PendingToolUses.get, known] at found
        split_ifs at found
        rw [← Option.some.inj found]
        simp [openState]
    have text : callText arrival.id before = [] := by
      rw [callText, first]
      rfl
    rw [openByID, PendingToolUses.get, entry, taken, own_name_first before arrival first, text]
    simp only [if_neg (fragment.name first)]
    refine ⟨_, rfl, ?_⟩
    intro id apart
    exact Function.update_of_ne apart _ _
  · have running : ¬(fragments arrival.id before = [] ∨ stopped arrival.id before = true) := by
      simp [first, fragment.running]
    rw [if_neg running] at entry
    have known := known_name unmarshal before uses pending tracks arrival.id first
    rw [openByID, PendingToolUses.get, entry, own_name_later before arrival first]
    have kept : ¬(arrival.name ≠ [] && (openState arrival.id before).name == []) = true := by
      simp [openState, known]
    simp only [if_neg kept]
    refine ⟨_, rfl, ?_⟩
    intro id apart
    exact Function.update_of_ne apart _ _

theorem write_fragment (before : List Arrival) (arrival : Arrival)
    (fragment : FragmentAfter before arrival) :
    writeInput ⟨arrival.id, callName arrival.id (before ++ [arrival]),
        callText arrival.id before, false⟩ arrival.event =
      openState arrival.id (before ++ [arrival]) := by
  have text : (writeInput ⟨arrival.id, callName arrival.id (before ++ [arrival]),
      callText arrival.id before, false⟩ arrival.event) =
        ⟨arrival.id, callName arrival.id (before ++ [arrival]),
          callText arrival.id before ++ arrival.text, false⟩ := by
    unfold writeInput Arrival.text
    split
    · rename_i input held
      rw [held]
    · rename_i input held
      exact absurd held (fragment.text input)
    · rename_i others _
      split
      · rename_i input held
        exact absurd held (others input)
      · rw [List.append_nil]
  rw [text, openState, (own_concat before arrival).1]

/-- A fragment is written to the entry of its call, and the last one finishes it. -/
theorem handle_written (before : List Arrival) (uses : List KiroToolUse)
    (pending : PendingToolUses) (tracks : Tracks unmarshal before uses pending)
    (arrival : Arrival) (fragment : FragmentAfter before arrival) :
    ∃ written : PendingToolUses,
      handleToolUseEvent unmarshal arrival.newID pending arrival.event =
        (if arrival.stops then
          (finishToolUse unmarshal arrival.newID written
            (some (openState arrival.id (before ++ [arrival])))).andThen fun pending =>
              done (pending.remove arrival.id)
        else done written) ∧
      ∀ id, written.byID id =
        if id = arrival.id then some (openState arrival.id (before ++ [arrival]))
        else pending.byID id := by
  obtain ⟨opened, opens, others⟩ := open_fragment unmarshal before uses pending tracks arrival
    fragment
  refine ⟨opened.put (openState arrival.id (before ++ [arrival])), ?_, ?_⟩
  · have given : eventToolUseID arrival.event ≠ [] := fragment.id
    have continued : handleToolUseEvent unmarshal arrival.newID pending arrival.event =
        continueToolUse unmarshal arrival.newID opened ⟨arrival.id,
          callName arrival.id (before ++ [arrival]), callText arrival.id before, false⟩
          arrival.event := by
      unfold handleToolUseEvent openToolUse
      rw [if_pos given]
      change openByID pending (eventToolUseID arrival.event) (eventName arrival.event) = _ at opens
      rw [opens]
      rfl
    rw [continued, continueToolUse, write_fragment before arrival fragment]
    rfl
  · intro id
    simp only [PendingToolUses.put, Function.update_apply, openState]
    split_ifs with own
    · rfl
    · exact others id own

/-- The last fragment of a call emits it. -/
theorem handle_fragment (before : List Arrival) (uses : List KiroToolUse)
    (pending : PendingToolUses) (tracks : Tracks unmarshal before uses pending)
    (arrival : Arrival) (fragment : FragmentAfter before arrival)
    (decodes : arrival.stops = true →
      toolInput unmarshal (callText arrival.id (before ++ [arrival])) ≠ none) :
    (handleToolUseEvent unmarshal arrival.newID pending arrival.event).fault = none ∧
      (handleToolUseEvent unmarshal arrival.newID pending arrival.event).outputs =
        (if arrival.stops then [call unmarshal (before ++ [arrival]) arrival.id] else []) ∧
      ∀ id, (handleToolUseEvent unmarshal arrival.newID pending arrival.event).state.byID id =
        if id = arrival.id then
          if arrival.stops then none else some (openState arrival.id (before ++ [arrival]))
        else pending.byID id := by
  obtain ⟨written, handled, entry⟩ := handle_written unmarshal before uses pending tracks arrival
    fragment
  rw [handled]
  by_cases stops : arrival.stops = true
  case neg =>
      simp only [if_neg stops]
      exact ⟨rfl, rfl, entry⟩
  case pos =>
      have named : (openState arrival.id (before ++ [arrival])).name ≠ [] :=
        next_name unmarshal before uses pending tracks arrival fragment
      obtain ⟨input, decoded⟩ := Option.ne_none_iff_exists'.mp (decodes stops)
      have finished : finishToolUse unmarshal arrival.newID written
          (some (openState arrival.id (before ++ [arrival]))) =
          ⟨written, [call unmarshal (before ++ [arrival]) arrival.id], none⟩ := by
        rw [finish_decoded unmarshal arrival.newID _ _ named fragment.id input decoded, call,
          decoded]
        rfl
      simp only [finished, if_pos stops, andThen, done, List.append_nil]
      refine ⟨trivial, trivial, ?_⟩
      intro id
      change Function.update written.byID arrival.id none id = _
      rw [Function.update_apply, entry]
      split_ifs <;> rfl

theorem handle_undecoded (before : List Arrival) (uses : List KiroToolUse)
    (pending : PendingToolUses) (tracks : Tracks unmarshal before uses pending)
    (arrival : Arrival) (fragment : FragmentAfter before arrival) (stops : arrival.stops = true)
    (undecoded : toolInput unmarshal (callText arrival.id (before ++ [arrival])) = none) :
    (handleToolUseEvent unmarshal arrival.newID pending arrival.event).fault ≠ none := by
  obtain ⟨written, handled, _⟩ := handle_written unmarshal before uses pending tracks arrival
    fragment
  have named : (openState arrival.id (before ++ [arrival])).name ≠ [] :=
    next_name unmarshal before uses pending tracks arrival fragment
  rw [handled, if_pos stops, finish_undecoded unmarshal arrival.newID _ _ named undecoded]
  exact Option.some_ne_none _

theorem filter_stops_concat (before : List Arrival) (arrival : Arrival) :
    ((before ++ [arrival]).filter Arrival.stops).map Arrival.id =
      (before.filter Arrival.stops).map Arrival.id ++
        if arrival.stops then [arrival.id] else [] := by
  rw [List.filter_append, List.map_append]
  congr 1
  cases stops : arrival.stops <;> simp [stops]

theorem stopped_iff (id : GoString) (events : List Arrival) :
    stopped id events = true ↔ id ∈ (events.filter Arrival.stops).map Arrival.id := by
  simp only [stopped, fragments, List.any_eq_true, List.mem_filter, List.mem_map, beq_iff_eq]
  constructor
  · intro ⟨arrival, ⟨member, own⟩, stops⟩
    exact ⟨arrival, ⟨member, stops⟩, own⟩
  · intro ⟨arrival, ⟨member, stops⟩, own⟩
    exact ⟨arrival, ⟨member, own⟩, stops⟩

theorem fragment_tracked (before : List Arrival) (uses : List KiroToolUse)
    (pending : PendingToolUses) (arrival : Arrival)
    (tracks : Tracks unmarshal before uses pending)
    (fragment : FragmentAfter before arrival ∧ (arrival.stops = true →
      toolInput unmarshal (callText arrival.id (before ++ [arrival])) ≠ none)) :
    (handleToolUseEvent unmarshal arrival.newID pending arrival.event).fault = none ∧
      Tracks unmarshal (before ++ [arrival])
        (uses ++ (handleToolUseEvent unmarshal arrival.newID pending arrival.event).outputs)
        (handleToolUseEvent unmarshal arrival.newID pending arrival.event).state := by
  obtain ⟨clean, outputs, entries⟩ := handle_fragment unmarshal before uses pending tracks arrival
    fragment.1 fragment.2
  have unstopped : arrival.id ∉ (before.filter Arrival.stops).map Arrival.id := by
    rw [← stopped_iff, fragment.1.running]
    exact Bool.false_ne_true
  have kept : ∀ id, id ≠ arrival.id → call unmarshal (before ++ [arrival]) id =
      call unmarshal before id := by
    intro id apart
    have same := other_concat id before arrival (Ne.symm apart)
    rw [call, call, same.1, same.2.1]
  refine ⟨clean, ?_, ?_, ?_, ?_, ?_⟩
  · intro id
    rw [entries]
    by_cases own : id = arrival.id
    · have present : fragments arrival.id (before ++ [arrival]) ≠ [] := by
        rw [fragments_concat, if_pos rfl]
        simp
      rw [if_pos own, own, (own_concat before arrival).2, fragment.1.running, Bool.false_or]
      simp only [present, false_or]
    · have same := other_concat id before arrival (Ne.symm own)
      rw [if_neg own, tracks.entries id, same.2.2, fragments_concat, if_neg (Ne.symm own),
        openState, openState, same.1, same.2.1]
  · rw [outputs, filter_stops_concat, List.map_append, tracks.uses]
    congr 1
    · apply List.map_congr_left
      intro id member
      exact (kept id fun own => unstopped (own ▸ member)).symm
    · split_ifs <;> rfl
  · rw [filter_stops_concat]
    split_ifs
    · exact List.Nodup.append tracks.once (List.nodup_singleton _) (by simpa using unstopped)
    · rw [List.append_nil]
      exact tracks.once
  · intro other member
    by_cases own : other.id = arrival.id
    · rw [own]
      exact next_name unmarshal before uses pending tracks arrival fragment.1
    · rw [(other_concat other.id before arrival (Ne.symm own)).1]
      cases List.mem_append.mp member with
      | inl earlier => exact tracks.named other earlier
      | inr last => exact absurd (congrArg Arrival.id (List.mem_singleton.mp last)) own
  · intro other member stops
    by_cases own : other.id = arrival.id
    · cases List.mem_append.mp member with
      | inl earlier =>
          have inside : arrival.id ∈ (before.filter Arrival.stops).map Arrival.id :=
            List.mem_map.mpr ⟨other, List.mem_filter.mpr ⟨earlier, stops⟩, own⟩
          exact absurd inside unstopped
      | inr last =>
          rw [List.mem_singleton.mp last] at stops ⊢
          exact fragment.2 stops
    · rw [(other_concat other.id before arrival (Ne.symm own)).2.1]
      cases List.mem_append.mp member with
      | inl earlier => exact tracks.decoded other earlier stops
      | inr last => exact absurd (congrArg Arrival.id (List.mem_singleton.mp last)) own

end Steps

section Streams

variable (unmarshal : GoString → Option Json)

theorem nothing_tracked : Tracks unmarshal [] [] .empty := by
  constructor
  · intro id
    simp [fragments, PendingToolUses.empty]
  · rfl
  · exact List.nodup_nil
  · intro arrival member
    simp at member
  · intro arrival member
    simp at member

/-- The text of a call is complete when its stop comes. -/
theorem text_settled (events : List Arrival) (wellFormed : Fragments events)
    (earlier later : List Arrival) (arrival : Arrival) (stops : arrival.stops = true)
    (split : events = earlier ++ arrival :: later) :
    callText arrival.id (earlier ++ [arrival]) = callText arrival.id events := by
  have none : fragments arrival.id later = [] := by
    rw [fragments, List.filter_eq_nil_iff]
    intro other member own
    obtain ⟨between, behind, place⟩ := List.append_of_mem member
    have after := wellFormed (earlier ++ arrival :: between) other behind (by
      rw [split, place, List.append_assoc]
      rfl)
    have running := after.running
    rw [beq_iff_eq.mp own, Bool.eq_false_iff, ne_eq, stopped_iff] at running
    apply running
    exact List.mem_map.mpr ⟨arrival, List.mem_filter.mpr ⟨by simp, stops⟩, rfl⟩
  have whole : fragments arrival.id events =
      fragments arrival.id (earlier ++ [arrival]) ++ fragments arrival.id later := by
    rw [split, fragments, fragments, fragments, ← List.filter_append, List.append_assoc]
    rfl
  rw [callText, callText, whole, none, List.append_nil]

theorem handled_tracks (events : List Arrival) (wellFormed : Fragments events)
    (clean : (handleAll unmarshal events).fault = none) :
    Tracks unmarshal events (handleAll unmarshal events).outputs
      (handleAll unmarshal events).state := by
  have tracked := emit_all_tracks
    (fun (pending : PendingToolUses) (arrival : Arrival) =>
      handleToolUseEvent unmarshal arrival.newID pending arrival.event)
    (Tracks unmarshal) FragmentAfter
    (by
      intro before uses pending arrival tracks fragment fine
      apply (fragment_tracked unmarshal before uses pending arrival tracks ⟨fragment, ?_⟩).2
      intro stops undecoded
      exact handle_undecoded unmarshal before uses pending tracks arrival fragment stops
        undecoded fine)
    events [] [] .empty (nothing_tracked unmarshal) wellFormed clean
  rwa [List.nil_append, List.nil_append] at tracked

theorem handled_sound (events : List Arrival) (wellFormed : Fragments events) :
    Sound (handleAll unmarshal events).state := by
  apply emit_all_keeps _ Sound (fun arrival => arrival.id ≠ [])
  · intro pending arrival sound identified
    apply handle_sound unmarshal arrival.newID pending sound
    intro unnamed
    exact absurd unnamed identified
  · exact empty_sound
  · intro arrival member
    obtain ⟨earlier, later, place⟩ := List.append_of_mem member
    exact (wellFormed earlier arrival later place).id

/-- Where every text decodes, no event faults. -/
theorem handled_clean (events : List Arrival) (wellFormed : Fragments events)
    (decodes : ∀ id ∈ callIDs events, toolInput unmarshal (callText id events) ≠ none) :
    (handleAll unmarshal events).fault = none := by
  apply emit_all_clean _ (Tracks unmarshal)
    (fun before arrival => FragmentAfter before arrival ∧ (arrival.stops = true →
      toolInput unmarshal (callText arrival.id (before ++ [arrival])) ≠ none))
    (fun before uses pending arrival tracks fragment =>
      fragment_tracked unmarshal before uses pending arrival tracks fragment)
    events [] [] _ (nothing_tracked unmarshal)
  intro earlier arrival later place
  refine ⟨wellFormed earlier arrival later place, ?_⟩
  intro stops
  rw [List.nil_append, text_settled events wellFormed earlier later arrival stops place]
  apply decodes
  rw [callIDs, List.mem_dedup, place]
  simp

theorem collected_sound (newID : GoString) (events : List Arrival)
    (wellFormed : Fragments events) :
    Sound (collectToolUses unmarshal newID events).state := by
  rw [collectToolUses]
  cases faulty : (handleAll unmarshal events).fault with
  | some fault =>
      rw [then_of_fault _ _ fault faulty]
      exact handled_sound unmarshal events wellFormed
  | none =>
      rw [then_of_none _ _ faulty]
      apply emit_all_keeps _ Sound (fun _ => True)
      · intro cleared id sound _
        rw [finish_state]
        exact sound
      · exact empty_sound
      · exact fun _ _ => trivial

theorem flush_tracked (newID : GoString) (events : List Arrival) (uses : List KiroToolUse)
    (pending : PendingToolUses) (tracks : Tracks unmarshal events uses pending)
    (sound : Sound pending) (identified : ∀ arrival ∈ events, arrival.id ≠ []) :
    ((flushAll unmarshal newID pending).fault = none ↔
        ∀ id ∈ pending.order, toolInput unmarshal (callText id events) ≠ none) ∧
      ((flushAll unmarshal newID pending).fault = none →
        (flushAll unmarshal newID pending).outputs = pending.order.map (call unmarshal events)) := by
  have still := emit_all_still
    (fun cleared id => finishToolUse unmarshal newID cleared (pending.byID id)) .empty
    (fun id => finish_state unmarshal newID _ _) pending.order
  have entry : ∀ id ∈ pending.order, pending.byID id = some (openState id events) ∧
      callName id events ≠ [] ∧ id ≠ [] := by
    intro id member
    have held := (sound.keys id).mp member
    have known := tracks.entries id
    split_ifs at known with gone
    · rw [known] at held
      exact absurd held Bool.false_ne_true
    · rw [not_or] at gone
      refine ⟨known, known_name unmarshal events uses pending tracks id gone.1, ?_⟩
      obtain ⟨arrival, inside⟩ := List.exists_mem_of_ne_nil _ gone.1
      have own := List.mem_filter.mp inside
      rw [← beq_iff_eq.mp own.2]
      exact identified arrival own.1
  have each : ∀ id ∈ pending.order,
      ((finishToolUse unmarshal newID .empty (pending.byID id)).fault = none ↔
        toolInput unmarshal (callText id events) ≠ none) ∧
      ((finishToolUse unmarshal newID .empty (pending.byID id)).fault = none →
        (finishToolUse unmarshal newID .empty (pending.byID id)).outputs =
          [call unmarshal events id]) := by
    intro id member
    obtain ⟨known, named, some_⟩ := entry id member
    rw [known]
    cases decoded : toolInput unmarshal (callText id events) with
    | none =>
        rw [finish_undecoded unmarshal newID _ (openState id events) named decoded]
        simp
    | some input =>
        rw [finish_decoded unmarshal newID _ (openState id events) named some_ input decoded, call,
          decoded]
        simp [openState]
  refine ⟨?_, ?_⟩
  · rw [flushAll, still.1]
    exact forall₂_congr fun id member => (each id member).1
  · intro clean
    have fine := still.1.mp clean
    have single : pending.order.map (call unmarshal events) =
        pending.order.flatMap fun id => [call unmarshal events id] := List.map_eq_flatMap
    rw [flushAll, still.2 clean, single]
    apply List.flatMap_congr
    intro id member
    exact (each id member).2 (fine id member)

/-- The calls that got a stop and those still pending are all the calls. -/
theorem calls_split (events : List Arrival) (uses : List KiroToolUse)
    (pending : PendingToolUses) (tracks : Tracks unmarshal events uses pending)
    (sound : Sound pending) :
    ((events.filter Arrival.stops).map Arrival.id ++ pending.order).Perm (callIDs events) := by
  have waiting : ∀ id, id ∈ pending.order ↔
      fragments id events ≠ [] ∧ stopped id events ≠ true := by
    intro id
    rw [sound.keys, tracks.entries]
    split_ifs with gone
    · simpa using fun present => gone.resolve_left present
    · simpa [not_or] using gone
  have present : ∀ id, id ∈ callIDs events ↔ fragments id events ≠ [] := by
    intro id
    simp only [callIDs, List.mem_dedup, List.mem_map, fragments, ne_eq, List.filter_eq_nil_iff,
      beq_iff_eq, not_forall, not_not, exists_prop]
  have apart : ∀ id ∈ (events.filter Arrival.stops).map Arrival.id, id ∉ pending.order := by
    intro id over_ member
    exact ((waiting id).mp member).2 ((stopped_iff id events).mpr over_)
  have listed : (callIDs events).Nodup := List.nodup_dedup _
  apply (List.perm_ext_iff_of_nodup
    (List.Nodup.append tracks.once sound.distinct apart) listed).mpr
  intro id
  rw [List.mem_append, ← stopped_iff, waiting, present]
  constructor
  · intro either
    cases either with
    | inr pending => exact pending.1
    | inl over_ =>
        intro none
        rw [stopped, none] at over_
        exact Bool.false_ne_true over_
  · intro some_
    by_cases over_ : stopped id events = true
    · exact Or.inl over_
    · exact Or.inr ⟨some_, over_⟩

end Streams

section Reassembly

variable (unmarshal : GoString → Option Json)

/-- Every interleaving of fragments gives each call once, with its name and the object of its
own text, and fails exactly where a text is none. -/
theorem fragments_reassembled (newID : GoString) (events : List Arrival)
    (wellFormed : Fragments events) :
    ((collectToolUses unmarshal newID events).fault = none ↔
        ∀ id ∈ callIDs events, IsCallInput unmarshal (callText id events)) ∧
      ((collectToolUses unmarshal newID events).fault = none →
        (collectToolUses unmarshal newID events).outputs.Perm
          ((callIDs events).map (call unmarshal events))) ∧
      (∀ earlier later, events = earlier ++ later → Sound (handleAll unmarshal earlier).state) ∧
      Sound (collectToolUses unmarshal newID events).state := by
  have identified : ∀ arrival ∈ events, arrival.id ≠ [] := by
    intro arrival member
    obtain ⟨earlier, later, place⟩ := List.append_of_mem member
    exact (wellFormed earlier arrival later place).id
  have sound := handled_sound unmarshal events wellFormed
  refine ⟨?_, ?_, ?_, collected_sound unmarshal newID events wellFormed⟩
  · simp only [call_input_iff]
    constructor
    · intro clean
      have parts := parts_clean _ _ clean
      have tracks := handled_tracks unmarshal events wellFormed parts.1
      have flushed := (flush_tracked unmarshal newID events _ _ tracks sound identified).1.mp
        parts.2
      intro id member
      rw [← (calls_split unmarshal events _ _ tracks sound).mem_iff, List.mem_append] at member
      cases member with
      | inr waiting => exact flushed id waiting
      | inl over_ =>
          obtain ⟨arrival, inside, own⟩ := List.mem_map.mp over_
          have stops := List.mem_filter.mp inside
          rw [← own]
          exact tracks.decoded arrival stops.1 stops.2
    · intro decodes
      have clean := handled_clean unmarshal events wellFormed decodes
      have tracks := handled_tracks unmarshal events wellFormed clean
      rw [collectToolUses, then_of_none _ _ clean]
      apply (flush_tracked unmarshal newID events _ _ tracks sound identified).1.mpr
      intro id waiting
      apply decodes
      rw [← (calls_split unmarshal events _ _ tracks sound).mem_iff]
      exact List.mem_append_right _ waiting
  · intro clean
    have parts := parts_clean _ _ clean
    have tracks := handled_tracks unmarshal events wellFormed parts.1
    have flushed := (flush_tracked unmarshal newID events _ _ tracks sound identified).2 parts.2
    rw [collectToolUses, then_of_none _ _ parts.1, flushed, tracks.uses, ← List.map_append]
    exact (calls_split unmarshal events _ _ tracks sound).map _
  · intro earlier later split
    apply handled_sound
    intro before arrival behind place
    apply wellFormed before arrival (behind ++ later)
    rw [split, place, List.append_assoc]
    rfl

/-- A fragment of a call, and whether it is the last. -/
def fragment (id name input : GoString) (stop : Bool) : Arrival where
  event := [(lit "toolUseId", .str id), (lit "name", .str name), (lit "input", .str input),
    (lit "stop", .bool stop)]
  newID := []

def interleaved : List Arrival :=
  [fragment (lit "t1") (lit "read") (lit "\x7b") false,
    fragment (lit "t2") (lit "list") [] false,
    fragment (lit "t1") (lit "read") (lit "\x7d") true]

def emptyObject (raw : GoString) : Option Json :=
  if raw = lit "\x7b\x7d" then some (.obj []) else none

theorem fragments_snoc (before : List Arrival) (arrival : Arrival) (wellFormed : Fragments before)
    (last : FragmentAfter before arrival) : Fragments (before ++ [arrival]) := by
  intro earlier other later place
  cases List.eq_nil_or_concat later with
  | inl none =>
      rw [none] at place
      have ends := List.append_inj' place rfl
      rw [← ends.1, ← List.singleton_injective ends.2]
      exact last
  | inr some_ =>
      obtain ⟨between, final, split⟩ := some_
      have whole : before ++ [arrival] = (earlier ++ other :: between) ++ [final] := by
        rw [place, split, List.concat_eq_append, List.append_assoc]
        rfl
      exact wellFormed earlier other between (List.append_inj' whole rfl).1

theorem fragment_after (before : List Arrival) (id name input : GoString) (stop : Bool)
    (identified : id ≠ []) (named : name ≠ []) (running : stopped id before = false) :
    FragmentAfter before (fragment id name input stop) := by
  have idField : (fragment id name input stop).event.get (lit "toolUseId") = some (.str id) := rfl
  have nameField : (fragment id name input stop).event.get (lit "name") = some (.str name) := rfl
  have inputField : (fragment id name input stop).event.get (lit "input") = some (.str input) :=
    rfl
  have own : (fragment id name input stop).id = id := by
    rw [Arrival.id, eventToolUseID, firstStringField, idField]
    exact if_pos identified
  have known : (fragment id name input stop).name = name := by
    rw [Arrival.name, eventName, firstStringField, nameField]
    exact if_pos named
  constructor
  · rwa [own]
  · intro object
    rw [inputField]
    exact fun same => Json.noConfusion (Option.some.inj same)
  · rw [known]
    exact fun _ => named
  · rwa [own]

theorem interleaved_reassembled :
    ((collectToolUses emptyObject [] interleaved).fault = none ↔
        ∀ id ∈ callIDs interleaved, IsCallInput emptyObject (callText id interleaved)) ∧
      ((collectToolUses emptyObject [] interleaved).fault = none →
        (collectToolUses emptyObject [] interleaved).outputs.Perm
          ((callIDs interleaved).map (call emptyObject interleaved))) ∧
      (∀ earlier later, interleaved = earlier ++ later →
        Sound (handleAll emptyObject earlier).state) ∧
      Sound (collectToolUses emptyObject [] interleaved).state := by
  apply fragments_reassembled
  have none : Fragments [] := by
    intro earlier arrival later place
    simp at place
  have first := fragments_snoc [] _ none (fragment_after [] (lit "t1") (lit "read")
    (lit "\x7b") false (by decide) (by decide) rfl)
  have second := fragments_snoc _ _ first (fragment_after _ (lit "t2") (lit "list")
    [] false (by decide) (by decide) (by decide))
  exact fragments_snoc _ _ second (fragment_after _ (lit "t1") (lit "read")
    (lit "\x7d") true (by decide) (by decide) (by decide))

/-- A call without input is emitted, although no text is no JSON object. -/
theorem blank_call_emitted :
    (collectToolUses emptyObject [] [fragment (lit "t1") (lit "list") [] true]).fault = none ∧
      emptyObject (callText (lit "t1") [fragment (lit "t1") (lit "list") [] true]) = none := by
  decide +kernel

end Reassembly

end KiroProxy.ToolUseEvents
