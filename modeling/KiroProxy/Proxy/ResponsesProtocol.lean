import KiroProxy.Proxy.ResponsesStream

/-!
# The item protocol of the Responses stream

The rules a Responses client reads the events by: one item is open at a time, its deltas make up
its text, and the items that are done make up the output. Whatever the callbacks are, a stream
that succeeds keeps to them.
-/

namespace KiroProxy.Responses

open ClaudeUsage EventStream GoStrings KiroTypes RequestHandling
open ThinkingScanner (allowReasoningSource allowTagSource)
open ThinkingSplitter

set_option autoImplicit false

section Protocol

def AddedItem.id : AddedItem → GoString
  | .text _ id => id
  | .tool item => item.id

/-- The item that an announced one is done as. -/
def AddedItem.filled (text : GoString) : AddedItem → OutputItem
  | .text kind id => .text kind id text
  | .tool item => .tool (item.withText text)

/-- An announced item and the deltas it has got. -/
structure OpenItem where
  index : Int
  item : AddedItem
  deltas : GoString

/-- What a client knows: whether the response began, the open item and the items that are done. -/
structure Protocol where
  started : Bool
  open_ : Option OpenItem
  done : List OutputItem

def Protocol.initial : Protocol := ⟨false, none, []⟩

/-- An event that a client may get. Items are announced in order, one at a time. -/
inductive Accepts : Protocol → ResponsesEvent → Protocol → Prop where
  | created (state : Protocol) (idle : state.started = false) :
      Accepts state .created { state with started := true }
  | added (state : Protocol) (item : AddedItem) (started : state.started = true)
      (free : state.open_ = none) :
      Accepts state (.outputItemAdded state.done.length item)
        { state with open_ := some ⟨state.done.length, item, []⟩ }
  | partAdded (state : Protocol) (opened : OpenItem) (known : state.open_ = some opened) :
      Accepts state (.partAdded opened.item.id opened.index) state
  | delta (state : Protocol) (opened : OpenItem) (known : state.open_ = some opened)
      (text : GoString) :
      Accepts state (.delta opened.item.id opened.index text)
        { state with open_ := some { opened with deltas := opened.deltas ++ text } }
  | textDone (state : Protocol) (opened : OpenItem) (known : state.open_ = some opened) :
      Accepts state (.textDone opened.item.id opened.index opened.deltas) state
  | partDone (state : Protocol) (opened : OpenItem) (known : state.open_ = some opened) :
      Accepts state (.partDone opened.item.id opened.index opened.deltas) state
  | itemDone (state : Protocol) (opened : OpenItem) (known : state.open_ = some opened) :
      Accepts state (.outputItemDone opened.index (some (opened.item.filled opened.deltas)))
        { state with
          open_ := none
          done := state.done ++ [opened.item.filled opened.deltas] }

/-- The events up to here are accepted one by one. -/
inductive Reads : List ResponsesEvent → Protocol → Prop where
  | start : Reads [] .initial
  | event (events : List ResponsesEvent) (event : ResponsesEvent) (before after : Protocol)
      (reads : Reads events before) (accepts : Accepts before event after) :
      Reads (events ++ [event]) after

end Protocol

section Indices

/-- The indices that are announced, in order. -/
def addedIndices (events : List ResponsesEvent) : List Int :=
  events.filterMap fun
    | .outputItemAdded index _ => some index
    | _ => none

/-- The items that are done, with their indices, in order. -/
def doneItems (events : List ResponsesEvent) : List (Int × Option OutputItem) :=
  events.filterMap fun
    | .outputItemDone index item => some (index, item)
    | _ => none

/-- The first indices. -/
def indices (count : Nat) : List Int := (List.range count).map fun index : Nat => (index : Int)

def indexed (items : List OutputItem) : List (Int × Option OutputItem) :=
  items.mapIdx fun index item => ((index : Int), some item)

theorem indices_succ (count : Nat) : indices (count + 1) = indices count ++ [(count : Int)] := by
  rw [indices, List.range_succ, List.map_append]
  rfl

theorem indexed_append (items : List OutputItem) (item : OutputItem) :
    indexed (items ++ [item]) = indexed items ++ [((items.length : Int), some item)] := by
  rw [indexed, List.mapIdx_append]
  simp [indexed]

/-- Every index is announced once, in order from 0, and done once, with its item. -/
structure Numbered (events : List ResponsesEvent) (state : Protocol) : Prop where
  added : addedIndices events =
    indices (state.done.length + if state.open_.isSome then 1 else 0)
  done : doneItems events = indexed state.done
  open_ : ∀ opened ∈ state.open_, opened.index = state.done.length

theorem numbered (events : List ResponsesEvent) (state : Protocol) (reads : Reads events state) :
    Numbered events state := by
  induction reads with
  | start => exact ⟨rfl, rfl, fun opened member => absurd member (Option.not_mem_none opened)⟩
  | event events event before after reads accepts ih =>
      obtain ⟨added, done, known⟩ := ih
      have addedBy (other : addedIndices [event] = []) :
          addedIndices (events ++ [event]) = addedIndices events := by
        unfold addedIndices at *
        rw [List.filterMap_append, other, List.append_nil]
      have doneBy (other : doneItems [event] = []) :
          doneItems (events ++ [event]) = doneItems events := by
        unfold doneItems at *
        rw [List.filterMap_append, other, List.append_nil]
      cases accepts with
      | created idle =>
          exact ⟨(addedBy rfl).trans added, (doneBy rfl).trans done, known⟩
      | added item started free =>
          refine ⟨?_, (doneBy rfl).trans done, ?_⟩
          · unfold addedIndices at *
            rw [List.filterMap_append, added, free]
            exact (indices_succ _).symm
          · rintro opened ⟨⟩
            rfl
      | partAdded opened => exact ⟨(addedBy rfl).trans added, (doneBy rfl).trans done, known⟩
      | delta opened open_ text =>
          refine ⟨?_, (doneBy rfl).trans done, ?_⟩
          · rw [addedBy rfl, added, open_]
            rfl
          · rintro other ⟨⟩
            exact known opened open_
      | textDone opened => exact ⟨(addedBy rfl).trans added, (doneBy rfl).trans done, known⟩
      | partDone opened => exact ⟨(addedBy rfl).trans added, (doneBy rfl).trans done, known⟩
      | itemDone opened open_ =>
          refine ⟨?_, ?_, fun other member => absurd member (Option.not_mem_none other)⟩
          · rw [addedBy rfl, added, open_, List.length_append]
            rfl
          · rw [indexed_append, ← done, ← known opened open_]
            unfold doneItems
            rw [List.filterMap_append]
            rfl

end Indices

section Tracks

variable {Credit : Type} (stream : ResponsesStream Credit)

namespace ResponsesStream

@[simp] theorem track_with (kind : ItemKind) (track : TextTrack) :
    (stream.withTrack kind track).track kind = track := by
  cases kind <;> rfl

theorem track_with_other (kind other : ItemKind) (different : other ≠ kind) (track : TextTrack) :
    (stream.withTrack kind track).track other = stream.track other := by
  cases kind <;> cases other <;> first | rfl | exact absurd rfl different

@[simp] theorem with_track_sent (kind : ItemKind) (track : TextTrack) :
    (stream.withTrack kind track).sent = stream.sent := by
  cases kind <;> rfl

@[simp] theorem with_track_started (kind : ItemKind) (track : TextTrack) :
    (stream.withTrack kind track).started = stream.started := by
  cases kind <;> rfl

@[simp] theorem with_track_items (kind : ItemKind) (track : TextTrack) :
    (stream.withTrack kind track).outputItems = stream.outputItems := by
  cases kind <;> rfl

@[simp] theorem with_track_next (kind : ItemKind) (track : TextTrack) :
    (stream.withTrack kind track).nextOutputIndex = stream.nextOutputIndex := by
  cases kind <;> rfl

@[simp] theorem with_track_tools (kind : ItemKind) (track : TextTrack) :
    (stream.withTrack kind track).toolUses = stream.toolUses := by
  cases kind <;> rfl

/-- The hole of an item, or the place behind the last one, is written. -/
theorem reserve_items (front rest : List (Option OutputItem)) (index : Int) (item : OutputItem)
    (items : stream.outputItems = front ++ rest) (last : rest.length ≤ 1)
    (at_ : index = front.length) :
    (stream.reserveOutputItem index item).outputItems = front ++ [some item] := by
  have position : index.toNat = front.length := by rw [at_, Int.toNat_natCast]
  unfold reserveOutputItem
  simp only [items, position]
  match rest, last with
  | [], _ =>
      have one : (index + 1 - ((front ++ []).length : Nat)).toNat = 1 := by
        rw [at_, List.append_nil]
        omega
      rw [one, List.append_nil, List.set_append_right _ _ (Nat.le_refl _), Nat.sub_self]
      rfl
  | [hole], _ =>
      have none_ : (index + 1 - ((front ++ [hole]).length : Nat)).toNat = 0 := by
        rw [at_, List.length_append, List.length_singleton]
        omega
      rw [none_, List.replicate_zero, List.append_nil,
        List.set_append_right _ _ (Nat.le_refl _), Nat.sub_self]
      rfl

theorem output_item_last (front : List (Option OutputItem)) (index : Int) (item : OutputItem)
    (items : stream.outputItems = front ++ [some item]) (at_ : index = front.length) :
    stream.outputItem index = some item := by
  have position : index.toNat = front.length := by rw [at_, Int.toNat_natCast]
  rw [outputItem, items, position, List.getElem?_append_right (Nat.le_refl _), Nat.sub_self]
  rfl

def openItem (kind : ItemKind) : OpenItem where
  index := (stream.track kind).outputIndex
  item := .text kind (stream.track kind).itemID
  deltas := (stream.track kind).text

end ResponsesStream

end Tracks

section Invariant

def OutputItem.isTool : OutputItem → Bool
  | .tool _ => true
  | .text _ _ _ => false

def OutputItem.isText (kind : ItemKind) : OutputItem → Bool
  | .tool _ => false
  | .text other _ _ => decide (other = kind)

def OutputItem.textOf (kind : ItemKind) : OutputItem → GoString
  | .tool _ => []
  | .text other _ content => if other = kind then content else []

/-- The texts of the items of a kind, one behind the other. -/
def textsOf (kind : ItemKind) (items : List OutputItem) : GoString :=
  items.flatMap (OutputItem.textOf kind)

variable {Credit : Type}

/-- What the state of a kind of text says of the items that are done. `ahead` is text that is
collected and not sent yet. -/
structure TrackFollows (track : TextTrack) (kind : ItemKind) (done : List OutputItem)
    (active : Bool) (ahead : GoString) : Prop where
  isOpen : (track.added && !track.done) = active
  index : active = true → track.outputIndex = done.length
  fresh : track.added = false → track.text = [] ∧ track.done = false
  builder : track.builder = textsOf kind done ++ (if active then track.text else []) ++ ahead
  shown : track.added = (done.any (OutputItem.isText kind) || active)

/-- A stream whose client has read the items that are done, with the kind of the open item. -/
structure Follows (stream : ResponsesStream Credit) (done : List OutputItem)
    (active : Option ItemKind) (ahead : ItemKind → GoString) : Prop where
  reads : Reads stream.sent ⟨stream.started, active.map stream.openItem, done⟩
  tracks : ∀ kind,
    TrackFollows (stream.track kind) kind done (decide (active = some kind)) (ahead kind)
  items : ∃ reserved, stream.outputItems = done.map some ++ reserved ∧
    reserved.length = if active.isSome then 1 else 0
  next : stream.nextOutputIndex = stream.outputItems.length
  tools : stream.toolUses.isEmpty = !done.any OutputItem.isTool

def nothingAhead : ItemKind → GoString := fun _ => []

theorem texts_append (kind : ItemKind) (items : List OutputItem) (item : OutputItem) :
    textsOf kind (items ++ [item]) = textsOf kind items ++ item.textOf kind := by
  unfold textsOf
  rw [List.flatMap_append, List.flatMap_singleton]

/-- An item that is of another kind. -/
def OutputItem.Foreign (kind : ItemKind) (item : OutputItem) : Prop :=
  item.isText kind = false ∧ item.textOf kind = []

theorem text_foreign (kind other : ItemKind) (different : other ≠ kind) (id text : GoString) :
    (OutputItem.text other id text).Foreign kind :=
  ⟨decide_eq_false different, if_neg different⟩

theorem foreign_follows (track : TextTrack) (kind : ItemKind) (done : List OutputItem)
    (ahead : GoString) (item : OutputItem) (foreign : item.Foreign kind)
    (follows : TrackFollows track kind done false ahead) :
    TrackFollows track kind (done ++ [item]) false ahead where
  isOpen := follows.isOpen
  index := fun active => absurd active Bool.false_ne_true
  fresh := follows.fresh
  builder := by
    rw [texts_append, foreign.2, List.append_nil]
    exact follows.builder
  shown := by
    rw [List.any_append, List.any_cons, foreign.1, List.any_nil, Bool.or_false]
    exact follows.shown

variable {stream : ResponsesStream Credit} {done : List OutputItem} {active : Option ItemKind}
  {ahead : ItemKind → GoString}

/-- The state of a kind that is not the open one. -/
theorem closed_track (follows : Follows stream done active ahead) (kind : ItemKind)
    (closed : active ≠ some kind) :
    TrackFollows (stream.track kind) kind done false (ahead kind) := by
  have track := follows.tracks kind
  rwa [decide_eq_false closed] at track

theorem open_track (kind : ItemKind) (follows : Follows stream done (some kind) ahead) :
    TrackFollows (stream.track kind) kind done true (ahead kind) := by
  have track := follows.tracks kind
  rwa [decide_eq_true rfl] at track

/-- A stream that differs in nothing that the client reads. -/
theorem follows_same (follows : Follows stream done active ahead) (next : ResponsesStream Credit)
    (tracks : next.track = stream.track) (toolUses : next.toolUses = stream.toolUses)
    (started : next.started = stream.started)
    (index : next.nextOutputIndex = stream.nextOutputIndex)
    (items : next.outputItems = stream.outputItems) (sent : next.sent = stream.sent) :
    Follows next done active ahead := by
  have opened : next.openItem = stream.openItem := by
    funext kind
    unfold ResponsesStream.openItem
    rw [tracks]
  constructor
  · rw [sent, started, opened]
    exact follows.reads
  · rw [tracks]
    exact follows.tracks
  · rw [items]
    exact follows.items
  · rw [index, items]
    exact follows.next
  · rw [toolUses]
    exact follows.tools

theorem started_follows (follows : Follows stream done active ahead) :
    Follows stream.ensureStarted done active ahead ∧ stream.ensureStarted.started = true := by
  unfold ResponsesStream.ensureStarted
  split_ifs with started
  · exact ⟨follows, started⟩
  · refine ⟨{ follows with reads := ?_ }, rfl⟩
    have idle := Bool.eq_false_iff.mpr started
    exact .event stream.sent .created _ _ follows.reads (.created _ idle)

theorem finish_idle (kind : ItemKind)
    (closed : TrackFollows (stream.track kind) kind done false (ahead kind)) :
    stream.finish kind = stream := by
  have isOpen := closed.isOpen
  unfold ResponsesStream.finish
  apply if_pos
  cases added : (stream.track kind).added with
  | false => rfl
  | true =>
      rw [added, Bool.true_and, Bool.not_eq_false'] at isOpen
      rw [isOpen]
      rfl

/-- The item is written in its place and read from there. -/
theorem written_item (front rest : List (Option OutputItem)) (index : Int) (item : OutputItem)
    (items : stream.outputItems = front ++ rest) (last : rest.length ≤ 1)
    (at_ : index = front.length) :
    (stream.reserveOutputItem index item).outputItem index = some item :=
  ResponsesStream.output_item_last _ front index item
    (stream.reserve_items front rest index item items last at_) at_

theorem finish_closes (kind : ItemKind) (follows : Follows stream done (some kind) ahead) :
    Follows (stream.finish kind)
      (done ++ [.text kind (stream.track kind).itemID (stream.track kind).text]) none ahead ∧
    (stream.finish kind).started = stream.started := by
  have opened := open_track kind follows
  obtain ⟨reserved, items, one⟩ := follows.items
  let track := stream.track kind
  let item : OutputItem := .text kind track.itemID track.text
  let closed := stream.withTrack kind { track with done := true }
  have added : track.added = true ∧ track.done = false := by
    have isOpen := opened.isOpen
    rwa [Bool.and_eq_true, Bool.not_eq_true'] at isOpen
  have at_ : track.outputIndex = ((done.map some).length : Nat) := by
    rw [List.length_map]
    exact opened.index rfl
  have items_ : closed.outputItems = done.map some ++ reserved :=
    (stream.with_track_items kind _).trans items
  have finished : stream.finish kind = (closed.reserveOutputItem track.outputIndex item).send
      [.textDone track.itemID track.outputIndex track.text,
        .partDone track.itemID track.outputIndex track.text,
        .outputItemDone track.outputIndex (some item)] := by
    rw [← written_item (done.map some) reserved track.outputIndex item items_ (Nat.le_of_eq one)
      at_]
    unfold ResponsesStream.finish
    apply if_neg
    rw [added.1, added.2]
    exact Bool.false_ne_true
  have written := closed.reserve_items (done.map some) reserved track.outputIndex item items_
    (Nat.le_of_eq one) at_
  rw [finished]
  refine ⟨⟨?_, ?_, ⟨[], ?_, rfl⟩, ?_, ?_⟩, stream.with_track_started kind _⟩
  · have reads := follows.reads
    have first := Reads.event _ _ _ _ reads (.textDone _ (stream.openItem kind) rfl)
    have second := Reads.event _ _ _ _ first (.partDone _ (stream.openItem kind) rfl)
    have third := Reads.event _ _ _ _ second (.itemDone _ (stream.openItem kind) rfl)
    rw [List.append_assoc, List.append_assoc] at third
    change Reads (closed.sent ++ _) ⟨closed.started, none, done ++ [item]⟩
    rw [ResponsesStream.with_track_sent, ResponsesStream.with_track_started]
    exact third
  · intro other
    by_cases same : other = kind
    · subst same
      change TrackFollows (closed.track other) other _ false _
      rw [ResponsesStream.track_with]
      constructor
      · exact Bool.and_false _
      · exact fun active => absurd active Bool.false_ne_true
      · exact fun missing => absurd (added.1.symm.trans missing) Bool.noConfusion
      · have builder := opened.builder
        rw [texts_append]
        simpa [OutputItem.textOf] using builder
      · rw [added.1, List.any_append]
        simp [OutputItem.isText]
    · have other_ := closed_track follows other (fun active => same (Option.some.inj active).symm)
      change TrackFollows (closed.track other) other _ false _
      rw [stream.track_with_other kind other same]
      exact foreign_follows _ other done _ item
        (text_foreign other kind (fun equal => same equal.symm) _ _) other_
  · rw [List.map_append, List.append_nil]
    exact written
  · change closed.nextOutputIndex = ((closed.reserveOutputItem _ _).outputItems.length : Int)
    have before := congrArg List.length items
    rw [List.length_append, List.length_map, one] at before
    rw [ResponsesStream.with_track_next, follows.next, before, written, List.length_append,
      List.length_map]
    rfl
  · have tools := follows.tools
    rw [List.any_append]
    change closed.toolUses.isEmpty = _
    rw [ResponsesStream.with_track_tools, tools]
    simp [OutputItem.isTool]

/-- Finishing a kind leaves none of it open. -/
theorem finish_follows (kind : ItemKind) (follows : Follows stream done active ahead) :
    ∃ done', Follows (stream.finish kind) done' (if active = some kind then none else active)
      ahead ∧ (stream.finish kind).started = stream.started := by
  split_ifs with opened
  · subst opened
    exact ⟨_, finish_closes kind follows⟩
  · rw [finish_idle kind (closed_track follows kind opened)]
    exact ⟨done, follows, rfl⟩

end Invariant

section Opening

variable {Credit : Type} (options : ResponsesOptions Credit) {stream : ResponsesStream Credit}
  {done : List OutputItem} {active : Option ItemKind} {ahead : ItemKind → GoString}

def TextTrack.opened (track : TextTrack) (id : GoString) (index : Int) : TextTrack :=
  { track with itemID := id, added := true, done := false, outputIndex := index, text := [] }

/-- The stream with a new open item. -/
def ResponsesStream.opening (stream : ResponsesStream Credit) (kind : ItemKind) (id : GoString)
    (ids : Nat) : ResponsesStream Credit :=
  { stream.withTrack kind ((stream.track kind).opened id stream.nextOutputIndex) with
    ids := ids
    nextOutputIndex := stream.nextOutputIndex + 1 }

/-- A kind that is not open is announced with an empty text, under its first id or a new one. -/
theorem announce_fresh (kind : ItemKind) (text : GoString)
    (closed : TrackFollows (stream.track kind) kind done false text) :
    ∃ id ids, (stream.freshTrack options kind).announce kind =
      ((stream.opening kind id ids).reserveOutputItem stream.nextOutputIndex
        (.text kind id [])).send
        [.outputItemAdded stream.nextOutputIndex (.text kind id),
          .partAdded id stream.nextOutputIndex] := by
  cases ended : (stream.track kind).done with
  | true =>
      refine ⟨kind.idPrefix ++ options.newID stream.ids, stream.ids + 1, ?_⟩
      unfold ResponsesStream.freshTrack ResponsesStream.announce ResponsesStream.opening
      rw [if_pos ended]
      cases kind <;> rfl
  | false =>
      have isOpen := closed.isOpen
      rw [ended, Bool.not_false, Bool.and_true] at isOpen
      have empty := (closed.fresh isOpen).1
      refine ⟨(stream.track kind).itemID, stream.ids, ?_⟩
      unfold ResponsesStream.freshTrack ResponsesStream.announce ResponsesStream.opening
        TextTrack.opened
      rw [if_neg (Bool.eq_false_iff.mp ended), ← empty, ← ended]
      cases kind <;> rfl

theorem opening_follows (kind : ItemKind) (id : GoString) (ids : Nat)
    (started : stream.started = true) (follows : Follows stream done none ahead) :
    Follows (((stream.opening kind id ids).reserveOutputItem stream.nextOutputIndex
        (.text kind id [])).send
        [.outputItemAdded stream.nextOutputIndex (.text kind id),
          .partAdded id stream.nextOutputIndex]) done (some kind) ahead := by
  obtain ⟨reserved, items, none_⟩ := follows.items
  have empty : reserved = [] := List.eq_nil_of_length_eq_zero none_
  have count : stream.outputItems.length = done.length := by
    rw [items, empty, List.append_nil, List.length_map]
  have index : stream.nextOutputIndex = done.length := by
    rw [follows.next, count]
  have opened : (stream.opening kind id ids).track kind =
      (stream.track kind).opened id stream.nextOutputIndex := by
    cases kind <;> rfl
  have written := (stream.opening kind id ids).reserve_items (done.map some) []
    stream.nextOutputIndex (.text kind id [])
    ((stream.with_track_items kind _).trans (items.trans (by rw [empty]))) (Nat.zero_le 1)
    (by rw [index, List.length_map])
  refine ⟨?_, ?_, ⟨[some (.text kind id [])], written, rfl⟩, ?_, ?_⟩
  · have reads := follows.reads
    rw [started] at reads
    have first := Reads.event _ _ _ _ reads (.added _ (.text kind id) rfl rfl)
    have second := Reads.event _ _ _ _ first
      (.partAdded _ ⟨done.length, .text kind id, []⟩ rfl)
    rw [List.append_assoc] at second
    have item : (stream.opening kind id ids).openItem kind =
        ⟨done.length, .text kind id, []⟩ := by
      unfold ResponsesStream.openItem
      rw [opened, ← index]
      rfl
    change Reads ((stream.opening kind id ids).sent ++ _)
      ⟨(stream.opening kind id ids).started,
        some ((stream.opening kind id ids).openItem kind), done⟩
    rw [item, index]
    change Reads ((stream.withTrack kind _).sent ++ _) ⟨(stream.withTrack kind _).started, _, _⟩
    rw [ResponsesStream.with_track_sent, ResponsesStream.with_track_started, started]
    exact second
  · intro other
    have before := closed_track follows other (Option.some_ne_none other).symm
    by_cases same : other = kind
    · subst same
      change TrackFollows ((stream.opening other id ids).track other) other done _ _
      rw [opened, decide_eq_true rfl]
      exact ⟨rfl, fun _ => index, fun missing => absurd missing Bool.noConfusion,
        before.builder, (Bool.or_true _).symm⟩
    · change TrackFollows ((stream.withTrack kind _).track other) other done _ _
      rw [stream.track_with_other kind other same,
        decide_eq_false fun equal => same (Option.some.inj equal).symm]
      exact before
  · change stream.nextOutputIndex + 1 =
      (((stream.opening kind id ids).reserveOutputItem _ _).outputItems.length : Int)
    rw [written, List.length_append, List.length_map, index]
    rfl
  · change (stream.withTrack kind _).toolUses.isEmpty = _
    rw [ResponsesStream.with_track_tools]
    exact follows.tools

/-- Opening a kind while no other is open. -/
theorem ensure_added_follows (kind : ItemKind) (follows : Follows stream done active ahead)
    (free : active = none ∨ active = some kind) :
    Follows (stream.ensureAdded options kind) done (some kind) ahead ∧
      (stream.ensureAdded options kind).started = true := by
  obtain ⟨first, started⟩ := started_follows follows
  unfold ResponsesStream.ensureAdded
  cases free with
  | inl free =>
      subst free
      have closed := closed_track first kind (Option.some_ne_none kind).symm
      obtain ⟨id, ids, announced⟩ := announce_fresh options kind (ahead kind) closed
      simp only [closed.isOpen, Bool.false_eq_true, if_false]
      rw [announced]
      exact ⟨opening_follows kind id ids started first,
        (stream.ensureStarted.with_track_started kind _).trans started⟩
  | inr free =>
      subst free
      simp only [(open_track kind first).isOpen, if_true]
      exact ⟨first, started⟩

/-- Text of one kind that is collected and not sent. -/
def collected (kind : ItemKind) (text : GoString) : ItemKind → GoString :=
  fun other => if other = kind then text else []

theorem collect_follows (kind : ItemKind) (text : GoString)
    (follows : Follows stream done active nothingAhead) :
    Follows (stream.withTrack kind
      { stream.track kind with saw := true, builder := (stream.track kind).builder ++ text }) done
      active (collected kind text) := by
  have opened (other : ItemKind) : (stream.withTrack kind
      { stream.track kind with
        saw := true
        builder := (stream.track kind).builder ++ text }).openItem other =
        stream.openItem other := by
    cases kind <;> cases other <;> rfl
  constructor
  · rw [ResponsesStream.with_track_sent, ResponsesStream.with_track_started]
    have reads := follows.reads
    rwa [← Option.map_congr (g := stream.openItem) fun other _ => opened other] at reads
  · intro other
    have before := follows.tracks other
    unfold collected
    by_cases same : other = kind
    · subst same
      rw [ResponsesStream.track_with, if_pos rfl]
      refine ⟨before.isOpen, before.index, before.fresh, ?_, before.shown⟩
      have builder := before.builder
      unfold nothingAhead at builder
      rw [List.append_nil] at builder
      rw [← builder]
    · rw [stream.track_with_other kind other same, if_neg same]
      exact before
  · rw [ResponsesStream.with_track_items]
    exact follows.items
  · rw [ResponsesStream.with_track_next, ResponsesStream.with_track_items]
    exact follows.next
  · rw [ResponsesStream.with_track_tools]
    exact follows.tools

theorem write_delta_follows (kind : ItemKind) (text : GoString)
    (follows : Follows stream done (some kind) (collected kind text)) :
    Follows (stream.writeDelta kind text) done (some kind) nothingAhead := by
  unfold ResponsesStream.writeDelta
  simp only
  constructor
  · have reads := Reads.event _ _ _ _ follows.reads (.delta _ (stream.openItem kind) rfl text)
    change Reads ((stream.withTrack kind _).sent ++ _)
      ⟨(stream.withTrack kind _).started, some ((stream.withTrack kind _).openItem kind), done⟩
    rw [ResponsesStream.with_track_sent, ResponsesStream.with_track_started]
    unfold ResponsesStream.openItem at reads ⊢
    rw [ResponsesStream.track_with]
    exact reads
  · intro other
    have before := follows.tracks other
    by_cases same : other = kind
    · subst same
      change TrackFollows ((stream.withTrack other _).track other) other done _ _
      rw [ResponsesStream.track_with]
      have isOpen := open_track other follows
      have added : (stream.track other).added = true := by
        have both := isOpen.isOpen
        exact (Bool.and_eq_true_iff.mp both).1
      refine ⟨before.isOpen, before.index, ?_, ?_, before.shown⟩
      · exact fun missing => absurd (added.symm.trans missing) Bool.noConfusion
      · have builder := before.builder
        simpa [collected, nothingAhead] using builder
    · change TrackFollows ((stream.withTrack kind _).track other) other done _ _
      have nothing : collected kind text other = [] := if_neg same
      rw [stream.track_with_other kind other same]
      rwa [nothing] at before
  · change ∃ reserved, (stream.withTrack kind _).outputItems = _ ∧ _
    rw [ResponsesStream.with_track_items]
    exact follows.items
  · change (stream.withTrack kind _).nextOutputIndex =
      ((stream.withTrack kind _).outputItems.length : Int)
    rw [ResponsesStream.with_track_next, ResponsesStream.with_track_items]
    exact follows.next
  · change (stream.withTrack kind _).toolUses.isEmpty = _
    rw [ResponsesStream.with_track_tools]
    exact follows.tools

end Opening

section Emitting

variable {Credit : Type} (options : ResponsesOptions Credit) {stream : ResponsesStream Credit}
  {begun : Bool}

/-- What a callback keeps: the client follows, and a response that began has begun. -/
def Sound (begun : Bool) (stream : ResponsesStream Credit) : Prop :=
  ∃ done active, Follows stream done active nothingAhead ∧
    (begun = true → stream.started = true)

theorem sound_same (sound : Sound begun stream) (next : ResponsesStream Credit)
    (tracks : next.track = stream.track) (toolUses : next.toolUses = stream.toolUses)
    (started : next.started = stream.started)
    (index : next.nextOutputIndex = stream.nextOutputIndex)
    (items : next.outputItems = stream.outputItems) (sent : next.sent = stream.sent) :
    Sound begun next := by
  obtain ⟨done, active, follows, keeps⟩ := sound
  refine ⟨done, active, follows_same follows next tracks toolUses started index items sent, ?_⟩
  rw [started]
  exact keeps

theorem ensure_started_sound (sound : Sound begun stream) : Sound true stream.ensureStarted := by
  obtain ⟨done, active, follows, -⟩ := sound
  obtain ⟨first, started⟩ := started_follows follows
  exact ⟨done, active, first, fun _ => started⟩

/-- Text that is kept closes the item of the other kind and goes out in one of its own. -/
theorem shown_delta_sound (kind : ItemKind) (text : GoString) (sound : Sound begun stream) :
    Sound begun ((((stream.withTrack kind
      { stream.track kind with
        saw := true
        builder := (stream.track kind).builder ++ text }).finish kind.other).ensureAdded options
      kind).writeDelta kind text) := by
  obtain ⟨done, active, follows, -⟩ := sound
  obtain ⟨done, closed, -⟩ := finish_follows kind.other (collect_follows kind text follows)
  have free : (if active = some kind.other then none else active) = none ∨
      (if active = some kind.other then none else active) = some kind := by
    cases kind <;> rcases active with _ | ⟨_ | _⟩ <;> decide
  obtain ⟨opened, started⟩ := ensure_added_follows options kind closed free
  refine ⟨done, some kind, write_delta_follows kind text opened, fun _ => ?_⟩
  exact (ResponsesStream.with_track_started _ kind _).trans started

theorem emit_delta_sound (kind : ItemKind) (text : GoString) (sound : Sound begun stream) :
    Sound begun (stream.emitDelta options kind text) := by
  unfold ResponsesStream.emitDelta
  simp only
  generalize (if (stream.track kind).saw then text else trimLeft leadingSpace text) = text
  split_ifs with blank
  · exact sound
  · exact shown_delta_sound options kind text sound

theorem emit_tag_thinking_sound (text : GoString) (sound : Sound begun stream) :
    Sound begun (stream.emitTagThinking options text) := by
  unfold ResponsesStream.emitTagThinking
  split_ifs with skipped
  · exact sound
  · have same := sound_same sound
      { stream with thinkingSource := (allowTagSource stream.thinkingSource).2 } rfl rfl rfl rfl
      rfl rfl
    simp only
    split_ifs with allowed
    · exact emit_delta_sound options .reasoning text same
    · exact same

theorem emit_splits_sound (splits : List (Split UInt8)) (sound : Sound begun stream) :
    Sound begun (stream.emitSplits options splits) := by
  unfold ResponsesStream.emitSplits
  induction splits generalizing stream with
  | nil => exact sound
  | cons split splits ih =>
      refine ih ?_
      beta_reduce
      split_ifs with inBlock
      · exact emit_tag_thinking_sound options split.text sound
      · exact emit_delta_sound options .message split.text sound

theorem flush_text_sound (sound : Sound begun stream) :
    Sound begun (stream.flushText options) :=
  emit_splits_sound options _ (sound_same sound _ rfl rfl rfl rfl rfl rfl)

theorem on_text_sound (text : GoString) (isThinking : Bool) (sound : Sound begun stream) :
    Sound begun (stream.onText options text isThinking) := by
  unfold ResponsesStream.onText ResponsesStream.pushText
  split_ifs with empty thinking skipped
  · exact sound
  · exact sound
  · have same := sound_same sound
      { stream with thinkingSource := (allowReasoningSource stream.thinkingSource).2 } rfl rfl rfl
      rfl rfl rfl
    simp only
    split_ifs with allowed
    · exact emit_delta_sound options .reasoning text same
    · exact same
  · exact emit_splits_sound options _ (sound_same sound _ rfl rfl rfl rfl rfl rfl)

/-- No item is open after both kinds are finished. -/
theorem finishes_follow (sound : Sound begun stream) :
    ∃ done, Follows (stream.finishReasoning).finishMessage done none nothingAhead ∧
      (begun = true → (stream.finishReasoning).finishMessage.started = true) := by
  obtain ⟨done, active, follows, keeps⟩ := sound
  obtain ⟨done, reasoned, same⟩ := finish_follows .reasoning follows
  obtain ⟨done, messaged, same_⟩ := finish_follows .message reasoned
  have idle : (if (if active = some ItemKind.reasoning then none else active) =
      some ItemKind.message then none
      else if active = some ItemKind.reasoning then none else active) = none := by
    rcases active with _ | ⟨_ | _⟩ <;> rfl
  rw [idle] at messaged
  refine ⟨done, messaged, fun begun_ => ?_⟩
  exact same_.trans (same.trans (keeps begun_))

theorem with_text_fills (item : ToolOutputItem) (text : GoString)
    (whole : item.content.deltaText = some text) : (item.withText []).withText text = item := by
  obtain ⟨id, name, namespace_, content⟩ := item
  cases content with
  | arguments held | input held =>
      cases whole
      rfl
  | search fields => cases whole

theorem search_fills (item : ToolOutputItem) (whole : item.content.deltaText = none) :
    (item.withText []).withText [] = item := by
  obtain ⟨id, name, namespace_, content⟩ := item
  cases content with
  | arguments held | input held => cases whole
  | search fields => rfl

/-- The events of a tool item open it, fill it and close it. -/
theorem tool_events_read (events : List ResponsesEvent) (done : List OutputItem)
    (item : ToolOutputItem) (reads : Reads events ⟨true, none, done⟩) :
    Reads (events ++ ResponsesStream.toolEvents done.length item)
      ⟨true, none, done ++ [.tool item]⟩ := by
  have first := Reads.event _ _ _ _ reads (.added _ (.tool (item.withText [])) rfl rfl)
  unfold ResponsesStream.toolEvents
  cases whole : item.content.deltaText with
  | some text =>
      have second := Reads.event _ _ _ _ first
        (.delta _ ⟨done.length, .tool (item.withText []), []⟩ rfl text)
      have third := Reads.event _ _ _ _ second
        (.textDone _ ⟨done.length, .tool (item.withText []), text⟩ rfl)
      have last := Reads.event _ _ _ _ third
        (.itemDone _ ⟨done.length, .tool (item.withText []), text⟩ rfl)
      have filled : (AddedItem.tool (item.withText [])).filled text = .tool item :=
        congrArg OutputItem.tool (with_text_fills item text whole)
      simp only [filled, List.append_assoc] at last
      exact last
  | none =>
      have last := Reads.event _ _ _ _ first
        (.itemDone _ ⟨done.length, .tool (item.withText []), []⟩ rfl)
      have filled : (AddedItem.tool (item.withText [])).filled [] = .tool item :=
        congrArg OutputItem.tool (search_fills item whole)
      simp only [filled, List.append_assoc] at last
      exact last

/-- Items can only be open in a response that began. -/
theorem send_tool_follows (toolUse : KiroToolUse) (done : List OutputItem)
    (started : stream.started = true) (follows : Follows stream done none nothingAhead) :
    Follows (stream.sendTool options toolUse)
      (done ++ [.tool (buildPreparedResponsesToolOutputItem options.toolIdentities toolUse)]) none
      nothingAhead := by
  let item := buildPreparedResponsesToolOutputItem options.toolIdentities toolUse
  obtain ⟨reserved, items, none_⟩ := follows.items
  have empty : reserved = [] := List.eq_nil_of_length_eq_zero none_
  have index : stream.nextOutputIndex = done.length := by
    rw [follows.next, items, empty, List.append_nil, List.length_map]
  let counted : ResponsesStream Credit :=
    { stream with
      toolUses := stream.toolUses ++ [toolUse]
      nextOutputIndex := stream.nextOutputIndex + 1 }
  have written := counted.reserve_items (done.map some) [] stream.nextOutputIndex (.tool item)
    (items.trans (by rw [empty])) (Nat.zero_le 1) (by rw [index, List.length_map])
  refine ⟨?_, ?_, ⟨[], ?_, rfl⟩, ?_, ?_⟩
  · have reads := follows.reads
    rw [started] at reads
    have tool := tool_events_read stream.sent done item reads
    rw [← index] at tool
    change Reads (stream.sent ++ _) ⟨stream.started, none, _⟩
    rw [started]
    exact tool
  · intro kind
    exact foreign_follows _ kind done _ (.tool item) ⟨rfl, rfl⟩
      (closed_track follows kind (Option.some_ne_none kind).symm)
  · rw [List.map_append, List.append_nil]
    exact written
  · change stream.nextOutputIndex + 1 = ((counted.reserveOutputItem _ _).outputItems.length : Int)
    rw [written, List.length_append, List.length_map, index]
    rfl
  · change (stream.toolUses ++ [toolUse]).isEmpty = _
    rw [List.any_append]
    simp [OutputItem.isTool]

theorem on_tool_use_sound (toolUse : KiroToolUse) (sound : Sound begun stream) :
    Sound begun (stream.onToolUse options toolUse) := by
  have flushed := flush_text_sound options (ensure_started_sound sound)
  obtain ⟨done, follows, started⟩ := finishes_follow flushed
  have sent := send_tool_follows options toolUse done (started rfl) follows
  exact ⟨_, none, sent, fun _ => started rfl⟩

theorem on_callback_sound (callback : CallbackRun Credit) (sound : Sound begun stream) :
    Sound begun (stream.onCallback options callback) := by
  have counted := sound_same sound
    { stream with
      counters := onReport options.contextTokens stream.counters callback } rfl rfl rfl rfl rfl rfl
  unfold ResponsesStream.onCallback
  cases callback with
  | text text isThinking => exact on_text_sound options text isThinking counted
  | toolUse toolUse => exact on_tool_use_sound options toolUse counted
  | _ => exact counted

end Emitting

section Ending

variable {Credit : Type} (options : ResponsesOptions Credit) {stream : ResponsesStream Credit}
  {done : List OutputItem}

theorem start_follows [Zero Credit] (attempt : Attempt) :
    Follows (ResponsesStream.start options attempt) [] none nothingAhead where
  reads := .start
  tracks := fun kind => by
    cases kind <;>
      exact ⟨rfl, fun active => absurd active Bool.false_ne_true, fun _ => ⟨rfl, rfl⟩, rfl, rfl⟩
  items := ⟨[], rfl, rfl⟩
  next := rfl
  tools := rfl

theorem callbacks_sound [Zero Credit] (attempt : Attempt) (callbacks : List (CallbackRun Credit)) :
    Sound false (callbacks.foldl (ResponsesStream.onCallback options)
      (ResponsesStream.start options attempt)) := by
  have begins : Sound false (ResponsesStream.start options attempt) :=
    ⟨[], none, start_follows options attempt, fun begun => absurd begun Bool.false_ne_true⟩
  induction callbacks using List.reverseRecOn with
  | nil => exact begins
  | append_singleton callbacks callback ih =>
      rw [List.foldl_append]
      exact on_callback_sound options callback ih

@[simp] theorem finish_builder (kind other : ItemKind) :
    ((stream.finish kind).track other).builder = (stream.track other).builder := by
  unfold ResponsesStream.finish
  simp only
  split_ifs with idle
  · rfl
  · cases kind <;> cases other <;> rfl

theorem texts_none (kind : ItemKind) (items : List OutputItem)
    (none_ : items.any (OutputItem.isText kind) = false) : textsOf kind items = [] := by
  unfold textsOf
  rw [List.flatMap_eq_nil_iff]
  intro item member
  have other : item.isText kind = false :=
    Bool.eq_false_iff.mpr (List.any_eq_false.mp none_ item member)
  cases item with
  | tool item => rfl
  | text held id text => exact if_neg (of_decide_eq_false other)

/-- A kind that was never announced has no text. -/
theorem hidden_track (track : TextTrack) (kind : ItemKind) (active : Bool)
    (follows : TrackFollows track kind done active []) (hidden : track.added = false) :
    done.any (OutputItem.isText kind) = false ∧ track.builder = [] := by
  have shown := follows.shown
  rw [hidden] at shown
  obtain ⟨none_, idle⟩ := Bool.or_eq_false_iff.mp shown.symm
  refine ⟨none_, ?_⟩
  rw [follows.builder, texts_none kind done none_, idle]
  rfl

/-- Reasoning that was collected was announced. -/
theorem replay_idle (sound : Sound true stream) : stream.replayReasoning options = stream := by
  obtain ⟨done, active, follows, -⟩ := sound
  unfold ResponsesStream.replayReasoning
  apply if_neg
  cases added : stream.reasoning.added with
  | true => simp
  | false =>
      obtain ⟨-, builder⟩ := hidden_track _ _ _ (follows.tracks .reasoning) added
      unfold ResponsesStream.reasoningContent
      change stream.reasoning.builder = [] at builder
      rw [builder, ite_self]
      simp

def OutputItem.visible (item : OutputItem) : Bool := item.isTool || item.isText .message

/-- The message of a response without text and tools, that was not announced. -/
def unannounced (id : GoString) (done : List OutputItem) : List (Option OutputItem) :=
  if done.any OutputItem.visible then [] else [some (.text .message id [])]

theorem any_visible (items : List OutputItem) :
    items.any OutputItem.visible =
      (items.any OutputItem.isTool || items.any (OutputItem.isText .message)) := by
  unfold OutputItem.visible
  induction items with
  | nil => rfl
  | cons item items ih =>
      rw [List.any_cons, List.any_cons, List.any_cons, ih]
      ac_rfl

theorem fill_output (follows : Follows stream done none nothingAhead) :
    stream.fillOutput.outputItems = done.map some ++ unannounced stream.message.itemID done ∧
      stream.fillOutput.sent = stream.sent := by
  obtain ⟨reserved, items, none_⟩ := follows.items
  have empty : reserved = [] := List.eq_nil_of_length_eq_zero none_
  rw [empty] at items
  have message := closed_track follows .message (Option.some_ne_none _).symm
  have shown := message.shown
  rw [Bool.or_false] at shown
  change stream.message.added = _ at shown
  unfold ResponsesStream.fillOutput unannounced
  rw [any_visible, ← shown]
  cases added : stream.message.added with
  | true =>
      rw [Bool.or_true]
      exact ⟨items, rfl⟩
  | false =>
      rw [follows.tools, Bool.or_false]
      cases tools : done.any OutputItem.isTool with
      | true => exact ⟨items, rfl⟩
      | false =>
          obtain ⟨-, builder⟩ := hidden_track _ _ _ message added
          change stream.message.builder = [] at builder
          have index : stream.nextOutputIndex = ((done.map some).length : Nat) := by
            rw [follows.next, items, List.append_nil]
          have written := stream.reserve_items (done.map some) [] stream.nextOutputIndex
            (.text .message stream.message.itemID stream.message.builder) items (Nat.zero_le 1)
            index
          rw [builder] at written ⊢
          exact ⟨written, rfl⟩

/-- The response and what came before it, against what the client read. -/
structure EndsWith (sent : List ResponsesEvent) (events : List ResponsesEvent)
    (done : List OutputItem) (response : ResponseObject) : Prop where
  sent : sent = events ++ [.completed response]
  reads : Reads events ⟨true, none, done⟩
  added : addedIndices events = indices done.length
  closed : doneItems events = indexed done
  output : ∃ id, response.output = done.map some ++ unannounced id done
  outputText : response.outputText = textsOf .message done

theorem succeed_ends (sound : Sound false stream) :
    ∃ events done response, EndsWith (stream.succeed options).sent events done response := by
  have flushed := flush_text_sound options (ensure_started_sound sound)
  have replayed := replay_idle options flushed
  obtain ⟨done, follows, started⟩ := finishes_follow flushed
  obtain ⟨output, sent⟩ := fill_output follows
  let closed := (((stream.ensureStarted).flushText options).finishReasoning).finishMessage
  have reads := follows.reads
  rw [started rfl] at reads
  have numbers := numbered _ _ reads
  let response := closed.fillOutput.buildResponse options
    ((stream.ensureStarted).flushText options)
  have ended : stream.succeed options = closed.fillOutput.send [.completed response] := by
    unfold ResponsesStream.succeed
    simp only
    rw [replayed]
  refine ⟨closed.sent, done, response, ?_, reads, numbers.added, numbers.done, ⟨_, output⟩, ?_⟩
  · rw [ended]
    exact congrArg (· ++ _) sent
  · have message := closed_track follows .message (Option.some_ne_none _).symm
    have builder := message.builder
    change _ = textsOf .message done ++ [] ++ [] at builder
    rw [List.append_nil, List.append_nil] at builder
    rw [← builder]
    exact ((finish_builder .message .message).trans (finish_builder .reasoning .message)).symm

/-- Whatever the callbacks of an attempt that succeeds are, the client can read all events: items
are announced in order, one at a time, get their own deltas, and are the output. -/
theorem output_items_streamed_once [Zero Credit] (attempt : Attempt)
    (callbacks : List (CallbackRun Credit)) :
    ∃ events done response, EndsWith
      ((callbacks.foldl (ResponsesStream.onCallback options)
        (ResponsesStream.start options attempt)).succeed options).sent events done response :=
  succeed_ends options (callbacks_sound options attempt callbacks)

end Ending

end KiroProxy.Responses
