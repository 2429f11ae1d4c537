import KiroProxy.Proxy.ClaudeStream
import KiroProxy.Proxy.ThinkingMarks

/-!
# The block protocol of the Claude event stream

A client reads the events of a message block by block. Every message that ends follows the
protocol, whatever the callbacks were.
-/

namespace KiroProxy.ClaudeStream

open GoStrings KiroTypes ThinkingScanner

set_option autoImplicit false

variable {Usage : Type}

section Protocol

/-- What a client knows: whether the message started and ended, the next index, the open
block, and whether a `<think>` still waits for its `</think>`. -/
structure Protocol where
  started : Bool
  nextIndex : Int
  active : Option (Int × BlockType)
  marked : Bool
  ended : Bool
  deriving DecidableEq

def Protocol.initial : Protocol := ⟨false, 0, none, false, false⟩

/-- The marker behind a text delta of the `think` format, whose text is the one its send
writes; none where the delta is out of order. -/
def markAfter (format : ClaudeThinkingFormat) (marked : Bool) : ContentDelta → Option Bool
  | .text text send =>
      if format ≠ .think then some marked
      else if
        text = (if send.thinkingState = 0 then send.text else ClaudeWriter.thinkText send) then
        sendMark marked send
      else none
  | _ => some marked

/-- One event of the message; none where it breaks the protocol. -/
def Protocol.accept (format : ClaudeThinkingFormat) (state : Protocol) :
    SSE Usage → Option Protocol
  | .messageStart _ =>
      if state.started then none else some { state with started := true }
  | .contentBlockStart index block =>
      if state.started ∧ ¬state.ended ∧ state.active = none ∧ index = state.nextIndex ∧
          (block.blockType = .toolUse → state.marked = false) then
        some { state with
          nextIndex := state.nextIndex + 1
          active := some (index, block.blockType) }
      else none
  | .contentBlockDelta index delta =>
      if state.active = some (index, delta.blockType) then
        (markAfter format state.marked delta).map fun marked => { state with marked := marked }
      else none
  | .contentBlockStop index =>
      if state.active.map Prod.fst = some index then some { state with active := none } else none
  | .messageDelta _ _ =>
      if state.started ∧ ¬state.ended ∧ state.active = none ∧ state.marked = false then
        some { state with ended := true }
      else none
  | .messageStop => if state.ended then some state else none
  | .error _ =>
      if state.started ∧ ¬state.ended ∧ state.active = none ∧ state.marked = false then
        some { state with ended := true }
      else none

/-- The state that the events of a message lead to. -/
def Protocol.read (format : ClaudeThinkingFormat) :
    Protocol → List (SSE Usage) → Option Protocol
  | state, [] => some state
  | state, event :: events =>
      (state.accept format event).bind fun next => read format next events

theorem read_append (format : ClaudeThinkingFormat) (state : Protocol)
    (earlier later : List (SSE Usage)) :
    state.read format (earlier ++ later) =
      (state.read format earlier).bind fun next => next.read format later := by
  induction earlier generalizing state with
  | nil => rfl
  | cons event earlier ih =>
      rw [List.cons_append, Protocol.read, Protocol.read, Option.bind_assoc]
      congr 1
      funext next
      exact ih next

/-- A message that began goes on. -/
theorem accept_started (format : ClaudeThinkingFormat) (state next : Protocol)
    (event : SSE Usage) (accepted : state.accept format event = some next)
    (started : state.started = true) : next.started = true := by
  unfold Protocol.accept at accepted
  cases event with
  | messageStart usage => simp [started] at accepted
  | contentBlockDelta index delta =>
      simp only at accepted
      split_ifs at accepted
      obtain ⟨marked, _, same⟩ := Option.map_eq_some_iff.mp accepted
      rw [← same]
      exact started
  | _ =>
      simp only at accepted
      split_ifs at accepted
      cases accepted
      exact started

theorem read_started (format : ClaudeThinkingFormat) (events : List (SSE Usage))
    (state next : Protocol) (reads : state.read format events = some next)
    (started : state.started = true) : next.started = true := by
  induction events generalizing state with
  | nil =>
      rw [Protocol.read, Option.some.injEq] at reads
      rw [← reads]
      exact started
  | cons event events ih =>
      rw [Protocol.read] at reads
      obtain ⟨middle, accepted, rest⟩ := Option.bind_eq_some_iff.mp reads
      exact ih middle rest (accept_started format state middle event accepted started)

/-- Nothing comes before the start of the message. -/
theorem initial_accepts (format : ClaudeThinkingFormat) (event : SSE Usage) (next : Protocol)
    (accepted : Protocol.initial.accept format event = some next) : next.started = true := by
  cases event with
  | messageStart usage =>
      cases accepted
      rfl
  | _ => simp [Protocol.accept, Protocol.initial] at accepted

theorem unstarted_silent (format : ClaudeThinkingFormat) (events : List (SSE Usage))
    (state : Protocol) (reads : Protocol.initial.read format events = some state)
    (idle : state.started = false) : events = [] := by
  cases events with
  | nil => rfl
  | cons event events =>
      rw [Protocol.read] at reads
      obtain ⟨next, accepted, rest⟩ := Option.bind_eq_some_iff.mp reads
      have started := read_started format events next state rest
        (initial_accepts format event next accepted)
      rw [idle] at started
      exact absurd started Bool.false_ne_true

end Protocol

section Writing

variable (opts : ClaudeStreamOptions)

/-- The block that the writer has open. -/
def ClaudeWriter.active (writer : ClaudeWriter Usage) : Option (Int × BlockType) :=
  writer.activeBlockType.map fun blockType => (writer.activeBlockIndex, blockType)

/-- The client knows what the writer does. -/
structure Follows (writer : ClaudeWriter Usage) (marked : Bool) : Prop where
  reads : Protocol.initial.read opts.thinkingFormat writer.sent =
    some ⟨writer.messageStarted, writer.nextContentIndex, writer.active, marked, false⟩
  index : writer.activeBlockIndex < 0 ↔ writer.activeBlockType = none
  next : 0 ≤ writer.nextContentIndex

theorem start_follows : Follows opts (ClaudeWriter.start false : ClaudeWriter Usage) false := by
  constructor
  · rfl
  · simp [ClaudeWriter.start]
  · exact Int.le_refl 0

theorem send_reads (writer : ClaudeWriter Usage) (marked : Bool)
    (follows : Follows opts writer marked) (event : SSE Usage) (next : Protocol)
    (accepted : Protocol.accept opts.thinkingFormat
      ⟨writer.messageStarted, writer.nextContentIndex, writer.active, marked, false⟩ event =
        some next) :
    Protocol.initial.read opts.thinkingFormat (writer.sendSSE event).sent = some next := by
  rw [ClaudeWriter.sendSSE, read_append, follows.reads]
  simp only [Option.bind_some, Protocol.read, accepted]

variable (startUsage : Usage)

theorem ensure_follows (writer : ClaudeWriter Usage) (marked : Bool)
    (follows : Follows opts writer marked) :
    Follows opts (writer.ensureMessageStart startUsage) marked ∧
      (writer.ensureMessageStart startUsage).messageStarted = true ∧
      (writer.ensureMessageStart startUsage).activeBlockType = writer.activeBlockType := by
  unfold ClaudeWriter.ensureMessageStart
  split_ifs with started
  · exact ⟨follows, started, rfl⟩
  · refine ⟨⟨?_, follows.index, follows.next⟩, rfl, rfl⟩
    apply send_reads opts writer marked follows
    rw [Protocol.accept, if_neg started]
    rfl

theorem close_follows (writer : ClaudeWriter Usage) (marked : Bool)
    (follows : Follows opts writer marked) :
    Follows opts writer.closeActiveBlock marked ∧
      writer.closeActiveBlock.activeBlockType = none ∧
      writer.closeActiveBlock.messageStarted = writer.messageStarted := by
  unfold ClaudeWriter.closeActiveBlock
  split_ifs with closed
  · exact ⟨follows, follows.index.mp closed, rfl⟩
  · refine ⟨⟨?_, by simp, follows.next⟩, rfl, rfl⟩
    obtain ⟨blockType, opened⟩ := Option.ne_none_iff_exists'.mp
      (fun none => closed (follows.index.mpr none))
    apply send_reads opts writer marked follows
    rw [Protocol.accept, ClaudeWriter.active, opened]
    exact if_pos rfl

/-- A writer whose block of a type is open. -/
def InBlock (writer : ClaudeWriter Usage) (blockType : BlockType) : Prop :=
  writer.activeBlockType = some blockType

theorem start_block_follows (writer : ClaudeWriter Usage) (marked : Bool)
    (follows : Follows opts writer marked) (block : ContentBlock)
    (plain : block.blockType ≠ .toolUse) :
    Follows opts (writer.startContentBlock startUsage block) marked ∧
      InBlock (writer.startContentBlock startUsage block) block.blockType := by
  unfold ClaudeWriter.startContentBlock
  split_ifs with opened
  · exact ⟨follows, opened⟩
  · have ensured := ensure_follows opts startUsage writer marked follows
    have closed := close_follows opts _ marked ensured.1
    refine ⟨⟨?_, ?_, ?_⟩, rfl⟩
    · apply send_reads opts _ marked closed.1
      have free : (writer.ensureMessageStart startUsage).closeActiveBlock.active = none := by
        rw [ClaudeWriter.active, closed.2.1]
        rfl
      have begun := closed.2.2.trans ensured.2.1
      rw [Protocol.accept,
        if_pos ⟨begun, Bool.false_ne_true, free, rfl, fun tool => absurd tool plain⟩]
      rfl
    · have next := closed.1.next
      simp only [reduceCtorEq, iff_false, not_lt]
      exact next
    · have next := closed.1.next
      exact Int.le_add_one next

theorem delta_follows (writer : ClaudeWriter Usage) (marked next : Bool)
    (follows : Follows opts writer marked) (delta : ContentDelta)
    (opened : InBlock writer delta.blockType)
    (marks : markAfter opts.thinkingFormat marked delta = some next) :
    Follows opts (writer.sendDelta delta) next := by
  have same : writer.active = some (writer.activeBlockIndex, delta.blockType) := by
    rw [ClaudeWriter.active, opened]
    rfl
  refine ⟨?_, follows.index, follows.next⟩
  apply send_reads opts writer marked follows
  rw [Protocol.accept, if_pos same]
  simp only [marks]
  rfl

theorem text_delta_follows (writer : ClaudeWriter Usage) (marked next : Bool)
    (follows : Follows opts writer marked) (text : Runes) (send : Send)
    (marks : markAfter opts.thinkingFormat marked (.text text send) = some next)
    (silent : text = [] → next = marked) :
    Follows opts (writer.sendTextDelta startUsage text send) next := by
  unfold ClaudeWriter.sendTextDelta
  split_ifs with none
  · rw [silent none]
    exact follows
  · have opened := start_block_follows opts startUsage writer marked follows .text (by decide)
    exact delta_follows opts _ marked next opened.1 (.text text send) opened.2 marks

theorem last_close_follows (last : Prop) [Decidable last] (writer : ClaudeWriter Usage)
    (marked : Bool) (follows : Follows opts writer marked) :
    Follows opts (if last then writer.closeActiveBlock else writer) marked := by
  split_ifs
  · exact (close_follows opts writer marked follows).1
  · exact follows

theorem thinking_follows (omitDisplay : Bool) (writer : ClaudeWriter Usage)
    (follows : Follows opts writer false) (send : Send) :
    Follows opts (writer.sendThinking startUsage omitDisplay send) false := by
  have opened := start_block_follows opts startUsage writer false follows .thinking (by decide)
  unfold ClaudeWriter.sendThinking
  split_ifs
  · exact opened.1
  · exact (close_follows opts _ false opened.1).1
  · exact (close_follows opts _ false follows).1
  · exact follows
  · exact (close_follows opts _ false follows).1
  · exact follows
  · have shown := delta_follows opts _ false false opened.1 (.thinking send.text) opened.2 rfl
    exact last_close_follows opts _ _ false shown
  · exact last_close_follows opts _ writer false follows

/-- Whether the text of a message has an open `<think>` while a run of reasoning is open. -/
def marker (opts : ClaudeStreamOptions) (marked : Bool) : Bool :=
  marked && opts.thinking && opts.thinkingFormat == .think

theorem marker_off (marked : Bool)
    (off : opts.thinking = false ∨ opts.thinkingFormat ≠ .think) :
    marker opts marked = false := by
  unfold marker
  cases off with
  | inl off => rw [off, Bool.and_false, Bool.false_and]
  | inr off => rw [beq_eq_false_iff_ne.mpr off, Bool.and_false]

theorem marker_on (marked : Bool) (on : opts.thinking = true)
    (format : opts.thinkingFormat = .think) : marker opts marked = marked := by
  rw [marker, on, format]
  simp

theorem answer_mark (marked next : Bool) (send : Send) (answer : send.thinkingState = 0)
    (order : sendMark marked send = some next) : marked = false ∧ next = false := by
  rw [sendMark, if_pos answer] at order
  cases marked with
  | true => cases order
  | false => exact ⟨rfl, (Option.some.inj order).symm⟩

/-- A silent piece of reasoning is a later one. -/
theorem think_text_silent (marked next : Bool) (send : Send) (reasoning : send.thinkingState ≠ 0)
    (order : sendMark marked send = some next)
    (silent : ClaudeWriter.thinkText send = []) : next = marked := by
  unfold ClaudeWriter.thinkText at silent
  unfold sendMark at order
  split_ifs at silent order
  · simp at silent
  · simp_all
  · simp at silent

theorem send_text_follows (writer : ClaudeWriter Usage) (marked next : Bool) (send : Send)
    (follows : Follows opts writer (marker opts marked))
    (order : sendMark marked send = some next) :
    Follows opts (writer.sendText startUsage opts send) (marker opts next) := by
  unfold ClaudeWriter.sendText
  by_cases answer : send.thinkingState = 0
  · obtain ⟨before, after⟩ := answer_mark marked next send answer order
    rw [if_pos answer]
    rw [before] at follows order
    rw [after] at order ⊢
    apply text_delta_follows opts startUsage writer _ _ follows
    · rw [markAfter, if_pos answer, if_pos rfl]
      split_ifs
      · rfl
      · exact order
    · exact fun _ => rfl
  · rw [if_neg answer]
    by_cases on : opts.thinking = true
    · rw [on]
      simp only [Bool.not_true, Bool.false_eq_true, if_false]
      cases format : opts.thinkingFormat with
      | think =>
          simp only
          rw [marker_on opts _ on format] at follows ⊢
          apply text_delta_follows opts startUsage writer _ _ follows
          · rw [markAfter, if_neg (not_not.mpr format), if_neg answer, if_pos rfl]
            exact order
          · exact think_text_silent marked next send answer order
      | reasoningContent =>
          have off : opts.thinkingFormat ≠ .think := by simp [format]
          simp only
          rw [marker_off opts _ (Or.inr off)] at follows ⊢
          apply text_delta_follows opts startUsage writer _ _ follows
          · rw [markAfter, if_pos off]
          · exact fun _ => rfl
      | thinking =>
          have off : opts.thinkingFormat ≠ .think := by simp [format]
          simp only
          rw [marker_off opts _ (Or.inr off)] at follows ⊢
          exact thinking_follows opts startUsage opts.omitDisplay writer follows send
    · have off := Bool.eq_false_iff.mpr on
      rw [off]
      simp only [Bool.not_false, if_true]
      rw [marker_off opts _ (Or.inl off)] at follows ⊢
      exact follows

theorem send_texts_follow (sends : List Send) (writer : ClaudeWriter Usage) (marked next : Bool)
    (follows : Follows opts writer (marker opts marked))
    (order : sendMarks marked sends = some next) :
    Follows opts (sends.foldl (ClaudeWriter.sendText startUsage opts) writer)
      (marker opts next) := by
  induction sends generalizing writer marked with
  | nil =>
      rw [sendMarks, Option.some.injEq] at order
      rw [← order]
      exact follows
  | cons send sends ih =>
      rw [sendMarks] at order
      obtain ⟨middle, first, rest⟩ := Option.bind_eq_some_iff.mp order
      rw [List.foldl_cons]
      exact ih _ middle (send_text_follows opts startUsage writer marked middle send follows first)
        rest

theorem tool_use_follows (writer : ClaudeWriter Usage) (follows : Follows opts writer false)
    (toolUse : KiroToolUse) :
    Follows opts (writer.sendToolUse startUsage toolUse) false := by
  have ensured := ensure_follows opts startUsage writer false follows
  have closed := close_follows opts _ false ensured.1
  have begun := closed.2.2.trans ensured.2.1
  have free : (writer.ensureMessageStart startUsage).closeActiveBlock.active = none := by
    rw [ClaudeWriter.active, closed.2.1]
    rfl
  have reads := closed.1.reads
  rw [free, begun] at reads
  refine ⟨?_, closed.1.index, Int.le_add_one closed.1.next⟩
  change Protocol.initial.read opts.thinkingFormat (((_ ++ [_]) ++ [_]) ++ [_]) =
    some ⟨_, _, (writer.ensureMessageStart startUsage).closeActiveBlock.active, _, _⟩
  rw [read_append, read_append, read_append, free]
  change ((((Protocol.initial.read opts.thinkingFormat
    (writer.ensureMessageStart startUsage).closeActiveBlock.sent).bind _).bind _).bind _) = _
  rw [reads]
  simp only [Option.bind_some, Protocol.read, Protocol.accept, ContentBlock.blockType,
    ContentDelta.blockType, markAfter]
  simp only [Bool.false_eq_true, not_false_eq_true, and_self, implies_true, if_true,
    Option.map_some, Option.bind_some]
  exact congrArg (fun started => some (Protocol.mk started _ _ _ _)) begun.symm

end Writing

section Runs

variable (opts : ClaudeStreamOptions) (startUsage : Usage)

/-- A run whose client knows what its writer does and has a `<think>` open while a run of
reasoning is. -/
structure Running (run : ClaudeRun Usage) : Prop where
  paired : run.scanner.Paired
  follows : Follows opts run.writer (marker opts run.scanner.thinkingStarted)

theorem start_running : Running opts (ClaudeRun.start false : ClaudeRun Usage) :=
  ⟨StreamScanner.start_paired, start_follows opts⟩

theorem process_running (run : ClaudeRun Usage) (running : Running opts run) (text : Runes)
    (isThinking forceFlush : Bool) :
    Running opts (run.processClaudeText opts startUsage text isThinking forceFlush) := by
  have processed := StreamScanner.process_text_paired opts.thinking text isThinking forceFlush
    run.scanner running.paired
  exact ⟨processed.1,
    send_texts_follow opts startUsage _ run.writer _ _ running.follows processed.2⟩

/-- The tail is out and no `<think>` is open. -/
theorem flush_running (run : ClaudeRun Usage) (running : Running opts run) :
    Running opts (run.processClaudeText opts startUsage [] false true) ∧
      Follows opts (run.processClaudeText opts startUsage [] false true).writer false := by
  have flushed := process_running opts startUsage run running [] false true
  have idle := StreamScanner.process_text_closes opts.thinking run.scanner running.paired
  have follows := flushed.follows
  change Follows opts _ (marker opts
    (run.scanner.processText opts.thinking [] false true).1.thinkingStarted) at follows
  rw [idle] at follows
  exact ⟨flushed, follows⟩

theorem event_running (run : ClaudeRun Usage) (running : Running opts run) (event : StreamEvent) :
    Running opts (run.onEvent opts startUsage event) := by
  cases event with
  | text delta isThinking =>
      rw [ClaudeRun.onEvent]
      split_ifs
      · exact running
      · exact process_running opts startUsage run running delta isThinking false
  | toolUse call =>
      have flushed := flush_running opts startUsage run running
      have idle := StreamScanner.process_text_closes opts.thinking run.scanner running.paired
      have called := tool_use_follows opts startUsage _ flushed.2 call
      refine ⟨flushed.1.paired, ?_⟩
      change Follows opts _ (marker opts
        (run.scanner.processText opts.thinking [] false true).1.thinkingStarted)
      rw [idle]
      exact called

theorem callbacks_running (events : List StreamEvent) :
    Running opts (ClaudeRun.callbacks opts startUsage false events) :=
  List.foldlRecOn events (ClaudeRun.onEvent opts startUsage) (start_running opts)
    (fun run running event _ => event_running opts startUsage run running event)

theorem finish_follows (run : ClaudeRun Usage) (running : Running opts run) :
    Follows opts (run.finishBlocks opts startUsage).writer false ∧
      (run.finishBlocks opts startUsage).writer.active = none := by
  have flushed := flush_running opts startUsage run running
  have closed := (StreamScanner.answer_text_steps opts.thinking [] true run.scanner
    running.paired).closed
  have idle : (run.processClaudeText opts startUsage [] false true).scanner.eventThinkingOpen =
      false := closed
  have shut := close_follows opts _ false flushed.2
  unfold ClaudeRun.finishBlocks
  simp only [idle, Bool.false_eq_true, if_false]
  refine ⟨shut.1, ?_⟩
  rw [ClaudeWriter.active, shut.2.1]
  rfl

theorem close_started (writer : ClaudeWriter Usage) :
    writer.closeActiveBlock.messageStarted = writer.messageStarted := by
  unfold ClaudeWriter.closeActiveBlock
  split_ifs <;> rfl

theorem block_started (writer : ClaudeWriter Usage) (block : ContentBlock)
    (started : writer.messageStarted = true) :
    (writer.startContentBlock startUsage block).messageStarted = true := by
  unfold ClaudeWriter.startContentBlock
  split_ifs
  · exact started
  · rw [ClaudeWriter.ensureMessageStart, if_pos started]
    exact (close_started writer).trans started

theorem text_delta_started (writer : ClaudeWriter Usage) (text : Runes) (send : Send)
    (started : writer.messageStarted = true) :
    (writer.sendTextDelta startUsage text send).messageStarted = true := by
  unfold ClaudeWriter.sendTextDelta
  split_ifs
  · exact started
  · exact block_started startUsage writer .text started

theorem thinking_started (omitDisplay : Bool) (writer : ClaudeWriter Usage) (send : Send)
    (started : writer.messageStarted = true) :
    (writer.sendThinking startUsage omitDisplay send).messageStarted = true := by
  have opened := block_started startUsage writer .thinking started
  unfold ClaudeWriter.sendThinking
  simp only [apply_ite ClaudeWriter.messageStarted, close_started, ClaudeWriter.sendDelta,
    ClaudeWriter.sendSSE, opened, started, ite_self]

theorem send_text_started (writer : ClaudeWriter Usage) (send : Send)
    (started : writer.messageStarted = true) :
    (writer.sendText startUsage opts send).messageStarted = true := by
  unfold ClaudeWriter.sendText
  split_ifs
  · exact text_delta_started startUsage writer _ send started
  · exact started
  · cases opts.thinkingFormat with
    | think => exact text_delta_started startUsage writer _ send started
    | reasoningContent => exact text_delta_started startUsage writer _ send started
    | thinking => exact thinking_started startUsage opts.omitDisplay writer send started

theorem process_started (run : ClaudeRun Usage) (text : Runes) (isThinking forceFlush : Bool)
    (started : run.writer.messageStarted = true) :
    (run.processClaudeText opts startUsage text isThinking forceFlush).writer.messageStarted =
      true :=
  @List.foldlRecOn _ _ (fun writer => writer.messageStarted = true)
    (run.scanner.processText opts.thinking text isThinking forceFlush).2 _ _ started
    (fun writer started send _ => send_text_started opts startUsage writer send started)

theorem finish_started (run : ClaudeRun Usage) (started : run.writer.messageStarted = true) :
    (run.finishBlocks opts startUsage).writer.messageStarted = true := by
  have flushed := process_started opts startUsage run [] false true started
  unfold ClaudeRun.finishBlocks
  rw [close_started]
  split_ifs
  · exact send_text_started opts startUsage _ _ flushed
  · exact flushed

/-- A message that ended: it began, no block is open and every `<think>` has its `</think>`. -/
def Complete (state : Protocol) : Prop :=
  state.started = true ∧ state.ended = true ∧ state.active = none ∧ state.marked = false

def Completes (events : List (SSE Usage)) : Prop :=
  ∃ state, Protocol.initial.read opts.thinkingFormat events = some state ∧ Complete state

/-- The last events of a message, once no block is open. -/
theorem last_events_complete (writer : ClaudeWriter Usage) (follows : Follows opts writer false)
    (free : writer.active = none) (started : writer.messageStarted = true)
    (last : List (SSE Usage))
    (accepted : ∀ next, (Protocol.mk true next none false false).read opts.thinkingFormat last =
      some ⟨true, next, none, false, true⟩) :
    Completes opts (writer.sent ++ last) := by
  refine ⟨⟨true, writer.nextContentIndex, none, false, true⟩, ?_, rfl, rfl, rfl, rfl⟩
  rw [read_append, follows.reads, free, started]
  exact accepted _

/-- Whatever the callbacks were, a message that succeeds follows the protocol to its end, so
does one that fails after output began, and one that fails before has sent nothing. -/
theorem block_protocol (events : List StreamEvent) :
    (∀ (stopReason : GoString) (usage : Usage),
      Completes opts ((ClaudeRun.callbacks opts startUsage false events).succeed opts startUsage
        stopReason usage).writer.sent) ∧
    ((ClaudeRun.callbacks opts startUsage false events).writer.messageStarted = true →
      ∀ message : GoString,
        Completes opts ((ClaudeRun.callbacks opts startUsage false events).fail opts startUsage
          message).writer.sent) ∧
    ((ClaudeRun.callbacks opts startUsage false events).writer.messageStarted = false →
      (ClaudeRun.callbacks opts startUsage false events).writer.sent = []) := by
  have running := callbacks_running opts startUsage events
  have finished := finish_follows opts startUsage _ running
  refine ⟨?_, ?_, ?_⟩
  · intro stopReason usage
    have ensured := ensure_follows opts startUsage _ false finished.1
    have free : ((ClaudeRun.callbacks opts startUsage false events).finishBlocks opts
        startUsage).writer.active = none := finished.2
    have shut : (((ClaudeRun.callbacks opts startUsage false events).finishBlocks opts
        startUsage).writer.ensureMessageStart startUsage).active = none := by
      have none := Option.map_eq_none_iff.mp free
      rw [ClaudeWriter.active, ensured.2.2, none]
      rfl
    change Completes opts ((_ ++ [_]) ++ [_])
    rw [List.append_assoc]
    exact last_events_complete opts _ ensured.1 shut ensured.2.1 _ (fun next => rfl)
  · intro started message
    exact last_events_complete opts _ finished.1 finished.2
      (finish_started opts startUsage _ started) _ (fun next => rfl)
  · intro idle
    exact unstarted_silent opts.thinkingFormat _ _ running.follows.reads idle

end Runs

end KiroProxy.ClaudeStream
