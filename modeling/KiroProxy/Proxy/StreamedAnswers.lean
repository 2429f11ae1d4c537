import KiroProxy.Proxy.ResponsesChains

/-!
# Streamed answers

The answer of a stream that succeeds holds the text and the calls that are stored with it: each
call is announced once, in order.
-/

namespace KiroProxy.Responses

open ClaudeUsage EventStream GoStrings KiroTypes RequestHandling
open ThinkingScanner (ThinkingStreamSource allowReasoningSource allowTagSource)
open ThinkingSplitter

set_option autoImplicit false

section Quiet

variable {Credit : Type}

/-- The call that an event announces as done. -/
def doneTool : ResponsesEvent → Option ToolOutputItem
  | .outputItemDone _ (some (.tool item)) => some item
  | _ => none

/-- Between two states of a stream no call is sent. -/
def Quiet (stream next : ResponsesStream Credit) : Prop :=
  next.toolUses = stream.toolUses ∧
    next.sent.filterMap doneTool = stream.sent.filterMap doneTool

theorem Quiet.refl (stream : ResponsesStream Credit) : Quiet stream stream := ⟨rfl, rfl⟩

theorem Quiet.trans {stream middle last : ResponsesStream Credit} (first : Quiet stream middle)
    (second : Quiet middle last) : Quiet stream last :=
  ⟨second.1.trans first.1, second.2.trans first.2⟩

namespace ResponsesStream

variable (options : ResponsesOptions Credit) (stream : ResponsesStream Credit)

theorem send_quiet (events : List ResponsesEvent) (silent : events.filterMap doneTool = []) :
    Quiet stream (stream.send events) := by
  refine ⟨rfl, ?_⟩
  change (stream.sent ++ events).filterMap doneTool = _
  rw [List.filterMap_append, silent, List.append_nil]

theorem with_track_quiet (kind : ItemKind) (track : TextTrack) :
    Quiet stream (stream.withTrack kind track) := by
  cases kind <;> exact .refl _

theorem ensure_started_quiet : Quiet stream stream.ensureStarted := by
  unfold ensureStarted
  split_ifs
  · exact .refl _
  · exact stream.send_quiet [.created] rfl

/-- What is written as a text is not read as a call. -/
theorem written_text_silent (index place : Int) (kind : ItemKind) (id text : GoString) :
    doneTool (.outputItemDone place
      ((stream.reserveOutputItem index (.text kind id text)).outputItem index)) = none := by
  unfold reserveOutputItem outputItem
  simp only [List.getElem?_set_self']
  generalize (stream.outputItems ++ _)[index.toNat]? = held
  cases held <;> rfl

theorem finish_quiet (kind : ItemKind) : Quiet stream (stream.finish kind) := by
  unfold finish
  simp only
  split_ifs
  · exact .refl _
  · have closed := stream.with_track_quiet kind { stream.track kind with done := true }
    refine closed.trans (send_quiet _ _ ?_)
    rw [List.filterMap_cons, List.filterMap_cons, List.filterMap_cons, written_text_silent]
    rfl

theorem announce_quiet (kind : ItemKind) : Quiet stream (stream.announce kind) := by
  have opened := stream.with_track_quiet kind
    { stream.track kind with outputIndex := stream.nextOutputIndex, added := true }
  exact opened.trans (send_quiet _ _ rfl)

theorem fresh_track_quiet (kind : ItemKind) : Quiet stream (stream.freshTrack options kind) := by
  unfold freshTrack
  simp only
  split_ifs
  · exact with_track_quiet _ kind _
  · exact .refl _

theorem ensure_added_quiet (kind : ItemKind) : Quiet stream (stream.ensureAdded options kind) := by
  unfold ensureAdded
  simp only
  split_ifs
  · exact stream.ensure_started_quiet
  · exact (stream.ensure_started_quiet.trans (fresh_track_quiet options _ kind)).trans
      (announce_quiet _ kind)

theorem write_delta_quiet (kind : ItemKind) (text : GoString) :
    Quiet stream (stream.writeDelta kind text) :=
  (stream.with_track_quiet kind _).trans (send_quiet _ _ rfl)

theorem emit_delta_quiet (kind : ItemKind) (text : GoString) :
    Quiet stream (stream.emitDelta options kind text) := by
  unfold emitDelta
  simp only
  split_ifs
  · exact .refl _
  · exact (((stream.with_track_quiet kind _).trans (finish_quiet _ _)).trans
      (ensure_added_quiet options _ _)).trans (write_delta_quiet _ _ _)
  · exact .refl _
  · exact (((stream.with_track_quiet kind _).trans (finish_quiet _ _)).trans
      (ensure_added_quiet options _ _)).trans (write_delta_quiet _ _ _)

theorem emit_tag_thinking_quiet (text : GoString) :
    Quiet stream (stream.emitTagThinking options text) := by
  unfold emitTagThinking
  simp only
  split_ifs
  · exact .refl _
  · exact emit_delta_quiet options { stream with thinkingSource := _ } .reasoning text
  · exact .refl _

theorem emit_splits_quiet (splits : List (Split UInt8)) :
    Quiet stream (stream.emitSplits options splits) := by
  unfold emitSplits
  induction splits generalizing stream with
  | nil => exact .refl _
  | cons split splits ih =>
      refine Quiet.trans ?_ (ih _)
      beta_reduce
      split_ifs
      · exact stream.emit_tag_thinking_quiet options split.text
      · exact stream.emit_delta_quiet options .message split.text

theorem flush_text_quiet : Quiet stream (stream.flushText options) :=
  emit_splits_quiet options { stream with splitter := _ } _

theorem on_text_quiet (text : GoString) (isThinking : Bool) :
    Quiet stream (stream.onText options text isThinking) := by
  unfold onText
  simp only
  split_ifs
  · exact .refl _
  · exact .refl _
  · exact emit_delta_quiet options { stream with thinkingSource := _ } .reasoning text
  · exact .refl _
  · exact emit_splits_quiet options { stream with splitter := _ } _

theorem replay_reasoning_quiet : Quiet stream (stream.replayReasoning options) := by
  unfold replayReasoning
  simp only
  split_ifs
  · exact ((stream.finish_quiet .message).trans (ensure_added_quiet options _ _)).trans
      (write_delta_quiet _ _ _)
  · exact .refl _

theorem fill_output_quiet : Quiet stream stream.fillOutput := by
  unfold fillOutput
  split_ifs
  · exact .refl _
  · exact .refl _

theorem succeed_quiet : Quiet stream (stream.succeed options) := by
  have flushed := stream.ensure_started_quiet.trans (flush_text_quiet options _)
  have replayed := flushed.trans (replay_reasoning_quiet options _)
  have closed := (replayed.trans (finish_quiet _ .reasoning)).trans (finish_quiet _ .message)
  exact (closed.trans (fill_output_quiet _)).trans (send_quiet _ _ rfl)

end ResponsesStream

end Quiet

section Calls

variable {Credit : Type} (options : ResponsesOptions Credit)

/-- The calls that a client was sent are the ones that are stored. -/
def CallsSent (stream : ResponsesStream Credit) : Prop :=
  stream.sent.filterMap doneTool =
    stream.toolUses.map (buildPreparedResponsesToolOutputItem options.toolIdentities)

variable {options}

theorem Quiet.calls_sent {stream next : ResponsesStream Credit} (quiet : Quiet stream next)
    (sent : CallsSent options stream) : CallsSent options next := by
  unfold CallsSent at sent ⊢
  rw [quiet.1, quiet.2]
  exact sent

variable (options)

theorem send_tool_sends (stream : ResponsesStream Credit) (toolUse : KiroToolUse)
    (sent : CallsSent options stream) : CallsSent options (stream.sendTool options toolUse) := by
  let item := buildPreparedResponsesToolOutputItem options.toolIdentities toolUse
  have announced : (ResponsesStream.toolEvents stream.nextOutputIndex item).filterMap doneTool =
      [item] := by
    unfold ResponsesStream.toolEvents
    cases item.content.deltaText <;> rfl
  unfold CallsSent at sent ⊢
  change (stream.sent ++ ResponsesStream.toolEvents stream.nextOutputIndex item).filterMap doneTool =
    (stream.toolUses ++ [toolUse]).map _
  rw [List.filterMap_append, announced, sent, List.map_append]
  rfl

theorem callback_sends (stream : ResponsesStream Credit) (callback : CallbackRun Credit)
    (sent : CallsSent options stream) : CallsSent options (stream.onCallback options callback) := by
  unfold ResponsesStream.onCallback
  cases callback with
  | text text isThinking =>
      exact (ResponsesStream.on_text_quiet options { stream with counters := _ } text
        isThinking).calls_sent sent
  | toolUse toolUse =>
      let counted : ResponsesStream Credit :=
        { stream with
          counters := onReport options.contextTokens stream.counters (.toolUse toolUse) }
      have flushed := counted.ensure_started_quiet.trans
        (ResponsesStream.flush_text_quiet options _)
      have closed := (flushed.trans (ResponsesStream.finish_quiet _ .reasoning)).trans
        (ResponsesStream.finish_quiet _ .message)
      exact send_tool_sends options _ toolUse (closed.calls_sent sent)
  | _ => exact sent

variable [Zero Credit]

/-- The stream of an attempt that succeeds. -/
def succeeded (attempt : Attempt) (callbacks : List (CallbackRun Credit)) :
    ResponsesStream Credit :=
  (callbacks.foldl (ResponsesStream.onCallback options)
    (ResponsesStream.start options attempt)).succeed options

theorem succeeded_sends (attempt : Attempt) (callbacks : List (CallbackRun Credit)) :
    CallsSent options (succeeded options attempt callbacks) := by
  apply (ResponsesStream.succeed_quiet options _).calls_sent
  induction callbacks using List.reverseRecOn with
  | nil => rfl
  | append_singleton callbacks callback ih =>
      rw [List.foldl_append]
      exact callback_sends options _ callback ih

theorem done_tools (events : List ResponsesEvent) :
    events.filterMap doneTool =
      (doneItems events).filterMap fun done => done.2.bind OutputItem.toolItem := by
  unfold doneItems
  rw [List.filterMap_filterMap]
  apply List.filterMap_congr
  intro event _
  cases event with
  | outputItemDone index item =>
      cases item with
      | none => rfl
      | some item => cases item <;> rfl
  | _ => rfl

theorem indexed_tools (items : List OutputItem) :
    ((indexed items).filterMap fun done => done.2.bind OutputItem.toolItem) =
      items.filterMap OutputItem.toolItem := by
  induction items using List.reverseRecOn with
  | nil => rfl
  | append_singleton items item ih =>
      rw [indexed_append, List.filterMap_append, ih, List.filterMap_append]
      cases item <;> rfl

/-- A streamed answer is complete, as one that is not streamed. -/
theorem streamed_answer_complete (attempt : Attempt) (callbacks : List (CallbackRun Credit)) :
    ∃ events response output,
      (succeeded options attempt callbacks).sent = events ++ [.completed response] ∧
        response.output = output.map some ∧
        Answer.Complete options.toolIdentities
          ⟨output, response.outputText, (succeeded options attempt callbacks).toolUses⟩ := by
  obtain ⟨events, done, response, ends⟩ := succeed_ends options
    (callbacks_sound options attempt callbacks)
  obtain ⟨id, output⟩ := ends.output
  let last : List OutputItem :=
    if done.any OutputItem.visible then [] else [.text .message id []]
  have whole : response.output = (done ++ last).map some := by
    rw [output, List.map_append]
    unfold unannounced
    congr 1
    by_cases visible : done.any OutputItem.visible <;> simp [last, visible]
  have calls := succeeded_sends options attempt callbacks
  unfold CallsSent at calls
  rw [show (succeeded options attempt callbacks).sent = _ from ends.sent, List.filterMap_append,
    done_tools, ends.closed, indexed_tools] at calls
  have lastTools : last.filterMap OutputItem.toolItem = [] := by
    by_cases visible : done.any OutputItem.visible <;> simp [last, visible, OutputItem.toolItem]
  have lastText : textsOf .message last = [] := by
    by_cases visible : done.any OutputItem.visible <;>
      simp [last, visible, textsOf, OutputItem.textOf]
  have tools : (done ++ last).filterMap OutputItem.toolItem =
      (succeeded options attempt callbacks).toolUses.map
        (buildPreparedResponsesToolOutputItem options.toolIdentities) := by
    rw [List.filterMap_append, lastTools]
    exact calls
  refine ⟨events, response, done ++ last, ends.sent, whole, ?_, tools, ?_⟩
  · change response.outputText = textsOf .message (done ++ last)
    rw [ends.outputText]
    unfold textsOf at lastText ⊢
    rw [List.flatMap_append, lastText, List.append_nil]
  · intro silent
    rw [show (succeeded options attempt callbacks).toolUses = [] from silent] at tools
    change (done ++ last).any (OutputItem.isText .message) = true
    rw [List.any_append, Bool.or_eq_true]
    by_cases visible : done.any OutputItem.visible = true
    · left
      obtain ⟨item, member, seen⟩ := List.any_eq_true.mp visible
      refine List.any_eq_true.mpr ⟨item, member, ?_⟩
      have hidden := List.filterMap_eq_nil_iff.mp tools item (List.mem_append_left _ member)
      cases item with
      | tool item => exact absurd hidden (Option.some_ne_none item)
      | text kind id text => exact seen
    · right
      have added : last = [.text .message id []] := if_neg visible
      rw [added]
      rfl

end Calls

end KiroProxy.Responses
