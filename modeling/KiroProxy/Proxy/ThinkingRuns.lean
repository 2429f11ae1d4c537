import KiroProxy.Proxy.ThinkingReading

/-!
# Runs of the thinking scanner

A whole answer is a list of deltas and tool calls. The text between two tool calls is a
stretch. The first of a reasoning delta and a thinking tag decides where the reasoning
of the answer comes from.
-/

namespace KiroProxy.ThinkingScanner

open Foundation Foundation.Searching
open Foundation.Delimited (Delimiters)
open Foundation.Delimited.Delimiters

set_option autoImplicit false

/-- The text up to the next tool call. -/
def stretch : List StreamEvent → Runes
  | [] => []
  | .text delta false :: events => delta ++ stretch events
  | .text _ true :: events => stretch events
  | .toolUse _ :: _ => []

/-- The texts after the next tool call and between the tool calls that follow. -/
def laterStretches : List StreamEvent → List Runes
  | [] => []
  | .text _ _ :: events => laterStretches events
  | .toolUse _ :: events => stretch events :: laterStretches events

def stretches (events : List StreamEvent) : List Runes :=
  stretch events :: laterStretches events

def reasoningDeltas : List StreamEvent → Runes
  | [] => []
  | .text delta true :: events => delta ++ reasoningDeltas events
  | .text _ false :: events => reasoningDeltas events
  | .toolUse _ :: events => reasoningDeltas events

/-- Whether a reasoning delta or a thinking tag comes first, after text of the current
stretch that has no tag. -/
def firstSource : Runes → List StreamEvent → ThinkingStreamSource
  | _, [] => .unknown
  | text, .text delta true :: events =>
      if delta = [] then firstSource text events else .reasoningEvent
  | text, .text delta false :: events =>
      match indexOf thinkingOpenTag (text ++ delta) with
      | some _ => .tagBlock
      | none => firstSource (text ++ delta) events
  | _, .toolUse _ :: events => firstSource [] events

theorem first_source_without {events : List StreamEvent} (none : reasoningDeltas events = [])
    (text : Runes) : firstSource text events ≠ .reasoningEvent := by
  induction events generalizing text with
  | nil => simp [firstSource]
  | cons event events ih =>
      cases event with
      | text delta isThinking =>
          cases isThinking with
          | true =>
              rw [reasoningDeltas, List.append_eq_nil_iff] at none
              rw [firstSource, if_pos none.1]
              exact ih none.2 text
          | false =>
              rw [reasoningDeltas] at none
              rw [firstSource]
              split
              · simp
              · exact ih none _
      | toolUse call =>
          rw [reasoningDeltas] at none
          rw [firstSource]
          exact ih none []

theorem first_source_event {events : List StreamEvent} {text : Runes}
    (event : firstSource text events = .reasoningEvent) : reasoningDeltas events ≠ [] :=
  fun none => first_source_without none text event

/-- The sends that a scanner still makes. -/
def sendsAfter (thinking : Bool) : StreamScanner → List StreamEvent → List Send
  | scanner, [] =>
      let flushed := scanner.processText thinking [] false true
      flushed.2 ++ (if flushed.1.eventThinkingOpen then [⟨[], 3⟩] else [])
  | scanner, .text delta isThinking :: events =>
      if delta = [] then sendsAfter thinking scanner events
      else
        let processed := scanner.processText thinking delta isThinking false
        processed.2 ++ sendsAfter thinking processed.1 events
  | scanner, .toolUse _ :: events =>
      let flushed := scanner.processText thinking [] false true
      flushed.2 ++ sendsAfter thinking flushed.1 events

def toolCalls : List StreamEvent → List KiroTypes.KiroToolUse
  | [] => []
  | .text _ _ :: events => toolCalls events
  | .toolUse call :: events => call :: toolCalls events

theorem run_sends (thinking : Bool) (events : List StreamEvent) (run : StreamRun) :
    ((events.foldl (StreamRun.onEvent thinking) run).finish thinking).sends =
        run.sends ++ sendsAfter thinking run.scanner events ∧
      ((events.foldl (StreamRun.onEvent thinking) run).finish thinking).toolUses =
        run.toolUses ++ toolCalls events := by
  induction events generalizing run with
  | nil =>
      rw [List.foldl_nil, sendsAfter, toolCalls, List.append_nil]
      unfold StreamRun.finish StreamRun.process
      cases opened : (run.scanner.processText thinking [] false true).1.eventThinkingOpen <;>
        simp [opened]
  | cons event events ih =>
      rw [List.foldl_cons]
      obtain ⟨sends, calls⟩ := ih (run.onEvent thinking event)
      rw [sends, calls]
      cases event with
      | text delta isThinking =>
          rw [StreamRun.onEvent, sendsAfter, toolCalls]
          split_ifs
          · exact ⟨rfl, rfl⟩
          · simp only [StreamRun.process, List.append_assoc, and_self]
      | toolUse call =>
          rw [StreamRun.onEvent, sendsAfter, toolCalls]
          simp only [StreamRun.process, List.append_assoc, List.singleton_append, and_self]

theorem stream_sends (thinking : Bool) (events : List StreamEvent) :
    (StreamRun.stream thinking events).sends = sendsAfter thinking .start events :=
  (run_sends thinking events .start).1

theorem stream_tool_uses (thinking : Bool) (events : List StreamEvent) :
    (StreamRun.stream thinking events).toolUses = toolCalls events :=
  (run_sends thinking events .start).2

theorem collect_from (events : List StreamEvent) (collected : Collected) :
    events.foldl Collected.onEvent collected =
      ⟨collected.content ++ (stretches events).flatten,
        collected.thinkingContent ++ reasoningDeltas events,
        collected.toolUses ++ toolCalls events⟩ := by
  induction events generalizing collected with
  | nil => simp [stretches, stretch, laterStretches, reasoningDeltas, toolCalls]
  | cons event events ih =>
      rw [List.foldl_cons, ih]
      cases event with
      | text delta isThinking =>
          cases isThinking <;>
            simp [Collected.onEvent, stretches, stretch, laterStretches, reasoningDeltas,
              toolCalls]
      | toolUse call =>
          simp [Collected.onEvent, stretches, stretch, laterStretches, reasoningDeltas,
            toolCalls]

theorem collect_eq (events : List StreamEvent) :
    collect events =
      ⟨(stretches events).flatten, reasoningDeltas events, toolCalls events⟩ := by
  rw [collect, collect_from]
  rfl

section Sources

/-- A scanner without a source is outside a block, and what it has let go of has no tag
and cannot start one. -/
def Unread (scanner : StreamScanner) (text : Runes) : Prop :=
  scanner.thinkingSource = .unknown →
    scanner.inThinkingBlock = false ∧ ¬thinkingOpenTag <:+: text ∧
      ∃ released, text = released ++ scanner.textBuffer ∧
        (released = [] ∨ thinkingOpenTag.length ≤ scanner.textBuffer.length + 1)

theorem open_missing_iff (text : Runes) :
    indexOf thinkingOpenTag text = none ↔ ¬thinkingOpenTag <:+: text :=
  index_none_iff _ _ (open_nonempty thinkingTags)

theorem unread_tag {scanner : StreamScanner} {text : Runes} (unread : Unread scanner text)
    (unknown : scanner.thinkingSource = .unknown) (delta : Runes) :
    thinkingOpenTag <:+: text ++ delta ↔ thinkingOpenTag <:+: scanner.textBuffer ++ delta := by
  obtain ⟨_, absent, released, split, long⟩ := unread unknown
  rw [split, List.append_assoc]
  constructor
  · intro occurs
    by_contra missing
    rcases long with empty | long
    · rw [empty] at occurs
      exact missing occurs
    · rw [split] at absent
      exact absent_behind (held_back absent long delta) missing occurs
  · intro occurs
    exact occurs.trans (List.suffix_append released _).isInfix

theorem scan_loop_known (forceFlush : Bool) (fuel : Nat) (scanner : StreamScanner)
    (held : scanner.Held) (enough : scanner.textBuffer.length < fuel)
    (known : scanner.thinkingSource ≠ .unknown) :
    (scanner.scanLoop forceFlush fuel).1.thinkingSource ≠ .unknown := by
  cases forceFlush with
  | true => exact (StreamScanner.scan_loop_flushes fuel scanner held enough).known known
  | false => exact (StreamScanner.scan_loop_advances fuel scanner held enough).known known

/-- The first tag a scanner without a source meets makes the tags its source. -/
theorem scan_loop_found (forceFlush : Bool) (scanner : StreamScanner)
    (outside : scanner.inThinkingBlock = false)
    (found : thinkingOpenTag <:+: scanner.textBuffer) :
    (scanner.scanLoop forceFlush (scanner.textBuffer.length + 1)).1.thinkingSource ≠
      .unknown := by
  obtain ⟨thinkingStart, index⟩ := Option.ne_none_iff_exists'.mp (fun none =>
    (open_missing_iff _).mp none found)
  obtain ⟨next, sends, round, advances, less⟩ :=
    StreamScanner.scan_answer_opens forceFlush scanner thinkingStart index outside
  have known : next.thinkingSource ≠ .unknown := by
    have same : next = (scanner.scanAnswer forceFlush).1 := by rw [round]
    rw [same, StreamScanner.scanAnswer, index]
    exact (StreamScanner.allow_tag_source scanner.thinkingSource).2.1
  rw [StreamScanner.scanLoop, StreamScanner.scanRound, outside, if_neg (by simp), round]
  exact scan_loop_known forceFlush _ next advances.held less known

theorem scan_loop_missing (forceFlush : Bool) (fuel : Nat) (scanner : StreamScanner)
    (outside : scanner.inThinkingBlock = false)
    (missing : ¬thinkingOpenTag <:+: scanner.textBuffer) :
    let scanned := scanner.scanLoop forceFlush (fuel + 1)
    let next := scanned.1
    next.thinkingSource = scanner.thinkingSource ∧ reasoningText true scanned.2 = [] ∧
      next.inThinkingBlock = false ∧ ∃ released, scanner.textBuffer = released ++ next.textBuffer ∧
        (forceFlush = false →
          released = [] ∨ thinkingOpenTag.length ≤ next.textBuffer.length + 1) := by
  have index := (open_missing_iff _).mpr missing
  rw [StreamScanner.scanLoop, StreamScanner.scanRound, outside, if_neg (by simp),
    StreamScanner.scanAnswer, index]
  have stays : scanner.thinkingSource = scanner.thinkingSource ∧
      reasoningText true [] = [] ∧ scanner.inThinkingBlock = false ∧
      ∃ released, scanner.textBuffer = released ++ scanner.textBuffer ∧
        (forceFlush = false →
          released = [] ∨ thinkingOpenTag.length ≤ scanner.textBuffer.length + 1) :=
    ⟨rfl, rfl, outside, [], rfl, fun _ => Or.inl rfl⟩
  by_cases long : (forceFlush || decide (50 < scanner.textBuffer.length)) = true
  · simp only [long, if_true]
    by_cases some : 0 < (if forceFlush then scanner.textBuffer.length
        else scanner.textBuffer.length - 15)
    · rw [if_pos some]
      refine ⟨rfl, StreamScanner.reasoning_text_one _, outside, _,
        (List.take_append_drop _ _).symm, ?_⟩
      intro waits
      right
      have tag : thinkingOpenTag.length = 10 := by decide
      rw [waits, Bool.false_or, decide_eq_true_eq] at long
      simp only [tag, waits, Bool.false_eq_true, if_false, List.length_drop]
      omega
    · rw [if_neg some]
      exact stays
  · rw [if_neg long]
    exact stays

theorem source_tag {source : ThinkingStreamSource} (known : source ≠ .unknown)
    (tags : source ≠ .reasoningEvent) : source = .tagBlock := by
  cases source with
  | unknown => exact absurd rfl known
  | reasoningEvent => exact absurd rfl tags
  | tagBlock => rfl

end Sources

section Reads

/-- A delta of the answer settles the source of a run as soon as its text has a tag. -/
theorem process_delta (thinking : Bool) (delta : Runes) {scanner : StreamScanner}
    (held : scanner.Held) {text : Runes} (unread : Unread scanner text) :
    let processed := scanner.processText thinking delta false false
    (scanner.thinkingSource = .unknown →
      match indexOf thinkingOpenTag (text ++ delta) with
      | some _ => processed.1.thinkingSource = .tagBlock
      | none => processed.1.thinkingSource = .unknown ∧ reasoningText true processed.2 = []) ∧
    Unread processed.1 (text ++ delta) := by
  have advances := StreamScanner.process_text_advances thinking delta scanner held
  obtain ⟨ended, answer, reasoning, processed⟩ :=
    StreamScanner.process_text_fed thinking delta false scanner
  rw [processed] at advances ⊢
  refine ⟨?_, ?_⟩
  · intro unknown
    have outside := (unread unknown).1
    split
    · rename_i index found
      have occurs : thinkingOpenTag <:+: text ++ delta := by
        by_contra absent
        have none := (open_missing_iff _).mpr absent
        rw [none] at found
        exact absurd found (by simp)
      apply source_tag
      · exact scan_loop_found false (scanner.fed delta) outside
          ((unread_tag unread unknown delta).mp occurs)
      · rw [ne_eq, advances.source]
        exact fun event => absurd (unknown.symm.trans event) (by simp)
    · rename_i none
      have absent := (open_missing_iff _).mp none
      rw [unread_tag unread unknown delta] at absent
      obtain ⟨source, silent, _⟩ :=
        scan_loop_missing false (scanner.fed delta).textBuffer.length (scanner.fed delta)
          outside absent
      refine ⟨source.trans unknown, ?_⟩
      rw [reasoning_text_append, reasoning, List.nil_append]
      exact silent
  · intro nextUnknown
    have unknown : scanner.thinkingSource = .unknown := by
      by_contra known
      exact advances.known known nextUnknown
    obtain ⟨outside, _, released, split, long⟩ := unread unknown
    have absent : ¬thinkingOpenTag <:+: scanner.textBuffer ++ delta := by
      intro occurs
      exact scan_loop_found false (scanner.fed delta) outside occurs nextUnknown
    obtain ⟨_, _, outsideNext, more, rest, longNext⟩ :=
      scan_loop_missing false (scanner.fed delta).textBuffer.length (scanner.fed delta)
        outside absent
    refine ⟨outsideNext, (unread_tag unread unknown delta).not.mpr absent, released ++ more, ?_, ?_⟩
    · rw [split, List.append_assoc, List.append_assoc]
      exact congrArg (released ++ ·) rest
    · rcases longNext rfl with empty | long'
      · rcases long with first | long
        · exact Or.inl (by rw [first, empty, List.append_nil])
        · right
          rw [empty, List.nil_append] at rest
          have length : (scanner.fed delta).textBuffer.length =
              scanner.textBuffer.length + delta.length := List.length_append
          dsimp only
          rw [← rest, length]
          omega
      · exact Or.inr long'

/-- A flush finds no tag where none has been read. -/
theorem process_flush (thinking : Bool) {scanner : StreamScanner} {text : Runes}
    (unread : Unread scanner text) :
    let processed := scanner.processText thinking [] false true
    scanner.thinkingSource = .unknown → processed.1.thinkingSource = .unknown ∧
      reasoningText true processed.2 = [] := by
  obtain ⟨ended, answer, reasoning, processed⟩ :=
    StreamScanner.process_text_fed thinking [] true scanner
  rw [processed]
  intro _ unknown
  obtain ⟨outside, absent, _⟩ := unread unknown
  have missing : ¬thinkingOpenTag <:+: scanner.textBuffer ++ [] := by
    rw [← unread_tag unread unknown, List.append_nil]
    exact absent
  obtain ⟨source, silent, _⟩ :=
    scan_loop_missing true (scanner.fed []).textBuffer.length (scanner.fed []) outside missing
  refine ⟨source.trans unknown, ?_⟩
  rw [reasoning_text_append, reasoning, List.nil_append]
  exact silent

theorem unread_flushed {scanner : StreamScanner} (outside : scanner.inThinkingBlock = false)
    (empty : scanner.textBuffer = []) : Unread scanner [] := by
  intro _
  refine ⟨outside, by decide, [], ?_, Or.inl rfl⟩
  rw [empty]
  rfl

theorem held_outside {scanner : StreamScanner} (outside : scanner.inThinkingBlock = false) :
    scanner.Held := by
  intro inside
  rw [outside] at inside
  exact absurd inside (by simp)

/-- The source of the reasoning of a run from its scanner on. -/
def runSource (scanner : StreamScanner) (text : Runes) (events : List StreamEvent) :
    ThinkingStreamSource :=
  if scanner.thinkingSource = .unknown then firstSource text events
  else scanner.thinkingSource

def runReasoning (source : ThinkingStreamSource) (events : List StreamEvent)
    (thought : Runes) : Runes :=
  if source = .reasoningEvent then reasoningDeltas events else thought

theorem run_source_known {scanner : StreamScanner} (known : scanner.thinkingSource ≠ .unknown)
    (text : Runes) (events : List StreamEvent) :
    runSource scanner text events = scanner.thinkingSource :=
  if_neg known

theorem run_source_unknown {scanner : StreamScanner}
    (unknown : scanner.thinkingSource = .unknown) (text : Runes) (events : List StreamEvent) :
    runSource scanner text events = firstSource text events :=
  if_pos unknown

theorem run_source_event {scanner : StreamScanner}
    (event : scanner.thinkingSource = .reasoningEvent) (text : Runes)
    (events : List StreamEvent) : runSource scanner text events = .reasoningEvent := by
  rw [run_source_known (by rw [event]; simp), event]

/-- The source of a run is the source of what is left of it, as far as events go. -/
theorem run_source_delta {scanner next : StreamScanner} {text delta : Runes}
    {sends : List Send} (events : List StreamEvent)
    (source : next.thinkingSource = .reasoningEvent ↔ scanner.thinkingSource = .reasoningEvent)
    (known : scanner.thinkingSource ≠ .unknown → next.thinkingSource ≠ .unknown)
    (first : scanner.thinkingSource = .unknown →
      match indexOf thinkingOpenTag (text ++ delta) with
      | some _ => next.thinkingSource = .tagBlock
      | none => next.thinkingSource = .unknown ∧ reasoningText true sends = []) :
    (runSource next (text ++ delta) events = .reasoningEvent ↔
      runSource scanner text (.text delta false :: events) = .reasoningEvent) ∧
    (runSource scanner text (.text delta false :: events) = .reasoningEvent →
      scanner.thinkingSource = .unknown → reasoningText true sends = []) := by
  by_cases unknown : scanner.thinkingSource = .unknown
  · rw [run_source_unknown unknown, firstSource]
    have next' := first unknown
    split at next'
    · rw [run_source_known (by rw [next']; simp), next']
      exact ⟨Iff.rfl, fun tag => absurd tag (by simp)⟩
    · rw [run_source_unknown next'.1]
      exact ⟨Iff.rfl, fun _ _ => next'.2⟩
  · rw [run_source_known (known unknown), run_source_known unknown]
    exact ⟨source, fun _ same => absurd same unknown⟩

theorem run_source_flush {scanner next : StreamScanner} {text : Runes} {sends : List Send}
    (call : KiroTypes.KiroToolUse) (events : List StreamEvent)
    (source : next.thinkingSource = .reasoningEvent ↔ scanner.thinkingSource = .reasoningEvent)
    (known : scanner.thinkingSource ≠ .unknown → next.thinkingSource ≠ .unknown)
    (first : scanner.thinkingSource = .unknown →
      next.thinkingSource = .unknown ∧ reasoningText true sends = []) :
    (runSource next [] events = .reasoningEvent ↔
      runSource scanner text (.toolUse call :: events) = .reasoningEvent) ∧
    (runSource scanner text (.toolUse call :: events) = .reasoningEvent →
      scanner.thinkingSource = .unknown → reasoningText true sends = []) := by
  by_cases unknown : scanner.thinkingSource = .unknown
  · rw [run_source_unknown unknown, run_source_unknown (first unknown).1, firstSource]
    exact ⟨Iff.rfl, fun _ _ => (first unknown).2⟩
  · rw [run_source_known (known unknown), run_source_known unknown]
    exact ⟨source, fun _ same => absurd same unknown⟩

/-- The reasoning of one step of a run stands before the reasoning of the rest. -/
theorem run_reasoning_step {scanner next : StreamScanner} {text textNext : Runes}
    {event : StreamEvent} {events : List StreamEvent} {sends rest : List Send}
    {thought more : Runes}
    (deltas : reasoningDeltas (event :: events) = reasoningDeltas events)
    (source : runSource next textNext events = .reasoningEvent ↔
      runSource scanner text (event :: events) = .reasoningEvent)
    (sent : reasoningText true sends = tagText scanner.thinkingSource thought)
    (silent : runSource scanner text (event :: events) = .reasoningEvent →
      scanner.thinkingSource = .unknown → reasoningText true sends = [])
    (later : reasoningText true rest = runReasoning (runSource next textNext events) events more) :
    reasoningText true (sends ++ rest) =
      runReasoning (runSource scanner text (event :: events)) (event :: events)
        (thought ++ more) := by
  rw [reasoning_text_append, later]
  unfold runReasoning
  by_cases first : runSource scanner text (event :: events) = .reasoningEvent
  · have none : reasoningText true sends = [] := by
      by_cases unknown : scanner.thinkingSource = .unknown
      · exact silent first unknown
      · rw [run_source_known unknown] at first
        rw [sent, tagText, if_pos first]
    rw [if_pos first, if_pos (source.mpr first), deltas, none, List.nil_append]
  · have kept : scanner.thinkingSource ≠ .reasoningEvent :=
      fun event => first (run_source_event event _ _)
    rw [if_neg first, if_neg (fun other => first (source.mp other)), sent, tagText, if_neg kept]

/-- A reasoning delta is sent unless the tags have come first. -/
theorem process_reasoning {delta : Runes} (some : delta ≠ []) {scanner : StreamScanner}
    (held : scanner.Held) {text : Runes} (unread : Unread scanner text)
    (events : List StreamEvent) :
    let processed := scanner.processText true delta true false
    processed.1.inThinkingBlock = scanner.inThinkingBlock ∧
      processed.1.textBuffer = scanner.textBuffer ∧ answerText processed.2 = [] ∧
      processed.1.Held ∧ Unread processed.1 text ∧
      runSource processed.1 text events = runSource scanner text (.text delta true :: events) ∧
      reasoningText true processed.2 =
        if runSource processed.1 text events = .reasoningEvent then delta else [] := by
  by_cases tags : scanner.thinkingSource = .tagBlock
  · have refused : scanner.processText true delta true false = (scanner, []) := by
      cases scanner with
      | mk textBuffer inThinkingBlock dropTagThinking source started eventOpen =>
          dsimp only at tags
          rw [tags]
          rfl
    have source (rest : List StreamEvent) : runSource scanner text rest = .tagBlock := by
      rw [run_source_known (by rw [tags]; simp), tags]
    rw [refused]
    refine ⟨rfl, rfl, rfl, held, unread, by rw [source, source], ?_⟩
    rw [source]
    rfl
  · obtain ⟨started, eventOpen, sends, taken, answer, reasoning⟩ :
        ∃ started eventOpen sends, scanner.processText true delta true false =
          ({ scanner with
              thinkingSource := .reasoningEvent
              thinkingStarted := started
              eventThinkingOpen := eventOpen }, sends) ∧
          answerText sends = [] ∧ reasoningText true sends = delta := by
      unfold StreamScanner.processText allowReasoningSource
      rw [if_neg tags]
      cases started : scanner.thinkingStarted with
      | true => exact ⟨true, scanner.eventThinkingOpen, [⟨delta, 2⟩], by simp,
          by simp [answerText], by simp [reasoningText]⟩
      | false => exact ⟨true, true, [⟨delta, 1⟩], by simp,
          by simp [answerText], by simp [reasoningText]⟩
    rw [taken]
    refine ⟨rfl, rfl, answer, ?_, ?_, ?_, ?_⟩
    · intro inside
      refine ⟨by simp, ?_⟩
      obtain ⟨known, drops⟩ := held inside
      have event : scanner.thinkingSource = .reasoningEvent := by
        by_contra other
        exact tags (source_tag known other)
      exact ⟨fun _ => rfl, fun _ => drops.mpr event⟩
    · intro unknown
      exact absurd unknown (by simp)
    · rw [run_source_event rfl]
      by_cases unknown : scanner.thinkingSource = .unknown
      · rw [run_source_unknown unknown, firstSource, if_neg some]
      · rw [run_source_known unknown]
        by_contra other
        exact tags (source_tag unknown (Ne.symm other))
    · rw [run_source_event rfl, if_pos rfl]
      exact reasoning

theorem run_source_empty {scanner : StreamScanner} {text : Runes} (unread : Unread scanner text)
    (isThinking : Bool) (events : List StreamEvent) :
    runSource scanner text (.text [] isThinking :: events) = runSource scanner text events := by
  by_cases unknown : scanner.thinkingSource = .unknown
  · rw [run_source_unknown unknown, run_source_unknown unknown]
    cases isThinking with
    | true => rw [firstSource, if_pos rfl]
    | false =>
        have none := (open_missing_iff _).mpr (unread unknown).2.1
        rw [firstSource, List.append_nil, none]
  · rw [run_source_known unknown, run_source_known unknown]

theorem run_reasoning_empty (source : ThinkingStreamSource) (isThinking : Bool)
    (events : List StreamEvent) (thought : Runes) :
    runReasoning source (.text [] isThinking :: events) thought =
      runReasoning source events thought := by
  cases isThinking <;> rfl

theorem stretch_empty (isThinking : Bool) (events : List StreamEvent) :
    stretch (.text [] isThinking :: events) = stretch events := by
  cases isThinking <;> rfl

/-- The run of a scanner over the rest of an answer. -/
theorem run_reads (thinking : Bool) (events : List StreamEvent) {scanner : StreamScanner}
    (held : scanner.Held) {text : Runes} (unread : Unread scanner text) :
    ∃ thought,
      thinkingTags.ReadsFrom scanner.inThinkingBlock (scanner.textBuffer ++ stretch events)
        (laterStretches events) (answerText (sendsAfter thinking scanner events)) thought ∧
      (thinking = true → reasoningText true (sendsAfter thinking scanner events) =
        runReasoning (runSource scanner text events) events thought) := by
  induction events generalizing scanner text with
  | nil =>
      have silent := process_flush thinking unread
      obtain ⟨_, _, source, known, thought, sent, reads⟩ :=
        StreamScanner.process_text_flushes thinking scanner held
      have ended (opened : Bool) : answerText (if opened then [⟨[], 3⟩] else []) = [] ∧
          reasoningText true (if opened then [⟨[], 3⟩] else []) = [] := by
        cases opened <;> exact ⟨rfl, rfl⟩
      refine ⟨thought, ?_, ?_⟩
      · have whole := reads [] [] [] ⟨0, 0, Reading.done⟩
        rw [sendsAfter, answer_text_append, (ended _).1, stretch, laterStretches]
        simpa only [List.append_nil] using whole
      · intro _
        rw [sendsAfter, reasoning_text_append, (ended _).2, List.append_nil]
        by_cases unknown : scanner.thinkingSource = .unknown
        · rw [run_source_unknown unknown, sent, unknown]
          rfl
        · rw [run_source_known unknown, sent]
          rfl
  | cons event events ih =>
      cases event with
      | toolUse call =>
          have silent := process_flush thinking unread
          obtain ⟨outside, empty, source, known, thought, sent, reads⟩ :=
            StreamScanner.process_text_flushes thinking scanner held
          obtain ⟨more, readsLater, later⟩ := ih (held_outside outside)
            (unread_flushed outside empty)
          obtain ⟨same, quiet⟩ := @run_source_flush scanner _ text _ call events source known silent
          rw [sendsAfter, stretch, laterStretches]
          refine ⟨thought ++ more, ?_, ?_⟩
          · rw [outside, empty, List.nil_append] at readsLater
            cases readsLater with
            | outside next =>
                rw [answer_text_append, List.append_nil]
                exact reads _ _ _ next
          · intro on
            exact run_reasoning_step rfl same sent quiet (later on)
      | text delta isThinking =>
          by_cases empty : delta = []
          · obtain ⟨thought, reads, later⟩ := ih held unread
            rw [empty, sendsAfter, if_pos rfl, stretch_empty, laterStretches]
            refine ⟨thought, reads, ?_⟩
            rw [run_source_empty unread, run_reasoning_empty]
            exact later
          · rw [sendsAfter, if_neg empty, laterStretches]
            cases isThinking with
            | true =>
                rw [stretch]
                cases thinking with
                | false =>
                    obtain ⟨thought, reads, _⟩ := ih held unread
                    exact ⟨thought, reads, fun on => absurd on (by simp)⟩
                | true =>
                    obtain ⟨block, buffer, answer, heldNext, unreadNext, source, sent⟩ :=
                      process_reasoning empty held unread events
                    obtain ⟨thought, reads, later⟩ := ih heldNext unreadNext
                    refine ⟨thought, ?_, ?_⟩
                    · rw [answer_text_append, answer, ← block, ← buffer]
                      exact reads
                    · intro on
                      rw [reasoning_text_append, later on, sent, ← source]
                      unfold runReasoning
                      split_ifs <;> rfl
            | false =>
                rw [stretch]
                obtain ⟨first, unreadNext⟩ := process_delta thinking delta held unread
                obtain ⟨heldNext, source, known, thought, sent, reads⟩ :=
                  StreamScanner.process_text_advances thinking delta scanner held
                obtain ⟨more, readsLater, later⟩ := ih heldNext unreadNext
                obtain ⟨same, quiet⟩ := run_source_delta events source known first
                refine ⟨thought ++ more, ?_, ?_⟩
                · rw [answer_text_append, ← List.append_assoc]
                  exact reads _ _ _ _ readsLater
                · intro on
                  exact run_reasoning_step rfl same sent quiet (later on)

/-- The stream of an answer shows what its stretches read as from left to right. -/
theorem stream_reads (thinking : Bool) (events : List StreamEvent) :
    ∃ opened closed thought,
      thinkingTags.Reading (stretches events)
        (answerText (StreamRun.stream thinking events).sends) thought opened closed ∧
      (thinking = true → reasoningText true (StreamRun.stream thinking events).sends =
        runReasoning (firstSource [] events) events thought) := by
  have held : StreamScanner.start.Held := held_outside rfl
  have unread : Unread StreamScanner.start [] := unread_flushed rfl rfl
  obtain ⟨thought, reads, later⟩ := run_reads thinking events held unread
  rw [stream_sends]
  rw [run_source_unknown rfl] at later
  cases reads with
  | outside reads =>
      obtain ⟨opened, closed, reading⟩ := reads
      exact ⟨opened, closed, thought, reading, later⟩

end Reads

end KiroProxy.ThinkingScanner
