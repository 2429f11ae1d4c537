import KiroProxy.Proxy.ThinkingReading

/-!
# The order of the sends

Reasoning is sent in runs: a first piece, later ones and a last one, with no answer text and
no other run between. A tool call and the end of an answer find no run open.
-/

namespace KiroProxy.ThinkingScanner

open Foundation.Searching

set_option autoImplicit false

/-- Whether a run of reasoning is open behind a send; none where the send is out of order. -/
def sendMark (marked : Bool) (send : Send) : Option Bool :=
  if send.thinkingState = 0 then if marked then none else some false
  else if send.thinkingState = 1 then if marked then none else some true
  else if send.thinkingState = 2 then if marked then some true else none
  else if marked then some false else none

def sendMarks : Bool → List Send → Option Bool
  | marked, [] => some marked
  | marked, send :: sends => (sendMark marked send).bind fun next => sendMarks next sends

theorem send_marks_append (marked : Bool) (earlier later : List Send) :
    sendMarks marked (earlier ++ later) =
      (sendMarks marked earlier).bind fun next => sendMarks next later := by
  induction earlier generalizing marked with
  | nil => rfl
  | cons send earlier ih =>
      rw [List.cons_append, sendMarks, sendMarks, Option.bind_assoc]
      congr 1
      funext next
      exact ih next

theorem send_marks_then {first middle last : Bool} {earlier later : List Send}
    (left : sendMarks first earlier = some middle) (right : sendMarks middle later = some last) :
    sendMarks first (earlier ++ later) = some last := by
  rw [send_marks_append, left]
  exact right

namespace StreamScanner

/-- A run of reasoning is open exactly while thinking has started, from an event or in a
block whose text is not dropped and not sent yet. -/
structure Paired (scanner : StreamScanner) : Prop where
  held : scanner.Held
  event : scanner.eventThinkingOpen = true → scanner.thinkingStarted = true
  block : scanner.eventThinkingOpen = false → scanner.thinkingStarted = true →
    scanner.inThinkingBlock = true ∧ scanner.textBuffer ≠ [] ∧ scanner.dropTagThinking = false

theorem start_paired : Paired start := by
  constructor
  · exact fun inside => absurd inside Bool.false_ne_true
  · exact fun opened => absurd opened Bool.false_ne_true
  · exact fun _ started => absurd started Bool.false_ne_true

/-- A step that leaves no event open and sends in order. -/
structure Steps (scanner next : StreamScanner) (sends : List Send) : Prop where
  paired : next.Paired
  closed : next.eventThinkingOpen = false
  marks : sendMarks scanner.thinkingStarted sends = some next.thinkingStarted

theorem steps_trans {scanner middle next : StreamScanner} {earlier later : List Send}
    (left : Steps scanner middle earlier) (right : Steps middle next later) :
    Steps scanner next (earlier ++ later) :=
  ⟨right.paired, right.closed, send_marks_then left.marks right.marks⟩

theorem outside_not_started {scanner : StreamScanner} (paired : scanner.Paired)
    (closed : scanner.eventThinkingOpen = false) (outside : scanner.inThinkingBlock = false) :
    scanner.thinkingStarted = false := by
  rw [Bool.eq_false_iff]
  intro started
  have inside := (paired.block closed started).1
  rw [outside] at inside
  exact Bool.false_ne_true inside

theorem answer_marks (text : Runes) (started : Bool) (none : started = false) :
    sendMarks started [⟨text, 0⟩] = some started := by
  rw [none]
  rfl

theorem scan_answer_steps (forceFlush : Bool) (scanner : StreamScanner)
    (paired : scanner.Paired) (closed : scanner.eventThinkingOpen = false)
    (outside : scanner.inThinkingBlock = false) :
    Steps scanner (scanner.scanAnswer forceFlush).1 (scanner.scanAnswer forceFlush).2.1 := by
  have idle := outside_not_started paired closed outside
  have released (count : Nat) :
      Steps scanner { scanner with textBuffer := scanner.textBuffer.drop count }
        [⟨scanner.textBuffer.take count, 0⟩] := by
    refine ⟨⟨paired.held, paired.event, ?_⟩, closed, answer_marks _ _ idle⟩
    intro _ started
    rw [idle] at started
    exact absurd started Bool.false_ne_true
  have unchanged : Steps scanner scanner [] := ⟨paired, closed, rfl⟩
  unfold scanAnswer
  cases found : indexOf thinkingOpenTag scanner.textBuffer with
  | some thinkingStart =>
      simp only
      have source := allow_tag_source scanner.thinkingSource
      constructor
      · constructor
        · intro _
          refine ⟨source.2.1, ?_⟩
          rw [source.2.2, ← source.1]
          simp
        · intro opened
          rw [closed] at opened
          exact absurd opened Bool.false_ne_true
        · exact fun _ started => absurd started Bool.false_ne_true
      · exact closed
      · split_ifs
        · rw [idle]
          rfl
        · rw [idle]
          rfl
  | none =>
      simp only
      cases forceFlush with
      | true =>
          simp only [Bool.true_or, if_true]
          split_ifs
          · exact released _
          · exact unchanged
      | false =>
          simp only [Bool.false_or, decide_eq_true_eq, Bool.false_eq_true, if_false]
          split_ifs
          · exact released _
          · exact unchanged
          · exact unchanged

/-- The last text of a block ends the run that its first text began, if any. -/
theorem leave_steps (scanner : StreamScanner) (paired : scanner.Paired)
    (closed : scanner.eventThinkingOpen = false) (content rest : Runes) :
    Steps scanner (scanner.leaveBlock rest) (scanner.lastSends content) := by
  constructor
  · constructor
    · exact fun inside => absurd inside Bool.false_ne_true
    · intro opened
      change scanner.eventThinkingOpen = true at opened
      rw [closed] at opened
      exact absurd opened Bool.false_ne_true
    · exact fun _ started => absurd started Bool.false_ne_true
  · exact closed
  · unfold lastSends
    cases started : scanner.thinkingStarted with
    | false =>
        simp only [Bool.false_eq_true, if_false]
        split_ifs <;> rfl
    | true =>
        rw [(paired.block closed started).2.2]
        rfl

theorem scan_thinking_steps (forceFlush : Bool) (scanner : StreamScanner)
    (paired : scanner.Paired) (closed : scanner.eventThinkingOpen = false)
    (inside : scanner.inThinkingBlock = true) :
    Steps scanner (scanner.scanThinking forceFlush).1 (scanner.scanThinking forceFlush).2.1 := by
  unfold scanThinking
  cases found : indexOf thinkingCloseTag scanner.textBuffer with
  | some thinkingEnd => exact leave_steps scanner paired closed _ _
  | none =>
      simp only
      cases forceFlush with
      | true =>
          simp only [if_true]
          split_ifs with some_
          · exact leave_steps scanner paired closed _ _
          · have left := leave_steps scanner paired closed [] scanner.textBuffer
            have idle : scanner.thinkingStarted = false := by
              rw [Bool.eq_false_iff]
              exact fun started => some_ (paired.block closed started).2.1
            refine ⟨left.paired, left.closed, ?_⟩
            rw [idle]
            rfl
      | false =>
          simp only [Bool.false_eq_true, if_false]
          by_cases long : 20 < scanner.textBuffer.length
          · rw [if_pos long]
            have kept : scanner.textBuffer.drop (scanner.textBuffer.length - 15) ≠ [] := by
              rw [ne_eq, List.drop_eq_nil_iff]
              omega
            by_cases dropped : scanner.dropTagThinking = true
            · rw [if_pos dropped]
              refine ⟨⟨paired.held, paired.event, ?_⟩, closed, rfl⟩
              intro _ started
              exact absurd dropped (Bool.eq_false_iff.mp (paired.block closed started).2.2)
            · have shown := Bool.eq_false_iff.mpr dropped
              rw [if_neg dropped]
              by_cases started : scanner.thinkingStarted = true
              · rw [if_pos started]
                refine ⟨⟨paired.held, paired.event, fun _ _ => ⟨inside, kept, shown⟩⟩, closed, ?_⟩
                rw [started]
                rfl
              · rw [if_neg started]
                refine ⟨⟨paired.held, fun _ => rfl, fun _ _ => ⟨inside, kept, shown⟩⟩, closed, ?_⟩
                rw [Bool.eq_false_iff.mpr started]
                rfl
          · rw [if_neg long]
            exact ⟨paired, closed, rfl⟩

theorem scan_loop_steps (forceFlush : Bool) (fuel : Nat) (scanner : StreamScanner)
    (paired : scanner.Paired) (closed : scanner.eventThinkingOpen = false) :
    Steps scanner (scanLoop forceFlush fuel scanner).1 (scanLoop forceFlush fuel scanner).2 := by
  induction fuel generalizing scanner with
  | zero => exact ⟨paired, closed, rfl⟩
  | succ fuel ih =>
      have round : Steps scanner (scanner.scanRound forceFlush).1
          (scanner.scanRound forceFlush).2.1 := by
        unfold scanRound
        cases inside : scanner.inThinkingBlock with
        | false => exact scan_answer_steps forceFlush scanner paired closed inside
        | true => exact scan_thinking_steps forceFlush scanner paired closed inside
      rw [scanLoop]
      rcases same : scanner.scanRound forceFlush with ⟨next, sends, more⟩
      rw [same] at round
      cases more with
      | false => exact round
      | true => exact steps_trans round (ih next round.paired round.closed)

/-- The text that arrives ends the run of a reasoning event. -/
theorem fed_steps (scanner : StreamScanner) (paired : scanner.Paired) (text : Runes) :
    Steps scanner (scanner.fed text)
      (if scanner.eventThinkingOpen then [⟨[], 3⟩] else []) := by
  cases opened : scanner.eventThinkingOpen with
  | true =>
      have started := paired.event opened
      refine ⟨⟨paired.held, ?_, ?_⟩, rfl, ?_⟩
      · exact fun again => absurd again Bool.false_ne_true
      · intro _ again
        rw [fed, opened] at again
        exact absurd again Bool.false_ne_true
      · rw [started, fed, opened]
        rfl
  | false =>
      refine ⟨⟨paired.held, ?_, ?_⟩, rfl, ?_⟩
      · exact fun again => absurd again Bool.false_ne_true
      · intro _ started
        simp only [fed, opened, Bool.false_eq_true, if_false] at started ⊢
        obtain ⟨inside, some_, dropped⟩ := paired.block opened started
        exact ⟨inside, fun none => some_ (List.append_eq_nil_iff.mp none).1, dropped⟩
      · simp only [fed, opened, Bool.false_eq_true, if_false]
        rfl

theorem answer_text_steps (thinking : Bool) (text : Runes) (forceFlush : Bool)
    (scanner : StreamScanner) (paired : scanner.Paired) :
    Steps scanner (scanner.processText thinking text false forceFlush).1
      (scanner.processText thinking text false forceFlush).2 := by
  have fedIn := fed_steps scanner paired text
  have scanned := scan_loop_steps forceFlush ((scanner.fed text).textBuffer.length + 1)
    (scanner.fed text) fedIn.paired fedIn.closed
  have processed : scanner.processText thinking text false forceFlush =
      (((scanner.fed text).scanLoop forceFlush ((scanner.fed text).textBuffer.length + 1)).1,
        (if scanner.eventThinkingOpen then [⟨[], 3⟩] else []) ++
        ((scanner.fed text).scanLoop forceFlush ((scanner.fed text).textBuffer.length + 1)).2) := by
    unfold processText fed
    cases scanner with
    | mk textBuffer inThinkingBlock dropTagThinking source started eventOpen =>
        cases eventOpen <;> simp
  rw [processed]
  exact steps_trans fedIn scanned

/-- The block a reasoning event comes in is one whose text is dropped. -/
theorem event_held {scanner : StreamScanner} (paired : scanner.Paired)
    (source : scanner.thinkingSource ≠ .tagBlock) (inside : scanner.inThinkingBlock = true) :
    scanner.dropTagThinking = true := by
  obtain ⟨known, drops⟩ := paired.held inside
  apply drops.mpr
  cases same : scanner.thinkingSource with
  | unknown => exact absurd same known
  | reasoningEvent => rfl
  | tagBlock => exact absurd same source

/-- A reasoning delta begins a run or goes on with one. -/
theorem reasoning_text_paired (thinking : Bool) (text : Runes) (forceFlush : Bool)
    (scanner : StreamScanner) (paired : scanner.Paired) :
    (scanner.processText thinking text true forceFlush).1.Paired ∧
      sendMarks scanner.thinkingStarted
          (scanner.processText thinking text true forceFlush).2 =
        some (scanner.processText thinking text true forceFlush).1.thinkingStarted := by
  cases thinking with
  | false => exact ⟨paired, rfl⟩
  | true =>
      unfold processText allowReasoningSource
      simp only [Bool.not_true, Bool.and_false, Bool.false_eq_true, if_false, if_true]
      by_cases source : scanner.thinkingSource = .tagBlock
      · simp only [if_pos source, Bool.not_false, if_true]
        exact ⟨⟨paired.held, paired.event, paired.block⟩, rfl⟩
      · have held (next : StreamScanner) (event : next.thinkingSource = .reasoningEvent)
            (block : next.inThinkingBlock = scanner.inThinkingBlock)
            (drop : next.dropTagThinking = scanner.dropTagThinking) : next.Held := by
          intro inside
          rw [block] at inside
          rw [event, drop, event_held paired source inside]
          simp
        simp only [if_neg source, Bool.not_true, Bool.false_eq_true, if_false]
        by_cases started : scanner.thinkingStarted = true
        · simp only [started, Bool.not_true, Bool.false_eq_true, if_false]
          refine ⟨⟨held _ rfl rfl rfl, fun _ => rfl, ?_⟩, rfl⟩
          intro closed _
          obtain ⟨inside, _, shown⟩ := paired.block closed started
          rw [event_held paired source inside] at shown
          exact absurd shown.symm Bool.false_ne_true
        · simp only [Bool.eq_false_iff.mpr started, Bool.not_false, if_true]
          refine ⟨⟨held _ rfl rfl rfl, fun _ => rfl, ?_⟩, rfl⟩
          exact fun closed _ => absurd closed.symm Bool.false_ne_true

/-- However text arrives, its sends are in order. -/
theorem process_text_paired (thinking : Bool) (text : Runes) (isThinking forceFlush : Bool)
    (scanner : StreamScanner) (paired : scanner.Paired) :
    (scanner.processText thinking text isThinking forceFlush).1.Paired ∧
      sendMarks scanner.thinkingStarted
          (scanner.processText thinking text isThinking forceFlush).2 =
        some (scanner.processText thinking text isThinking forceFlush).1.thinkingStarted := by
  cases isThinking with
  | true => exact reasoning_text_paired thinking text forceFlush scanner paired
  | false =>
      have steps := answer_text_steps thinking text forceFlush scanner paired
      exact ⟨steps.paired, steps.marks⟩

/-- A flush leaves no run open. -/
theorem process_text_closes (thinking : Bool) (scanner : StreamScanner)
    (paired : scanner.Paired) :
    (scanner.processText thinking [] false true).1.thinkingStarted = false := by
  have steps := answer_text_steps thinking [] true scanner paired
  have flushed := process_text_flushes thinking scanner paired.held
  exact outside_not_started steps.paired steps.closed flushed.outside

end StreamScanner

end KiroProxy.ThinkingScanner
