import KiroProxy.Proxy.ThinkingScanner
import KiroProxy.Foundation.DelimitedBuffer

/-!
# What the thinking scanner reads

However the deltas are cut, the scanner releases what its text reads as from left to
right: a block that is still open at a tool call or at the end ends there.
-/

namespace KiroProxy.ThinkingScanner

open Foundation Foundation.Searching
open Foundation.Delimited (Delimiters)
open Foundation.Delimited.Delimiters

set_option autoImplicit false

theorem answer_text_append (earlier later : List Send) :
    answerText (earlier ++ later) = answerText earlier ++ answerText later :=
  List.flatMap_append

theorem reasoning_text_append (thinking : Bool) (earlier later : List Send) :
    reasoningText thinking (earlier ++ later) =
      reasoningText thinking earlier ++ reasoningText thinking later :=
  List.flatMap_append

theorem reasoning_text_off (sends : List Send) : reasoningText false sends = [] := by
  simp [reasoningText]

/-- The reasoning of the blocks is dropped once reasoning events have come first. -/
def tagText (source : ThinkingStreamSource) (thought : Runes) : Runes :=
  if source = .reasoningEvent then [] else thought

theorem tag_text_append (source : ThinkingStreamSource) (earlier later : Runes) :
    tagText source (earlier ++ later) = tagText source earlier ++ tagText source later := by
  unfold tagText
  split_ifs <;> rfl

theorem tag_text_nil (source : ThinkingStreamSource) : tagText source [] = [] := by
  unfold tagText
  split_ifs <;> rfl

namespace StreamScanner

/-- In a block the scanner knows whether it drops the text. -/
def Held (scanner : StreamScanner) : Prop :=
  scanner.inThinkingBlock = true →
    scanner.thinkingSource ≠ .unknown ∧
      (scanner.dropTagThinking = true ↔ scanner.thinkingSource = .reasoningEvent)

/-- What the scanner has sent stands before whatever the rest of its text reads as. -/
structure Advances (scanner next : StreamScanner) (sends : List Send) : Prop where
  held : next.Held
  source : next.thinkingSource = .reasoningEvent ↔ scanner.thinkingSource = .reasoningEvent
  known : scanner.thinkingSource ≠ .unknown → next.thinkingSource ≠ .unknown
  reads : ∃ thought, reasoningText true sends = tagText scanner.thinkingSource thought ∧
    ∀ (more : Runes) (later : List Runes) (outside within : Runes),
      thinkingTags.ReadsFrom next.inThinkingBlock (next.textBuffer ++ more) later outside within →
      thinkingTags.ReadsFrom scanner.inThinkingBlock (scanner.textBuffer ++ more) later
        (answerText sends ++ outside) (thought ++ within)

/-- The scanner has sent all of its text and is outside a block again. -/
structure Flushes (scanner next : StreamScanner) (sends : List Send) : Prop where
  outside : next.inThinkingBlock = false
  empty : next.textBuffer = []
  source : next.thinkingSource = .reasoningEvent ↔ scanner.thinkingSource = .reasoningEvent
  known : scanner.thinkingSource ≠ .unknown → next.thinkingSource ≠ .unknown
  reads : ∃ thought, reasoningText true sends = tagText scanner.thinkingSource thought ∧
    ∀ (later : List Runes) (outside within : Runes), thinkingTags.Reads later outside within →
      thinkingTags.ReadsFrom scanner.inThinkingBlock scanner.textBuffer later
        (answerText sends ++ outside) (thought ++ within)

theorem tag_text_source {left right : ThinkingStreamSource}
    (same : left = .reasoningEvent ↔ right = .reasoningEvent) (thought : Runes) :
    tagText left thought = tagText right thought := by
  unfold tagText
  by_cases event : right = .reasoningEvent
  · rw [if_pos event, if_pos (same.mpr event)]
  · rw [if_neg event, if_neg (fun other => event (same.mp other))]

theorem advances_silent {scanner : StreamScanner} {sends : List Send} (held : scanner.Held)
    (answer : answerText sends = []) (reasoning : reasoningText true sends = []) :
    Advances scanner scanner sends := by
  refine ⟨held, Iff.rfl, id, [], ?_, ?_⟩
  · rw [tag_text_nil, reasoning]
  · intro more later outside within reads
    rw [answer]
    exact reads

theorem advances_refl {scanner : StreamScanner} (held : scanner.Held) :
    Advances scanner scanner [] :=
  advances_silent held rfl rfl

theorem advances_trans {scanner middle next : StreamScanner} {earlier later : List Send}
    (first : Advances scanner middle earlier) (second : Advances middle next later) :
    Advances scanner next (earlier ++ later) := by
  obtain ⟨before, sent, firstReads⟩ := first.reads
  obtain ⟨after, sentNext, secondReads⟩ := second.reads
  refine ⟨second.held, second.source.trans first.source, second.known ∘ first.known,
    before ++ after, ?_, ?_⟩
  · rw [reasoning_text_append, sent, sentNext, tag_text_append, tag_text_source first.source]
  · intro more later outside within reads
    rw [answer_text_append, List.append_assoc, List.append_assoc]
    exact firstReads more later _ _ (secondReads more later outside within reads)

theorem flushes_trans {scanner middle next : StreamScanner} {earlier later : List Send}
    (first : Advances scanner middle earlier) (second : Flushes middle next later) :
    Flushes scanner next (earlier ++ later) := by
  obtain ⟨before, sent, firstReads⟩ := first.reads
  obtain ⟨after, sentNext, secondReads⟩ := second.reads
  refine ⟨second.outside, second.empty, second.source.trans first.source,
    second.known ∘ first.known, before ++ after, ?_, ?_⟩
  · rw [reasoning_text_append, sent, sentNext, tag_text_append, tag_text_source first.source]
  · intro later outside within reads
    rw [answer_text_append, List.append_assoc, List.append_assoc]
    have rest := secondReads later outside within reads
    rw [← List.append_nil middle.textBuffer] at rest
    have whole := firstReads [] later _ _ rest
    rwa [List.append_nil] at whole

section Rounds

theorem allow_tag_source (source : ThinkingStreamSource) :
    ((allowTagSource source).1 = false ↔ source = .reasoningEvent) ∧
      (allowTagSource source).2 ≠ .unknown ∧
      ((allowTagSource source).2 = .reasoningEvent ↔ source = .reasoningEvent) := by
  cases source <;> decide

theorem last_sends (scanner : StreamScanner) (content : Runes)
    (drops : scanner.dropTagThinking = true ↔ scanner.thinkingSource = .reasoningEvent) :
    answerText (scanner.lastSends content) = [] ∧
      reasoningText true (scanner.lastSends content) =
        tagText scanner.thinkingSource content := by
  unfold lastSends tagText
  by_cases event : scanner.thinkingSource = .reasoningEvent
  · rw [if_pos (drops.mpr event), if_pos event]
    exact ⟨rfl, rfl⟩
  · rw [if_neg (fun dropped => event (drops.mp dropped)), if_neg event]
    split_ifs <;> simp [answerText, reasoningText]

theorem answer_text_one (text : Runes) : answerText [⟨text, 0⟩] = text := by
  simp [answerText]

theorem reasoning_text_one (text : Runes) : reasoningText true [⟨text, 0⟩] = [] := by
  simp [reasoningText]

/-- A tag at the front of the buffer is taken out with the text before it. -/
theorem scan_answer_opens (forceFlush : Bool) (scanner : StreamScanner) (thinkingStart : Nat)
    (found : indexOf thinkingOpenTag scanner.textBuffer = some thinkingStart)
    (outside : scanner.inThinkingBlock = false) :
    ∃ next sends, scanner.scanAnswer forceFlush = (next, sends, true) ∧
      Advances scanner next sends ∧ next.textBuffer.length < scanner.textBuffer.length := by
  unfold scanAnswer
  rw [found]
  refine ⟨_, _, rfl, ?_, ?_⟩
  · obtain ⟨dropped, known, event⟩ := allow_tag_source scanner.thinkingSource
    have opens := index_first_at _ _ _ found
    have sent : answerText (if 0 < thinkingStart then
        [⟨scanner.textBuffer.take thinkingStart, 0⟩] else []) =
        scanner.textBuffer.take thinkingStart := by
      split_ifs with some
      · exact answer_text_one _
      · rw [Nat.eq_zero_of_not_pos some]
        rfl
    refine ⟨?_, event, fun _ => known, [], ?_, ?_⟩
    · intro _
      refine ⟨known, ?_⟩
      rw [Bool.not_eq_true', dropped, event]
    · rw [tag_text_nil]
      split_ifs
      · exact reasoning_text_one _
      · rfl
    · intro more later text thought reads
      rw [sent, outside]
      exact reads_open (first_append opens more) reads
  · have fits := (index_found _ _ _ found).2
    have long : thinkingOpenTag.length = 10 := by decide
    simp only [List.length_drop]
    omega

theorem scan_thinking_closes (forceFlush : Bool) (scanner : StreamScanner) (thinkingEnd : Nat)
    (found : indexOf thinkingCloseTag scanner.textBuffer = some thinkingEnd)
    (inside : scanner.inThinkingBlock = true) (held : scanner.Held) :
    ∃ next sends, scanner.scanThinking forceFlush = (next, sends, true) ∧
      Advances scanner next sends ∧ next.textBuffer.length < scanner.textBuffer.length := by
  unfold scanThinking
  rw [found]
  refine ⟨_, _, rfl, ?_, ?_⟩
  · have closes := index_first_at _ _ _ found
    obtain ⟨answer, reasoning⟩ := last_sends scanner (scanner.textBuffer.take thinkingEnd)
      (held inside).2
    refine ⟨?_, Iff.rfl, id, _, reasoning, ?_⟩
    · intro left
      exact absurd left (by simp [leaveBlock])
    · intro more later text thought reads
      rw [answer, inside]
      exact reads_close (first_append closes more) reads
  · have fits := (index_found _ _ _ found).2
    have long : thinkingCloseTag.length = 11 := by decide
    simp only [leaveBlock, List.length_drop]
    omega

/-- Without a tag the scanner keeps 15 runes, which is more than a tag lacks. -/
theorem scan_answer_waits (scanner : StreamScanner)
    (missing : indexOf thinkingOpenTag scanner.textBuffer = none)
    (outside : scanner.inThinkingBlock = false) :
    ∃ next sends, scanner.scanAnswer false = (next, sends, false) ∧
      Advances scanner next sends := by
  have held : scanner.Held := by
    intro inside
    rw [outside] at inside
    exact absurd inside (by simp)
  unfold scanAnswer
  rw [missing]
  simp only [Bool.false_or, decide_eq_true_eq, Bool.false_eq_true, if_false]
  by_cases long : 50 < scanner.textBuffer.length
  · rw [if_pos long, if_pos (by omega)]
    refine ⟨_, _, rfl, ?_⟩
    have absent := (index_none_iff _ _ (open_nonempty thinkingTags)).mp missing
    rw [← List.take_append_drop (scanner.textBuffer.length - 15) scanner.textBuffer] at absent
    refine ⟨held, Iff.rfl, id, [], ?_, ?_⟩
    · rw [tag_text_nil]
      exact reasoning_text_one _
    · intro more later text thought reads
      rw [answer_text_one, List.nil_append]
      dsimp only at reads
      rw [outside] at reads ⊢
      have whole := reads_hold_outside absent (by
        have tag : thinkingTags.openTag.length = 10 := by decide
        rw [tag, List.length_drop]
        omega) reads
      rwa [← List.append_assoc, List.take_append_drop] at whole
  · rw [if_neg long]
    exact ⟨_, _, rfl, advances_refl held⟩

theorem scan_thinking_waits (scanner : StreamScanner)
    (missing : indexOf thinkingCloseTag scanner.textBuffer = none)
    (inside : scanner.inThinkingBlock = true) (held : scanner.Held) :
    ∃ next sends, scanner.scanThinking false = (next, sends, false) ∧
      Advances scanner next sends := by
  unfold scanThinking
  rw [missing]
  simp only [Bool.false_eq_true, if_false]
  by_cases long : 20 < scanner.textBuffer.length
  · rw [if_pos long]
    have absent := (index_none_iff _ _ (close_nonempty thinkingTags)).mp missing
    rw [← List.take_append_drop (scanner.textBuffer.length - 15) scanner.textBuffer] at absent
    have step (next : StreamScanner) (sends : List Send)
        (buffer : next.textBuffer =
          scanner.textBuffer.drop (scanner.textBuffer.length - 15))
        (block : next.inThinkingBlock = true)
        (drops : next.dropTagThinking = scanner.dropTagThinking)
        (source : next.thinkingSource = scanner.thinkingSource)
        (answer : answerText sends = [])
        (sent : reasoningText true sends = tagText scanner.thinkingSource
          (scanner.textBuffer.take (scanner.textBuffer.length - 15))) :
        Advances scanner next sends := by
      refine ⟨?_, by rw [source], by rw [source]; exact id, _, sent, ?_⟩
      · intro _
        rw [drops, source]
        exact held inside
      · intro more later text thought reads
        rw [answer]
        rw [buffer, block] at reads
        rw [inside]
        have whole := reads_hold_block absent (by
          have tag : thinkingTags.closeTag.length = 11 := by decide
          rw [tag, List.length_drop]
          omega) reads
        rwa [← List.append_assoc, List.take_append_drop] at whole
    have dropped := (held inside).2
    by_cases drop : scanner.dropTagThinking = true
    · rw [if_pos drop]
      refine ⟨_, _, rfl, step _ _ rfl inside rfl rfl rfl ?_⟩
      rw [tagText, if_pos (dropped.mp drop)]
      rfl
    · have kept : scanner.thinkingSource ≠ .reasoningEvent := by
        intro event
        exact drop (dropped.mpr event)
      rw [if_neg drop]
      by_cases started : scanner.thinkingStarted = true
      · rw [if_pos started]
        refine ⟨_, _, rfl, step _ _ rfl inside rfl rfl (by simp [answerText]) ?_⟩
        rw [tagText, if_neg kept]
        simp [reasoningText]
      · rw [if_neg started]
        refine ⟨_, _, rfl, step _ _ rfl inside rfl rfl (by simp [answerText]) ?_⟩
        rw [tagText, if_neg kept]
        simp [reasoningText]
  · rw [if_neg long]
    exact ⟨_, _, rfl, advances_refl held⟩

theorem scan_answer_flushes (scanner : StreamScanner)
    (missing : indexOf thinkingOpenTag scanner.textBuffer = none)
    (outside : scanner.inThinkingBlock = false) :
    ∃ next sends, scanner.scanAnswer true = (next, sends, false) ∧
      Flushes scanner next sends := by
  have absent := (index_none_iff _ _ (open_nonempty thinkingTags)).mp missing
  unfold scanAnswer
  rw [missing]
  simp only [Bool.true_or, if_true]
  split_ifs with some
  · refine ⟨_, _, rfl, outside, List.drop_length, Iff.rfl, id, [], ?_, ?_⟩
    · rw [tag_text_nil]
      exact reasoning_text_one _
    · intro later text thought reads
      rw [answer_text_one, List.take_length, List.nil_append, outside]
      exact reads_flush absent reads
  · have empty := List.eq_nil_of_length_eq_zero (Nat.eq_zero_of_not_pos some)
    refine ⟨_, _, rfl, outside, empty, Iff.rfl, id, [], ?_, ?_⟩
    · rw [tag_text_nil]
      rfl
    · intro later text thought reads
      rw [outside, empty]
      rw [empty] at absent
      exact reads_flush absent reads

theorem scan_thinking_flushes (scanner : StreamScanner)
    (missing : indexOf thinkingCloseTag scanner.textBuffer = none)
    (inside : scanner.inThinkingBlock = true) (held : scanner.Held) :
    ∃ next sends, scanner.scanThinking true = (next, sends, false) ∧
      Flushes scanner next sends := by
  have absent := (index_none_iff _ _ (close_nonempty thinkingTags)).mp missing
  unfold scanThinking
  rw [missing]
  simp only [if_true]
  split_ifs with some
  · obtain ⟨answer, reasoning⟩ := last_sends scanner scanner.textBuffer (held inside).2
    refine ⟨_, _, rfl, rfl, rfl, Iff.rfl, id, _, reasoning, ?_⟩
    intro later text thought reads
    rw [answer, inside]
    exact ReadsFrom.cut absent reads
  · rw [ne_eq, not_not] at some
    refine ⟨_, _, rfl, rfl, some, Iff.rfl, id, [], ?_, ?_⟩
    · rw [tag_text_nil]
      rfl
    · intro later text thought reads
      rw [some] at absent ⊢
      rw [inside]
      exact ReadsFrom.cut absent reads

theorem scan_round_cases (forceFlush : Bool) (scanner : StreamScanner) (held : scanner.Held) :
    (∃ next sends, scanner.scanRound forceFlush = (next, sends, true) ∧
      Advances scanner next sends ∧ next.textBuffer.length < scanner.textBuffer.length) ∨
    (∃ next sends, scanner.scanRound forceFlush = (next, sends, false) ∧
      if forceFlush then Flushes scanner next sends else Advances scanner next sends) := by
  unfold scanRound
  cases inside : scanner.inThinkingBlock with
  | false =>
      rw [if_neg (by simp)]
      cases found : indexOf thinkingOpenTag scanner.textBuffer with
      | some thinkingStart =>
          exact Or.inl (scan_answer_opens forceFlush scanner thinkingStart found inside)
      | none =>
          right
          cases forceFlush with
          | true => exact scan_answer_flushes scanner found inside
          | false => exact scan_answer_waits scanner found inside
  | true =>
      rw [if_pos rfl]
      cases found : indexOf thinkingCloseTag scanner.textBuffer with
      | some thinkingEnd =>
          exact Or.inl (scan_thinking_closes forceFlush scanner thinkingEnd found inside held)
      | none =>
          right
          cases forceFlush with
          | true => exact scan_thinking_flushes scanner found inside held
          | false => exact scan_thinking_waits scanner found inside held

end Rounds

theorem scan_loop_advances (fuel : Nat) (scanner : StreamScanner) (held : scanner.Held)
    (enough : scanner.textBuffer.length < fuel) :
    Advances scanner (scanLoop false fuel scanner).1 (scanLoop false fuel scanner).2 := by
  induction fuel generalizing scanner with
  | zero => exact absurd enough (Nat.not_lt_zero _)
  | succ fuel ih =>
      rw [scanLoop]
      rcases scan_round_cases false scanner held with
        ⟨next, sends, round, advances, less⟩ | ⟨next, sends, round, advances⟩
      · rw [round]
        exact advances_trans advances (ih next advances.held (by omega))
      · rw [round]
        exact advances

theorem scan_loop_flushes (fuel : Nat) (scanner : StreamScanner) (held : scanner.Held)
    (enough : scanner.textBuffer.length < fuel) :
    Flushes scanner (scanLoop true fuel scanner).1 (scanLoop true fuel scanner).2 := by
  induction fuel generalizing scanner with
  | zero => exact absurd enough (Nat.not_lt_zero _)
  | succ fuel ih =>
      rw [scanLoop]
      rcases scan_round_cases true scanner held with
        ⟨next, sends, round, advances, less⟩ | ⟨next, sends, round, flushes⟩
      · rw [round]
        exact flushes_trans advances (ih next advances.held (by omega))
      · rw [round]
        exact flushes

/-- The scanner with more text to read, whose reasoning event is over. -/
def fed (scanner : StreamScanner) (text : Runes) : StreamScanner :=
  { scanner with
    textBuffer := scanner.textBuffer ++ text
    eventThinkingOpen := false
    thinkingStarted := if scanner.eventThinkingOpen then false else scanner.thinkingStarted }

theorem process_text_fed (thinking : Bool) (text : Runes) (forceFlush : Bool)
    (scanner : StreamScanner) :
    ∃ ended, answerText ended = [] ∧ reasoningText true ended = [] ∧
      scanner.processText thinking text false forceFlush =
        (((scanner.fed text).scanLoop forceFlush ((scanner.fed text).textBuffer.length + 1)).1,
          ended ++
          ((scanner.fed text).scanLoop forceFlush ((scanner.fed text).textBuffer.length + 1)).2) := by
  refine ⟨if scanner.eventThinkingOpen then [⟨[], 3⟩] else [], ?_, ?_, ?_⟩
  · split_ifs <;> rfl
  · split_ifs <;> rfl
  · unfold processText fed
    cases scanner with
    | mk textBuffer inThinkingBlock dropTagThinking source started eventOpen =>
        cases eventOpen <;> simp

theorem process_text_advances (thinking : Bool) (text : Runes) (scanner : StreamScanner)
    (held : scanner.Held) :
    Advances (scanner.fed text) (scanner.processText thinking text false false).1
      (scanner.processText thinking text false false).2 := by
  obtain ⟨ended, answer, reasoning, processed⟩ :=
    process_text_fed thinking text false scanner
  have fedHeld : (scanner.fed text).Held := held
  rw [processed]
  exact advances_trans (advances_silent fedHeld answer reasoning)
    (scan_loop_advances _ _ fedHeld (Nat.lt_succ_self _))

theorem flushes_fed_nothing {scanner next : StreamScanner} {sends : List Send}
    (flushes : Flushes (scanner.fed []) next sends) : Flushes scanner next sends := by
  obtain ⟨outside, empty, source, known, thought, sent, reads⟩ := flushes
  refine ⟨outside, empty, source, known, thought, sent, ?_⟩
  intro later text within rest
  have whole := reads later text within rest
  rwa [fed, List.append_nil] at whole

theorem process_text_flushes (thinking : Bool) (scanner : StreamScanner)
    (held : scanner.Held) :
    Flushes scanner (scanner.processText thinking [] false true).1
      (scanner.processText thinking [] false true).2 := by
  obtain ⟨ended, answer, reasoning, processed⟩ := process_text_fed thinking [] true scanner
  have fedHeld : (scanner.fed []).Held := held
  rw [processed]
  exact flushes_fed_nothing (flushes_trans (advances_silent fedHeld answer reasoning)
    (scan_loop_flushes _ _ fedHeld (Nat.lt_succ_self _)))

end StreamScanner

end KiroProxy.ThinkingScanner
