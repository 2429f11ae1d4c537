import KiroProxy.Proxy.ThinkingRuns

/-!
# The answer of the Claude endpoint

The streaming path of `handleClaudeStream` and the path of `handleClaudeNonStream`
split the same deltas into the visible answer and the reasoning.
-/

namespace KiroProxy.ThinkingScanner

open Foundation Foundation.Searching
open Foundation.Delimited (Delimiters)
open Foundation.Delimited.Delimiters

set_option autoImplicit false

section Extraction

theorem open_found {text : Runes} {start : Nat}
    (found : indexOf thinkingOpenTag text = some start) :
    ∃ before after, FirstAt thinkingTags.openTag text before after ∧ before.length = start := by
  refine ⟨_, _, index_first_at _ _ _ found, ?_⟩
  have fits := (index_found _ _ _ found).2
  rw [List.length_take]
  omega

theorem close_found {after : Runes} {length : Nat}
    (found : indexOf thinkingCloseTag (thinkingTags.openTag ++ after) = some length) :
    ∃ content more, FirstAt thinkingTags.closeTag after content more ∧
      length = content.length + 10 := by
  have first : FirstAt thinkingTags.closeTag (thinkingTags.openTag ++ after) _ _ :=
    index_first_at _ _ _ found
  have fits := (index_found _ _ _ found).2
  obtain ⟨content, more, closes⟩ :
      ∃ content more, FirstAt thinkingTags.closeTag after content more := by
    apply exists_first_at (close_nonempty thinkingTags)
    by_contra absent
    exact absent_behind (close_after_open after) absent ⟨_, _, first.1.symm⟩
  have same := (first_unique first (first_behind (close_after_open after) closes)).1
  have lengths := congrArg List.length same
  have tag : thinkingTags.openTag.length = 10 := by decide
  simp only [List.length_take, List.length_append, tag] at lengths fits
  refine ⟨content, more, closes, ?_⟩
  omega

theorem close_missing {after : Runes}
    (missing : indexOf thinkingCloseTag (thinkingTags.openTag ++ after) = none) :
    ¬thinkingTags.closeTag <:+: after := by
  intro closes
  apply (index_none_iff _ _ (close_nonempty thinkingTags)).mp missing
  exact closes.trans (List.suffix_append _ after).isInfix

theorem extract_loop_rescans (fuel : Nat) (result reasoning : Runes)
    (enough : result.length ≤ fuel) :
    ∃ visible thought removed, thinkingTags.Rescan result visible thought removed ∧
      extractLoop fuel result reasoning = (visible, reasoning ++ thought) := by
  induction fuel generalizing result reasoning with
  | zero =>
      have empty := List.eq_nil_of_length_eq_zero (Nat.le_zero.mp enough)
      refine ⟨result, [], 0, Rescan.stop ?_, by rw [extractLoop, List.append_nil]⟩
      rintro ⟨before, content, after, split⟩
      rw [empty] at split
      have length := congrArg List.length split
      simp [openTag] at length
  | succ fuel ih =>
      rw [extractLoop]
      cases opened : indexOf thinkingOpenTag result with
      | none =>
          refine ⟨result, [], 0, Rescan.stop ?_, by rw [List.append_nil]⟩
          intro spans
          obtain ⟨before, after, _, _, opens, _⟩ := first_of_spans spans
          exact (open_missing_iff result).mp opened ⟨before, after, opens.1.symm⟩
      | some start =>
          obtain ⟨before, after, opens, rfl⟩ := open_found opened
          have behind : result.drop before.length = thinkingTags.openTag ++ after := by
            rw [opens.1, List.append_assoc, List.drop_left]
          dsimp only
          rw [behind]
          cases closed : indexOf thinkingCloseTag (thinkingTags.openTag ++ after) with
          | none =>
              refine ⟨result, [], 0, Rescan.stop ?_, by rw [List.append_nil]⟩
              intro spans
              obtain ⟨before', after', content, more, opens', closes⟩ := first_of_spans spans
              obtain ⟨_, rfl⟩ := first_unique opens' opens
              exact close_missing closed ⟨content, more, closes.1.symm⟩
          | some length =>
              obtain ⟨content, more, closes, rfl⟩ := close_found closed
              have openLength : thinkingTags.openTag.length = 10 := by decide
              have closeLength : thinkingTags.closeTag.length = 11 := by decide
              have texts : result = (before ++ thinkingTags.openTag ++ content) ++
                  (thinkingTags.closeTag ++ more) := by
                rw [opens.1, closes.1]
                simp only [List.append_assoc]
              have stop : (before ++ thinkingTags.openTag ++ content).length =
                  content.length + 10 + before.length := by
                simp only [List.length_append, openLength]
                omega
              have front : result.take before.length = before := by
                rw [opens.1, List.append_assoc, List.take_left]
              have inner : (result.take (content.length + 10 + before.length)).drop
                  (before.length + 10) = content := by
                rw [texts, List.take_left' stop]
                apply List.drop_left'
                rw [List.length_append, openLength]
              have rest : result.drop (content.length + 10 + before.length + 11) = more := by
                rw [texts, ← List.append_assoc]
                apply List.drop_left'
                rw [List.length_append, stop, closeLength]
              dsimp only
              rw [front, inner, rest]
              have shorter : (before ++ more).length ≤ fuel := by
                have whole := congrArg List.length texts
                simp only [List.length_append, openLength, closeLength] at whole ⊢
                omega
              obtain ⟨visible, thought, removed, rescan, extracted⟩ :=
                ih (before ++ more) (reasoning ++ content) shorter
              refine ⟨visible, content ++ thought, removed + 1,
                Rescan.remove opens closes rescan, ?_⟩
              rw [extracted, List.append_assoc]

theorem extract_rescans (content : Runes) :
    ∃ visible thought removed, thinkingTags.Rescan content visible thought removed ∧
      extractThinkingFromContent content = (trimSpace visible, thought) := by
  obtain ⟨visible, thought, removed, rescan, extracted⟩ :=
    extract_loop_rescans content.length content [] (Nat.le_refl _)
  refine ⟨visible, thought, removed, rescan, ?_⟩
  rw [extractThinkingFromContent, extracted]
  rfl

end Extraction

structure Answer where
  visible : Runes
  reasoning : Runes
  deriving DecidableEq

/-- Equal up to the whitespace around each text. -/
def Answer.Same (left right : Answer) : Prop :=
  trimSpace left.visible = trimSpace right.visible ∧
    trimSpace left.reasoning = trimSpace right.reasoning

instance (left right : Answer) : Decidable (left.Same right) :=
  inferInstanceAs (Decidable (_ ∧ _))

/-- What `sendText` is given over a whole answer of `handleClaudeStream`. -/
def claudeStreamAnswer (thinking : Bool) (events : List StreamEvent) : Answer :=
  let run := StreamRun.stream thinking events
  ⟨answerText run.sends, reasoningText thinking run.sends⟩

/-- The final texts of `handleClaudeNonStream`. -/
def claudeNonStreamAnswer (thinking : Bool) (events : List StreamEvent) : Answer :=
  let collected := collect events
  let extracted := extractThinkingFromContent collected.content
  let rawThinkingContent :=
    if thinking && collected.thinkingContent = [] && extracted.2 ≠ [] then extracted.2
    else collected.thinkingContent
  ⟨extracted.1, if !thinking then [] else rawThinkingContent⟩

/-- A text delta or a tool call of an answer without reasoning deltas. -/
inductive AnswerEvent where
  | text (delta : Runes)
  | toolUse (call : KiroTypes.KiroToolUse)

def AnswerEvent.upstream : AnswerEvent → StreamEvent
  | .text delta => .text delta false
  | .toolUse call => .toolUse call

def upstream (events : List AnswerEvent) : List StreamEvent := events.map AnswerEvent.upstream

theorem upstream_without_reasoning (events : List AnswerEvent) :
    reasoningDeltas (upstream events) = [] := by
  induction events with
  | nil => rfl
  | cons event events ih =>
      cases event <;> exact ih

theorem claude_non_stream_answer (thinking : Bool) (events : List AnswerEvent) :
    ∃ visible thought removed,
      thinkingTags.Rescan (stretches (upstream events)).flatten visible thought removed ∧
      claudeNonStreamAnswer thinking (upstream events) =
        ⟨trimSpace visible, if thinking then thought else []⟩ := by
  obtain ⟨visible, thought, removed, rescan, extracted⟩ :=
    extract_rescans (stretches (upstream events)).flatten
  refine ⟨visible, thought, removed, rescan, ?_⟩
  unfold claudeNonStreamAnswer
  rw [collect_eq, upstream_without_reasoning]
  dsimp only
  rw [extracted]
  cases thinking with
  | false => rfl
  | true =>
      by_cases empty : thought = [] <;> simp [empty]

theorem claude_stream_answer (thinking : Bool) (events : List AnswerEvent) :
    ∃ opened closed visible thought,
      thinkingTags.Reading (stretches (upstream events)) visible thought opened closed ∧
      claudeStreamAnswer thinking (upstream events) =
        ⟨visible, if thinking then thought else []⟩ := by
  obtain ⟨opened, closed, thought, reading, sent⟩ := stream_reads thinking (upstream events)
  refine ⟨opened, closed, _, thought, reading, ?_⟩
  unfold claudeStreamAnswer
  cases thinking with
  | false => simp only [reasoning_text_off, Bool.false_eq_true, if_false]
  | true =>
      have tags := first_source_without (upstream_without_reasoning events) []
      simp only [sent rfl, runReasoning, if_neg tags, if_true]

theorem same_iff_alike (visible thought visible' thought' : Runes) :
    Answer.Same ⟨visible, thought⟩ ⟨trimSpace visible', thought'⟩ ↔
      thinkingTags.Alike visible visible' ∧ thinkingTags.Alike thought thought' := by
  unfold Answer.Same Delimiters.Alike
  dsimp only
  have twice : trimSpace (trimSpace visible') = trimSpace visible' :=
    Delimited.trim_trim isSpace visible'
  rw [twice]
  rfl

/-- Streamed and collected, an answer shows the same texts exactly when every stretch
between tool calls ends outside a block and no opening tag that a closing tag follows
forms in the visible text. -/
theorem claude_answers_agree_iff (events : List AnswerEvent) :
    ((claudeStreamAnswer true (upstream events)).Same
        (claudeNonStreamAnswer true (upstream events)) ↔
      thinkingTags.Seamless [] (stretches (upstream events))) ∧
    (thinkingTags.Seamless [] (stretches (upstream events)) →
      (claudeStreamAnswer false (upstream events)).Same
        (claudeNonStreamAnswer false (upstream events))) := by
  constructor
  · obtain ⟨opened, closed, visible, thought, reading, streamed⟩ :=
      claude_stream_answer true events
    obtain ⟨visible', thought', removed, rescan, collected⟩ :=
      claude_non_stream_answer true events
    rw [streamed, collected, if_pos rfl, if_pos rfl, same_iff_alike]
    exact alike_iff_seamless reading rescan
  · intro seamless
    obtain ⟨opened, closed, visible, thought, reading, streamed⟩ :=
      claude_stream_answer false events
    obtain ⟨visible', thought', removed, rescan, collected⟩ :=
      claude_non_stream_answer false events
    rw [streamed, collected, same_iff_alike]
    exact ⟨((alike_iff_seamless reading rescan).mpr seamless).1, rfl⟩

/-- An unterminated block is reasoning in the stream and answer text without it. -/
theorem unterminated_block_differs :
    ¬(claudeStreamAnswer true (upstream [.text "<thinking>secret".toList])).Same
      (claudeNonStreamAnswer true (upstream [.text "<thinking>secret".toList])) := by
  decide

end KiroProxy.ThinkingScanner
