import KiroProxy.Proxy.ThinkingRuns
import KiroProxy.Proxy.ThinkingSplitter

/-!
# The scanners and the splitter

`processClaudeText` and `processText` hold back a window of runes and the splitter the part
of a tag. Both release what their text reads as, however it is cut.
-/

namespace KiroProxy.ThinkingDeltas

open Foundation Foundation.Delimited.Delimiters ThinkingScanner ThinkingSplitter

set_option autoImplicit false

/-- The deltas of an answer without tool calls and reasoning events. -/
def textEvents (deltas : List Runes) : List StreamEvent :=
  deltas.map fun delta => .text delta false

theorem text_events_stretches (deltas : List Runes) :
    stretches (textEvents deltas) = [deltas.flatten] := by
  induction deltas with
  | nil => rfl
  | cons delta deltas ih =>
      rw [stretches, List.cons.injEq] at ih
      rw [List.flatten_cons, ← ih.1, ← ih.2]
      rfl

theorem text_events_reasoning (deltas : List Runes) : reasoningDeltas (textEvents deltas) = [] := by
  induction deltas with
  | nil => rfl
  | cons delta deltas ih => exact ih

/-- What the scanners send of the deltas. -/
def scanned (deltas : List Runes) : List Send := (StreamRun.stream true (textEvents deltas)).sends

theorem scanned_reads (deltas : List Runes) :
    thinkingTags.Reads [deltas.flatten] (answerText (scanned deltas))
      (reasoningText true (scanned deltas)) := by
  obtain ⟨opened, closed, thought, reading, reasoning⟩ := stream_reads true (textEvents deltas)
  have inline : firstSource [] (textEvents deltas) ≠ .reasoningEvent :=
    first_source_without (text_events_reasoning deltas) []
  rw [text_events_stretches] at reading
  rw [scanned, reasoning rfl, runReasoning, if_neg inline]
  exact ⟨opened, closed, reading⟩

/-- The scanners send what the splitter gives its sinks, on any deltas and any chunks of one
text, and that is the text cut once at its tags. -/
theorem scanners_refine_splitter (deltas : List Runes) :
    answerText (scanned deltas) = sinkText false (splitWhole thinkingTags deltas.flatten) ∧
      reasoningText true (scanned deltas) =
        sinkText true (splitWhole thinkingTags deltas.flatten) ∧
      ∀ chunks : List Runes, chunks.flatten = deltas.flatten →
        sinkText false (ThinkingTagSplitter.split thinkingTags chunks) =
            sinkText false (splitWhole thinkingTags deltas.flatten) ∧
          sinkText true (ThinkingTagSplitter.split thinkingTags chunks) =
            sinkText true (splitWhole thinkingTags deltas.flatten) := by
  obtain ⟨opened, closed, whole⟩ := @split_whole_reads _ thinkingTags _ deltas.flatten
  obtain ⟨_, _, scanner⟩ := scanned_reads deltas
  have sent := reading_unique whole scanner
  refine ⟨sent.1, sent.2, ?_⟩
  intro chunks same
  obtain ⟨_, _, splitter⟩ := @ThinkingTagSplitter.split_reads _ thinkingTags _ chunks
  rw [same] at splitter
  exact reading_unique whole splitter

example : sinkText true (splitWhole thinkingTags "a<thinking>b</thinking>c<thinking>d".toList) =
    "bd".toList := by decide +kernel

end KiroProxy.ThinkingDeltas
