import KiroProxy.Proxy.EventStream
import KiroProxy.Proxy.FollowupPayloads
import KiroProxy.Proxy.ThinkingSegments

/-!
# A hop of an answer that is continued

`continuationHop` of `proxy/auto_continue.go`: the callback that an upstream call is given,
and the text held back at the start of a continuation until it can be compared with the end
of the answer so far.
-/

namespace KiroProxy.AutoContinue

open ApiKeys EventStream FollowupPayloads Foundation.Emissions Foundation.Emissions.Emission
open GoStrings KiroTypes ThinkingSplitter

set_option autoImplicit false

section Overlap

def maxContinuationOverlap : Nat := 1024

def minContinuationOverlap : Nat := 16

def overlapTail (answer : GoString) : GoString :=
  if answer.length ≤ maxContinuationOverlap then answer
  else answer.drop (answer.length - maxContinuationOverlap)

/-- An answer cut on a line break may need the same line again. -/
def wholeLines (tail : GoString) (n : Nat) : Bool :=
  (lit "\n").isSuffixOf tail && decide (n < tail.length) &&
    tail[tail.length - n - 1]? == some 0x0A

def repeatedOverlapFrom (tail text : GoString) : Nat → Nat
  | 0 => 0
  | n + 1 =>
      if (trimSpace (text.take (n + 1))).length < minContinuationOverlap then 0
      else if !(text.take (n + 1)).isSuffixOf tail then repeatedOverlapFrom tail text n
      else if wholeLines tail (n + 1) then 0
      else n + 1

/-- The length of the longest start of the text that repeats the end of the tail. -/
def repeatedOverlap (tail text : GoString) : Nat :=
  repeatedOverlapFrom tail text (min tail.length text.length)

theorem overlap_tail_suffix (answer : GoString) : overlapTail answer <:+ answer := by
  unfold overlapTail
  split_ifs
  · exact List.suffix_refl answer
  · exact List.drop_suffix _ answer

theorem overlap_tail_bounded (answer : GoString) :
    (overlapTail answer).length ≤ maxContinuationOverlap := by
  unfold overlapTail
  split_ifs with short
  · exact short
  · rw [List.length_drop]
    omega

theorem overlap_from_le (tail text : GoString) (bound : Nat) :
    repeatedOverlapFrom tail text bound ≤ bound := by
  induction bound with
  | zero => exact Nat.le_refl 0
  | succ bound ih =>
      rw [repeatedOverlapFrom]
      split_ifs
      · exact Nat.zero_le _
      · exact Nat.le_succ_of_le ih
      · exact Nat.zero_le _
      · exact Nat.le_refl _

/-- What is cut repeats the end of the tail and is not short. -/
theorem overlap_from_repeats (tail text : GoString) (bound : Nat)
    (cut : repeatedOverlapFrom tail text bound ≠ 0) :
    text.take (repeatedOverlapFrom tail text bound) <:+ tail ∧
      minContinuationOverlap ≤
        (trimSpace (text.take (repeatedOverlapFrom tail text bound))).length := by
  induction bound with
  | zero => exact absurd rfl cut
  | succ bound ih =>
      rw [repeatedOverlapFrom] at cut ⊢
      split_ifs at cut ⊢ with short differs kept
      · exact absurd rfl cut
      · exact ih cut
      · exact absurd rfl cut
      · rw [Bool.not_eq_true, Bool.not_eq_false'] at differs
        exact ⟨List.isSuffixOf_iff_suffix.mp differs, Nat.le_of_not_lt short⟩

theorem overlap_from_append (tail text more : GoString) (bound : Nat)
    (within : bound ≤ text.length) :
    repeatedOverlapFrom tail (text ++ more) bound = repeatedOverlapFrom tail text bound := by
  induction bound with
  | zero => rfl
  | succ bound ih =>
      rw [repeatedOverlapFrom, repeatedOverlapFrom, List.take_append_of_le_length within,
        ih (Nat.le_of_succ_le within)]

/-- Text behind the length of the tail decides nothing. -/
theorem overlap_append (tail text more : GoString) (long : tail.length ≤ text.length) :
    repeatedOverlap tail (text ++ more) = repeatedOverlap tail text := by
  have longer : tail.length ≤ (text ++ more).length := by
    rw [List.length_append]
    exact Nat.le_add_right_of_le long
  unfold repeatedOverlap
  rw [Nat.min_eq_left long, Nat.min_eq_left longer, overlap_from_append tail text more _ long]

theorem overlap_le (tail text : GoString) : repeatedOverlap tail text ≤ text.length :=
  Nat.le_trans (overlap_from_le tail text _) (Nat.min_le_right _ _)

end Overlap

/-- What an upstream call does with the callback it is given. -/
inductive CallEvent (Credit : Type) where
  | callback (run : CallbackRun Credit)
  | followupPayload (payload : KiroPayload)

structure ContinuationHop (Credit : Type) where
  continuation : Bool
  splitter : ThinkingTagSplitter UInt8
  answer : GoString
  tail : GoString
  held : GoString
  released : Bool
  followup : Option KiroPayload
  toolCount : Nat
  stopReason : GoString
  inputTokens : Int
  outputTokens : Int
  credits : Credit
  cacheRead : Int
  cacheWrite : Int

section Hop

variable {Credit : Type} [CreditAmount Credit]

/-- A hop does not fault: its outputs are the calls of the client's callback. -/
abbrev HopRun (Credit : Type) :=
  Emission (ContinuationHop Credit) (CallbackRun Credit) Empty

def startHop (hop : Nat) (answer : GoString) : ContinuationHop Credit where
  continuation := decide (0 < hop)
  splitter := .new
  answer := []
  tail := if 0 < hop then overlapTail answer else []
  held := []
  released := false
  followup := none
  toolCount := 0
  stopReason := []
  inputTokens := 0
  outputTokens := 0
  credits := 0
  cacheRead := 0
  cacheWrite := 0

namespace ContinuationHop

def forward (hop : ContinuationHop Credit) (text : GoString) (isThinking : Bool) :
    HopRun Credit :=
  ⟨hop, [.text text isThinking], none⟩

def recordAnswer (hop : ContinuationHop Credit) (text : GoString) : HopRun Credit :=
  done { hop with answer := hop.answer ++ text }

/-- The held text goes to the client without the repeat of the answer's end. -/
def releaseHeld (hop : ContinuationHop Credit) : HopRun Credit :=
  if hop.released then done hop
  else
    let text := hop.held.drop (repeatedOverlap hop.tail hop.held)
    let hop := { hop with released := true, held := [] }
    if text = [] then done hop else { hop with answer := hop.answer ++ text }.forward text false

def forwardAnswer (hop : ContinuationHop Credit) (text : GoString) : HopRun Credit :=
  if !hop.released then
    let hop := { hop with held := hop.held ++ text }
    if hop.held.length < hop.tail.length then done hop else hop.releaseHeld
  else { hop with answer := hop.answer ++ text }.forward text false

/-- The visible sink of the splitter; the other one is nil. -/
def sinkAnswer (hop : ContinuationHop Credit) (split : Split UInt8) : HopRun Credit :=
  if split.inBlock then done hop
  else if hop.continuation then hop.forwardAnswer split.text
  else hop.recordAnswer split.text

def sinkAll (hop : ContinuationHop Credit)
    (splitter : ThinkingTagSplitter UInt8 × List (Split UInt8)) : HopRun Credit :=
  emitAll sinkAnswer { hop with splitter := splitter.1 } splitter.2

/-- Whether the hop is in a thinking block is read off the splitter before the flush. -/
def flush (hop : ContinuationHop Credit) : HopRun Credit :=
  (hop.sinkAll (hop.splitter.flush thinkingByteTags)).andThen fun flushed =>
    if flushed.continuation then flushed.releaseHeld else done flushed

def onText (hop : ContinuationHop Credit) (text : GoString) (isThinking : Bool) :
    HopRun Credit :=
  if isThinking then if hop.continuation then done hop else hop.forward text true
  else if hop.continuation then hop.sinkAll (hop.splitter.push thinkingByteTags text)
  else
    (hop.sinkAll (hop.splitter.push thinkingByteTags text)).andThen fun recorded =>
      recorded.forward text false

/-- Text held for a possible tag reaches the client before the tool block. -/
def onToolUse (hop : ContinuationHop Credit) (toolUse : KiroToolUse) : HopRun Credit :=
  let hop := { hop with toolCount := hop.toolCount + 1 }
  (if hop.continuation then hop.flush else done hop).andThen fun flushed =>
    ⟨flushed, [.toolUse toolUse], none⟩

def callback (hop : ContinuationHop Credit) : CallEvent Credit → HopRun Credit
  | .callback (.text text isThinking) => hop.onText text isThinking
  | .callback (.toolUse toolUse) => hop.onToolUse toolUse
  | .callback (.stopReason reason) => done { hop with stopReason := reason }
  | .callback (.credits credits) => done { hop with credits := hop.credits + credits }
  | .callback (.contextUsage percentage) => ⟨hop, [.contextUsage percentage], none⟩
  | .callback (.cacheUsage read write) => done { hop with cacheRead := read, cacheWrite := write }
  | .callback (.complete inputTokens outputTokens) =>
      done { hop with inputTokens := inputTokens, outputTokens := outputTokens }
  | .followupPayload payload => done { hop with followup := some payload }

/-- A call that is not abandoned is flushed at its end. -/
def run (hop : ContinuationHop Credit) (events : List (CallEvent Credit)) : HopRun Credit :=
  (emitAll callback hop events).andThen flush

end ContinuationHop

end Hop

end KiroProxy.AutoContinue
