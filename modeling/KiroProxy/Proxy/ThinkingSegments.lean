import KiroProxy.Proxy.ThinkingSplitter

/-!
# Stretches of a split text

A splitter that is flushed in the middle of a stream goes on in the block it was in. What
the sinks get of each stretch, and the block that the next one starts in, depend on the
text of the stretch and not on its chunks.
-/

namespace KiroProxy.ThinkingSplitter

open Foundation Foundation.Searching
open Foundation.Delimited (Delimiters)

set_option autoImplicit false

variable {Symbol : Type*}

/-- A text that starts in a block or outside, with what each sink gets of it and whether it
ends in a block. -/
inductive Splits (tags : Delimiters Symbol) :
    Bool → List Symbol → List Symbol → List Symbol → Bool → Prop where
  | last {inBlock : Bool} {text : List Symbol} (absent : ¬nextTag tags inBlock <:+: text) :
      Splits tags inBlock text (sinkPart false inBlock text) (sinkPart true inBlock text) inBlock
  | tag {inBlock final : Bool} {text before after outside within : List Symbol}
      (first : FirstAt (nextTag tags inBlock) text before after)
      (rest : Splits tags (!inBlock) after outside within final) :
      Splits tags inBlock text (sinkPart false inBlock before ++ outside)
        (sinkPart true inBlock before ++ within) final

theorem sink_part_append (sink inBlock : Bool) (earlier later : List Symbol) :
    sinkPart sink inBlock (earlier ++ later) =
      sinkPart sink inBlock earlier ++ sinkPart sink inBlock later := by
  unfold sinkPart
  split_ifs with same
  · rfl
  · rfl

variable {tags : Delimiters Symbol}

/-- A text is split in one way. -/
theorem splits_unique {inBlock final : Bool} {text outside within : List Symbol}
    (splits : Splits tags inBlock text outside within final) {otherFinal : Bool}
    {otherOutside otherWithin : List Symbol}
    (other : Splits tags inBlock text otherOutside otherWithin otherFinal) :
    outside = otherOutside ∧ within = otherWithin ∧ final = otherFinal := by
  induction splits generalizing otherOutside otherWithin otherFinal with
  | last absent =>
      cases other with
      | last _ => exact ⟨rfl, rfl, rfl⟩
      | tag first _ => exact absurd ⟨_, _, first.1.symm⟩ absent
  | tag first rest ih =>
      cases other with
      | last absent => exact absurd ⟨_, _, first.1.symm⟩ absent
      | tag otherFirst otherRest =>
          obtain ⟨sameBefore, sameAfter⟩ := first_unique first otherFirst
          rw [← sameAfter] at otherRest
          obtain ⟨sameOutside, sameWithin, sameFinal⟩ := ih otherRest
          rw [sameBefore, sameOutside, sameWithin]
          exact ⟨rfl, rfl, sameFinal⟩

/-- Text that no tag starts in is released ahead of what is held. -/
theorem splits_released {inBlock final : Bool} {released held outside within : List Symbol}
    (behind : ∀ earlier rest, released ++ held = earlier ++ nextTag tags inBlock ++ rest →
      released.length ≤ earlier.length)
    (splits : Splits tags inBlock held outside within final) :
    Splits tags inBlock (released ++ held) (sinkPart false inBlock released ++ outside)
      (sinkPart true inBlock released ++ within) final := by
  cases splits with
  | last absent =>
      rw [← sink_part_append, ← sink_part_append]
      exact Splits.last (absent_behind behind absent)
  | tag first rest =>
      rw [← List.append_assoc, ← List.append_assoc, ← sink_part_append, ← sink_part_append]
      exact Splits.tag (first_behind behind first) rest

section Splitting

variable [DecidableEq Symbol]

/-- Whether a text that is cut at its tags ends in a block. -/
def endsInBlock (tags : Delimiters Symbol) : Nat → Bool → List Symbol → Bool
  | 0, inBlock, _ => inBlock
  | fuel + 1, inBlock, text =>
      match indexOf (nextTag tags inBlock) text with
      | some idx =>
          endsInBlock tags fuel (!inBlock)
            (text.drop (idx + (nextTag tags inBlock).length))
      | none => inBlock

theorem split_tags_splits (fuel : Nat) (inBlock : Bool) (text : List Symbol)
    (enough : text.length < fuel) :
    Splits tags inBlock text (sinkText false (splitTags tags fuel inBlock text))
      (sinkText true (splitTags tags fuel inBlock text))
      (endsInBlock tags fuel inBlock text) := by
  induction fuel generalizing inBlock text with
  | zero => omega
  | succ fuel ih =>
      rw [splitTags, endsInBlock]
      cases found : indexOf (nextTag tags inBlock) text with
      | none =>
          have absent := (index_none_iff _ _ (next_tag_nonempty inBlock)).mp found
          have last := Splits.last absent
          simpa only [sinkText, List.flatMap_cons, List.flatMap_nil, List.append_nil] using last
      | some idx =>
          have shorter := rest_shorter inBlock text idx found
          have rest := ih (!inBlock) _ (Nat.lt_of_lt_of_le shorter (Nat.le_of_lt_succ enough))
          simp only [sink_text_cons]
          exact Splits.tag (index_first_at _ _ _ found) rest

namespace ThinkingTagSplitter

/-- What a drain hands out stands before what its buffer and the text to come split into. -/
theorem drain_loop_splits (fuel : Nat) (splitter : ThinkingTagSplitter Symbol)
    (enough : splitter.buf.length < fuel) (more outside within : List Symbol) (final : Bool)
    (splits : Splits tags (splitter.drainLoop tags false fuel).1.inBlock
      ((splitter.drainLoop tags false fuel).1.buf ++ more) outside within final) :
    Splits tags splitter.inBlock (splitter.buf ++ more)
      (sinkText false (splitter.drainLoop tags false fuel).2 ++ outside)
      (sinkText true (splitter.drainLoop tags false fuel).2 ++ within) final := by
  induction fuel generalizing splitter with
  | zero => omega
  | succ fuel ih =>
      rw [drainLoop] at splits ⊢
      cases found : indexOf (nextTag tags splitter.inBlock) splitter.buf with
      | some idx =>
          have shorter := rest_shorter splitter.inBlock splitter.buf idx found
          have first := first_append (index_first_at _ _ _ found) more
          simp only [found] at splits ⊢
          have rest := ih ⟨_, !splitter.inBlock⟩
            (Nat.lt_of_lt_of_le shorter (Nat.le_of_lt_succ enough)) splits
          simp only [sink_text_append, sink_emitted, List.append_assoc]
          exact Splits.tag first rest
      | none =>
          have absent := (index_none_iff _ _ (next_tag_nonempty splitter.inBlock)).mp found
          simp only [found, Bool.false_eq_true, if_false] at splits ⊢
          have held := splits_released (held_behind splitter.buf _ more absent) splits
          rw [← List.append_assoc, List.take_append_drop] at held
          simpa only [sink_emitted] using held

/-- A last drain empties the buffer and stays in the block its text ends in. -/
theorem drain_loop_empties (fuel : Nat) (splitter : ThinkingTagSplitter Symbol)
    (enough : splitter.buf.length < fuel) :
    (splitter.drainLoop tags true fuel).1.buf = [] ∧
      Splits tags splitter.inBlock splitter.buf
        (sinkText false (splitter.drainLoop tags true fuel).2)
        (sinkText true (splitter.drainLoop tags true fuel).2)
        (splitter.drainLoop tags true fuel).1.inBlock := by
  induction fuel generalizing splitter with
  | zero => omega
  | succ fuel ih =>
      rw [drainLoop]
      cases found : indexOf (nextTag tags splitter.inBlock) splitter.buf with
      | some idx =>
          have shorter := rest_shorter splitter.inBlock splitter.buf idx found
          have rest := ih ⟨_, !splitter.inBlock⟩
            (Nat.lt_of_lt_of_le shorter (Nat.le_of_lt_succ enough))
          simp only [sink_text_append, sink_emitted]
          exact ⟨rest.1, Splits.tag (index_first_at _ _ _ found) rest.2⟩
      | none =>
          have absent := (index_none_iff _ _ (next_tag_nonempty splitter.inBlock)).mp found
          simp only [if_true, sink_emitted, true_and]
          exact Splits.last absent

theorem push_splits (splitter : ThinkingTagSplitter Symbol) (text more : List Symbol)
    (outside within : List Symbol) (final : Bool)
    (splits : Splits tags (splitter.push tags text).1.inBlock
      ((splitter.push tags text).1.buf ++ more) outside within final) :
    Splits tags splitter.inBlock (splitter.buf ++ (text ++ more))
      (sinkText false (splitter.push tags text).2 ++ outside)
      (sinkText true (splitter.push tags text).2 ++ within) final := by
  unfold push at splits ⊢
  split_ifs at splits ⊢ with empty
  · rw [empty]
    exact splits
  · rw [← List.append_assoc]
    exact drain_loop_splits _ ⟨splitter.buf ++ text, splitter.inBlock⟩ (Nat.lt_succ_self _) more
      outside within final splits

theorem push_all_splits (chunks : List (List Symbol)) (splitter : ThinkingTagSplitter Symbol)
    (outside within : List Symbol) (final : Bool)
    (splits : Splits tags (splitter.pushAll tags chunks).1.inBlock
      (splitter.pushAll tags chunks).1.buf outside within final) :
    Splits tags splitter.inBlock (splitter.buf ++ chunks.flatten)
      (sinkText false (splitter.pushAll tags chunks).2 ++ outside)
      (sinkText true (splitter.pushAll tags chunks).2 ++ within) final := by
  induction chunks generalizing splitter with
  | nil => simpa [pushAll, sinkText] using splits
  | cons chunk chunks ih =>
      have rest := ih (splitter.push tags chunk).1 splits
      have first := push_splits splitter chunk chunks.flatten _ _ final rest
      rw [pushAll, List.flatten_cons]
      simpa only [sink_text_append, List.append_assoc] using first

variable (tags)

/-- The chunks of one stretch and the flush behind them. -/
def stretch (splitter : ThinkingTagSplitter Symbol) (chunks : List (List Symbol)) :
    ThinkingTagSplitter Symbol × List (Split Symbol) :=
  let pushed := splitter.pushAll tags chunks
  let flushed := pushed.1.flush tags
  (flushed.1, pushed.2 ++ flushed.2)

/-- What the visible sink gets of each stretch. -/
def stretches : ThinkingTagSplitter Symbol → List (List (List Symbol)) → List (List Symbol)
  | _, [] => []
  | splitter, chunks :: later =>
      sinkText false (splitter.stretch tags chunks).2 ::
        stretches (splitter.stretch tags chunks).1 later

theorem stretches_push (splitter : ThinkingTagSplitter Symbol) (text : List Symbol)
    (chunked : List (List (List Symbol))) :
    stretches tags splitter (chunked.modifyHead (text :: ·)) =
      (stretches tags (splitter.push tags text).1 chunked).modifyHead
        (sinkText false (splitter.push tags text).2 ++ ·) := by
  cases chunked with
  | nil => rfl
  | cons chunks later =>
      have pushed : splitter.stretch tags (text :: chunks) =
          (((splitter.push tags text).1.stretch tags chunks).1, (splitter.push tags text).2 ++
            ((splitter.push tags text).1.stretch tags chunks).2) := by
        simp only [stretch, pushAll, List.append_assoc]
      rw [List.modifyHead_cons, stretches, stretches, List.modifyHead_cons, pushed,
        sink_text_append]

end ThinkingTagSplitter

variable (tags)

/-- The visible part of each of the texts, one behind the other. -/
def visibleTexts : Bool → List (List Symbol) → List (List Symbol)
  | _, [] => []
  | inBlock, text :: later =>
      sinkText false (splitTags tags (text.length + 1) inBlock text) ::
        visibleTexts (endsInBlock tags (text.length + 1) inBlock text) later

variable {tags}

theorem stretch_splits (inBlock : Bool) (chunks : List (List Symbol)) :
    ((ThinkingTagSplitter.mk [] inBlock).stretch tags chunks).1.buf = [] ∧
      Splits tags inBlock chunks.flatten
        (sinkText false ((ThinkingTagSplitter.mk [] inBlock).stretch tags chunks).2)
        (sinkText true ((ThinkingTagSplitter.mk [] inBlock).stretch tags chunks).2)
        ((ThinkingTagSplitter.mk [] inBlock).stretch tags chunks).1.inBlock := by
  have ends := @ThinkingTagSplitter.drain_loop_empties _ tags _ _
    (ThinkingTagSplitter.pushAll tags ⟨[], inBlock⟩ chunks).1 (Nat.lt_succ_self _)
  have splits := ThinkingTagSplitter.push_all_splits chunks ⟨[], inBlock⟩ _ _ _ ends.2
  refine ⟨ends.1, ?_⟩
  unfold ThinkingTagSplitter.stretch
  rw [sink_text_append, sink_text_append]
  exact splits

/-- Stretches are visible as their texts are, however they are chunked. -/
theorem stretches_visible (inBlock : Bool) (chunked : List (List (List Symbol))) :
    ThinkingTagSplitter.stretches tags ⟨[], inBlock⟩ chunked =
      visibleTexts tags inBlock (chunked.map List.flatten) := by
  induction chunked generalizing inBlock with
  | nil => rfl
  | cons chunks later ih =>
      obtain ⟨empty, splits⟩ := @stretch_splits _ tags _ inBlock chunks
      have whole := @split_tags_splits _ tags _ (chunks.flatten.length + 1) inBlock
        chunks.flatten (Nat.lt_succ_self _)
      obtain ⟨sameVisible, _, sameBlock⟩ := splits_unique splits whole
      have flushed : ((ThinkingTagSplitter.mk [] inBlock).stretch tags chunks).1 =
          ⟨[], endsInBlock tags (chunks.flatten.length + 1) inBlock chunks.flatten⟩ := by
        rw [← sameBlock]
        exact congrArg (fun buf => ThinkingTagSplitter.mk buf _) empty
      rw [ThinkingTagSplitter.stretches, List.map_cons, visibleTexts, flushed, ih, sameVisible]

end Splitting

end KiroProxy.ThinkingSplitter
