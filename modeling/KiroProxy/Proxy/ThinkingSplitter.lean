import KiroProxy.Foundation.DelimitedBuffer

/-!
# The thinking tag splitter

`proxy/thinking_split.go`: the text outside the thinking blocks and the text in them, of
chunks that may end in a tag. The tags are a parameter, so that a text is bytes or runes.
-/

namespace KiroProxy.ThinkingSplitter

open Foundation Foundation.Searching
open Foundation.Delimited (Delimiters)
open Foundation.Delimited.Delimiters

set_option autoImplicit false

variable {Symbol : Type*}

/-- What one of the sinks gets: `onThinking` in a block and `onText` outside. -/
structure Split (Symbol : Type*) where
  inBlock : Bool
  text : List Symbol

/-- The text of a split if the sink gets it. -/
def sinkPart (sink inBlock : Bool) (text : List Symbol) : List Symbol :=
  if inBlock = sink then text else []

def sinkText (sink : Bool) (splits : List (Split Symbol)) : List Symbol :=
  splits.flatMap fun split => sinkPart sink split.inBlock split.text

theorem sink_text_append (sink : Bool) (earlier later : List (Split Symbol)) :
    sinkText sink (earlier ++ later) = sinkText sink earlier ++ sinkText sink later :=
  List.flatMap_append

theorem sink_text_cons (sink : Bool) (split : Split Symbol) (splits : List (Split Symbol)) :
    sinkText sink (split :: splits) = sinkPart sink split.inBlock split.text ++
      sinkText sink splits :=
  List.flatMap_cons

section Splitter

variable [DecidableEq Symbol]

def emitSplit (inBlock : Bool) (text : List Symbol) : List (Split Symbol) :=
  if text = [] then [] else [⟨inBlock, text⟩]

omit [DecidableEq Symbol] in
@[simp] theorem sink_emitted (sink inBlock : Bool) (text : List Symbol) :
    sinkText sink (emitSplit inBlock text) = sinkPart sink inBlock text := by
  unfold emitSplit
  split_ifs with empty
  · rw [empty]
    cases inBlock <;> cases sink <;> rfl
  · rw [sink_text_cons]
    exact List.append_nil _

def partialTagSuffixLen (text tag : List Symbol) : Nat :=
  longestEnd tag text (min (tag.length - 1) text.length)

structure ThinkingTagSplitter (Symbol : Type*) where
  buf : List Symbol
  inBlock : Bool

variable (tags : Delimiters Symbol)

/-- The tag that is looked for. -/
def nextTag (inBlock : Bool) : List Symbol := if inBlock then tags.closeTag else tags.openTag

namespace ThinkingTagSplitter

def new : ThinkingTagSplitter Symbol := ⟨[], false⟩

/-- The rounds of the loop; each but the last takes a tag out of the buffer. -/
def drainLoop (final : Bool) :
    Nat → ThinkingTagSplitter Symbol → ThinkingTagSplitter Symbol × List (Split Symbol)
  | 0, splitter => (splitter, [])
  | fuel + 1, splitter =>
      let tag := nextTag tags splitter.inBlock
      match indexOf tag splitter.buf with
      | some idx =>
          let rest := drainLoop final fuel
            ⟨splitter.buf.drop (idx + tag.length), !splitter.inBlock⟩
          (rest.1, emitSplit splitter.inBlock (splitter.buf.take idx) ++ rest.2)
      | none =>
          if final then ({ splitter with buf := [] }, emitSplit splitter.inBlock splitter.buf)
          else
            let keep := splitter.buf.length - partialTagSuffixLen splitter.buf tag
            ({ splitter with buf := splitter.buf.drop keep },
              emitSplit splitter.inBlock (splitter.buf.take keep))

def drain (final : Bool) (splitter : ThinkingTagSplitter Symbol) :
    ThinkingTagSplitter Symbol × List (Split Symbol) :=
  splitter.drainLoop tags final (splitter.buf.length + 1)

def push (splitter : ThinkingTagSplitter Symbol) (text : List Symbol) :
    ThinkingTagSplitter Symbol × List (Split Symbol) :=
  if text = [] then (splitter, [])
  else { splitter with buf := splitter.buf ++ text }.drain tags false

def flush (splitter : ThinkingTagSplitter Symbol) :
    ThinkingTagSplitter Symbol × List (Split Symbol) :=
  splitter.drain tags true

def pushAll : ThinkingTagSplitter Symbol → List (List Symbol) →
    ThinkingTagSplitter Symbol × List (Split Symbol)
  | splitter, [] => (splitter, [])
  | splitter, chunk :: chunks =>
      let first := splitter.push tags chunk
      let rest := pushAll first.1 chunks
      (rest.1, first.2 ++ rest.2)

/-- What the sinks get of a whole stream. -/
def split (chunks : List (List Symbol)) : List (Split Symbol) :=
  let pushed := new.pushAll tags chunks
  pushed.2 ++ (pushed.1.flush tags).2

end ThinkingTagSplitter

/-- A text cut once at its tags from left to right. -/
def splitTags : Nat → Bool → List Symbol → List (Split Symbol)
  | 0, _, _ => []
  | fuel + 1, inBlock, text =>
      let tag := nextTag tags inBlock
      match indexOf tag text with
      | some idx =>
          ⟨inBlock, text.take idx⟩ :: splitTags fuel (!inBlock) (text.drop (idx + tag.length))
      | none => [⟨inBlock, text⟩]

def splitWhole (text : List Symbol) : List (Split Symbol) :=
  splitTags tags (text.length + 1) false text

end Splitter

section Readings

variable {tags : Delimiters Symbol}

theorem next_tag_nonempty (inBlock : Bool) : nextTag tags inBlock ≠ [] := by
  cases inBlock with
  | false => exact open_nonempty tags
  | true => exact close_nonempty tags

/-- A tag ends a block or begins one behind the text of its sink. -/
theorem reads_tag (inBlock : Bool) (text before after : List Symbol)
    (first : FirstAt (nextTag tags inBlock) text before after) (later : List (List Symbol))
    (outside within : List Symbol) (reads : tags.ReadsFrom (!inBlock) after later outside within) :
    tags.ReadsFrom inBlock text later (sinkPart false inBlock before ++ outside)
      (sinkPart true inBlock before ++ within) := by
  cases inBlock with
  | false => exact reads_open first reads
  | true => exact reads_close first reads

theorem reads_last (inBlock : Bool) (text : List Symbol)
    (absent : ¬nextTag tags inBlock <:+: text) :
    tags.ReadsFrom inBlock text [] (sinkPart false inBlock text) (sinkPart true inBlock text) := by
  have nothing : tags.Reads [] [] [] := ⟨0, 0, Reading.done⟩
  cases inBlock with
  | false =>
      have step := reads_flush absent nothing
      rwa [List.append_nil] at step
  | true =>
      have step := ReadsFrom.cut absent nothing
      rwa [List.append_nil] at step

theorem reads_released (inBlock : Bool) (released held more : List Symbol)
    (behind : ∀ earlier rest,
      released ++ (held ++ more) = earlier ++ nextTag tags inBlock ++ rest →
        released.length ≤ earlier.length)
    (later : List (List Symbol)) (outside within : List Symbol)
    (reads : tags.ReadsFrom inBlock (held ++ more) later outside within) :
    tags.ReadsFrom inBlock (released ++ (held ++ more)) later
      (sinkPart false inBlock released ++ outside) (sinkPart true inBlock released ++ within) := by
  cases inBlock with
  | false => exact reads_behind_outside behind reads
  | true => exact reads_behind_block behind reads

variable [DecidableEq Symbol]

/-- The rest behind a tag is shorter. -/
theorem rest_shorter (inBlock : Bool) (text : List Symbol) (idx : Nat)
    (found : indexOf (nextTag tags inBlock) text = some idx) :
    (text.drop (idx + (nextTag tags inBlock).length)).length < text.length := by
  have fits := (index_found _ _ _ found).2
  have positive := List.length_pos_iff.mpr (@next_tag_nonempty _ tags inBlock)
  rw [List.length_drop]
  omega

theorem split_tags_reads (fuel : Nat) (inBlock : Bool) (text : List Symbol)
    (enough : text.length < fuel) :
    tags.ReadsFrom inBlock text [] (sinkText false (splitTags tags fuel inBlock text))
      (sinkText true (splitTags tags fuel inBlock text)) := by
  induction fuel generalizing inBlock text with
  | zero => omega
  | succ fuel ih =>
      rw [splitTags]
      cases found : indexOf (nextTag tags inBlock) text with
      | none =>
          have absent := (index_none_iff _ _ (next_tag_nonempty inBlock)).mp found
          have last := reads_last inBlock text absent
          simpa only [sinkText, List.flatMap_cons, List.flatMap_nil, List.append_nil] using last
      | some idx =>
          have shorter := rest_shorter inBlock text idx found
          have rest := ih (!inBlock) _ (Nat.lt_of_lt_of_le shorter (Nat.le_of_lt_succ enough))
          simp only [sink_text_cons]
          exact reads_tag inBlock text _ _ (index_first_at _ _ _ found) [] _ _ rest

/-- The end that is held may grow into the tag, and no tag starts before it. -/
theorem held_behind (text tag more : List Symbol) (absent : ¬tag <:+: text)
    (earlier rest : List Symbol)
    (split : text.take (text.length - partialTagSuffixLen text tag) ++
      (text.drop (text.length - partialTagSuffixLen text tag) ++ more) = earlier ++ tag ++ rest) :
    (text.take (text.length - partialTagSuffixLen text tag)).length ≤ earlier.length := by
  rw [← List.append_assoc, List.take_append_drop] at split
  have bound := occurs_in_end absent more earlier rest split
  rw [List.length_take]
  unfold partialTagSuffixLen
  omega

namespace ThinkingTagSplitter

theorem drain_loop_reads (fuel : Nat) (splitter : ThinkingTagSplitter Symbol)
    (enough : splitter.buf.length < fuel) (more : List Symbol) (later : List (List Symbol))
    (outside within : List Symbol)
    (reads : tags.ReadsFrom (splitter.drainLoop tags false fuel).1.inBlock
      ((splitter.drainLoop tags false fuel).1.buf ++ more) later outside within) :
    tags.ReadsFrom splitter.inBlock (splitter.buf ++ more) later
      (sinkText false (splitter.drainLoop tags false fuel).2 ++ outside)
      (sinkText true (splitter.drainLoop tags false fuel).2 ++ within) := by
  induction fuel generalizing splitter with
  | zero => omega
  | succ fuel ih =>
      rw [drainLoop] at reads ⊢
      cases found : indexOf (nextTag tags splitter.inBlock) splitter.buf with
      | some idx =>
          have shorter := rest_shorter splitter.inBlock splitter.buf idx found
          have first := first_append (index_first_at _ _ _ found) more
          simp only [found] at reads ⊢
          have rest := ih ⟨_, !splitter.inBlock⟩
            (Nat.lt_of_lt_of_le shorter (Nat.le_of_lt_succ enough)) reads
          simp only [sink_text_append, sink_emitted, List.append_assoc]
          exact reads_tag splitter.inBlock _ _ _ first later _ _ rest
      | none =>
          have absent := (index_none_iff _ _ (next_tag_nonempty splitter.inBlock)).mp found
          simp only [found, Bool.false_eq_true, if_false] at reads ⊢
          have held := reads_released splitter.inBlock _ _ more
            (held_behind splitter.buf _ more absent) later outside within reads
          rw [← List.append_assoc, List.take_append_drop] at held
          simpa only [sink_emitted] using held

theorem drain_loop_ends (fuel : Nat) (splitter : ThinkingTagSplitter Symbol)
    (enough : splitter.buf.length < fuel) :
    tags.ReadsFrom splitter.inBlock splitter.buf []
      (sinkText false (splitter.drainLoop tags true fuel).2)
      (sinkText true (splitter.drainLoop tags true fuel).2) := by
  induction fuel generalizing splitter with
  | zero => omega
  | succ fuel ih =>
      rw [drainLoop]
      cases found : indexOf (nextTag tags splitter.inBlock) splitter.buf with
      | some idx =>
          have shorter := rest_shorter splitter.inBlock splitter.buf idx found
          have rest := ih ⟨_, !splitter.inBlock⟩
            (Nat.lt_of_lt_of_le shorter (Nat.le_of_lt_succ enough))
          simp only [sink_text_append, sink_emitted]
          exact reads_tag splitter.inBlock _ _ _ (index_first_at _ _ _ found) [] _ _ rest
      | none =>
          have absent := (index_none_iff _ _ (next_tag_nonempty splitter.inBlock)).mp found
          simp only [if_true, sink_emitted]
          exact reads_last splitter.inBlock splitter.buf absent

theorem push_reads (splitter : ThinkingTagSplitter Symbol) (text more : List Symbol)
    (later : List (List Symbol)) (outside within : List Symbol)
    (reads : tags.ReadsFrom (splitter.push tags text).1.inBlock
      ((splitter.push tags text).1.buf ++ more) later outside within) :
    tags.ReadsFrom splitter.inBlock (splitter.buf ++ (text ++ more)) later
      (sinkText false (splitter.push tags text).2 ++ outside)
      (sinkText true (splitter.push tags text).2 ++ within) := by
  unfold push at reads ⊢
  split_ifs at reads ⊢ with empty
  · rw [empty]
    exact reads
  · rw [← List.append_assoc]
    exact drain_loop_reads _ ⟨splitter.buf ++ text, splitter.inBlock⟩ (Nat.lt_succ_self _) more
      later outside within reads

theorem push_all_reads (chunks : List (List Symbol)) (splitter : ThinkingTagSplitter Symbol)
    (outside within : List Symbol)
    (reads : tags.ReadsFrom (splitter.pushAll tags chunks).1.inBlock
      (splitter.pushAll tags chunks).1.buf [] outside within) :
    tags.ReadsFrom splitter.inBlock (splitter.buf ++ chunks.flatten) []
      (sinkText false (splitter.pushAll tags chunks).2 ++ outside)
      (sinkText true (splitter.pushAll tags chunks).2 ++ within) := by
  induction chunks generalizing splitter with
  | nil => simpa [pushAll, sinkText] using reads
  | cons chunk chunks ih =>
      have rest := ih (splitter.push tags chunk).1 reads
      have first := push_reads splitter chunk chunks.flatten [] _ _ rest
      rw [pushAll, List.flatten_cons]
      simpa only [sink_text_append, List.append_assoc] using first

/-- Any chunks of a text are split like the text. -/
theorem split_reads (chunks : List (List Symbol)) :
    tags.Reads [chunks.flatten] (sinkText false (split tags chunks))
      (sinkText true (split tags chunks)) := by
  have ends := @drain_loop_ends _ tags _ _ (new.pushAll tags chunks).1 (Nat.lt_succ_self _)
  have reads := push_all_reads chunks new _ _ ends
  rw [split, sink_text_append, sink_text_append]
  cases reads with
  | outside reads => exact reads

end ThinkingTagSplitter

theorem split_whole_reads (text : List Symbol) :
    tags.Reads [text] (sinkText false (splitWhole tags text))
      (sinkText true (splitWhole tags text)) := by
  have reads := @split_tags_reads _ tags _ _ false text (Nat.lt_succ_self _)
  cases reads with
  | outside reads => exact reads

end Readings

end KiroProxy.ThinkingSplitter
