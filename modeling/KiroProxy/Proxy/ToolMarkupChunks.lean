import KiroProxy.Proxy.ToolMarkupSteps

/-!
# Chunks of leaked tool markup

However a text is cut into frames the filter shows the same text and rescues the
same calls, unless a cut falls inside a thinking tag that is quoted in a code span.
-/

namespace KiroProxy.ToolMarkup

open GoStrings Foundation.Searching KiroTypes Foundation
open Foundation.Streaming (Steps Settles StableUnder steps_trans steps_one)

set_option autoImplicit false

namespace ToolMarkupFilter

section Chunks

variable (unmarshal : GoString → Option Json) (tools : DeclaredTools)

/-- A cut of the text falls inside a thinking tag that the filter, having read the
part before the cut, meets in a code span with nothing held. -/
def TagCutInCode (text : GoString) : Prop :=
  ∃ start read rest emitted reached, newToolMarkupFilter tools = some start ∧
    text = read ++ rest ∧
    Steps (next unmarshal) (start.feed read) emitted reached ∧ reached.CutsTagInCode rest

theorem stable_unless_cut (start : ToolMarkupFilter)
    (new : newToolMarkupFilter tools = some start) (text : GoString)
    (uncut : ¬TagCutInCode unmarshal tools text) (read chunk rest : GoString)
    (same : text = read ++ chunk ++ rest) :
    StableUnder (next unmarshal) feed (start.feed read) chunk := by
  intro output reached after emitted path taken
  apply next_feed unmarshal reached chunk _ after emitted taken
  intro cut
  obtain ⟨nonempty, calls, run, thinking, code, unopened, opened⟩ := cut
  refine uncut ⟨start, read, chunk ++ rest, output, reached, new, by simp [same], path,
    nonempty, calls, run, thinking, code, unopened, ?_⟩
  rw [← List.append_assoc]
  exact prefix_of_append _ _ rest opened

/-- Pushing frames into an armed filter is feeding the machine. -/
theorem push_all_machine (start : ToolMarkupFilter) (chunks : List GoString) :
    pushAll unmarshal (some start) chunks =
      ((some (Streaming.pushAll feed (drain unmarshal false) start chunks).1),
        (Streaming.pushAll feed (drain unmarshal false) start chunks).2) := by
  induction chunks generalizing start with
  | nil => rfl
  | cons chunk chunks ih =>
      simp only [pushAll, push, Streaming.pushAll, Streaming.push]
      rw [ih]
      rfl

theorem new_filter_waits (start : ToolMarkupFilter)
    (new : newToolMarkupFilter tools = some start) : start.next unmarshal = none := by
  unfold newToolMarkupFilter at new
  split_ifs at new
  rw [Option.some.injEq] at new
  rw [← new]
  rfl

/-- The filter after frames is the filter after their text in one frame. -/
theorem push_all_whole (text : GoString) (uncut : ¬TagCutInCode unmarshal tools text)
    (chunks : List GoString) (same : chunks.flatten = text) :
    pushAll unmarshal (newToolMarkupFilter tools) chunks =
      push unmarshal (newToolMarkupFilter tools) text := by
  cases new : newToolMarkupFilter tools with
  | none =>
      rw [← same]
      clear same
      induction chunks with
      | nil => rfl
      | cons chunk chunks ih => simp [pushAll, push, ih]
  | some start =>
      rw [push_all_machine, Streaming.push_all_flatten (next unmarshal) feed
        (drain unmarshal false) (drain_settles unmarshal) feed_nil feed_feed start
        (new_filter_waits unmarshal tools start new) chunks
        (fun read chunk rest cut => stable_unless_cut unmarshal tools start new text uncut
          read chunk rest (same.symm.trans cut)), same]
      rfl

theorem uncut_part (part rest : GoString)
    (uncut : ¬TagCutInCode unmarshal tools (part ++ rest)) :
    ¬TagCutInCode unmarshal tools part := by
  intro cut
  obtain ⟨start, read, left, emitted, reached, new, same, path, stop⟩ := cut
  obtain ⟨nonempty, calls, run, thinking, code, unopened, opened⟩ := stop
  refine uncut ⟨start, read, left ++ rest, emitted, reached, new, by simp [same], path,
    nonempty, calls, run, thinking, code, unopened, ?_⟩
  rw [← List.append_assoc]
  exact prefix_of_append _ _ rest opened

/-- Plain text with nothing held. -/
def Plain (filter : ToolMarkupFilter) : Prop :=
  filter.calls = none ∧ filter.run = [] ∧ 0x3C ∉ filter.buf

theorem plain_next (filter after : ToolMarkupFilter) (out : GoString) (plain : filter.Plain)
    (taken : filter.next unmarshal = some (after, out)) : after.Plain := by
  obtain ⟨calls, run, tagless⟩ := plain
  unfold next at taken
  cases buf : filter.buf with
  | nil => simp [buf] at taken
  | cons byte rest =>
      have head : byte ≠ 0x3C := by
        intro same
        exact tagless (by simp [buf, same])
      have kept := write_keeps filter (filter.buf.take 1)
      simp only [buf, calls, run, List.isEmpty_nil, Bool.not_true, Bool.false_eq_true, if_false,
        if_neg head, Option.some.injEq, emitBytes, Prod.mk.injEq] at taken
      rw [← taken.1]
      rw [buf] at kept tagless
      exact ⟨kept.1.trans calls, kept.2.trans run, fun member =>
        tagless (List.mem_of_mem_drop member)⟩

theorem plain_path (filter last : ToolMarkupFilter) (out : GoString) (plain : filter.Plain)
    (path : Steps (next unmarshal) filter out last) : last.Plain := by
  induction path with
  | stay => exact plain
  | step taken _ ih => exact ih (plain_next unmarshal _ _ _ plain taken)

theorem write_thinking (filter : ToolMarkupFilter) (text : GoString) :
    (filter.write text).inThinking = filter.inThinking := by
  unfold write
  induction text generalizing filter with
  | nil => rfl
  | cons byte text ih =>
      rw [List.foldl_cons, ih]
      unfold writeByte
      split_ifs <;> rfl

/-- Where a run of steps leads, the filter settles as it does from the start. -/
theorem drain_along (filter reached : ToolMarkupFilter) (out : GoString)
    (path : Steps (next unmarshal) filter out reached) :
    (filter.drain unmarshal false).1 = (reached.drain unmarshal false).1 := by
  have rest := drain_settles unmarshal reached
  have whole : Settles (next unmarshal) filter ((reached.drain unmarshal false).1,
      out ++ (reached.drain unmarshal false).2) :=
    ⟨steps_trans (next unmarshal) path rest.1, rest.2⟩
  rw [Streaming.settles_unique (next unmarshal) (drain_settles unmarshal filter) whole]

theorem drain_waiting (filter : ToolMarkupFilter) (waits : filter.next unmarshal = none) :
    (filter.drain unmarshal false).1 = filter := by
  have here : Settles (next unmarshal) filter (filter, []) := ⟨Steps.stay filter, waits⟩
  rw [Streaming.settles_unique (next unmarshal) (drain_settles unmarshal filter) here]

/-- Plain text is emitted whole and leaves the filter as it was. -/
theorem plain_settles (filter : ToolMarkupFilter) (plain : filter.Plain) :
    (filter.drain unmarshal false).1.buf = [] ∧
      (filter.drain unmarshal false).1.calls = none ∧
      (filter.drain unmarshal false).1.run = [] ∧
      (filter.drain unmarshal false).1.inThinking = filter.inThinking := by
  obtain ⟨calls, run, tagless⟩ := plain
  have path := plain_steps unmarshal filter calls run filter.buf.length (Nat.le_refl _)
    (by
      intro index _ starts
      exact tagless (List.mem_of_mem_drop (starts.subset (List.mem_singleton_self _))))
  have waits : (filter.emitBytes filter.buf.length).1.next unmarshal = none := by
    simp [emitBytes, next]
  have kept := write_keeps filter (filter.buf.take filter.buf.length)
  rw [drain_along unmarshal filter (filter.emitBytes filter.buf.length).1
    (filter.emitBytes filter.buf.length).2 path, drain_waiting unmarshal _ waits]
  exact ⟨List.drop_length, kept.1.trans calls, kept.2.trans run, write_thinking filter _⟩

/-- A part of the tag after its first byte is plain text. -/
theorem tag_tail_plain (part rest : GoString) (nonempty : part ≠ [])
    (same : part ++ rest = thinkingOpenTag) :
    part.head? = some 0x3C ∧ 0x3C ∉ part.tail ++ rest := by
  have bytes : thinkingOpenTag = 0x3C :: thinkingOpenTag.tail := by decide
  cases part with
  | nil => exact absurd rfl nonempty
  | cons byte part =>
      rw [bytes, List.cons_append, List.cons.injEq] at same
      refine ⟨by simp [same.1], ?_⟩
      rw [List.tail_cons, same.2]
      decide

/-- In a code span with part of the tag held, the filter emits all of it. -/
theorem code_emits (filter : ToolMarkupFilter) (more : GoString)
    (cut : filter.CutsTagInCode more) :
    filter.next unmarshal = some (filter.emitBytes 1) ∧ (filter.emitBytes 1).1.Plain := by
  obtain ⟨nonempty, calls, run, thinking, code, unopened, opened⟩ := cut
  have starts : filter.buf <+: thinkingOpenTag := by
    rcases prefix_append_cases _ _ _ opened with whole | part
    · rw [unopened] at whole
      exact absurd whole (by decide)
    · exact List.isPrefixOf_iff_prefix.mp part.2
  obtain ⟨rest, same⟩ := starts
  have tail := tag_tail_plain filter.buf rest nonempty same
  obtain ⟨byte, buf, shape⟩ := List.exists_cons_of_ne_nil nonempty
  have head : byte = 0x3C := by
    have first := tail.1
    rw [shape, List.head?_cons, Option.some.injEq] at first
    exact first
  have kept := write_keeps filter (filter.buf.take 1)
  constructor
  · simp only [next, shape, calls, run, List.isEmpty_nil, Bool.not_true, Bool.false_eq_true,
      if_false, if_pos head, stepTag, thinking, code, if_true]
    rw [← shape, unopened]
    simp
  · refine ⟨kept.1.trans calls, kept.2.trans run, fun member => tail.2 ?_⟩
    simp only [emitBytes, List.drop_one] at member
    exact List.mem_append_left _ member

/-- The way to a part of the tag is the same when the rest of the tag follows. -/
theorem path_to_cut (start reached : ToolMarkupFilter) (emitted : GoString)
    (path : Steps (next unmarshal) start emitted reached) (rest more : GoString)
    (nonempty : reached.buf ≠ []) (same : reached.buf ++ rest = thinkingOpenTag) :
    Steps (next unmarshal) (start.feed more) emitted (reached.feed more) := by
  apply Streaming.steps_feed (next unmarshal) feed start more emitted reached path
  intro earlier state after out later before taken further
  apply next_feed unmarshal state more _ after out taken
  intro cut
  have emits := code_emits unmarshal state more cut
  rw [emits.1, Option.some.injEq] at taken
  have plain := emits.2
  rw [taken] at plain
  have unmarked := (plain_path unmarshal after reached later plain further).2.2
  have head := (tag_tail_plain reached.buf rest nonempty same).1
  exact unmarked (List.mem_of_mem_head? head)

/-- The rest of the tag takes an unread part of it into reasoning. -/
theorem whole_tag_thinks (reached : ToolMarkupFilter) (rest : GoString)
    (cut : reached.CutsTagInCode rest) (same : reached.buf ++ rest = thinkingOpenTag) :
    ((reached.feed rest).drain unmarshal false).1.inThinking = true := by
  obtain ⟨nonempty, calls, run, thinking, code, unopened, opened⟩ := cut
  have shape : reached.buf ++ rest = 0x3C :: thinkingOpenTag.tail := by
    rw [same]
    decide
  have taken : (reached.feed rest).next unmarshal =
      some ({ reached.feed rest with inThinking := true }.emitBytes thinkingOpenTag.length) := by
    have fedCalls : (reached.feed rest).calls = none := calls
    have fedRun : (reached.feed rest).run = [] := run
    have fedThinking : (reached.feed rest).inThinking = false := thinking
    have prefix_ : thinkingOpenTag.isPrefixOf (0x3C :: thinkingOpenTag.tail) = true := by decide
    simp [next, shape, fedCalls, fedRun, stepTag, fedThinking, prefix_]
  have waits : ({ reached.feed rest with inThinking := true }.emitBytes
      thinkingOpenTag.length).1.next unmarshal = none := by
    simp [emitBytes, next, same]
  rw [drain_along unmarshal (reached.feed rest)
    ({ reached.feed rest with inThinking := true }.emitBytes thinkingOpenTag.length).1
    ({ reached.feed rest with inThinking := true }.emitBytes thinkingOpenTag.length).2
    (steps_one (next unmarshal) taken), drain_waiting unmarshal _ waits]
  exact write_thinking _ _

/-- A part of it alone is emitted as text of the code span. -/
theorem part_of_tag_plain (reached : ToolMarkupFilter) (rest : GoString)
    (cut : reached.CutsTagInCode rest) (same : reached.buf ++ rest = thinkingOpenTag) :
    (((reached.drain unmarshal false).1.feed rest).drain unmarshal false).1.inThinking =
      false := by
  have emits := code_emits unmarshal reached rest cut
  have first := plain_settles unmarshal (reached.emitBytes 1).1 emits.2
  rw [← drain_along unmarshal reached (reached.emitBytes 1).1 (reached.emitBytes 1).2
    (steps_one (next unmarshal) emits.1)] at first
  have plain : ((reached.drain unmarshal false).1.feed rest).Plain := by
    have tail := (tag_tail_plain reached.buf rest cut.1 same).2
    refine ⟨first.2.1, first.2.2.1, ?_⟩
    rw [feed_buf, first.1, List.nil_append]
    exact fun member => tail (List.mem_append_right _ member)
  have second := (plain_settles unmarshal _ plain).2.2.2
  rw [second]
  exact first.2.2.2.trans ((write_thinking reached _).trans cut.2.2.2.1)

/-- Cut inside such a tag, the filter ends outside reasoning; uncut, inside. -/
theorem cut_differs (text : GoString) (cut : TagCutInCode unmarshal tools text) :
    ∃ part rest left right, text = part ++ rest ∧ List.flatten left = part ∧
      List.flatten right = part ∧
      pushAll unmarshal (newToolMarkupFilter tools) left ≠
        pushAll unmarshal (newToolMarkupFilter tools) right := by
  obtain ⟨start, read, following, emitted, reached, new, same, path, stop⟩ := cut
  have nonempty := stop.1
  obtain ⟨rest, tag⟩ : ∃ rest, reached.buf ++ rest = thinkingOpenTag := by
    rcases prefix_append_cases _ _ _ stop.2.2.2.2.2.2 with whole | part
    · rw [stop.2.2.2.2.2.1] at whole
      exact absurd whole (by decide)
    · exact List.isPrefixOf_iff_prefix.mp part.2
  obtain ⟨later, after⟩ : ∃ later, following = rest ++ later := by
    have opened := List.isPrefixOf_iff_prefix.mp stop.2.2.2.2.2.2
    rw [← tag, List.prefix_append_right_inj] at opened
    obtain ⟨later, split⟩ := opened
    exact ⟨later, split.symm⟩
  have cutRest : reached.CutsTagInCode rest := by
    obtain ⟨_, calls, run, thinking, code, unopened, _⟩ := stop
    refine ⟨nonempty, calls, run, thinking, code, unopened, ?_⟩
    rw [tag]
    decide
  refine ⟨read ++ rest, later, [read ++ rest], [read, rest], by simp [same, after],
    by simp, by simp, ?_⟩
  have whole : ((start.feed (read ++ rest)).drain unmarshal false).1.inThinking = true := by
    have lifted := path_to_cut unmarshal _ reached emitted path rest rest nonempty tag
    rw [feed_feed] at lifted
    rw [drain_along unmarshal _ _ _ lifted]
    exact whole_tag_thinks unmarshal reached rest cutRest tag
  have parts : (((start.feed read).drain unmarshal false).1.feed rest |>.drain unmarshal
      false).1.inThinking = false := by
    rw [drain_along unmarshal _ _ _ path]
    exact part_of_tag_plain unmarshal reached rest cutRest tag
  intro equal
  have states := congrArg (fun result => result.1.map inThinking) equal
  simp only [new, pushAll, push, Option.map_some, Option.some.injEq] at states
  have sides : true = false := whole.symm.trans (states.trans parts)
  exact absurd sides (by decide)

/-- The filter is in the same state however a text and its beginnings are cut exactly
when no cut falls inside a thinking tag in a code span; the text shown and the calls
rescued at stream end are then the same. -/
theorem chunk_invariance (text : GoString) :
    (¬TagCutInCode unmarshal tools text → ∀ left right, List.flatten left = text →
      List.flatten right = text →
        rescueStream unmarshal tools left = rescueStream unmarshal tools right) ∧
    ((∀ part rest, text = part ++ rest → ∀ left right, List.flatten left = part →
      List.flatten right = part → pushAll unmarshal (newToolMarkupFilter tools) left =
        pushAll unmarshal (newToolMarkupFilter tools) right) ↔
      ¬TagCutInCode unmarshal tools text) := by
  have agree : ∀ part, ¬TagCutInCode unmarshal tools part → ∀ left right,
      List.flatten left = part → List.flatten right = part →
      pushAll unmarshal (newToolMarkupFilter tools) left =
        pushAll unmarshal (newToolMarkupFilter tools) right := by
    intro part uncut left right first second
    rw [push_all_whole unmarshal tools part uncut left first,
      push_all_whole unmarshal tools part uncut right second]
  constructor
  · intro uncut left right first second
    simp only [rescueStream, agree text uncut left right first second]
  · constructor
    · intro same cut
      obtain ⟨part, rest, left, right, split, first, second, differ⟩ :=
        cut_differs unmarshal tools text cut
      exact differ (same part rest split left right first second)
    · intro uncut part rest split left right first second
      rw [split] at uncut
      exact agree part (uncut_part unmarshal tools part rest uncut) left right first second

/-- A code span that quotes the tag, with a leaked call behind it. -/
def quotedTag : GoString := lit "`<thinking>` <invoke name=\"x\"></invoke>"

/-- Cut inside the quoted tag, the call is rescued; uncut, it is shown as text. -/
theorem chunks_disagree :
    ∃ left right : List GoString, left.flatten = quotedTag ∧ right.flatten = quotedTag ∧
      rescueStream (fun _ => none) [(lit "x", [])] left ≠
        rescueStream (fun _ => none) [(lit "x", [])] right := by
  refine ⟨[quotedTag], [quotedTag.take 6, quotedTag.drop 6], by simp, by simp, fun same => ?_⟩
  have counts := congrArg (fun result => result.2.length) same
  exact absurd counts (by decide +kernel)

end Chunks

end ToolMarkupFilter

end KiroProxy.ToolMarkup
