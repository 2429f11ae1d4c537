import KiroProxy.Proxy.ToolMarkupParsing
import KiroProxy.Foundation.Streaming

/-!
# The markup filter step by step

The filter as a streaming machine: what it decides about its buffer it decides in
the same way when more text follows, with one exception. A thinking tag that is
complete is taken before the code state is looked at, a partial one after it. The
drain loop runs this machine until it waits, and its fuel always lasts.
-/

namespace KiroProxy.ToolMarkup

open GoStrings Foundation.Searching KiroTypes Foundation
open Foundation.Streaming (Steps Settles steps_trans steps_one)

set_option autoImplicit false

namespace ToolMarkupFilter

/-- More text behind the buffer. -/
def feed (filter : ToolMarkupFilter) (more : GoString) : ToolMarkupFilter :=
  { filter with buf := filter.buf ++ more }

section Feeding

variable (filter : ToolMarkupFilter) (more : GoString)

@[simp] theorem feed_buf : (filter.feed more).buf = filter.buf ++ more := rfl

theorem feed_nil : filter.feed [] = filter := by simp [feed]

theorem feed_feed (left right : GoString) :
    (filter.feed left).feed right = filter.feed (left ++ right) := by simp [feed]

theorem write_byte_feed (byte : UInt8) :
    (filter.feed more).writeByte byte = (filter.writeByte byte).feed more := by
  unfold writeByte
  split_ifs <;> rfl

theorem write_feed (text : GoString) :
    (filter.feed more).write text = (filter.write text).feed more := by
  unfold write
  induction text generalizing filter with
  | nil => rfl
  | cons byte text ih => rw [List.foldl_cons, List.foldl_cons, write_byte_feed, ih]

theorem write_buf (text : GoString) : (filter.write text).buf = filter.buf := by
  unfold write
  induction text generalizing filter with
  | nil => rfl
  | cons byte text ih =>
      rw [List.foldl_cons, ih]
      unfold writeByte
      split_ifs <;> rfl

theorem emit_bytes_feed (count : Nat) (inside : count ≤ filter.buf.length) :
    (filter.feed more).emitBytes count =
      ((filter.emitBytes count).1.feed more, (filter.emitBytes count).2) := by
  simp only [emitBytes, feed_buf, List.take_append_of_le_length inside,
    List.drop_append_of_le_length inside, write_feed]
  rfl

theorem extend_run_feed (call : KiroToolUse) (consumed : Nat)
    (inside : consumed ≤ filter.buf.length) :
    (filter.feed more).extendRun call consumed = (filter.extendRun call consumed).feed more := by
  simp only [extendRun, feed_buf, List.take_append_of_le_length inside,
    List.drop_append_of_le_length inside]
  rfl

theorem release_run_feed :
    (filter.feed more).releaseRun = (filter.releaseRun.1.feed more, filter.releaseRun.2) := by
  have raw : (filter.feed more).runRaw = filter.runRaw := rfl
  simp only [releaseRun, raw, write_feed]
  rfl

variable (unmarshal : GoString → Option Json) (tags : ToolMarkupTags)

theorem step_calls_feed (apart : TagsApart tags) (after : ToolMarkupFilter) (out : GoString)
    (taken : filter.stepCalls unmarshal false tags = some (after, out)) :
    (filter.feed more).stepCalls unmarshal false tags = some (after.feed more, out) := by
  have kept : trimMarkupSpace filter.buf ≠ [] := by
    intro empty
    simp [stepCalls, empty, not_prefix_nil _ apart.callsClose,
      not_prefix_nil _ apart.invokeOpen] at taken
  have shorter := trim_length filter.buf
  have skipped := skipped_append filter.buf more kept
  rw [trim_append _ more kept] at skipped
  have tools : (filter.feed more).tools = filter.tools := rfl
  unfold stepCalls at taken ⊢
  simp only [feed_buf, trim_append _ more kept, skipped, tools] at taken ⊢
  generalize trimMarkupSpace filter.buf = rest at *
  cases closed : tags.callsClose.isPrefixOf rest with
  | true =>
      have inside := (List.isPrefixOf_iff_prefix.mp closed).length_le
      rw [if_pos closed] at taken
      rw [if_pos (prefix_of_append _ _ more closed), List.drop_append_of_le_length inside,
        List.take_append_of_le_length (by omega)]
      simp only [Option.some.injEq, Prod.mk.injEq] at taken ⊢
      exact ⟨by rw [← taken.1]; rfl, taken.2⟩
  | false =>
      rw [if_neg (by simp [closed])] at taken
      cases opened : tags.invokeOpen.isPrefixOf rest with
      | true =>
          have unclosed := prefix_other _ _ _ more opened apart.callsCloseApart closed
          have stillOpen := prefix_of_append _ _ more opened
          rw [if_pos opened] at taken
          rw [if_neg (by simp [unclosed]), if_pos stillOpen]
          cases parsed : parseInvoke unmarshal filter.tools rest tags with
          | needMore => simp [parsed] at taken
          | invalid =>
              rw [parse_invoke_append unmarshal tags apart _ _ more (by simp [parsed]), parsed]
              simp only [parsed, Option.some.injEq, Prod.mk.injEq] at taken ⊢
              exact ⟨by rw [← taken.1]; rfl, taken.2⟩
          | complete consumed call =>
              have bounds := parse_invoke_bounds unmarshal tags apart _ _ _ _ parsed
              rw [parse_invoke_append unmarshal tags apart _ _ more (by simp [parsed]), parsed]
              simp only [parsed, Option.some.injEq, Prod.mk.injEq] at taken ⊢
              rw [extend_run_feed filter more call _ (by omega), taken.1]
              exact ⟨rfl, taken.2⟩
      | false =>
          rw [if_neg (by simp [opened]), if_neg kept] at taken
          have grown : rest ++ more ≠ [] := by simp [kept]
          cases part : isPartialTag rest tags.callsClose ||
              isPartialTag rest tags.invokeOpen with
          | true => simp [part] at taken
          | false =>
              have parts := Bool.or_eq_false_iff.mp part
              simp only [part, Bool.false_and, Bool.false_eq_true, if_false] at taken
              rw [if_neg (by simp [prefix_unmatched _ _ more closed parts.1]),
                if_neg (by simp [prefix_unmatched _ _ more opened parts.2]), if_neg grown]
              simp only [partial_unmatched _ _ more parts.1, partial_unmatched _ _ more parts.2,
                Bool.false_and, Bool.or_self, Bool.false_eq_true, if_false,
                Option.some.injEq, Prod.mk.injEq] at taken ⊢
              exact ⟨by rw [← taken.1]; rfl, taken.2⟩

theorem release_run_taken (after : ToolMarkupFilter) (out : GoString)
    (taken : some filter.releaseRun = some (after, out)) :
    some (filter.feed more).releaseRun = some (after.feed more, out) := by
  rw [Option.some.injEq] at taken
  rw [release_run_feed, taken]

variable (dialect : Dialect)

theorem continue_run_feed (rest body : GoString)
    (inside : body.length ≤ filter.buf.length) (after : ToolMarkupFilter) (out : GoString)
    (taken : filter.continueRun unmarshal false dialect rest body = some (after, out)) :
    (filter.feed more).continueRun unmarshal false dialect (rest ++ more) (body ++ more) =
      some (after.feed more, out) := by
  have tools : (filter.feed more).tools = filter.tools := rfl
  unfold continueRun at taken ⊢
  rw [tools]
  cases parsed : parseInvoke unmarshal filter.tools body dialect.1 with
  | needMore => simp [parsed] at taken
  | invalid =>
      rw [parse_invoke_append unmarshal dialect.1 dialect.2 _ _ more (by simp [parsed]), parsed]
      simp only [parsed] at taken ⊢
      exact release_run_taken filter more after out taken
  | complete consumed call =>
      have bounds := parse_invoke_bounds unmarshal dialect.1 dialect.2 _ _ _ _ parsed
      have skipped : (filter.feed more).buf.length - (body ++ more).length =
          filter.buf.length - body.length := by
        rw [feed_buf, List.length_append, List.length_append]
        omega
      have wrapped : ((body ++ more) != (rest ++ more)) = (body != rest) := by
        rw [Bool.eq_iff_iff]
        simp
      rw [parse_invoke_append unmarshal dialect.1 dialect.2 _ _ more (by simp [parsed]), parsed]
      simp only [parsed, skipped, wrapped, Option.some.injEq, Prod.mk.injEq] at taken ⊢
      rw [extend_run_feed filter more call _ (by omega)]
      exact ⟨by rw [← taken.1]; rfl, taken.2⟩

theorem continue_run_body (rest body : GoString)
    (result : ToolMarkupFilter × GoString)
    (taken : filter.continueRun unmarshal false dialect rest body = some result) : body ≠ [] := by
  intro empty
  simp [continueRun, empty, parse_invoke_nil unmarshal dialect.1 dialect.2] at taken

theorem after_run_dialects_feed (rest : GoString)
    (inside : rest.length ≤ filter.buf.length) (dialects : List Dialect)
    (after : ToolMarkupFilter) (out : GoString)
    (taken : filter.stepAfterRunDialects unmarshal false rest dialects = some (after, out)) :
    (filter.feed more).stepAfterRunDialects unmarshal false (rest ++ more) dialects =
      some (after.feed more, out) := by
  induction dialects with
  | nil => exact release_run_taken filter more after out taken
  | cons dialect dialects ih =>
      have here := dialect.2
      unfold stepAfterRunDialects at taken ⊢
      cases wrapper : dialect.1.callsOpen.isPrefixOf rest with
      | true =>
          have fits := (List.isPrefixOf_iff_prefix.mp wrapper).length_le
          have shorter := trim_length (rest.drop dialect.1.callsOpen.length)
          rw [if_pos wrapper] at taken
          have kept := continue_run_body filter unmarshal dialect _ _ _ taken
          rw [if_pos (prefix_of_append _ _ more wrapper), List.drop_append_of_le_length fits,
            trim_append _ more kept]
          rw [List.length_drop] at shorter
          exact continue_run_feed filter more unmarshal dialect _ _ (by omega) _ _ taken
      | false =>
          rw [if_neg (by simp [wrapper])] at taken
          cases opened : dialect.1.invokeOpen.isPrefixOf rest with
          | true =>
              rw [if_pos opened] at taken
              rw [if_neg (by simp [prefix_other _ _ _ more opened here.callsOpenApart wrapper]),
                if_pos (prefix_of_append _ _ more opened)]
              exact continue_run_feed filter more unmarshal dialect _ _ inside _ _ taken
          | false =>
              rw [if_neg (by simp [opened])] at taken
              cases part : isPartialTag rest dialect.1.callsOpen ||
                  isPartialTag rest dialect.1.invokeOpen with
              | true => simp [part] at taken
              | false =>
                  have parts := Bool.or_eq_false_iff.mp part
                  rw [if_neg (by simp [part])] at taken
                  rw [if_neg (by simp [prefix_unmatched _ _ more wrapper parts.1]),
                    if_neg (by simp [prefix_unmatched _ _ more opened parts.2]),
                    if_neg (by simp [partial_unmatched _ _ more parts.1,
                      partial_unmatched _ _ more parts.2])]
                  exact ih taken

theorem step_after_run_feed (after : ToolMarkupFilter) (out : GoString)
    (taken : filter.stepAfterRun unmarshal false = some (after, out)) :
    (filter.feed more).stepAfterRun unmarshal false = some (after.feed more, out) := by
  unfold stepAfterRun at taken ⊢
  by_cases empty : trimMarkupSpace filter.buf = []
  · simp [empty] at taken
  · have grown : trimMarkupSpace filter.buf ++ more ≠ [] := by simp [empty]
    simp only [empty, if_false] at taken
    simp only [feed_buf, trim_append _ more empty, grown, if_false]
    exact after_run_dialects_feed filter more unmarshal _ (trim_length _) _ after
      out taken

theorem emit_one_taken (nonempty : filter.buf ≠ []) (after : ToolMarkupFilter) (out : GoString)
    (taken : some (filter.emitBytes 1) = some (after, out)) :
    some ((filter.feed more).emitBytes 1) = some (after.feed more, out) := by
  rw [Option.some.injEq] at taken
  rw [emit_bytes_feed filter more 1 (List.length_pos_iff.mpr nonempty), taken]

theorem step_invoke_feed (nonempty : filter.buf ≠ [])
    (body : GoString) (offset : Nat) (inside : offset + body.length ≤ filter.buf.length)
    (after : ToolMarkupFilter) (out : GoString)
    (taken : filter.stepInvoke unmarshal false dialect body offset = some (after, out)) :
    (filter.feed more).stepInvoke unmarshal false dialect (body ++ more) offset =
      some (after.feed more, out) := by
  have tools : (filter.feed more).tools = filter.tools := rfl
  unfold stepInvoke at taken ⊢
  rw [tools]
  cases parsed : parseInvoke unmarshal filter.tools body dialect.1 with
  | needMore => simp [parsed] at taken
  | invalid =>
      rw [parse_invoke_append unmarshal dialect.1 dialect.2 _ _ more (by simp [parsed]), parsed]
      simp only [parsed] at taken ⊢
      exact emit_one_taken filter more nonempty after out taken
  | complete consumed call =>
      have bounds := parse_invoke_bounds unmarshal dialect.1 dialect.2 _ _ _ _ parsed
      rw [parse_invoke_append unmarshal dialect.1 dialect.2 _ _ more (by simp [parsed]), parsed]
      simp only [parsed, Option.some.injEq, Prod.mk.injEq] at taken ⊢
      rw [extend_run_feed filter more call _ (by omega)]
      exact ⟨by rw [← taken.1]; rfl, taken.2⟩

theorem tag_dialects_feed (nonempty : filter.buf ≠ []) (dialects : List Dialect)
    (after : ToolMarkupFilter) (out : GoString)
    (taken : filter.stepTagDialects unmarshal false dialects = some (after, out)) :
    (filter.feed more).stepTagDialects unmarshal false dialects = some (after.feed more, out) := by
  induction dialects with
  | nil =>
      unfold stepTagDialects at taken ⊢
      cases part : isPartialTag filter.buf thinkingOpenTag with
      | true => simp [part] at taken
      | false =>
          rw [if_neg (by simp [part])] at taken
          rw [if_neg (by simp [partial_unmatched _ _ more part])]
          exact emit_one_taken filter more nonempty after out taken
  | cons dialect dialects ih =>
      have here := dialect.2
      unfold stepTagDialects at taken ⊢
      cases wrapper : dialect.1.callsOpen.isPrefixOf filter.buf with
      | true =>
          have fits := (List.isPrefixOf_iff_prefix.mp wrapper).length_le
          have shorter := trim_length (filter.buf.drop dialect.1.callsOpen.length)
          rw [List.length_drop] at shorter
          rw [if_pos wrapper] at taken
          have kept : trimMarkupSpace (filter.buf.drop dialect.1.callsOpen.length) ≠ [] := by
            intro empty
            simp [empty, not_prefix_nil _ here.invokeOpen, partial_nil _ here.invokeOpen] at taken
          rw [feed_buf, if_pos (prefix_of_append _ _ more wrapper),
            List.drop_append_of_le_length fits]
          simp only [trim_append _ more kept] at taken ⊢
          generalize trimMarkupSpace (filter.buf.drop dialect.1.callsOpen.length) = body at *
          cases opened : dialect.1.invokeOpen.isPrefixOf body with
          | true =>
              have offset : (filter.buf ++ more).length - (body ++ more).length =
                  filter.buf.length - body.length := by
                rw [List.length_append, List.length_append]
                omega
              rw [if_neg (by simp [opened])] at taken
              rw [if_neg (by simp [prefix_of_append _ _ more opened]), offset]
              exact step_invoke_feed filter more unmarshal dialect nonempty body _
                (by omega) after out taken
          | false =>
              rw [if_pos (by simp [opened])] at taken
              cases part : isPartialTag body dialect.1.invokeOpen with
              | true => simp [part] at taken
              | false =>
                  rw [if_neg (by simp [part])] at taken
                  rw [if_pos (by simp [prefix_unmatched _ _ more opened part]),
                    if_neg (by simp [partial_unmatched _ _ more part])]
                  exact emit_one_taken filter more nonempty after out taken
      | false =>
          rw [if_neg (by simp [wrapper])] at taken
          cases opened : dialect.1.invokeOpen.isPrefixOf filter.buf with
          | true =>
              rw [if_pos opened] at taken
              rw [feed_buf,
                if_neg (by simp [prefix_other _ _ _ more opened here.callsOpenApart wrapper]),
                if_pos (prefix_of_append _ _ more opened)]
              exact step_invoke_feed filter more unmarshal dialect nonempty _ 0
                (by omega) after out taken
          | false =>
              rw [if_neg (by simp [opened])] at taken
              cases part : isPartialTag filter.buf dialect.1.callsOpen ||
                  isPartialTag filter.buf dialect.1.invokeOpen with
              | true => simp [part] at taken
              | false =>
                  have parts := Bool.or_eq_false_iff.mp part
                  rw [if_neg (by simp [part])] at taken
                  rw [feed_buf, if_neg (by simp [prefix_unmatched _ _ more wrapper parts.1]),
                    if_neg (by simp [prefix_unmatched _ _ more opened parts.2]),
                    if_neg (by simp [partial_unmatched _ _ more parts.1,
                      partial_unmatched _ _ more parts.2])]
                  exact ih taken

/-- Outside code a part of a thinking tag is held. -/
theorem tag_dialects_wait (part : isPartialTag filter.buf thinkingOpenTag = true)
    (dialects : List Dialect) :
    filter.stepTagDialects unmarshal false dialects = none := by
  have starts : filter.buf <+: thinkingOpenTag := by
    simp only [isPartialTag, Bool.and_eq_true] at part
    exact List.isPrefixOf_iff_prefix.mp part.2
  have unmatched : ∀ tag : GoString, tag.isPrefixOf thinkingOpenTag = false →
      tag.isPrefixOf filter.buf = false := by
    intro tag differs
    rw [Bool.eq_false_iff]
    intro matched
    have through := (List.isPrefixOf_iff_prefix.mp matched).trans starts
    rw [← List.isPrefixOf_iff_prefix, differs] at through
    exact absurd through (by decide)
  induction dialects with
  | nil => simp [stepTagDialects, part]
  | cons dialect dialects ih =>
      have here := dialect.2
      simp [stepTagDialects, unmatched _ here.callsThinkingApart,
        unmatched _ here.invokeThinkingApart, ih]

/-- The buffer is a part of a thinking tag in a code span, and what follows it makes
the tag whole. -/
def CutsTagInCode : Prop :=
  filter.buf ≠ [] ∧ filter.calls = none ∧ filter.run = [] ∧ filter.inThinking = false ∧
    filter.inCode = true ∧ thinkingOpenTag.isPrefixOf filter.buf = false ∧
    thinkingOpenTag.isPrefixOf (filter.buf ++ more) = true

theorem step_tag_feed (nonempty : filter.buf ≠ []) (idle : filter.calls = none)
    (unheld : filter.run = []) (whole : ¬filter.CutsTagInCode more)
    (after : ToolMarkupFilter) (out : GoString)
    (taken : filter.stepTag unmarshal false = some (after, out)) :
    (filter.feed more).stepTag unmarshal false = some (after.feed more, out) := by
  have thinking : (filter.feed more).inThinking = filter.inThinking := rfl
  have code : (filter.feed more).inCode = filter.inCode := rfl
  unfold stepTag at taken ⊢
  rw [thinking, code, feed_buf]
  cases reasoning : filter.inThinking with
  | true =>
      rw [if_pos reasoning] at taken
      rw [if_pos rfl]
      cases closed : thinkingCloseTag.isPrefixOf filter.buf with
      | true =>
          have fits := (List.isPrefixOf_iff_prefix.mp closed).length_le
          rw [if_pos closed, Option.some.injEq] at taken
          rw [if_pos (prefix_of_append _ _ more closed), Option.some.injEq]
          have fed := emit_bytes_feed { filter with inThinking := false } more
            thinkingCloseTag.length fits
          rw [taken] at fed
          exact fed
      | false =>
          rw [if_neg (by simp [closed])] at taken
          cases part : isPartialTag filter.buf thinkingCloseTag with
          | true => simp [part] at taken
          | false =>
              rw [if_neg (by simp [part])] at taken
              rw [if_neg (by simp [prefix_unmatched _ _ more closed part]),
                if_neg (by simp [partial_unmatched _ _ more part])]
              exact emit_one_taken filter more nonempty after out taken
  | false =>
      rw [if_neg (by simp [reasoning])] at taken
      rw [if_neg (by decide)]
      cases opened : thinkingOpenTag.isPrefixOf filter.buf with
      | true =>
          have fits := (List.isPrefixOf_iff_prefix.mp opened).length_le
          rw [if_pos opened, Option.some.injEq] at taken
          rw [if_pos (prefix_of_append _ _ more opened), Option.some.injEq]
          have fed := emit_bytes_feed { filter with inThinking := true } more
            thinkingOpenTag.length fits
          rw [taken] at fed
          exact fed
      | false =>
          rw [if_neg (by simp [opened])] at taken
          cases coded : filter.inCode with
          | true =>
              have unopened : thinkingOpenTag.isPrefixOf (filter.buf ++ more) = false := by
                rw [Bool.eq_false_iff]
                exact fun grown => whole
                  ⟨nonempty, idle, unheld, reasoning, coded, opened, grown⟩
              rw [if_pos coded] at taken
              rw [if_neg (by simp [unopened]), if_pos rfl]
              exact emit_one_taken filter more nonempty after out taken
          | false =>
              rw [if_neg (by simp [coded])] at taken
              have unopened : thinkingOpenTag.isPrefixOf (filter.buf ++ more) = false := by
                apply prefix_unmatched _ _ more opened
                rw [Bool.eq_false_iff]
                intro part
                rw [tag_dialects_wait filter unmarshal part _] at taken
                simp at taken
              rw [if_neg (by simp [unopened]), if_neg (by decide)]
              exact tag_dialects_feed filter more unmarshal nonempty _ after out taken

end Feeding

section Machine

variable (unmarshal : GoString → Option Json)

/-- One step of the filter between two frames: a byte of plain text, a decision about
a tag, or what follows a run. -/
def next (filter : ToolMarkupFilter) : Option (ToolMarkupFilter × GoString) :=
  match filter.buf with
  | [] => none
  | byte :: _ =>
      match filter.calls with
      | some dialect => filter.stepCalls unmarshal false dialect.1
      | none =>
          if !filter.run.isEmpty then filter.stepAfterRun unmarshal false
          else if byte = 0x3C then filter.stepTag unmarshal false
          else some (filter.emitBytes 1)

theorem next_feed (filter : ToolMarkupFilter) (more : GoString)
    (whole : ¬filter.CutsTagInCode more) (after : ToolMarkupFilter) (out : GoString)
    (taken : filter.next unmarshal = some (after, out)) :
    (filter.feed more).next unmarshal = some (after.feed more, out) := by
  have calls : (filter.feed more).calls = filter.calls := rfl
  have run : (filter.feed more).run = filter.run := rfl
  unfold next at taken ⊢
  rw [feed_buf, calls, run]
  cases buf : filter.buf with
  | nil => simp [buf] at taken
  | cons byte rest =>
      have nonempty : filter.buf ≠ [] := by simp [buf]
      simp only [buf, List.cons_append] at taken ⊢
      cases held : filter.calls with
      | some dialect =>
          simp only [held] at taken ⊢
          exact step_calls_feed filter more unmarshal dialect.1 dialect.2 after out taken
      | none =>
          simp only [held] at taken ⊢
          cases idle : filter.run.isEmpty with
          | false =>
              rw [if_pos (by simp [idle])] at taken
              rw [if_pos (by decide)]
              exact step_after_run_feed filter more unmarshal after out taken
          | true =>
              rw [if_neg (by simp [idle])] at taken
              rw [if_neg (by decide)]
              by_cases tag : byte = 0x3C
              · rw [if_pos tag] at taken ⊢
                exact step_tag_feed filter more unmarshal nonempty held
                  (List.isEmpty_iff.mp idle) whole after out taken
              · rw [if_neg tag] at taken ⊢
                exact emit_one_taken filter more nonempty after out taken

theorem write_keeps (filter : ToolMarkupFilter) (text : GoString) :
    (filter.write text).calls = filter.calls ∧ (filter.write text).run = filter.run := by
  unfold write
  induction text generalizing filter with
  | nil => exact ⟨rfl, rfl⟩
  | cons byte text ih =>
      have first : (filter.writeByte byte).calls = filter.calls ∧
          (filter.writeByte byte).run = filter.run := by
        unfold writeByte
        split_ifs <;> exact ⟨rfl, rfl⟩
      rw [List.foldl_cons, (ih _).1, (ih _).2, first.1, first.2]
      exact ⟨rfl, rfl⟩

theorem write_append (filter : ToolMarkupFilter) (left right : GoString) :
    filter.write (left ++ right) = (filter.write left).write right :=
  List.foldl_append

theorem write_with_buf (filter : ToolMarkupFilter) (text buf : GoString) :
    { filter with buf := buf }.write text = { filter.write text with buf := buf } := by
  unfold write
  induction text generalizing filter with
  | nil => rfl
  | cons byte text ih =>
      have first : { filter with buf := buf }.writeByte byte =
          { filter.writeByte byte with buf := buf } := by
        unfold writeByte
        split_ifs <;> rfl
      rw [List.foldl_cons, List.foldl_cons, first, ih]

theorem emit_bytes_succ (filter : ToolMarkupFilter) (count : Nat) :
    filter.emitBytes (count + 1) =
      (((filter.emitBytes 1).1.emitBytes count).1,
        (filter.emitBytes 1).2 ++ ((filter.emitBytes 1).1.emitBytes count).2) := by
  have text : filter.buf.take (count + 1) =
      filter.buf.take 1 ++ (filter.buf.drop 1).take count := by
    rw [Nat.add_comm, List.take_add]
  have rest : filter.buf.drop (count + 1) = (filter.buf.drop 1).drop count := by
    rw [List.drop_drop, Nat.add_comm]
  have written := write_with_buf (filter.write (filter.buf.take 1))
    ((filter.buf.drop 1).take count) (filter.buf.drop 1)
  unfold emitBytes
  dsimp only
  rw [written, text, rest, write_append]

/-- Text without a tag is emitted byte by byte. -/
theorem plain_steps (filter : ToolMarkupFilter) (idle : filter.calls = none)
    (unheld : filter.run = []) (count : Nat) (inside : count ≤ filter.buf.length)
    (plain : ∀ index, index < count → ¬[0x3C] <+: filter.buf.drop index) :
    Steps (next unmarshal) filter (filter.emitBytes count).2 (filter.emitBytes count).1 := by
  induction count generalizing filter with
  | zero =>
      have none_ : filter.emitBytes 0 = (filter, []) := by simp [emitBytes, write]
      rw [none_]
      exact Steps.stay filter
  | succ count ih =>
      cases buf : filter.buf with
      | nil => simp [buf] at inside
      | cons byte rest =>
          have head : byte ≠ 0x3C := by
            intro same
            apply plain 0 (by omega)
            simp [buf, same]
          have taken : filter.next unmarshal = some (filter.emitBytes 1) := by
            simp [next, buf, idle, unheld, head]
          have kept := write_keeps filter (filter.buf.take 1)
          have after : (filter.emitBytes 1).1.buf = rest := by simp [emitBytes, buf]
          have later := ih (filter.emitBytes 1).1 (kept.1.trans idle) (kept.2.trans unheld)
            (by rw [after]; simpa [buf] using inside)
            (by
              intro index bound
              rw [after]
              have there := plain (index + 1) (by omega)
              rwa [buf, List.drop_succ_cons] at there)
          rw [emit_bytes_succ]
          exact Steps.step taken later

/-- A round of the drain loop is a run of steps, and the loop stops where the filter
waits. -/
theorem round_steps (filter : ToolMarkupFilter) (nonempty : filter.buf ≠ []) :
    Steps (next unmarshal) filter (filter.drainRound unmarshal false).2.1
        (filter.drainRound unmarshal false).1 ∧
      ((filter.drainRound unmarshal false).2.2 = false →
        (filter.drainRound unmarshal false).1.next unmarshal = none) := by
  obtain ⟨byte, rest, buf⟩ := List.exists_cons_of_ne_nil nonempty
  unfold drainRound
  cases held : filter.calls with
  | some dialect =>
      have now : filter.next unmarshal = filter.stepCalls unmarshal false dialect.1 := by
        simp [next, buf, held]
      dsimp only
      cases taken : filter.stepCalls unmarshal false dialect.1 with
      | none => exact ⟨Steps.stay filter, fun _ => now.trans taken⟩
      | some result =>
          exact ⟨steps_one (next unmarshal) (now.trans taken), fun stopped => by simp at stopped⟩
  | none =>
      dsimp only
      cases idle : filter.run.isEmpty with
      | false =>
          have now : filter.next unmarshal = filter.stepAfterRun unmarshal false := by
            simp [next, buf, held, idle]
          rw [if_pos (by decide)]
          cases taken : filter.stepAfterRun unmarshal false with
          | none => exact ⟨Steps.stay filter, fun _ => now.trans taken⟩
          | some result =>
              exact ⟨steps_one (next unmarshal) (now.trans taken),
                fun stopped => by simp at stopped⟩
      | true =>
          have unheld := List.isEmpty_iff.mp idle
          rw [if_neg (by decide)]
          cases found : indexOf [0x3C] filter.buf with
          | none =>
              have steps := plain_steps unmarshal filter held unheld filter.buf.length
                (Nat.le_refl _) (fun index bound => index_none _ _ found index bound)
              refine ⟨?_, fun _ => ?_⟩
              · simpa [emitBytes] using steps
              · simp [emitBytes, next]
          | some idx =>
              have start := index_found _ _ _ found
              have steps := plain_steps unmarshal filter held unheld idx (by omega)
                (index_first _ _ _ found)
              have kept := write_keeps filter (filter.buf.take idx)
              have tag : ∃ rest, (filter.emitBytes idx).1.buf = 0x3C :: rest := by
                obtain ⟨rest, same⟩ := start.1
                exact ⟨rest, same.symm⟩
              obtain ⟨rest, same⟩ := tag
              have now : (filter.emitBytes idx).1.next unmarshal =
                  (filter.emitBytes idx).1.stepTag unmarshal false := by
                have calls : (filter.emitBytes idx).1.calls = none := kept.1.trans held
                have run : (filter.emitBytes idx).1.run = [] := kept.2.trans unheld
                simp [next, same, calls, run]
              dsimp only
              cases taken : (filter.emitBytes idx).1.stepTag unmarshal false with
              | none => exact ⟨steps, fun _ => now.trans taken⟩
              | some result =>
                  exact ⟨steps_trans (next unmarshal) steps
                    (steps_one (next unmarshal) (now.trans taken)),
                    fun stopped => by simp at stopped⟩

end Machine

section Termination

variable (unmarshal : GoString → Option Json) (final : Bool) (filter : ToolMarkupFilter)

theorem calls_weight_le (calls : Option Dialect) : callsWeight calls ≤ 2 := by
  cases calls <;> simp [callsWeight]

theorem run_weight_le (run : List KiroToolUse) : runWeight run ≤ 1 := by
  cases run <;> simp [runWeight]

theorem run_weight_held (run : List KiroToolUse) (held : run ≠ []) : runWeight run = 1 := by
  cases run with
  | nil => exact absurd rfl held
  | cons _ _ => rfl

theorem release_run_weight (held : filter.run ≠ []) :
    filter.releaseRun.1.weight < filter.weight := by
  have kept := write_keeps filter filter.runRaw
  have buf := write_buf filter filter.runRaw
  have released : runWeight [] = 0 := rfl
  simp [weight, releaseRun, kept.1, buf, run_weight_held filter.run held, released]

theorem emit_bytes_weight (count : Nat) (positive : 0 < count) (nonempty : filter.buf ≠ []) :
    (filter.emitBytes count).1.weight < filter.weight := by
  have kept := write_keeps filter (filter.buf.take count)
  have length := List.length_pos_iff.mpr nonempty
  simp only [weight, emitBytes, kept.1, kept.2, List.length_drop]
  omega

theorem extend_run_weight (call : KiroToolUse) (consumed : Nat) (positive : 0 < consumed)
    (inside : consumed ≤ filter.buf.length) (calls : Option Dialect) (wrapped : Bool) :
    { filter.extendRun call consumed with calls := calls, wrapped := wrapped }.weight <
      filter.weight := by
  have callsFlag := calls_weight_le calls
  have runFlag := run_weight_le (filter.run ++ [call])
  simp only [weight, extendRun, List.length_drop]
  omega

theorem step_calls_weight (dialect : Dialect) (held : filter.calls = some dialect)
    (result : ToolMarkupFilter × GoString) (nonempty : filter.buf ≠ [])
    (taken : filter.stepCalls unmarshal final dialect.1 = some result) :
    result.1.weight < filter.weight := by
  have shorter := trim_length filter.buf
  have length := List.length_pos_iff.mpr nonempty
  have ended : ∀ buf : GoString, buf.length ≤ filter.buf.length → ∀ raw : GoString,
      { filter with runRaw := raw, buf := buf, calls := none, wrapped := false }.weight <
        filter.weight := by
    intro buf less raw
    simp only [weight, held, callsWeight]
    omega
  unfold stepCalls at taken
  dsimp only at taken
  generalize trimMarkupSpace filter.buf = rest at *
  by_cases closed : dialect.1.callsClose.isPrefixOf rest = true
  · rw [if_pos closed, Option.some.injEq] at taken
    rw [← taken]
    exact ended _ (by rw [List.length_drop]; omega) _
  · rw [if_neg closed] at taken
    by_cases opened : dialect.1.invokeOpen.isPrefixOf rest = true
    · rw [if_pos opened] at taken
      cases parsed : parseInvoke unmarshal filter.tools rest dialect.1 with
      | complete consumed call =>
          have bounds := parse_invoke_bounds unmarshal dialect.1 dialect.2 _ _ _ _ parsed
          simp only [parsed, Option.some.injEq] at taken
          rw [← taken]
          exact extend_run_weight filter call _ (by omega) (by omega) filter.calls filter.wrapped
      | needMore =>
          simp only [parsed] at taken
          split_ifs at taken
          rw [Option.some.injEq] at taken
          rw [← taken]
          exact ended filter.buf (Nat.le_refl _) filter.runRaw
      | invalid =>
          simp only [parsed, Option.some.injEq] at taken
          rw [← taken]
          exact ended filter.buf (Nat.le_refl _) filter.runRaw
    · rw [if_neg opened] at taken
      split_ifs at taken
      all_goals
        rw [Option.some.injEq] at taken
        rw [← taken]
        exact ended _ (by simp) filter.runRaw

theorem continue_run_weight (dialect : Dialect) (rest body : GoString)
    (inside : body.length ≤ filter.buf.length) (held : filter.run ≠ [])
    (result : ToolMarkupFilter × GoString)
    (taken : filter.continueRun unmarshal final dialect rest body = some result) :
    result.1.weight < filter.weight := by
  unfold continueRun at taken
  cases parsed : parseInvoke unmarshal filter.tools body dialect.1 with
  | complete consumed call =>
      have bounds := parse_invoke_bounds unmarshal dialect.1 dialect.2 _ _ _ _ parsed
      simp only [parsed, Option.some.injEq] at taken
      rw [← taken]
      exact extend_run_weight filter call _ (by omega) (by omega) (some dialect) (body != rest)
  | needMore =>
      simp only [parsed] at taken
      split_ifs at taken
      rw [Option.some.injEq] at taken
      rw [← taken]
      exact release_run_weight filter held
  | invalid =>
      simp only [parsed, Option.some.injEq] at taken
      rw [← taken]
      exact release_run_weight filter held

theorem after_run_dialects_weight (rest : GoString) (inside : rest.length ≤ filter.buf.length)
    (held : filter.run ≠ []) (dialects : List Dialect) (result : ToolMarkupFilter × GoString)
    (taken : filter.stepAfterRunDialects unmarshal final rest dialects = some result) :
    result.1.weight < filter.weight := by
  induction dialects with
  | nil =>
      rw [stepAfterRunDialects, Option.some.injEq] at taken
      rw [← taken]
      exact release_run_weight filter held
  | cons dialect dialects ih =>
      unfold stepAfterRunDialects at taken
      split_ifs at taken
      · have shorter := trim_length (rest.drop dialect.1.callsOpen.length)
        rw [List.length_drop] at shorter
        exact continue_run_weight unmarshal final filter dialect rest _ (by omega) held result
          taken
      · exact continue_run_weight unmarshal final filter dialect rest rest inside held result
          taken
      · exact ih taken

theorem step_after_run_weight (held : filter.run ≠ []) (nonempty : filter.buf ≠ [])
    (result : ToolMarkupFilter × GoString)
    (taken : filter.stepAfterRun unmarshal final = some result) :
    result.1.weight < filter.weight := by
  have length := List.length_pos_iff.mpr nonempty
  unfold stepAfterRun at taken
  dsimp only at taken
  split_ifs at taken
  · rw [Option.some.injEq] at taken
    rw [← taken]
    simp only [weight, commitTrailingWhitespace, List.length_nil, runWeight]
    omega
  · exact after_run_dialects_weight unmarshal final filter _ (trim_length _) held _ result taken

theorem step_invoke_weight (dialect : Dialect) (body : GoString) (offset : Nat)
    (inside : offset + body.length ≤ filter.buf.length) (nonempty : filter.buf ≠ [])
    (result : ToolMarkupFilter × GoString)
    (taken : filter.stepInvoke unmarshal final dialect body offset = some result) :
    result.1.weight < filter.weight := by
  unfold stepInvoke at taken
  cases parsed : parseInvoke unmarshal filter.tools body dialect.1 with
  | complete consumed call =>
      have bounds := parse_invoke_bounds unmarshal dialect.1 dialect.2 _ _ _ _ parsed
      simp only [parsed, Option.some.injEq] at taken
      rw [← taken]
      exact extend_run_weight filter call _ (by omega) (by omega) (some dialect) _
  | needMore =>
      simp only [parsed] at taken
      split_ifs at taken
      rw [Option.some.injEq] at taken
      rw [← taken]
      exact emit_bytes_weight filter 1 (by decide) nonempty
  | invalid =>
      simp only [parsed, Option.some.injEq] at taken
      rw [← taken]
      exact emit_bytes_weight filter 1 (by decide) nonempty

theorem tag_dialects_weight (nonempty : filter.buf ≠ []) (dialects : List Dialect)
    (result : ToolMarkupFilter × GoString)
    (taken : filter.stepTagDialects unmarshal final dialects = some result) :
    result.1.weight < filter.weight := by
  have one : some (filter.emitBytes 1) = some result → result.1.weight < filter.weight := by
    intro same
    rw [Option.some.injEq] at same
    rw [← same]
    exact emit_bytes_weight filter 1 (by decide) nonempty
  induction dialects with
  | nil =>
      unfold stepTagDialects at taken
      split_ifs at taken
      exact one taken
  | cons dialect dialects ih =>
      unfold stepTagDialects at taken
      dsimp only at taken
      split_ifs at taken
      · exact one taken
      · have shorter := trim_length (filter.buf.drop dialect.1.callsOpen.length)
        rw [List.length_drop] at shorter
        exact step_invoke_weight unmarshal final filter dialect _ _ (by omega) nonempty result
          taken
      · exact step_invoke_weight unmarshal final filter dialect _ _ (by omega) nonempty result
          taken
      · exact ih taken
      · exact ih taken

theorem step_tag_weight (nonempty : filter.buf ≠ []) (result : ToolMarkupFilter × GoString)
    (taken : filter.stepTag unmarshal final = some result) :
    result.1.weight < filter.weight := by
  have emitted : ∀ (state : ToolMarkupFilter) (count : Nat), 0 < count →
      state.buf = filter.buf → state.weight = filter.weight →
      some (state.emitBytes count) = some result → result.1.weight < filter.weight := by
    intro state count positive buf same taken
    rw [Option.some.injEq] at taken
    rw [← taken, ← same]
    exact emit_bytes_weight state count positive (by rw [buf]; exact nonempty)
  unfold stepTag at taken
  split_ifs at taken
  · exact emitted { filter with inThinking := false } _ (by decide) rfl rfl taken
  · exact emitted filter 1 (by decide) rfl rfl taken
  · exact emitted { filter with inThinking := true } _ (by decide) rfl rfl taken
  · exact emitted filter 1 (by decide) rfl rfl taken
  · exact tag_dialects_weight unmarshal final filter nonempty _ result taken

/-- A round that goes on makes the filter lighter, at stream end too. -/
theorem round_weight (nonempty : filter.buf ≠ [])
    (more : (filter.drainRound unmarshal final).2.2 = true) :
    (filter.drainRound unmarshal final).1.weight < filter.weight := by
  unfold drainRound at more ⊢
  cases held : filter.calls with
  | some dialect =>
      simp only [held] at more ⊢
      cases taken : filter.stepCalls unmarshal final dialect.1 with
      | none => simp [taken] at more
      | some result =>
          exact step_calls_weight unmarshal final filter dialect held result nonempty taken
  | none =>
      simp only [held] at more ⊢
      cases idle : filter.run.isEmpty with
      | false =>
          have run : filter.run ≠ [] := by simpa using idle
          simp only [idle, Bool.not_false, if_true] at more ⊢
          cases taken : filter.stepAfterRun unmarshal final with
          | none => simp [taken] at more
          | some result =>
              exact step_after_run_weight unmarshal final filter run nonempty result taken
      | true =>
          simp only [idle, Bool.not_true, Bool.false_eq_true, if_false] at more ⊢
          cases found : indexOf [0x3C] filter.buf with
          | none => simp [found] at more
          | some idx =>
              have start := index_found _ _ _ found
              have left : (filter.emitBytes idx).1.buf ≠ [] := by
                have inside := start.2
                intro empty
                have length := congrArg List.length empty
                simp only [emitBytes, List.length_drop, List.length_nil,
                  List.length_singleton] at length inside
                omega
              have less : (filter.emitBytes idx).1.weight ≤ filter.weight := by
                have kept := write_keeps filter (filter.buf.take idx)
                simp only [weight, emitBytes, kept.1, kept.2, List.length_drop]
                omega
              simp only [found] at more ⊢
              cases taken : (filter.emitBytes idx).1.stepTag unmarshal final with
              | none => simp [taken] at more
              | some result =>
                  exact Nat.lt_of_lt_of_le
                    (step_tag_weight unmarshal final _ left result taken) less

/-- The loop never ends for want of fuel: more of it changes nothing. -/
theorem drain_loop_fuel (fuel extra : Nat) (enough : filter.weight < fuel) :
    drainLoop unmarshal final (fuel + extra) filter = drainLoop unmarshal final fuel filter := by
  induction fuel generalizing filter with
  | zero => omega
  | succ fuel ih =>
      rw [Nat.add_right_comm, drainLoop, drainLoop]
      by_cases empty : filter.buf = []
      · rw [if_pos empty, if_pos empty]
      · rw [if_neg empty, if_neg empty]
        by_cases more : (filter.drainRound unmarshal final).2.2 = true
        · have lighter := round_weight unmarshal final filter empty more
          simp only [more, if_true, ih (filter.drainRound unmarshal final).1 (by omega)]
        · simp only [more, Bool.false_eq_true, if_false]

theorem drain_settles :
    Settles (next unmarshal) filter (filter.drain unmarshal false) := by
  have loop : ∀ (fuel : Nat) (state : ToolMarkupFilter), state.weight < fuel →
      Settles (next unmarshal) state (drainLoop unmarshal false fuel state) := by
    intro fuel
    induction fuel with
    | zero =>
        intro state enough
        omega
    | succ fuel ih =>
        intro state enough
        rw [drainLoop]
        by_cases empty : state.buf = []
        · rw [if_pos empty]
          exact ⟨Steps.stay state, by simp [next, empty]⟩
        · rw [if_neg empty]
          have round := round_steps unmarshal state empty
          by_cases more : (state.drainRound unmarshal false).2.2 = true
          · have lighter := round_weight unmarshal false state empty more
            have rest := ih (state.drainRound unmarshal false).1 (by omega)
            simp only [more, if_true]
            exact ⟨steps_trans (next unmarshal) round.1 rest.1, rest.2⟩
          · simp only [more, Bool.false_eq_true, if_false]
            exact ⟨round.1, round.2 (by simpa using more)⟩
  have plain : filter.drain unmarshal false =
      drainLoop unmarshal false (filter.weight + 1) filter := by
    simp [drain]
  rw [plain]
  exact loop _ filter (Nat.lt_succ_self _)

end Termination

end ToolMarkupFilter

end KiroProxy.ToolMarkup
