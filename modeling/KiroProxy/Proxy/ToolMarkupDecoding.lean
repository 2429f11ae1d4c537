import KiroProxy.Proxy.ToolMarkupRendering
import KiroProxy.Proxy.ToolMarkupChunks

/-!
# Rendered calls are rescued

Behind plain text that leaves no code open the filter reads the rendering of a list
of calls block by block. Its states on the way are listed, so that no cut of the
text matters, and at stream end the run it holds is the list.
-/

namespace KiroProxy.ToolMarkup

open GoStrings Foundation.Searching KiroTypes Foundation
open Foundation.Streaming (Steps Settles steps_trans steps_one)

set_option autoImplicit false

namespace ToolMarkupFilter

section Blocks

variable (unmarshal : GoString → Option Json) (tools : DeclaredTools) (dialect : Dialect)

theorem invoke_text_starts (call : MarkupCall) (more : GoString) :
    ∃ rest, invokeText dialect.1 call ++ more = dialect.1.invokeOpen ++ rest := by
  unfold invokeText
  exact ⟨_, List.append_assoc _ _ _⟩

theorem trim_invoke (told : TagsTold dialect.1) (call : MarkupCall) (space more : GoString)
    (blank : Blank space) :
    trimMarkupSpace (space ++ (invokeText dialect.1 call ++ more)) =
      invokeText dialect.1 call ++ more := by
  obtain ⟨rest, text⟩ := invoke_text_starts dialect call more
  rw [text]
  exact trim_blank space dialect.1.invokeOpen rest blank told.invokeOpen

variable (filter : ToolMarkupFilter) (declared : filter.tools = tools)

include declared

theorem step_calls_block (told : TagsTold dialect.1) (call : MarkupCall)
    (written : CallWritten dialect.1 tools call) (more : GoString)
    (buf : filter.buf = call.space ++ (invokeText dialect.1 call ++ more)) :
    ∃ raw, filter.stepCalls unmarshal false dialect.1 =
      some ({ filter with
        run := filter.run ++ [decodedCall unmarshal tools call], runRaw := raw, buf := more },
        []) := by
  obtain ⟨rest, text⟩ := invoke_text_starts dialect call more
  have unclosed := (apart_unmatched dialect.1.invokeOpen dialect.1.callsClose rest told.calls).1
  have taken : filter.buf.drop (call.space.length + (invokeText dialect.1 call).length) =
      more := by
    rw [buf, ← List.append_assoc, List.drop_left' List.length_append]
  have skipped : filter.buf.length - (invokeText dialect.1 call ++ more).length =
      call.space.length := by
    rw [buf, List.length_append]
    omega
  refine ⟨filter.runRaw ++ filter.buf.take
    (call.space.length + (invokeText dialect.1 call).length), ?_⟩
  unfold stepCalls
  dsimp only
  rw [show trimMarkupSpace filter.buf = invokeText dialect.1 call ++ more by
    rw [buf]
    exact trim_invoke dialect told call call.space more written.space]
  rw [skipped, declared, parse_written_invoke unmarshal tools dialect told call written more,
    text, unclosed, prefix_self]
  simp only [Bool.false_eq_true, if_false, if_true, extendRun, taken]
  rw [declared]

omit declared in
theorem step_calls_closing (told : TagsTold dialect.1) (closing : GoString)
    (blank : Blank closing) (buf : filter.buf = closing ++ dialect.1.callsClose) :
    ∃ raw, filter.stepCalls unmarshal false dialect.1 =
      some ({ filter with runRaw := raw, buf := [], calls := none, wrapped := false }, []) := by
  have rest := trim_blank closing dialect.1.callsClose [] blank told.callsClose
  rw [List.append_nil, ← buf] at rest
  have closed := prefix_self dialect.1.callsClose []
  rw [List.append_nil] at closed
  refine ⟨filter.runRaw ++ filter.buf.take (filter.buf.length -
    dialect.1.callsClose.length + dialect.1.callsClose.length), ?_⟩
  unfold stepCalls
  dsimp only
  rw [rest, if_pos closed, List.drop_length]

omit declared in
/-- A dialect is passed over when the buffer starts with a tag of another one. -/
theorem tag_dialects_skip (other : Dialect) (others : List Dialect) (tag more : GoString)
    (buf : filter.buf = tag ++ more) (calls : Apart tag other.1.callsOpen)
    (invoke : Apart tag other.1.invokeOpen) :
    filter.stepTagDialects unmarshal false (other :: others) =
      filter.stepTagDialects unmarshal false others := by
  have unwrapped := apart_unmatched tag other.1.callsOpen more calls
  have unopened := apart_unmatched tag other.1.invokeOpen more invoke
  rw [stepTagDialects, buf]
  simp [unwrapped.1, unwrapped.2, unopened.1, unopened.2]

omit declared in
theorem tag_dialects_reach (known : dialect ∈ toolMarkupDialects) (tag more : GoString)
    (own : tag = dialect.1.invokeOpen ∨ tag = dialect.1.callsOpen)
    (buf : filter.buf = tag ++ more) :
    ∃ others, filter.stepTagDialects unmarshal false toolMarkupDialects =
      filter.stepTagDialects unmarshal false (dialect :: others) := by
  simp only [toolMarkupDialects, List.mem_cons, List.not_mem_nil, or_false] at known
  cases known with
  | inl plain => exact ⟨_, by rw [plain]; rfl⟩
  | inr named =>
      refine ⟨[], ?_⟩
      unfold toolMarkupDialects
      rw [← named]
      apply tag_dialects_skip unmarshal filter _ _ tag more buf
      · cases own with
        | inl invoke =>
            rw [invoke, named]
            decide
        | inr calls =>
            rw [calls, named]
            decide
      · cases own with
        | inl invoke =>
            rw [invoke, named]
            decide
        | inr calls =>
            rw [calls, named]
            decide

omit declared in
theorem step_tag_own (known : dialect ∈ toolMarkupDialects) (told : TagsTold dialect.1)
    (thinking : filter.inThinking = false) (code : filter.inCode = false) (tag more : GoString)
    (own : tag = dialect.1.invokeOpen ∨ tag = dialect.1.callsOpen)
    (buf : filter.buf = tag ++ more) :
    ∃ others, filter.stepTag unmarshal false =
      filter.stepTagDialects unmarshal false (dialect :: others) := by
  have apart : Apart tag thinkingOpenTag := by
    cases own with
    | inl invoke =>
        rw [invoke]
        exact told.thinkingInvoke
    | inr calls =>
        rw [calls]
        exact told.thinkingCalls
  have unthinking := (apart_unmatched tag thinkingOpenTag more apart).1
  rw [← buf] at unthinking
  obtain ⟨others, reach⟩ := tag_dialects_reach unmarshal dialect filter known tag more own buf
  refine ⟨others, ?_⟩
  rw [← reach]
  simp [stepTag, thinking, code, unthinking]

theorem step_tag_block (known : dialect ∈ toolMarkupDialects) (told : TagsTold dialect.1)
    (thinking : filter.inThinking = false) (code : filter.inCode = false) (call : MarkupCall)
    (written : CallWritten dialect.1 tools call) (more : GoString)
    (buf : filter.buf = invokeText dialect.1 call ++ more) :
    ∃ raw, filter.stepTag unmarshal false =
      some ({ filter with
        run := filter.run ++ [decodedCall unmarshal tools call], runRaw := raw, buf := more,
        calls := some dialect, wrapped := false }, []) := by
  obtain ⟨rest, text⟩ := invoke_text_starts dialect call more
  obtain ⟨others, reach⟩ := step_tag_own unmarshal dialect filter known told thinking code
    dialect.1.invokeOpen rest (Or.inl rfl) (buf.trans text)
  have unwrapped := (apart_unmatched dialect.1.invokeOpen dialect.1.callsOpen rest told.opens).1
  rw [← text, ← buf] at unwrapped
  have opened := prefix_self dialect.1.invokeOpen rest
  rw [← text, ← buf] at opened
  have parsed := parse_written_invoke unmarshal tools dialect told call written more
  rw [← buf] at parsed
  refine ⟨filter.runRaw ++ filter.buf.take (0 + (invokeText dialect.1 call).length), ?_⟩
  rw [reach, stepTagDialects, unwrapped, opened]
  simp only [Bool.false_eq_true, if_false, if_true, stepInvoke, declared, parsed, extendRun,
    Nat.lt_irrefl, decide_false]
  rw [buf, Nat.zero_add, List.drop_left]

theorem step_tag_wrapper (known : dialect ∈ toolMarkupDialects) (told : TagsTold dialect.1)
    (thinking : filter.inThinking = false) (code : filter.inCode = false) (call : MarkupCall)
    (written : CallWritten dialect.1 tools call) (more : GoString)
    (buf : filter.buf =
      dialect.1.callsOpen ++ (call.space ++ (invokeText dialect.1 call ++ more))) :
    ∃ raw, filter.stepTag unmarshal false =
      some ({ filter with
        run := filter.run ++ [decodedCall unmarshal tools call], runRaw := raw, buf := more,
        calls := some dialect, wrapped := true }, []) := by
  obtain ⟨rest, text⟩ := invoke_text_starts dialect call more
  obtain ⟨others, reach⟩ := step_tag_own unmarshal dialect filter known told thinking code
    dialect.1.callsOpen _ (Or.inr rfl) buf
  have wrapper := prefix_self dialect.1.callsOpen
    (call.space ++ (invokeText dialect.1 call ++ more))
  rw [← buf] at wrapper
  have body : trimMarkupSpace (filter.buf.drop dialect.1.callsOpen.length) =
      invokeText dialect.1 call ++ more := by
    rw [buf, List.drop_left]
    exact trim_invoke dialect told call call.space more written.space
  have opened := prefix_self dialect.1.invokeOpen rest
  rw [← text] at opened
  have offset : filter.buf.length - (invokeText dialect.1 call ++ more).length =
      (dialect.1.callsOpen ++ call.space).length := by
    simp only [buf, List.length_append]
    omega
  have positive : 0 < (dialect.1.callsOpen ++ call.space).length := by
    have length := List.length_pos_iff.mpr dialect.2.callsOpen
    rw [List.length_append]
    omega
  have parsed := parse_written_invoke unmarshal tools dialect told call written more
  refine ⟨filter.runRaw ++ filter.buf.take ((dialect.1.callsOpen ++ call.space).length +
    (invokeText dialect.1 call).length), ?_⟩
  rw [reach, stepTagDialects, wrapper, body]
  dsimp only
  rw [opened, offset]
  simp only [Bool.not_true, Bool.false_eq_true, if_false, if_true, stepInvoke, declared, parsed,
    extendRun, positive, decide_true]
  have taken : filter.buf.drop ((dialect.1.callsOpen ++ call.space).length +
      (invokeText dialect.1 call).length) = more := by
    rw [buf, ← List.append_assoc, ← List.append_assoc,
      List.drop_left' List.length_append]
  rw [taken]

end Blocks

section Cuts

variable (unmarshal : GoString → Option Json) (tools : DeclaredTools)

/-- The filter meets a whole thinking tag in code with nothing held. -/
def MeetsTagInCode (filter : ToolMarkupFilter) : Prop :=
  filter.calls = none ∧ filter.run = [] ∧ filter.inCode = true ∧
    thinkingOpenTag.isPrefixOf filter.buf = true

/-- A text on whose way the filter meets no thinking tag in code has no harmful cut. -/
theorem uncut_of_way (start : ToolMarkupFilter)
    (new : newToolMarkupFilter tools = some start) (text : GoString)
    (way : ∀ out reached, Steps (next unmarshal) (start.feed text) out reached →
      ¬reached.MeetsTagInCode) : ¬TagCutInCode unmarshal tools text := by
  rintro ⟨start', read, rest, emitted, reached, new', same, path, cut⟩
  rw [new, Option.some.injEq] at new'
  have whole : ∀ (state last : ToolMarkupFilter) (out : GoString),
      Steps (next unmarshal) state out last →
      (∀ out' reached', Steps (next unmarshal) (state.feed rest) out' reached' →
        ¬reached'.MeetsTagInCode) →
      Steps (next unmarshal) (state.feed rest) out (last.feed rest) := by
    intro state last out path
    induction path with
    | stay state => exact fun _ => Steps.stay (state.feed rest)
    | @step state middle last emitted output taken later ih =>
        intro clear
        have uncut : ¬state.CutsTagInCode rest := by
          intro cut
          obtain ⟨_, calls, run, _, code, _, opened⟩ := cut
          exact clear [] _ (Steps.stay _) ⟨calls, run, code, opened⟩
        have fed := next_feed unmarshal state rest uncut middle emitted taken
        exact Steps.step fed
          (ih fun out' reached' path' => clear _ reached' (Steps.step fed path'))
  rw [← new'] at path
  have there := whole _ _ _ path (by
    rw [feed_feed, ← same]
    exact way)
  rw [feed_feed, ← same] at there
  obtain ⟨_, calls, run, _, code, _, opened⟩ := cut
  exact way _ _ there ⟨calls, run, code, opened⟩

end Cuts

section Way

variable (unmarshal : GoString → Option Json) (tools : DeclaredTools) (dialect : Dialect)
  (layout : Layout) (calls : List MarkupCall) (leading : GoString)

/-- The filter before any text. -/
def freshFilter : ToolMarkupFilter :=
  ⟨tools, [], false, none, false, [], [], [], 0, false, false⟩

/-- The filter after the first bytes of the leading text. -/
def reading (count : Nat) : ToolMarkupFilter :=
  { (freshFilter tools).write (leading.take count) with
    buf := leading.drop count ++ renderCalls dialect.1 layout calls }

def isWrapped : Layout → Bool
  | .bare => false
  | .wrapped _ => true

def closingText : Layout → GoString
  | .bare => []
  | .wrapped closing => closing ++ dialect.1.callsClose

/-- The filter with some of the calls in its run and the others in its buffer. -/
def running (raw : GoString) (done todo : List MarkupCall) : ToolMarkupFilter :=
  { (freshFilter tools).write leading with
    run := done.map (decodedCall unmarshal tools)
    runRaw := raw
    calls := some dialect
    wrapped := isWrapped layout
    buf := spacedText dialect.1 todo ++ closingText dialect layout }

/-- The filter with all calls in its run and no dialect left. -/
def finished (raw : GoString) : ToolMarkupFilter :=
  { (freshFilter tools).write leading with
    run := calls.map (decodedCall unmarshal tools)
    runRaw := raw
    calls := none
    wrapped := false
    buf := [] }

inductive OnWay : ToolMarkupFilter → Prop where
  | reading (count : Nat) (inside : count ≤ leading.length) :
      OnWay (reading tools dialect layout calls leading count)
  | running (raw : GoString) (done todo : List MarkupCall) (some_ : done ≠ [])
      (all : done ++ todo = calls) :
      OnWay (running unmarshal tools dialect layout leading raw done todo)
  | finished (raw : GoString) : OnWay (finished unmarshal tools calls leading raw)

theorem fresh_write (text : GoString) :
    ((freshFilter tools).write text).tools = tools ∧
      ((freshFilter tools).write text).inThinking = false ∧
      ((freshFilter tools).write text).calls = none ∧
      ((freshFilter tools).write text).run = [] ∧
      ((freshFilter tools).write text).rescued = [] := by
  obtain ⟨ticks, fenced, inlineCode, marks⟩ := write_marks (freshFilter tools) text
  rw [marks]
  exact ⟨rfl, rfl, rfl, rfl, rfl⟩

theorem reading_next (plain : 0x3C ∉ leading) (count : Nat) (inside : count < leading.length) :
    (reading tools dialect layout calls leading count).next unmarshal =
      some (reading tools dialect layout calls leading (count + 1), [leading[count]]) := by
  have marks := fresh_write tools (leading.take count)
  have rest : leading.drop count = leading[count] :: leading.drop (count + 1) :=
    List.drop_eq_getElem_cons inside
  have byte : leading[count] ≠ 0x3C := by
    intro same
    exact plain (same ▸ List.getElem_mem inside)
  have written : leading.take (count + 1) = leading.take count ++ [leading[count]] := by
    rw [List.take_succ_eq_append_getElem inside]
  have buf : (reading tools dialect layout calls leading count).buf =
      leading[count] :: (leading.drop (count + 1) ++ renderCalls dialect.1 layout calls) := by
    unfold reading
    rw [rest]
    rfl
  have idle : (reading tools dialect layout calls leading count).calls = none := marks.2.2.1
  have unheld : (reading tools dialect layout calls leading count).run = [] := marks.2.2.2.1
  have emitted : (reading tools dialect layout calls leading count).emitBytes 1 =
      (reading tools dialect layout calls leading (count + 1), [leading[count]]) := by
    unfold emitBytes
    rw [buf]
    simp only [List.take_succ_cons, List.take_zero, List.drop_succ_cons, List.drop_zero]
    unfold reading
    rw [written, write_append, write_with_buf]
  rw [← emitted]
  simp [next, buf, idle, unheld, byte]

variable (known : dialect ∈ toolMarkupDialects)
  (written : ∀ call ∈ calls, CallWritten dialect.1 tools call)
  (layoutWritten : layout.Written)

include known written

theorem begin_next (closed : ((freshFilter tools).write leading).inCode = false)
    (first : MarkupCall) (rest : List MarkupCall) (same : calls = first :: rest) :
    ∃ raw, (reading tools dialect layout calls leading leading.length).next unmarshal =
      some (running unmarshal tools dialect layout leading raw [first] rest, []) := by
  have marks := fresh_write tools leading
  have told := tags_told dialect known
  have head := written first (by rw [same]; exact List.mem_cons_self)
  let filter := reading tools dialect layout calls leading leading.length
  have whole : leading.take leading.length = leading := List.take_length
  have code : filter.inCode = false := by
    simp only [filter, reading, whole]
    exact closed
  have stepped : ∀ tag more, filter.buf = tag ++ more → tag.head? = some 0x3C →
      filter.next unmarshal = filter.stepTag unmarshal false := by
    intro tag more buf starts
    cases tag with
    | nil => simp at starts
    | cons byte tag =>
        rw [List.head?_cons, Option.some.injEq] at starts
        have idle : filter.calls = none := by
          simp only [filter, reading, whole]
          exact marks.2.2.1
        have unheld : filter.run = [] := by
          simp only [filter, reading, whole]
          exact marks.2.2.2.1
        simp [next, buf, idle, unheld, starts]
  have declared : filter.tools = tools := by
    simp only [filter, reading, whole]
    exact marks.1
  have thinking : filter.inThinking = false := by
    simp only [filter, reading, whole]
    exact marks.2.1
  cases layout with
  | bare =>
      have buf : filter.buf = invokeText dialect.1 first ++ spacedText dialect.1 rest := by
        simp [filter, reading, same, renderCalls]
      obtain ⟨behind, text⟩ := invoke_text_starts dialect first (spacedText dialect.1 rest)
      obtain ⟨raw, taken⟩ := step_tag_block unmarshal tools dialect filter declared known told
        thinking code first head _ buf
      refine ⟨raw, ?_⟩
      rw [stepped _ behind (buf.trans text) told.invokeOpen, taken]
      simp [running, filter, reading, whole, marks.2.2.2.1, isWrapped, closingText]
  | wrapped closing =>
      have buf : filter.buf = dialect.1.callsOpen ++ (first.space ++ (invokeText dialect.1 first ++
          (spacedText dialect.1 rest ++ (closing ++ dialect.1.callsClose)))) := by
        simp [filter, reading, same, renderCalls, spacedText]
      obtain ⟨raw, taken⟩ := step_tag_wrapper unmarshal tools dialect filter declared known told
        thinking code first head _ buf
      refine ⟨raw, ?_⟩
      rw [stepped _ _ buf told.callsOpen, taken]
      simp [running, filter, reading, whole, marks.2.2.2.1, isWrapped, closingText]

omit known in
theorem running_next (told : TagsTold dialect.1) (raw : GoString)
    (done todo : List MarkupCall) (call : MarkupCall) (member : call ∈ calls) :
    ∃ raw', (running unmarshal tools dialect layout leading raw done (call :: todo)).next
        unmarshal =
      some (running unmarshal tools dialect layout leading raw' (done ++ [call]) todo, []) := by
  let filter := running unmarshal tools dialect layout leading raw done (call :: todo)
  have buf : filter.buf = call.space ++ (invokeText dialect.1 call ++
      (spacedText dialect.1 todo ++ closingText dialect layout)) := by
    simp [filter, running, spacedText]
  have declared : filter.tools = tools := (fresh_write tools leading).1
  obtain ⟨raw', taken⟩ := step_calls_block unmarshal tools dialect filter declared told call
    (written call member) _ buf
  have nonempty : filter.buf ≠ [] := by
    intro empty
    have starts := told.invokeOpen
    rw [buf] at empty
    simp only [List.append_eq_nil_iff, invokeText] at empty
    simp [empty.2.1.1] at starts
  obtain ⟨byte, rest, split⟩ := List.exists_cons_of_ne_nil nonempty
  have held : filter.calls = some dialect := rfl
  refine ⟨raw', ?_⟩
  have stepped : filter.next unmarshal = filter.stepCalls unmarshal false dialect.1 := by
    simp [next, split, held]
  rw [stepped, taken]
  simp [running, filter]

omit known written in
theorem running_last (told : TagsTold dialect.1) (layoutWritten : layout.Written)
    (raw : GoString) :
    (running unmarshal tools dialect layout leading raw calls []).next unmarshal = none ∧
        (running unmarshal tools dialect layout leading raw calls []).buf = [] ∨
      ∃ raw', (running unmarshal tools dialect layout leading raw calls []).next unmarshal =
        some (finished unmarshal tools calls leading raw', []) := by
  cases layout with
  | bare => exact Or.inl ⟨rfl, rfl⟩
  | wrapped closing =>
      right
      let filter := running unmarshal tools dialect (.wrapped closing) leading raw calls []
      have buf : filter.buf = closing ++ dialect.1.callsClose := rfl
      obtain ⟨raw', taken⟩ := step_calls_closing unmarshal dialect filter told closing
        layoutWritten buf
      have nonempty : filter.buf ≠ [] := by
        intro empty
        have starts := told.callsClose
        rw [buf, List.append_eq_nil_iff] at empty
        simp [empty.2] at starts
      obtain ⟨byte, rest, split⟩ := List.exists_cons_of_ne_nil nonempty
      have held : filter.calls = some dialect := rfl
      have stepped : filter.next unmarshal = filter.stepCalls unmarshal false dialect.1 := by
        simp [next, split, held]
      refine ⟨raw', ?_⟩
      rw [stepped, taken]
      rfl

/-- The states on the way are closed under steps. -/
theorem on_way_next (layoutWritten : layout.Written) (plain : 0x3C ∉ leading)
    (closed : ((freshFilter tools).write leading).inCode = false) (someone : calls ≠ [])
    (state after : ToolMarkupFilter) (out : GoString)
    (way : OnWay unmarshal tools dialect layout calls leading state)
    (taken : state.next unmarshal = some (after, out)) :
    OnWay unmarshal tools dialect layout calls leading after := by
  have told := tags_told dialect known
  cases way with
  | reading count inside =>
      by_cases more : count < leading.length
      · rw [reading_next unmarshal tools dialect layout calls leading plain count more,
          Option.some.injEq, Prod.mk.injEq] at taken
        rw [← taken.1]
        exact OnWay.reading (count + 1) more
      · have last : count = leading.length := by omega
        obtain ⟨first, rest, same⟩ := List.exists_cons_of_ne_nil someone
        obtain ⟨raw, begun⟩ := begin_next unmarshal tools dialect layout calls leading known
          written closed first rest same
        rw [last, begun, Option.some.injEq, Prod.mk.injEq] at taken
        rw [← taken.1]
        exact OnWay.running raw [first] rest (by simp) same.symm
  | running raw done todo some_ all =>
      cases todo with
      | nil =>
          rw [List.append_nil] at all
          rw [all] at taken
          cases running_last unmarshal tools dialect layout calls leading told layoutWritten
              raw with
          | inl waits =>
              rw [waits.1] at taken
              exact absurd taken (by simp)
          | inr closes =>
              obtain ⟨raw', ended⟩ := closes
              rw [ended, Option.some.injEq, Prod.mk.injEq] at taken
              rw [← taken.1]
              exact OnWay.finished raw'
      | cons call todo =>
          have member : call ∈ calls := by
            rw [← all]
            simp
          obtain ⟨raw', ran⟩ := running_next unmarshal tools dialect layout calls leading
            written told raw done todo call member
          rw [ran, Option.some.injEq, Prod.mk.injEq] at taken
          rw [← taken.1]
          exact OnWay.running raw' (done ++ [call]) todo (by simp) (by simpa using all)
  | finished raw => simp [next, finished] at taken

omit known written in
theorem on_way_clear (plain : 0x3C ∉ leading)
    (closed : ((freshFilter tools).write leading).inCode = false) (someone : calls ≠ [])
    (state : ToolMarkupFilter) (way : OnWay unmarshal tools dialect layout calls leading state) :
    ¬state.MeetsTagInCode := by
  rintro ⟨_, unheld, code, opened⟩
  cases way with
  | reading count inside =>
      by_cases more : count < leading.length
      · have rest : leading.drop count = leading[count] :: leading.drop (count + 1) :=
          List.drop_eq_getElem_cons more
        have starts : thinkingOpenTag = 0x3C :: thinkingOpenTag.tail := by decide
        unfold reading at opened
        rw [rest, starts] at opened
        simp only [List.cons_append, List.isPrefixOf_cons_cons, Bool.and_eq_true, beq_iff_eq]
          at opened
        exact plain (opened.1 ▸ List.getElem_mem more)
      · have last : count = leading.length := by omega
        rw [last] at code
        unfold reading at code
        rw [List.take_length] at code
        rw [show inCode { (freshFilter tools).write leading with
          buf := leading.drop leading.length ++ renderCalls dialect.1 layout calls } =
            ((freshFilter tools).write leading).inCode from rfl, closed] at code
        exact absurd code (by decide)
  | running raw done todo some_ all =>
      exact some_ (List.map_eq_nil_iff.mp unheld)
  | finished raw => exact someone (List.map_eq_nil_iff.mp unheld)

omit known written in
theorem reading_steps (plain : 0x3C ∉ leading) (count left : Nat)
    (whole : count + left = leading.length) :
    Steps (next unmarshal) (reading tools dialect layout calls leading count)
      (leading.drop count) (reading tools dialect layout calls leading leading.length) := by
  induction left generalizing count with
  | zero =>
      rw [Nat.add_zero] at whole
      rw [whole, List.drop_length]
      exact Steps.stay _
  | succ left ih =>
      have inside : count < leading.length := by omega
      have rest : leading.drop count = [leading[count]] ++ leading.drop (count + 1) :=
        List.drop_eq_getElem_cons inside
      rw [rest]
      exact Steps.step
        (reading_next unmarshal tools dialect layout calls leading plain count inside)
        (ih (count + 1) (by omega))

omit known in
theorem running_steps (told : TagsTold dialect.1) (raw : GoString)
    (done todo : List MarkupCall) (member : ∀ call ∈ todo, call ∈ calls) :
    ∃ raw', Steps (next unmarshal)
      (running unmarshal tools dialect layout leading raw done todo) []
      (running unmarshal tools dialect layout leading raw' (done ++ todo) []) := by
  induction todo generalizing raw done with
  | nil =>
      rw [List.append_nil]
      exact ⟨raw, Steps.stay _⟩
  | cons call todo ih =>
      obtain ⟨raw', ran⟩ := running_next unmarshal tools dialect layout calls leading written
        told raw done todo call (member call List.mem_cons_self)
      obtain ⟨raw'', rest⟩ := ih raw' (done ++ [call])
        (fun other later => member other (List.mem_cons_of_mem _ later))
      refine ⟨raw'', ?_⟩
      rw [List.append_cons]
      exact Steps.step ran rest

/-- The filter emits the leading text and settles with all calls in its run. -/
theorem reading_settles (layoutWritten : layout.Written) (plain : 0x3C ∉ leading)
    (closed : ((freshFilter tools).write leading).inCode = false) (someone : calls ≠ []) :
    ∃ last, Settles (next unmarshal) (reading tools dialect layout calls leading 0)
        (last, leading) ∧
      last.run = calls.map (decodedCall unmarshal tools) ∧ last.buf = [] ∧
      last.rescued = [] := by
  have told := tags_told dialect known
  have rescued := (fresh_write tools leading).2.2.2.2
  obtain ⟨first, rest, same⟩ := List.exists_cons_of_ne_nil someone
  have read := reading_steps unmarshal tools dialect layout calls leading plain 0
    leading.length (Nat.zero_add _)
  obtain ⟨raw, begun⟩ := begin_next unmarshal tools dialect layout calls leading known written
    closed first rest same
  obtain ⟨raw', ran⟩ := running_steps unmarshal tools dialect layout calls leading written told
    raw [first] rest (by rw [same]; exact fun call => List.mem_cons_of_mem _)
  have all : [first] ++ rest = calls := same.symm
  rw [all] at ran
  have path := steps_trans (next unmarshal) read
    (steps_trans (next unmarshal) (steps_one (next unmarshal) begun) ran)
  rw [List.drop_zero, List.append_nil, List.append_nil] at path
  cases running_last unmarshal tools dialect layout calls leading told layoutWritten raw' with
  | inl waits => exact ⟨_, ⟨path, waits.1⟩, rfl, waits.2, rescued⟩
  | inr closes =>
      obtain ⟨raw'', ended⟩ := closes
      have whole := steps_trans (next unmarshal) path (steps_one (next unmarshal) ended)
      rw [List.append_nil] at whole
      exact ⟨_, ⟨whole, rfl⟩, rfl, rfl, rescued⟩

end Way

section Decoding

variable (unmarshal : GoString → Option Json) (tools : DeclaredTools)

theorem flush_run (filter : ToolMarkupFilter) (empty : filter.buf = [])
    (held : filter.run ≠ []) (nothing : filter.rescued = []) :
    (filter.drain unmarshal true).2 = [] ∧
      (filter.drain unmarshal true).1.rescued = filter.run := by
  have loop : drainLoop unmarshal true (filter.weight + 1) filter = (filter, []) := by
    rw [drainLoop, if_pos empty]
  have blank : trimSpace filter.buf == [] := by
    rw [empty]
    decide
  unfold drain
  rw [loop]
  simp [held, blank, commitTrailingWhitespace, nothing]

/-- Calls rendered behind plain text that leaves no code open are rescued exactly, in
order and however the text is cut, and the text before them is all that is shown. -/
theorem rendered_calls_rescued (dialect : Dialect) (known : dialect ∈ toolMarkupDialects)
    (layout : Layout) (layoutWritten : layout.Written) (calls : List MarkupCall)
    (someone : calls ≠ []) (written : ∀ call ∈ calls, CallWritten dialect.1 tools call)
    (leading : GoString) (plain : 0x3C ∉ leading)
    (closed : ((freshFilter tools).write leading).inCode = false) (chunks : List GoString)
    (text : chunks.flatten = leading ++ renderCalls dialect.1 layout calls) :
    rescueStream unmarshal tools chunks =
      (leading, calls.map (decodedCall unmarshal tools)) := by
  obtain ⟨first, rest, same⟩ := List.exists_cons_of_ne_nil someone
  have armed : tools ≠ [] := by
    intro empty
    have declared := (written first (by rw [same]; exact List.mem_cons_self)).declared
    simp [empty] at declared
  have new : newToolMarkupFilter tools = some (freshFilter tools) := by
    rw [newToolMarkupFilter, if_neg armed]
    rfl
  have start : (freshFilter tools).feed (leading ++ renderCalls dialect.1 layout calls) =
      reading tools dialect layout calls leading 0 := rfl
  have way : ∀ out reached, Steps (next unmarshal)
      ((freshFilter tools).feed (leading ++ renderCalls dialect.1 layout calls)) out reached →
      OnWay unmarshal tools dialect layout calls leading reached := by
    intro out reached path
    rw [start] at path
    have here : OnWay unmarshal tools dialect layout calls leading
        (reading tools dialect layout calls leading 0) := OnWay.reading 0 (Nat.zero_le _)
    generalize reading tools dialect layout calls leading 0 = state at path here
    induction path with
    | stay => exact here
    | step taken _ ih =>
        exact ih (on_way_next unmarshal tools dialect layout calls leading known written
          layoutWritten plain closed someone _ _ _ here taken)
  have uncut : ¬TagCutInCode unmarshal tools chunks.flatten := by
    rw [text]
    apply uncut_of_way unmarshal tools (freshFilter tools) new
    intro out reached path
    exact on_way_clear unmarshal tools dialect layout calls leading plain closed someone reached
      (way out reached path)
  obtain ⟨last, settles, run, buf, rescued⟩ := reading_settles unmarshal tools dialect layout
    calls leading known written layoutWritten plain closed someone
  have drained : (reading tools dialect layout calls leading 0).drain unmarshal false =
      (last, leading) :=
    Streaming.settles_unique (next unmarshal) (drain_settles unmarshal _) settles
  have pushed : push unmarshal (some (freshFilter tools)) chunks.flatten =
      (some last, leading) := by
    rw [text]
    change (some (((freshFilter tools).feed
      (leading ++ renderCalls dialect.1 layout calls)).drain unmarshal false).1, _) = _
    rw [start, drained]
    exact congrArg (Prod.mk (some last)) (congrArg Prod.snd drained)
  have held : last.run ≠ [] := by
    rw [run, same]
    simp
  have ended := flush_run unmarshal last buf held rescued
  unfold rescueStream
  rw [push_all_whole unmarshal tools chunks.flatten uncut chunks rfl, new, pushed]
  simp only [flush, ended.1, List.append_nil, Option.map_some, Option.getD_some]
  rw [ended.2, run]

/-- A call whose value holds the close of its own block. -/
def quotingCall : MarkupCall where
  space := lit "\n"
  name := lit "write"
  params := [⟨lit "\n", lit "text", lit "</invoke> `x"⟩]
  closing := lit "\n"

theorem quoting_call_rescued :
    rescueStream (fun _ => none) [(lit "write", [(lit "text", lit "string")])]
        [lit "Writing\n" ++ lit "<function_ca", lit "lls>" ++
          (spacedText (newToolMarkupTags []) [quotingCall] ++
            (lit "\n" ++ lit "</function_calls>"))] =
      (lit "Writing\n", [quotingCall].map (decodedCall (fun _ => none)
        [(lit "write", [(lit "text", lit "string")])])) := by
  have written : CallWritten (newToolMarkupTags [])
      [(lit "write", [(lit "text", lit "string")])] quotingCall := by
    refine ⟨by decide, by decide, ⟨by decide, by decide, by decide⟩, by decide, ?_, by decide⟩
    intro param member
    rw [List.mem_singleton.mp member]
    exact ⟨by decide, ⟨by decide, by decide, by decide⟩, by decide⟩
  apply rendered_calls_rescued _ _ ⟨newToolMarkupTags [], by constructor <;> decide⟩
    List.mem_cons_self (.wrapped (lit "\n")) (show Blank (lit "\n") by decide) [quotingCall]
    (by simp)
  · intro call member
    rw [List.mem_singleton.mp member]
    exact written
  · decide
  · decide
  · rfl

end Decoding

end ToolMarkupFilter

end KiroProxy.ToolMarkup
