import KiroProxy.Proxy.ToolMarkupSteps
import Mathlib.Data.List.TakeWhile

/-!
# No byte lost in the markup filter

Text that the filter has not emitted is in the markup of its run or in its buffer.
Every round of the drain loop moves bytes between the three places and drops none;
only the end of the stream drops some, with the run it commits: the markup of the
calls, and behind it whitespace or the stub of a closing wrapper.
-/

namespace KiroProxy.ToolMarkup

open GoStrings Foundation.Searching KiroTypes

set_option autoImplicit false

section RunText

def Blank (text : GoString) : Prop := trimMarkupSpace text = []

instance (text : GoString) : Decidable (Blank text) :=
  inferInstanceAs (Decidable (trimMarkupSpace text = []))

theorem blank_nil : Blank [] := rfl

theorem trim_split (text : GoString) :
    ∃ space, Blank space ∧ text = space ++ trimMarkupSpace text := by
  refine ⟨text.takeWhile [0x20, 0x09, 0x0D, 0x0A].contains, ?_, ?_⟩
  · unfold Blank trimMarkupSpace trimLeft
    rw [List.dropWhile_eq_nil_iff]
    intro byte member
    exact List.mem_takeWhile_imp member
  · exact (List.takeWhile_append_dropWhile).symm

variable (unmarshal : GoString → Option Json) (tools : DeclaredTools)

/-- The parser reads exactly this text as the call, whatever follows it. -/
def ReadsInvoke (dialect : Dialect) (text : GoString) (call : KiroToolUse) : Prop :=
  ∃ rest, parseInvoke unmarshal tools (text ++ rest) dialect.1 = .complete text.length call

/-- The markup of a run of calls, and the dialect of a wrapper it leaves open. -/
inductive RunText : List KiroToolUse → GoString → Option Dialect → Prop where
  | nothing : RunText [] [] none
  | block {run : List KiroToolUse} {raw : GoString} {wrapper : Option Dialect}
      (held : RunText run raw wrapper) {dialect : Dialect} {space text : GoString}
      {call : KiroToolUse} (blank : Blank space)
      (reads : ReadsInvoke unmarshal tools dialect text call) :
      RunText (run ++ [call]) (raw ++ (space ++ text)) wrapper
  | wrapped {run : List KiroToolUse} {raw : GoString} (held : RunText run raw none)
      {dialect : Dialect} {space inner text : GoString} {call : KiroToolUse}
      (blank : Blank space) (blankInner : Blank inner)
      (reads : ReadsInvoke unmarshal tools dialect text call) :
      RunText (run ++ [call]) (raw ++ (space ++ (dialect.1.callsOpen ++ inner) ++ text))
        (some dialect)
  | closed {run : List KiroToolUse} {raw : GoString} {wrapper : Option Dialect}
      (held : RunText run raw wrapper) (nonempty : run ≠ []) {dialect : Dialect}
      {space : GoString} (blank : Blank space) :
      RunText run (raw ++ (space ++ dialect.1.callsClose)) none
  | left {run : List KiroToolUse} {raw : GoString} {wrapper : Option Dialect}
      (held : RunText run raw wrapper) : RunText run raw none

theorem run_text_nil (run : List KiroToolUse) (raw : GoString) (wrapper : Option Dialect)
    (held : RunText unmarshal tools run raw wrapper) (empty : run = []) : raw = [] := by
  induction held with
  | nothing => rfl
  | block => simp at empty
  | wrapped => simp at empty
  | closed _ nonempty => exact absurd empty nonempty
  | left _ ih => exact ih empty

/-- A block the parser completes at the head of a text. -/
theorem reads_invoke (dialect : Dialect) (body : GoString) (consumed : Nat)
    (call : KiroToolUse)
    (complete : parseInvoke unmarshal tools body dialect.1 = .complete consumed call) :
    ∃ text tail, body = text ++ tail ∧ text.length = consumed ∧
      ReadsInvoke unmarshal tools dialect text call := by
  have bounds := parse_invoke_bounds unmarshal dialect.1 dialect.2 tools body consumed call complete
  have size : (body.take consumed).length = consumed := List.length_take_of_le bounds.2
  refine ⟨body.take consumed, body.drop consumed, (List.take_append_drop consumed body).symm,
    size, body.drop consumed, ?_⟩
  rw [List.take_append_drop, size]
  exact complete

end RunText

namespace ToolMarkupFilter

section Rounds

variable (unmarshal : GoString → Option Json) (tools : DeclaredTools)

def openWrapper (filter : ToolMarkupFilter) : Option Dialect :=
  if filter.wrapped then filter.calls else none

/-- The run and its markup belong together, and a dialect is kept only behind a run. -/
structure Sound (filter : ToolMarkupFilter) : Prop where
  declared : filter.tools = tools
  run : RunText unmarshal tools filter.run filter.runRaw filter.openWrapper
  calls : filter.calls ≠ none → filter.run ≠ []

/-- What the filter still holds of the text. -/
def heldText (filter : ToolMarkupFilter) : GoString := filter.runRaw ++ filter.buf

/-- What is emitted or still held is what was held before. -/
structure Keeps (before after : ToolMarkupFilter) (out : GoString) : Prop where
  text : out ++ after.heldText = before.heldText
  sound : Sound unmarshal tools after
  rescued : after.rescued = before.rescued

/-- At stream end the buffer is only the stub of the wrapper's closing tag. -/
structure CutsStub (before after : ToolMarkupFilter) (out : GoString) : Prop where
  after : after = { before with buf := [], calls := none, wrapped := false }
  out : out = []
  stub : ∃ dialect space stub, before.openWrapper = some dialect ∧ before.buf = space ++ stub ∧
    Blank space ∧ isPartialTag stub dialect.1.callsClose = true

/-- At stream end the buffer is only whitespace, and the run is committed. -/
structure Commits (before after : ToolMarkupFilter) (out : GoString) : Prop where
  after : after = before.commitTrailingWhitespace
  out : out = []
  blank : Blank before.buf

theorem sound_new (filter : ToolMarkupFilter) (new : newToolMarkupFilter tools = some filter) :
    Sound unmarshal tools filter := by
  unfold newToolMarkupFilter at new
  split_ifs at new
  rw [Option.some.injEq] at new
  rw [← new]
  exact ⟨rfl, RunText.nothing, fun dialect => absurd rfl dialect⟩

theorem sound_feed (filter : ToolMarkupFilter) (sound : Sound unmarshal tools filter)
    (more : GoString) : Sound unmarshal tools (filter.feed more) :=
  ⟨sound.declared, sound.run, sound.calls⟩

theorem keeps_trans {first middle last : ToolMarkupFilter} {earlier later : GoString}
    (left : Keeps unmarshal tools first middle earlier)
    (right : Keeps unmarshal tools middle last later) :
    Keeps unmarshal tools first last (earlier ++ later) where
  text := by rw [List.append_assoc, right.text, left.text]
  sound := right.sound
  rescued := right.rescued.trans left.rescued

/-- Writing only moves the code marks. -/
theorem write_marks (filter : ToolMarkupFilter) (text : GoString) :
    ∃ ticks fenced inlineCode, filter.write text =
      { filter with ticks := ticks, fenced := fenced, inlineCode := inlineCode } := by
  unfold write
  induction text generalizing filter with
  | nil => exact ⟨filter.ticks, filter.fenced, filter.inlineCode, rfl⟩
  | cons byte text ih =>
      obtain ⟨ticks, fenced, inlineCode, later⟩ := ih (filter.writeByte byte)
      refine ⟨ticks, fenced, inlineCode, ?_⟩
      rw [List.foldl_cons, later]
      unfold writeByte
      split_ifs <;> rfl

theorem emit_keeps (filter : ToolMarkupFilter) (sound : Sound unmarshal tools filter)
    (unheld : filter.run = []) (count : Nat) :
    Keeps unmarshal tools filter (filter.emitBytes count).1 (filter.emitBytes count).2 := by
  obtain ⟨ticks, fenced, inlineCode, marks⟩ := write_marks filter (filter.buf.take count)
  have raw := run_text_nil unmarshal tools _ _ _ sound.run unheld
  unfold emitBytes
  rw [marks]
  refine ⟨?_, ⟨sound.declared, sound.run, sound.calls⟩, rfl⟩
  simp [heldText, raw]

theorem release_keeps (filter : ToolMarkupFilter) (sound : Sound unmarshal tools filter)
    (idle : filter.calls = none) :
    Keeps unmarshal tools filter filter.releaseRun.1 filter.releaseRun.2 := by
  obtain ⟨ticks, fenced, inlineCode, marks⟩ := write_marks filter filter.runRaw
  unfold releaseRun
  rw [marks]
  refine ⟨?_, ⟨sound.declared, ?_, fun dialect => absurd idle dialect⟩, rfl⟩
  · simp [heldText]
  · have closed : openWrapper { filter with
        ticks := ticks, fenced := fenced, inlineCode := inlineCode, run := [], runRaw := [] } =
        none := by
      simp [openWrapper, idle]
    rw [closed]
    exact RunText.nothing

/-- A block is taken from the buffer into the run. -/
theorem extend_keeps (filter : ToolMarkupFilter) (sound : Sound unmarshal tools filter)
    (call : KiroToolUse) (consumed : Nat) (taken rest : GoString)
    (split : filter.buf = taken ++ rest) (size : taken.length = consumed)
    (calls : Option Dialect) (wrapped : Bool)
    (run : RunText unmarshal tools (filter.run ++ [call]) (filter.runRaw ++ taken)
      (if wrapped then calls else none)) :
    Keeps unmarshal tools filter
      { filter.extendRun call consumed with calls := calls, wrapped := wrapped } [] := by
  have first : filter.buf.take consumed = taken := by
    rw [split, ← size, List.take_left]
  have second : filter.buf.drop consumed = rest := by
    rw [split, ← size, List.drop_left]
  unfold extendRun
  rw [first, second]
  refine ⟨?_, ⟨sound.declared, run, fun _ => by simp⟩, rfl⟩
  simp [heldText, split]

theorem end_keeps (filter : ToolMarkupFilter) (sound : Sound unmarshal tools filter) :
    Keeps unmarshal tools filter { filter with calls := none, wrapped := false } [] where
  text := rfl
  sound := ⟨sound.declared, RunText.left sound.run, fun dialect => absurd rfl dialect⟩
  rescued := rfl

variable (final : Bool)

theorem prefix_split (tag text : GoString) (starts : tag.isPrefixOf text = true) :
    ∃ rest, text = tag ++ rest := by
  obtain ⟨rest, same⟩ := List.isPrefixOf_iff_prefix.mp starts
  exact ⟨rest, same.symm⟩

theorem step_calls_outcome (filter : ToolMarkupFilter) (sound : Sound unmarshal tools filter)
    (dialect : Dialect) (held : filter.calls = some dialect) (after : ToolMarkupFilter)
    (out : GoString) (taken : filter.stepCalls unmarshal final dialect.1 = some (after, out)) :
    Keeps unmarshal tools filter after out ∨ (final = true ∧ CutsStub filter after out) := by
  obtain ⟨space, blank, split⟩ := trim_split filter.buf
  have skipped : filter.buf.length - (trimMarkupSpace filter.buf).length = space.length := by
    have sizes := congrArg List.length split
    rw [List.length_append] at sizes
    omega
  have ended : some ({ filter with calls := none, wrapped := false }, []) = some (after, out) →
      Keeps unmarshal tools filter after out := by
    intro same
    rw [Option.some.injEq, Prod.mk.injEq] at same
    rw [← same.1, ← same.2]
    exact end_keeps unmarshal tools filter sound
  unfold stepCalls at taken
  dsimp only at taken
  rw [skipped] at taken
  generalize trimMarkupSpace filter.buf = rest at *
  by_cases closed : dialect.1.callsClose.isPrefixOf rest = true
  · rw [if_pos closed, Option.some.injEq, Prod.mk.injEq] at taken
    obtain ⟨tail, same⟩ := prefix_split dialect.1.callsClose rest closed
    have first : filter.buf.take (space.length + dialect.1.callsClose.length) =
        space ++ dialect.1.callsClose := by
      rw [split, same, ← List.append_assoc, ← List.length_append, List.take_left]
    have nonempty : filter.run ≠ [] := sound.calls (by simp [held])
    left
    rw [← taken.1, ← taken.2, first, same, List.drop_left]
    refine ⟨?_, ⟨sound.declared, RunText.closed sound.run nonempty blank,
      fun some_ => absurd rfl some_⟩, rfl⟩
    simp [heldText, split, same]
  · rw [if_neg closed] at taken
    by_cases opened : dialect.1.invokeOpen.isPrefixOf rest = true
    · rw [if_pos opened] at taken
      cases parsed : parseInvoke unmarshal filter.tools rest dialect.1 with
      | complete consumed call =>
          simp only [parsed, Option.some.injEq, Prod.mk.injEq] at taken
          rw [sound.declared] at parsed
          obtain ⟨text, tail, body, size, reads⟩ :=
            reads_invoke unmarshal tools dialect rest consumed call parsed
          left
          rw [← taken.1, ← taken.2]
          apply extend_keeps unmarshal tools filter sound call _ (space ++ text) tail
            (by rw [split, body, List.append_assoc]) (by rw [List.length_append, size])
            filter.calls filter.wrapped
          exact RunText.block sound.run blank reads
      | needMore =>
          simp only [parsed] at taken
          split_ifs at taken
          exact Or.inl (ended taken)
      | invalid =>
          simp only [parsed] at taken
          exact Or.inl (ended taken)
    · rw [if_neg opened] at taken
      split_ifs at taken with empty atEnd stub
      · exact Or.inl (ended taken)
      · simp only [Bool.and_eq_true] at stub
        rw [Option.some.injEq, Prod.mk.injEq] at taken
        right
        refine ⟨stub.1.1, taken.1.symm, taken.2.symm, dialect, space, rest, ?_, split, blank,
          stub.2⟩
        simp [openWrapper, stub.1.2, held]
      · exact Or.inl (ended taken)
      · exact Or.inl (ended taken)

theorem continue_run_keeps (filter : ToolMarkupFilter) (sound : Sound unmarshal tools filter)
    (idle : filter.calls = none) (dialect : Dialect) (rest body lead : GoString)
    (split : filter.buf = lead ++ body)
    (extends_ : ∀ text call, ReadsInvoke unmarshal tools dialect text call →
      RunText unmarshal tools (filter.run ++ [call]) (filter.runRaw ++ (lead ++ text))
        (if body != rest then some dialect else none))
    (after : ToolMarkupFilter) (out : GoString)
    (taken : filter.continueRun unmarshal final dialect rest body = some (after, out)) :
    Keeps unmarshal tools filter after out := by
  have released : some filter.releaseRun = some (after, out) →
      Keeps unmarshal tools filter after out := by
    intro same
    rw [Option.some.injEq] at same
    have kept := release_keeps unmarshal tools filter sound idle
    rw [same] at kept
    exact kept
  unfold continueRun at taken
  rw [sound.declared] at taken
  cases parsed : parseInvoke unmarshal tools body dialect.1 with
  | complete consumed call =>
      obtain ⟨text, tail, same, size, reads⟩ :=
        reads_invoke unmarshal tools dialect body consumed call parsed
      simp only [parsed, Option.some.injEq, Prod.mk.injEq] at taken
      rw [← taken.1, ← taken.2]
      apply extend_keeps unmarshal tools filter sound call _ (lead ++ text) tail
        (by rw [split, same, List.append_assoc])
        (by rw [split, List.length_append, List.length_append, size]; omega)
        (some dialect) (body != rest)
      exact extends_ text call reads
  | needMore =>
      simp only [parsed] at taken
      split_ifs at taken
      exact released taken
  | invalid =>
      simp only [parsed] at taken
      exact released taken

theorem after_run_dialects_keeps (filter : ToolMarkupFilter)
    (sound : Sound unmarshal tools filter) (idle : filter.calls = none)
    (space rest : GoString) (blank : Blank space) (split : filter.buf = space ++ rest)
    (dialects : List Dialect) (after : ToolMarkupFilter) (out : GoString)
    (taken : filter.stepAfterRunDialects unmarshal final rest dialects = some (after, out)) :
    Keeps unmarshal tools filter after out := by
  have closed : RunText unmarshal tools filter.run filter.runRaw none := by
    have run := sound.run
    simp only [openWrapper, idle, ite_self] at run
    exact run
  induction dialects with
  | nil =>
      rw [stepAfterRunDialects, Option.some.injEq] at taken
      have kept := release_keeps unmarshal tools filter sound idle
      rw [taken] at kept
      exact kept
  | cons dialect dialects ih =>
      unfold stepAfterRunDialects at taken
      split_ifs at taken with wrapper block
      · obtain ⟨tail, same⟩ := prefix_split dialect.1.callsOpen rest wrapper
        obtain ⟨inner, blankInner, innerSplit⟩ := trim_split tail
        rw [same, List.drop_left] at taken
        rw [innerSplit] at same
        have differs : (trimMarkupSpace tail != dialect.1.callsOpen ++ tail) = true := by
          have positive := List.length_pos_iff.mpr dialect.2.callsOpen
          have shorter := trim_length tail
          rw [bne_iff_ne]
          intro equal
          have sizes := congrArg List.length equal
          rw [List.length_append] at sizes
          omega
        apply continue_run_keeps unmarshal tools final filter sound idle dialect _ _
          (space ++ (dialect.1.callsOpen ++ inner)) _ _ after out taken
        · rw [split, same]
          simp only [List.append_assoc]
        · intro text call reads
          rw [if_pos differs]
          exact RunText.wrapped closed blank blankInner reads
      · apply continue_run_keeps unmarshal tools final filter sound idle dialect _ _ space split _
          after out taken
        intro text call reads
        rw [if_neg (by simp)]
        exact RunText.block closed blank reads
      · exact ih taken

theorem step_after_run_outcome (filter : ToolMarkupFilter)
    (sound : Sound unmarshal tools filter) (idle : filter.calls = none)
    (after : ToolMarkupFilter) (out : GoString)
    (taken : filter.stepAfterRun unmarshal final = some (after, out)) :
    Keeps unmarshal tools filter after out ∨ (final = true ∧ Commits filter after out) := by
  obtain ⟨space, blank, split⟩ := trim_split filter.buf
  unfold stepAfterRun at taken
  dsimp only at taken
  split_ifs at taken with empty atEnd
  · rw [Option.some.injEq, Prod.mk.injEq] at taken
    exact Or.inr ⟨atEnd, taken.1.symm, taken.2.symm, empty⟩
  · exact Or.inl (after_run_dialects_keeps unmarshal tools final filter sound idle space _ blank
      split toolMarkupDialects after out taken)

theorem step_invoke_keeps (filter : ToolMarkupFilter) (sound : Sound unmarshal tools filter)
    (unheld : filter.run = []) (dialect : Dialect) (lead body : GoString)
    (split : filter.buf = lead ++ body)
    (begins : ∀ text call, ReadsInvoke unmarshal tools dialect text call →
      RunText unmarshal tools [call] (lead ++ text)
        (if decide (0 < lead.length) then some dialect else none))
    (after : ToolMarkupFilter) (out : GoString)
    (taken : filter.stepInvoke unmarshal final dialect body lead.length = some (after, out)) :
    Keeps unmarshal tools filter after out := by
  have emitted : some (filter.emitBytes 1) = some (after, out) →
      Keeps unmarshal tools filter after out := by
    intro same
    rw [Option.some.injEq] at same
    have kept := emit_keeps unmarshal tools filter sound unheld 1
    rw [same] at kept
    exact kept
  have raw := run_text_nil unmarshal tools _ _ _ sound.run unheld
  unfold stepInvoke at taken
  rw [sound.declared] at taken
  cases parsed : parseInvoke unmarshal tools body dialect.1 with
  | complete consumed call =>
      obtain ⟨text, tail, same, size, reads⟩ :=
        reads_invoke unmarshal tools dialect body consumed call parsed
      simp only [parsed, Option.some.injEq, Prod.mk.injEq] at taken
      rw [← taken.1, ← taken.2]
      apply extend_keeps unmarshal tools filter sound call _ (lead ++ text) tail
        (by rw [split, same, List.append_assoc]) (by rw [List.length_append, size])
        (some dialect) (decide (0 < lead.length))
      rw [unheld, raw]
      exact begins text call reads
  | needMore =>
      simp only [parsed] at taken
      split_ifs at taken
      exact emitted taken
  | invalid =>
      simp only [parsed] at taken
      exact emitted taken

theorem tag_dialects_keeps (filter : ToolMarkupFilter) (sound : Sound unmarshal tools filter)
    (unheld : filter.run = []) (dialects : List Dialect) (after : ToolMarkupFilter)
    (out : GoString)
    (taken : filter.stepTagDialects unmarshal final dialects = some (after, out)) :
    Keeps unmarshal tools filter after out := by
  have emitted : some (filter.emitBytes 1) = some (after, out) →
      Keeps unmarshal tools filter after out := by
    intro same
    rw [Option.some.injEq] at same
    have kept := emit_keeps unmarshal tools filter sound unheld 1
    rw [same] at kept
    exact kept
  induction dialects with
  | nil =>
      unfold stepTagDialects at taken
      split_ifs at taken
      exact emitted taken
  | cons dialect dialects ih =>
      unfold stepTagDialects at taken
      dsimp only at taken
      split_ifs at taken with wrapper
      · exact emitted taken
      · obtain ⟨tail, same⟩ := prefix_split dialect.1.callsOpen filter.buf wrapper
        obtain ⟨inner, blank, innerSplit⟩ := trim_split tail
        have split : filter.buf = (dialect.1.callsOpen ++ inner) ++ trimMarkupSpace tail := by
          rw [List.append_assoc, ← innerSplit]
          exact same
        have body : filter.buf.drop dialect.1.callsOpen.length = tail := by
          rw [same, List.drop_left]
        have offset : filter.buf.length - (trimMarkupSpace tail).length =
            (dialect.1.callsOpen ++ inner).length := by
          rw [split, List.length_append]
          omega
        have positive : 0 < (dialect.1.callsOpen ++ inner).length := by
          have length := List.length_pos_iff.mpr dialect.2.callsOpen
          rw [List.length_append]
          omega
        rw [body, offset] at taken
        apply step_invoke_keeps unmarshal tools final filter sound unheld dialect _ _ split _
          after out taken
        intro text call reads
        rw [if_pos (by simpa using positive)]
        exact RunText.wrapped RunText.nothing blank_nil blank reads
      · apply step_invoke_keeps unmarshal tools final filter sound unheld dialect [] _ rfl _
          after out taken
        intro text call reads
        exact RunText.block RunText.nothing blank_nil reads
      · exact ih taken
      · exact ih taken

theorem step_tag_keeps (filter : ToolMarkupFilter) (sound : Sound unmarshal tools filter)
    (unheld : filter.run = []) (after : ToolMarkupFilter) (out : GoString)
    (taken : filter.stepTag unmarshal final = some (after, out)) :
    Keeps unmarshal tools filter after out := by
  have emitted : ∀ (thinking : Bool) (count : Nat),
      some ({ filter with inThinking := thinking }.emitBytes count) = some (after, out) →
      Keeps unmarshal tools filter after out := by
    intro thinking count same
    rw [Option.some.injEq] at same
    have marked : Sound unmarshal tools { filter with inThinking := thinking } :=
      ⟨sound.declared, sound.run, sound.calls⟩
    have kept := emit_keeps unmarshal tools _ marked unheld count
    rw [same] at kept
    exact ⟨kept.text, kept.sound, kept.rescued⟩
  unfold stepTag at taken
  split_ifs at taken
  · exact emitted false _ taken
  · exact emitted filter.inThinking 1 taken
  · exact emitted true _ taken
  · exact emitted filter.inThinking 1 taken
  · exact tag_dialects_keeps unmarshal tools final filter sound unheld _ after out taken

end Rounds

section Drain

variable (unmarshal : GoString → Option Json) (tools : DeclaredTools) (final : Bool)

/-- A round of the drain loop keeps the text, but for the end of the stream. -/
theorem round_outcome (filter : ToolMarkupFilter) (sound : Sound unmarshal tools filter) :
    Keeps unmarshal tools filter (filter.drainRound unmarshal final).1
        (filter.drainRound unmarshal final).2.1 ∨
      (final = true ∧ (filter.drainRound unmarshal final).2.2 = true ∧
        (CutsStub filter (filter.drainRound unmarshal final).1
            (filter.drainRound unmarshal final).2.1 ∨
          filter.calls = none ∧ filter.run ≠ [] ∧
            Commits filter (filter.drainRound unmarshal final).1
              (filter.drainRound unmarshal final).2.1)) := by
  have stays : Keeps unmarshal tools filter filter [] := ⟨rfl, sound, rfl⟩
  unfold drainRound
  cases held : filter.calls with
  | some dialect =>
      dsimp only
      cases taken : filter.stepCalls unmarshal final dialect.1 with
      | none => exact Or.inl stays
      | some result =>
          cases step_calls_outcome unmarshal tools final filter sound dialect held result.1
              result.2 taken with
          | inl kept => exact Or.inl kept
          | inr stub => exact Or.inr ⟨stub.1, rfl, Or.inl stub.2⟩
  | none =>
      dsimp only
      cases idle : filter.run.isEmpty with
      | false =>
          rw [if_pos (by decide)]
          cases taken : filter.stepAfterRun unmarshal final with
          | none => exact Or.inl stays
          | some result =>
              cases step_after_run_outcome unmarshal tools final filter sound held result.1
                  result.2 taken with
              | inl kept => exact Or.inl kept
              | inr commits =>
                  refine Or.inr ⟨commits.1, rfl, Or.inr ⟨rfl, ?_, commits.2⟩⟩
                  simpa using idle
      | true =>
          have unheld := List.isEmpty_iff.mp idle
          rw [if_neg (by decide)]
          left
          cases found : indexOf [0x3C] filter.buf with
          | none =>
              have kept := emit_keeps unmarshal tools filter sound unheld filter.buf.length
              have all : (filter.emitBytes filter.buf.length).2 = filter.buf := by
                simp [emitBytes]
              rw [all] at kept
              exact kept
          | some idx =>
              have plain := emit_keeps unmarshal tools filter sound unheld idx
              have still : (filter.emitBytes idx).1.run = [] :=
                (write_keeps filter (filter.buf.take idx)).2.trans unheld
              dsimp only
              cases taken : (filter.emitBytes idx).1.stepTag unmarshal final with
              | none => exact plain
              | some result =>
                  exact keeps_trans unmarshal tools plain
                    (step_tag_keeps unmarshal tools final _ plain.sound still result.1 result.2
                      taken)

/-- Before the stream ends the drain loop keeps the text. -/
theorem drain_keeps (filter : ToolMarkupFilter) (sound : Sound unmarshal tools filter) :
    Keeps unmarshal tools filter (filter.drain unmarshal false).1
      (filter.drain unmarshal false).2 := by
  have loop : ∀ (fuel : Nat) (state : ToolMarkupFilter), Sound unmarshal tools state →
      Keeps unmarshal tools state (drainLoop unmarshal false fuel state).1
        (drainLoop unmarshal false fuel state).2 := by
    intro fuel
    induction fuel with
    | zero => exact fun state sound => ⟨rfl, sound, rfl⟩
    | succ fuel ih =>
        intro state sound
        rw [drainLoop]
        by_cases empty : state.buf = []
        · rw [if_pos empty]
          exact ⟨rfl, sound, rfl⟩
        · rw [if_neg empty]
          have round : Keeps unmarshal tools state (state.drainRound unmarshal false).1
              (state.drainRound unmarshal false).2.1 := by
            cases round_outcome unmarshal tools false state sound with
            | inl kept => exact kept
            | inr ended => exact absurd ended.1 (by decide)
          dsimp only
          split
          · exact keeps_trans unmarshal tools round (ih _ round.sound)
          · exact round
  have plain : filter.drain unmarshal false =
      drainLoop unmarshal false (filter.weight + 1) filter := by
    simp [drain]
  rw [plain]
  exact loop _ filter sound

end Drain

section StreamEnd

variable (unmarshal : GoString → Option Json) (tools : DeclaredTools)

theorem step_calls_ends (filter : ToolMarkupFilter) (tags : ToolMarkupTags) :
    (filter.stepCalls unmarshal true tags).isSome = true := by
  unfold stepCalls
  simp only [if_true]
  split_ifs
  · rfl
  · cases parseInvoke unmarshal filter.tools (trimMarkupSpace filter.buf) tags <;> rfl
  · rfl
  · rfl
  · rfl
  · rfl

theorem continue_run_ends (filter : ToolMarkupFilter) (dialect : Dialect)
    (rest body : GoString) :
    (filter.continueRun unmarshal true dialect rest body).isSome = true := by
  unfold continueRun
  cases parseInvoke unmarshal filter.tools body dialect.1 <;> rfl

theorem step_after_run_ends (filter : ToolMarkupFilter) :
    (filter.stepAfterRun unmarshal true).isSome = true := by
  have dialects : ∀ (rest : GoString) (dialects : List Dialect),
      (filter.stepAfterRunDialects unmarshal true rest dialects).isSome = true := by
    intro rest dialects
    induction dialects with
    | nil => rfl
    | cons dialect dialects ih =>
        unfold stepAfterRunDialects
        split_ifs with wrapper block wait
        · exact continue_run_ends unmarshal filter dialect rest _
        · exact continue_run_ends unmarshal filter dialect rest rest
        · simp at wait
        · exact ih
  unfold stepAfterRun
  simp only [if_true]
  split_ifs
  · rfl
  · exact dialects _ toolMarkupDialects

theorem step_tag_ends (filter : ToolMarkupFilter) :
    (filter.stepTag unmarshal true).isSome = true := by
  have invoke : ∀ (dialect : Dialect) (body : GoString) (offset : Nat),
      (filter.stepInvoke unmarshal true dialect body offset).isSome = true := by
    intro dialect body offset
    unfold stepInvoke
    cases parseInvoke unmarshal filter.tools body dialect.1 <;> rfl
  have dialects : ∀ dialects : List Dialect,
      (filter.stepTagDialects unmarshal true dialects).isSome = true := by
    intro dialects
    induction dialects with
    | nil => simp [stepTagDialects]
    | cons dialect dialects ih =>
        unfold stepTagDialects
        dsimp only
        split_ifs with wrapper unopened wait block part never
        · simp at wait
        · rfl
        · exact invoke dialect _ _
        · exact invoke dialect _ _
        · simp at never
        · exact ih
        · exact ih
  unfold stepTag
  split_ifs with thinking closed wait
  · rfl
  · simp at wait
  · rfl
  · rfl
  · rfl
  · exact dialects toolMarkupDialects

/-- At stream end the loop stops only on an empty buffer. -/
theorem last_round_empties (filter : ToolMarkupFilter)
    (stops : (filter.drainRound unmarshal true).2.2 = false) :
    (filter.drainRound unmarshal true).1.buf = [] := by
  unfold drainRound at stops ⊢
  cases held : filter.calls with
  | some dialect =>
      obtain ⟨result, taken⟩ :=
        Option.isSome_iff_exists.mp (step_calls_ends unmarshal filter dialect.1)
      simp [held, taken] at stops
  | none =>
      simp only [held] at stops ⊢
      cases idle : filter.run.isEmpty with
      | false =>
          obtain ⟨result, taken⟩ :=
            Option.isSome_iff_exists.mp (step_after_run_ends unmarshal filter)
          simp [idle, taken] at stops
      | true =>
          simp only [idle, Bool.not_true, Bool.false_eq_true, if_false] at stops ⊢
          cases found : indexOf [0x3C] filter.buf with
          | none => simp [emitBytes]
          | some idx =>
              obtain ⟨result, taken⟩ := Option.isSome_iff_exists.mp
                (step_tag_ends unmarshal (filter.emitBytes idx).1)
              simp [found, taken] at stops

/-- What may lie behind the markup of a committed run: whitespace, and inside a wrapper
the stub of its closing tag. -/
def EndsRun (run : List KiroToolUse) (raw tail : GoString) : Prop :=
  ∃ wrapper, RunText unmarshal tools run raw wrapper ∧
    (Blank tail ∨ ∃ dialect space stub, wrapper = some dialect ∧ tail = space ++ stub ∧
      Blank space ∧ isPartialTag stub dialect.1.callsClose = true)

/-- The run that the stream ends with is still to be committed. -/
structure LeavesRun (before after : ToolMarkupFilter) (out : GoString) : Prop where
  buf : after.buf = []
  rescued : after.rescued = before.rescued
  text : ∃ tail, out ++ (after.runRaw ++ tail) = before.heldText ∧
    (after.run = [] → after.runRaw = [] ∧ tail = []) ∧
    (after.run ≠ [] → EndsRun unmarshal tools after.run after.runRaw tail)

/-- The run that the stream ends with has been committed. -/
structure CommitsRun (before after : ToolMarkupFilter) (out : GoString) : Prop where
  run : after.run = []
  text : ∃ run raw tail, run ≠ [] ∧ after.rescued = before.rescued ++ run ∧
    out ++ (raw ++ tail) = before.heldText ∧ EndsRun unmarshal tools run raw tail

theorem leaves_run_empty (filter : ToolMarkupFilter) (sound : Sound unmarshal tools filter)
    (empty : filter.buf = []) : LeavesRun unmarshal tools filter filter [] where
  buf := empty
  rescued := rfl
  text := by
    refine ⟨[], by simp [heldText, empty], ?_, ?_⟩
    · intro unheld
      exact ⟨run_text_nil unmarshal tools _ _ _ sound.run unheld, rfl⟩
    · intro _
      exact ⟨filter.openWrapper, sound.run, Or.inl blank_nil⟩

theorem keeps_then (first middle last : ToolMarkupFilter) (earlier later : GoString)
    (left : Keeps unmarshal tools first middle earlier)
    (right : LeavesRun unmarshal tools middle last later ∨
      CommitsRun unmarshal tools middle last later) :
    LeavesRun unmarshal tools first last (earlier ++ later) ∨
      CommitsRun unmarshal tools first last (earlier ++ later) := by
  cases right with
  | inl leaves =>
      obtain ⟨tail, text, rest⟩ := leaves.text
      refine Or.inl ⟨leaves.buf, leaves.rescued.trans left.rescued, tail, ?_, rest⟩
      rw [List.append_assoc, text, left.text]
  | inr commits =>
      obtain ⟨run, raw, tail, nonempty, rescued, text, ends⟩ := commits.text
      refine Or.inr ⟨commits.run, run, raw, tail, nonempty, ?_, ?_, ends⟩
      · rw [rescued, left.rescued]
      · rw [List.append_assoc, text, left.text]

theorem cuts_stub_leaves (before after : ToolMarkupFilter) (out : GoString)
    (sound : Sound unmarshal tools before) (cuts : CutsStub before after out) :
    LeavesRun unmarshal tools before after out := by
  obtain ⟨dialect, space, stub, wrapper, split, blank, part⟩ := cuts.stub
  have nonempty : before.run ≠ [] := by
    apply sound.calls
    intro idle
    simp [openWrapper, idle] at wrapper
  have run := sound.run
  rw [wrapper] at run
  rw [cuts.after, cuts.out]
  refine ⟨rfl, rfl, before.buf, rfl, fun unheld => absurd unheld nonempty, fun _ => ?_⟩
  exact ⟨some dialect, run, Or.inr ⟨dialect, space, stub, rfl, split, blank, part⟩⟩

theorem commits_commit (before after : ToolMarkupFilter) (out : GoString)
    (sound : Sound unmarshal tools before) (nonempty : before.run ≠ [])
    (commits : Commits before after out) : CommitsRun unmarshal tools before after out := by
  rw [commits.after, commits.out]
  refine ⟨rfl, before.run, before.runRaw, before.buf, nonempty, rfl, rfl, ?_⟩
  exact ⟨before.openWrapper, sound.run, Or.inl commits.blank⟩

theorem last_loop (fuel : Nat) (filter : ToolMarkupFilter)
    (sound : Sound unmarshal tools filter) (enough : filter.weight < fuel) :
    LeavesRun unmarshal tools filter (drainLoop unmarshal true fuel filter).1
        (drainLoop unmarshal true fuel filter).2 ∨
      CommitsRun unmarshal tools filter (drainLoop unmarshal true fuel filter).1
        (drainLoop unmarshal true fuel filter).2 := by
  induction fuel generalizing filter with
  | zero => omega
  | succ fuel ih =>
      rw [drainLoop]
      by_cases empty : filter.buf = []
      · rw [if_pos empty]
        exact Or.inl (leaves_run_empty unmarshal tools filter sound empty)
      · rw [if_neg empty]
        have done : ∀ state : ToolMarkupFilter, state.buf = [] →
            drainLoop unmarshal true fuel state = (state, []) := by
          intro state emptied
          cases fuel with
          | zero => rfl
          | succ fuel => rw [drainLoop, if_pos emptied]
        dsimp only
        cases round_outcome unmarshal tools true filter sound with
        | inl kept =>
            cases more : (filter.drainRound unmarshal true).2.2 with
            | true =>
                have lighter := round_weight unmarshal true filter empty more
                rw [if_pos rfl]
                exact keeps_then unmarshal tools _ _ _ _ _ kept
                  (ih _ kept.sound (by omega))
            | false =>
                have emptied := last_round_empties unmarshal filter more
                have ended := keeps_then unmarshal tools _ _ _ _ _ kept
                  (Or.inl (leaves_run_empty unmarshal tools _ kept.sound emptied))
                rw [List.append_nil] at ended
                rw [if_neg (by decide)]
                exact ended
        | inr ended =>
            obtain ⟨_, more, special⟩ := ended
            rw [if_pos more]
            cases special with
            | inl cuts =>
                rw [done _ (by rw [cuts.after]), List.append_nil]
                exact Or.inl (cuts_stub_leaves unmarshal tools _ _ _ sound cuts)
            | inr commit =>
                rw [done _ (by rw [commit.2.2.after]; rfl), List.append_nil]
                exact Or.inr (commits_commit unmarshal tools _ _ _ sound commit.2.1 commit.2.2)

/-- The text shown at stream end is what was held, but for the run it commits. -/
theorem drain_ends (filter : ToolMarkupFilter) (sound : Sound unmarshal tools filter) :
    ∃ missing, (filter.drain unmarshal true).2 ++ missing = filter.heldText ∧
      ((filter.drain unmarshal true).1.rescued = filter.rescued ∧ missing = [] ∨
        ∃ run raw tail, run ≠ [] ∧
          (filter.drain unmarshal true).1.rescued = filter.rescued ++ run ∧
          missing = raw ++ tail ∧ EndsRun unmarshal tools run raw tail) := by
  unfold drain
  dsimp only
  cases last_loop unmarshal tools _ filter sound (Nat.lt_succ_self filter.weight) with
  | inl leaves =>
      obtain ⟨tail, text, unheld, ends⟩ := leaves.text
      cases idle : (drainLoop unmarshal true (filter.weight + 1) filter).1.run.isEmpty with
      | true =>
          have nothing := unheld (List.isEmpty_iff.mp idle)
          rw [nothing.1, nothing.2] at text
          rw [if_neg (by simp)]
          exact ⟨[], text, Or.inl ⟨leaves.rescued, rfl⟩⟩
      | false =>
          have nonempty : (drainLoop unmarshal true (filter.weight + 1) filter).1.run ≠ [] := by
            simpa using idle
          rw [leaves.buf, if_pos (by decide)]
          refine ⟨_, text, Or.inr ⟨_, _, tail, nonempty, ?_, rfl, ends nonempty⟩⟩
          rw [← leaves.rescued]
          rfl
  | inr commits =>
      obtain ⟨run, raw, tail, nonempty, rescued, text, ends⟩ := commits.text
      rw [if_neg (by simp [commits.run])]
      exact ⟨raw ++ tail, text, Or.inr ⟨run, raw, tail, nonempty, rescued, rfl, ends⟩⟩

end StreamEnd

section Streams

variable (unmarshal : GoString → Option Json) (tools : DeclaredTools)

/-- What a filter holds; without declared tools there is no filter and nothing held. -/
def held (filter : Option ToolMarkupFilter) : GoString :=
  (filter.map heldText).getD []

theorem push_all_keeps (filter : ToolMarkupFilter) (sound : Sound unmarshal tools filter)
    (chunks : List GoString) :
    ∃ after, (pushAll unmarshal (some filter) chunks).1 = some after ∧
      Sound unmarshal tools after ∧ after.rescued = filter.rescued ∧
      (pushAll unmarshal (some filter) chunks).2 ++ after.heldText =
        filter.heldText ++ chunks.flatten := by
  induction chunks generalizing filter with
  | nil => exact ⟨filter, rfl, sound, rfl, by simp [pushAll]⟩
  | cons chunk chunks ih =>
      have fed := drain_keeps unmarshal tools (filter.feed chunk)
        (sound_feed unmarshal tools filter sound chunk)
      obtain ⟨after, reached, still, rescued, text⟩ :=
        ih ((filter.feed chunk).drain unmarshal false).1 fed.sound
      refine ⟨after, reached, still, rescued.trans fed.rescued, ?_⟩
      have first := fed.text
      have whole : (filter.feed chunk).heldText = filter.heldText ++ chunk := by
        unfold heldText
        rw [List.append_assoc]
        rfl
      rw [whole] at first
      change (((filter.feed chunk).drain unmarshal false).2 ++
        (pushAll unmarshal (some ((filter.feed chunk).drain unmarshal false).1) chunks).2) ++
          after.heldText = _
      rw [List.append_assoc, text, ← List.append_assoc, first, List.flatten_cons,
        List.append_assoc]

theorem push_all_none (chunks : List GoString) :
    pushAll unmarshal none chunks = (none, chunks.flatten) := by
  induction chunks with
  | nil => rfl
  | cons chunk chunks ih => simp [pushAll, push, ih]

end Streams

end ToolMarkupFilter

end KiroProxy.ToolMarkup
