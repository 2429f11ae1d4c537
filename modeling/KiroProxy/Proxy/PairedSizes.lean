import KiroProxy.JsonLengths
import KiroProxy.Proxy.HistoryMedia
import KiroProxy.Proxy.PayloadText

/-!
# The size of a paired history

The passes of `proxy/tool_history.go` run after `truncatePayloadToLimit` has counted its
entries. Narrating a tool turn takes its structure away and adds the names of its calls, so a
history grows only by a name that is far longer than the id of its call.
-/

namespace KiroProxy.PayloadText

open GoStrings Foundation.Searching JsonText KiroTypes ToolHistory
open ToolNames (NameMap)

set_option autoImplicit false

section Texts

theorem written_removed (fuel : Nat) (text : GoString) :
    writtenLength (removeToolCallText fuel text) ≤ writtenLength text := by
  induction fuel generalizing text with
  | zero => exact Nat.le_refl _
  | succ fuel ih =>
      rw [removeToolCallText]
      cases opened : indexOf (lit "[Called tool ") text with
      | none => exact Nat.le_refl _
      | some start =>
          cases closed : indexOf (lit "]") (text.drop (start + 13)) with
          | none =>
              simp only [closed]
              exact Nat.le_refl _
          | some length =>
              simp only [closed]
              have mark : lit "[Called tool " = 0x5B :: lit "Called tool " := by decide
              have size : (0x5B :: lit "Called tool ").length = 13 := by decide
              have bracket : lit "]" = [0x5D] := by decide
              have front := (index_first_at _ _ _ opened).1
              have back := (index_first_at _ _ _ closed).1
              rw [mark, size] at front
              rw [bracket, List.length_singleton, List.drop_drop, ← Nat.add_assoc] at back
              generalize text.drop (start + 13 + length + 1) = after at back ⊢
              generalize (text.drop (start + 13)).take length = name at back
              have whole : text =
                  text.take start ++ 0x5B :: ((lit "Called tool " ++ name) ++ 0x5D :: after) := by
                rw [back] at front
                simpa using front
              have cut := written_cut (text.take start) after 0x5B 0x5D
                (lit "Called tool " ++ name) (by decide) (by decide)
              rw [← whole] at cut
              have apart := written_append_le (text.take start) (removeToolCallText fuel after)
              have rest := ih after
              omega

/-- Line feeds that go leave the text around them as it is read. -/
theorem written_collapsed (before text : GoString) (run : Nat) :
    writtenLength (before ++ collapseLineFeeds run text) ≤ writtenLength (before ++ text) := by
  induction text generalizing before run with
  | nil => exact Nat.le_refl _
  | cons byte text ih =>
      have kept (count : Nat) : writtenLength (before ++ byte :: collapseLineFeeds count text) ≤
          writtenLength (before ++ byte :: text) := by
        have rest := ih (before ++ [byte]) count
        rwa [List.append_assoc, List.append_assoc, List.singleton_append,
          List.singleton_append] at rest
      rw [collapseLineFeeds]
      split_ifs with feed few
      · exact kept (run + 1)
      · refine (ih before (run + 1)).trans ?_
        have apart := written_append_le before text
        have feeds : writtenLength (before ++ byte :: text) =
            writtenLength before + writtenLength (byte :: text) :=
          written_append before byte text (by rw [feed]; decide)
        have more := written_ascii byte text (by rw [feed]; decide)
        omega
      · exact kept 0

theorem written_stripped (content : GoString) :
    writtenLength (stripPollutedToolCallText content) ≤ writtenLength content := by
  unfold stripPollutedToolCallText
  split_ifs
  · exact Nat.le_refl _
  · have collapsed := written_collapsed [] (removeToolCallText content.length content) 0
    exact (written_trim_space _).trans
      (collapsed.trans (written_removed content.length content))

theorem written_joined (existing narrated : GoString) :
    writtenLength (joinHistoryText existing narrated) ≤
      writtenLength existing + 4 + writtenLength narrated := by
  have left := written_trim_space existing
  have right := written_trim_space narrated
  have feeds : writtenLength (lit "\n\n") = 4 := by decide
  have front := written_append_le (trimSpace existing) (lit "\n\n")
  have whole := written_append_le (trimSpace existing ++ lit "\n\n") (trimSpace narrated)
  unfold joinHistoryText
  dsimp only
  split_ifs <;> omega

end Texts

section Results

theorem member_size (key value : GoString) :
    (marshalMember key value).length = (marshalString key).length + 1 + value.length := by
  have colon : (lit ":").length = 1 := by decide
  rw [marshalMember, List.length_append, List.length_append, colon]

/-- The contents of a result as they are sent. -/
def sentContents (result : KiroToolResult) : GoString :=
  if result.content = [] then lit "null"
  else marshalArray (result.content.map fun content =>
    marshalObject [marshalMember (lit "text") (marshalString content.text)])

theorem content_size (content : KiroResultContent) :
    (marshalObject [marshalMember (lit "text") (marshalString content.text)]).length =
      writtenLength content.text + 11 := by
  have key : (marshalString (lit "text")).length = 6 := by decide
  rw [object_length_cons, member_size, key, marshal_length, List.map_nil, List.sum_nil]
  omega

theorem result_size (result : KiroToolResult) :
    (marshalToolResult result).length =
      writtenLength result.toolUseID + (sentContents result).length +
        writtenLength result.status + 39 := by
  have id : (marshalString (lit "toolUseId")).length = 11 := by decide
  have content : (marshalString (lit "content")).length = 9 := by decide
  have status : (marshalString (lit "status")).length = 8 := by decide
  rw [marshalToolResult, ← sentContents, object_length_cons]
  simp only [List.map_cons, List.map_nil, List.sum_cons, List.sum_nil, member_size, marshal_length,
    id, content, status]
  omega

/-- The text of the contents is shorter than the contents are sent, but for the text that
stands for no output. -/
theorem texts_size (contents : List KiroResultContent) :
    (((contents.map KiroResultContent.text).filter fun text => trimSpace text ≠ []).map
        fun text => writtenLength text + 2).sum ≤
      (contents.map fun content => writtenLength content.text + 12).sum := by
  induction contents with
  | nil => exact Nat.le_refl _
  | cons content contents ih =>
      rw [List.map_cons, List.filter_cons]
      split_ifs
      · simp only [List.map_cons, List.sum_cons]
        omega
      · rw [List.map_cons, List.sum_cons]
        omega

theorem body_size (result : KiroToolResult) :
    writtenLength (List.intercalate (lit "\n") ((result.content.map KiroResultContent.text).filter
        fun text => trimSpace text ≠ [])) ≤ (sentContents result).length := by
  unfold sentContents
  split_ifs with none_
  · rw [none_]
    decide
  · have texts := texts_size result.content
    have array := array_length (result.content.map fun content =>
      marshalObject [marshalMember (lit "text") (marshalString content.text)]) (by simpa using none_)
    rw [List.map_map] at array
    simp only [Function.comp_def, content_size, Nat.add_assoc, Nat.reduceAdd] at array
    rw [array]
    generalize (result.content.map KiroResultContent.text).filter _ = shown at texts ⊢
    have feed : writtenLength (lit "\n") = 2 := by decide
    cases shown with
    | nil => exact Nat.zero_le _
    | cons text shown =>
        have joined := written_intercalate (lit "\n") (text :: shown) (List.cons_ne_nil _ _)
        rw [feed] at joined
        omega

theorem contents_length (result : KiroToolResult) : 4 ≤ (sentContents result).length := by
  unfold sentContents
  split_ifs
  · decide
  · cases content : result.content with
    | nil => contradiction
    | cons first rest =>
        have array := array_length ((first :: rest).map fun content =>
          marshalObject [marshalMember (lit "text") (marshalString content.text)]) (by simp)
        rw [array, List.map_cons, List.map_cons, List.sum_cons, content_size]
        omega

/-- Every name is at most 26 bytes longer than the id it is looked up by. -/
def ShortNames (names : NameMap) : Prop :=
  ∀ id, writtenLength ((names.lookup id).getD []) ≤ writtenLength id + 26

/-- A result told as text, with the line feeds in front of it, takes no more than it takes
sent. -/
theorem told_size (names : NameMap) (result : KiroToolResult) (short : ShortNames names) :
    writtenLength (narrateToolResult names result) + 4 ≤ (marshalToolResult result).length + 1 := by
  have name := short result.toolUseID
  have body := body_size result
  have long := contents_length result
  have nothing : writtenLength (lit "(no output)") = 11 := by decide
  have opened : writtenLength (lit "[") = 1 := by decide
  have closed : writtenLength (lit "] ") = 2 := by decide
  rw [result_size]
  unfold narrateToolResult
  dsimp only
  generalize (names.lookup result.toolUseID).getD [] = called at name ⊢
  generalize List.intercalate (lit "\n") _ = texts at body ⊢
  have shown : writtenLength (if trimSpace texts = [] then lit "(no output)" else texts) ≤
      (sentContents result).length + 7 := by
    split_ifs <;> omega
  generalize (if trimSpace texts = [] then lit "(no output)" else texts) = told at shown ⊢
  have first := written_append_le (lit "[") called
  have second := written_append_le (lit "[" ++ called) (lit "] ")
  have third := written_append_le (lit "[" ++ called ++ lit "] ") told
  split_ifs <;> omega

end Results

section Turns

def contextSize (context : Option UserInputMessageContext) : Nat :=
  ((context.toList.map fun context =>
    marshalMember (lit "userInputMessageContext") (marshalContext context)).map
      fun item => item.length + 1).sum

theorem results_told (names : NameMap) (short : ShortNames names) (results : List KiroToolResult)
    (some_ : results ≠ []) :
    writtenLength (narrateToolResults results names) ≤
      (results.map fun result => (marshalToolResult result).length + 1).sum + 13 := by
  have head : writtenLength toolResultsContinuationPrefix = 13 := by decide
  have feeds : writtenLength (lit "\n\n") = 4 := by decide
  have joined := written_intercalate (lit "\n\n") (results.map (narrateToolResult names))
    (by simpa using some_)
  have front := written_append_le toolResultsContinuationPrefix (lit "\n\n")
  have whole := written_append_le (toolResultsContinuationPrefix ++ lit "\n\n")
    (List.intercalate (lit "\n\n") (results.map (narrateToolResult names)))
  have each : (results.map fun result =>
        writtenLength (narrateToolResult names result) + 4).sum ≤
      (results.map fun result => (marshalToolResult result).length + 1).sum :=
    List.sum_le_sum fun result _ => told_size names result short
  rw [List.map_map, feeds] at joined
  simp only [Function.comp_def] at joined
  rw [narrateToolResults, if_neg some_]
  omega

/-- A context without its tools. -/
theorem results_context_size (results : List KiroToolResult) (some_ : results ≠ []) :
    contextSize (some ⟨[], results⟩) =
      (results.map fun result => (marshalToolResult result).length + 1).sum + 44 := by
  have context : (marshalString (lit "userInputMessageContext")).length = 25 := by decide
  have key : (marshalString (lit "toolResults")).length = 13 := by decide
  have array := array_length (results.map marshalToolResult) (by simpa using some_)
  have there : results.isEmpty = false := by simpa using some_
  rw [List.map_map] at array
  simp only [Function.comp_def] at array
  simp only [contextSize, marshalContext, marshalOptional, List.isEmpty_nil, there, if_true,
    Bool.false_eq_true, if_false, List.nil_append, Option.toList_some, List.map_cons, List.map_nil,
    List.sum_cons, List.sum_nil, member_size, object_length_cons, context, key, array]
  omega

theorem tools_context_size (context : UserInputMessageContext)
    (some_ : context.toolResults ≠ []) :
    contextSize (some ⟨[], context.toolResults⟩) ≤ contextSize (some context) := by
  obtain ⟨tools, results⟩ := context
  cases tools with
  | nil => exact Nat.le_refl _
  | cons tool tools =>
      have there : results.isEmpty = false := by simpa using some_
      simp only [contextSize, marshalContext, marshalOptional, List.isEmpty_nil, List.isEmpty_cons,
        there, if_true, Bool.false_eq_true, if_false, List.nil_append, List.singleton_append,
        Option.toList_some, List.map_cons, List.map_nil, List.sum_cons, List.sum_nil, member_size,
        object_length_cons]
      omega

theorem user_size_le (user : KiroUserInputMessage) (content : GoString)
    (context : Option UserInputMessageContext)
    (fits : writtenLength content + contextSize context ≤
      writtenLength user.content + contextSize user.userInputMessageContext) :
    (marshalUser { user with content := content, userInputMessageContext := context }).length ≤
      (marshalUser user).length := by
  unfold contextSize at fits
  simp only [marshalUser, List.cons_append, object_length_cons, List.map_append, List.sum_append,
    member_size, marshal_length]
  omega

theorem join_speaks (existing : GoString) (results : List KiroToolResult) (names : NameMap)
    (some_ : results ≠ []) :
    trimSpace (joinHistoryText existing (narrateToolResults results names)) ≠ [] := by
  have solid : ∀ rune ∈ spaceRunes, 0x54 ∉ rune := by decide
  have told : 0x54 ∈ narrateToolResults results names := by
    rw [narrateToolResults, if_neg some_, List.append_assoc]
    exact List.mem_append_left _ (by decide)
  have trimmed := mem_trim_space _ 0x54 solid told
  apply List.ne_nil_of_mem
  apply mem_trim_space _ 0x54 solid
  have shown : trimSpace (narrateToolResults results names) ≠ [] := List.ne_nil_of_mem trimmed
  unfold joinHistoryText
  simp only [decide_eq_true shown, Bool.and_true]
  split_ifs
  · exact List.mem_append_right _ trimmed
  · exact trimmed

/-- A user turn that says something or shows an image. -/
def Spoken (user : KiroUserInputMessage) : Prop :=
  trimSpace user.content ≠ [] ∨ user.images ≠ []

instance (user : KiroUserInputMessage) : Decidable (Spoken user) :=
  inferInstanceAs (Decidable (_ ∨ _))

theorem fill_spoken (user : KiroUserInputMessage) (spoken : Spoken user) :
    fillBlank user = user := by
  apply if_neg
  rw [Bool.and_eq_true, decide_eq_true_eq, List.isEmpty_iff]
  exact fun blank => spoken.elim (fun text => text blank.1) fun images => images blank.2

theorem filled_spoken (user : KiroUserInputMessage) : Spoken (fillBlank user) := by
  unfold fillBlank Spoken
  split_ifs with blank
  · have fallback : trimSpace minimalFallbackUserContent ≠ [] := by decide
    exact .inl fallback
  · rw [Bool.and_eq_true, decide_eq_true_eq, List.isEmpty_iff] at blank
    exact Decidable.not_and_iff_or_not.mp blank

/-- A user turn that says something is not longer once its results are told. -/
theorem sanitize_user_size (names : NameMap) (short : ShortNames names) (keep : Bool)
    (user : KiroUserInputMessage) (spoken : Spoken user) :
    (marshalUser (sanitizeUser names keep user)).length ≤ (marshalUser user).length := by
  rw [sanitize_user_fills]
  cases held : user.userInputMessageContext with
  | none =>
      simp only
      rw [fill_spoken user spoken]
  | some context =>
      simp only
      by_cases empty : context.toolResults = []
      · have bare : narrateContext names keep user context =
            { user with userInputMessageContext := none } := by
          unfold narrateContext
          simp [empty]
        rw [bare, fill_spoken { user with userInputMessageContext := none } spoken]
        exact user_size_le user user.content none
          (Nat.add_le_add_left (Nat.zero_le _) _)
      · have whole := tools_context_size context empty
        cases keep with
        | false =>
            rw [narrate_context_content names user context empty]
            have told := results_told names short context.toolResults empty
            have joined := written_joined (ownText user)
              (narrateToolResults context.toolResults names)
            have own : writtenLength (ownText user) ≤ writtenLength user.content := by
              unfold ownText
              split_ifs
              · exact Nat.zero_le _
              · exact Nat.le_refl _
            have sent := results_context_size context.toolResults empty
            have nothing : contextSize none = 0 := rfl
            have speaks := join_speaks (ownText user) context.toolResults names empty
            generalize joinHistoryText (ownText user)
              (narrateToolResults context.toolResults names) = text at joined speaks
            have spoken : Spoken { user with content := text, userInputMessageContext := none } :=
              .inl speaks
            rw [fill_spoken _ spoken]
            apply user_size_le
            rw [held, nothing]
            omega
        | true =>
            have still : Spoken
                { user with userInputMessageContext := some ⟨[], context.toolResults⟩ } := spoken
            rw [narrate_context_kept names user context empty, fill_spoken _ still]
            apply user_size_le user user.content
            rw [held]
            exact Nat.add_le_add_left whole _

theorem sanitize_assistant_size (assistant : KiroAssistantResponseMessage) (keep : Bool) :
    (marshalAssistant (sanitizeAssistant assistant keep)).length ≤
      (marshalAssistant assistant).length := by
  have text : writtenLength (if assistant.content ≠ [] then
        stripPollutedToolCallText assistant.content else assistant.content) ≤
      writtenLength assistant.content := by
    split_ifs
    · exact written_stripped assistant.content
    · exact Nat.le_refl _
  unfold marshalAssistant sanitizeAssistant
  simp only [List.singleton_append, object_length_cons, member_size, marshal_length]
  cases keep with
  | true =>
      simp only [if_true]
      omega
  | false =>
      simp only [Bool.false_eq_true, if_false, List.isEmpty_nil, marshalOptional, if_true,
        List.map_nil, List.sum_nil]
      omega

theorem message_size_le (msg : KiroHistoryMessage)
    (user : KiroUserInputMessage → KiroUserInputMessage)
    (assistant : KiroAssistantResponseMessage → KiroAssistantResponseMessage)
    (users : ∀ turn ∈ msg.userInputMessage,
      (marshalUser (user turn)).length ≤ (marshalUser turn).length)
    (assistants : ∀ turn,
      (marshalAssistant (assistant turn)).length ≤ (marshalAssistant turn).length) :
    (marshalMessage ⟨msg.userInputMessage.map user, msg.assistantResponseMessage.map
        assistant⟩).length ≤ (marshalMessage msg).length := by
  obtain ⟨turn, answer⟩ := msg
  unfold marshalMessage
  cases turn with
  | none =>
      cases answer with
      | none => exact Nat.le_refl _
      | some answer =>
          have shorter := assistants answer
          simp only [Option.map_some, Option.map_none, Option.toList_some, Option.toList_none,
            List.map_nil, List.nil_append, List.map_cons, object_length_cons, member_size]
          omega
  | some turn =>
      have same := users turn rfl
      cases answer with
      | none =>
          simp only [Option.map_some, Option.map_none, Option.toList_some, Option.toList_none,
            List.map_nil, List.map_cons, List.singleton_append, object_length_cons, member_size]
          omega
      | some answer =>
          have shorter := assistants answer
          simp only [Option.map_some, Option.toList_some, List.map_cons, List.map_nil,
            List.singleton_append, object_length_cons, member_size, List.sum_cons, List.sum_nil]
          omega

theorem sanitize_turn_size (names : NameMap) (short : ShortNames names) (active : Option Nat)
    (keep : Nat → Bool) (index : Nat) (msg : KiroHistoryMessage)
    (spoken : ∀ user ∈ msg.userInputMessage, Spoken user) :
    historyEntryByteSize (sanitizeTurn names active keep index msg) ≤ historyEntryByteSize msg := by
  have media : inlineMediaBytes (msg.userInputMessage.map (sanitizeUser names (keep index))) =
      inlineMediaBytes msg.userInputMessage := by
    cases msg.userInputMessage with
    | none => rfl
    | some user =>
        obtain ⟨images, documents⟩ := sanitize_user_attachments names (keep index) user
        simp only [Option.map_some, inlineMediaBytes, images, documents]
  have kept := message_size_le msg id
    (sanitizeAssistant · (decide (active = some index) || keep index))
    (fun _ _ => Nat.le_refl _) fun assistant => sanitize_assistant_size assistant _
  have told := message_size_le msg (sanitizeUser names (keep index))
    (sanitizeAssistant · (decide (active = some index) || keep index))
    (fun user said => sanitize_user_size names short (keep index) user (spoken user said))
    fun assistant => sanitize_assistant_size assistant _
  rw [Option.map_id] at kept
  unfold sanitizeTurn historyEntryByteSize
  dsimp only
  split_ifs
  · exact Int.sub_le_sub_right (Int.add_le_add_right (Int.ofNat_le.mpr kept) 1) _
  · rw [media]
    exact Int.sub_le_sub_right (Int.add_le_add_right (Int.ofNat_le.mpr told) 1) _

end Turns

section Passes

/-- A history that the passes do not make longer: its user turns say something, and no call has
a name that is written more than 26 bytes longer than its id. -/
structure Terse (history : History) : Prop where
  spoken : ∀ msg ∈ history, ∀ user ∈ msg.userInputMessage, Spoken user
  named : ∀ use ∈ calls history, writtenLength use.name ≤ writtenLength use.toolUseID + 26

theorem terse_names (history : History) (terse : Terse history) :
    ShortNames (historyToolNames history) := by
  have folded : ∀ (uses : List KiroToolUse) (names : NameMap), ShortNames names →
      (∀ use ∈ uses, writtenLength use.name ≤ writtenLength use.toolUseID + 26) →
      ShortNames (uses.foldl (fun names use =>
        if use.toolUseID ≠ [] && use.name ≠ [] then (use.toolUseID, use.name) :: names
        else names) names) := by
    intro uses
    induction uses with
    | nil => exact fun names short _ => short
    | cons use uses ih =>
        intro names short named
        rw [List.foldl_cons]
        refine ih _ ?_ fun other member => named other (List.mem_cons_of_mem _ member)
        split_ifs
        · intro id
          rw [List.lookup_cons]
          cases same : id == use.toolUseID with
          | true =>
              rw [eq_of_beq same]
              exact named use List.mem_cons_self
          | false => exact short id
        · exact short
  exact folded (calls history) [] (fun id => Nat.zero_le _) terse.named

theorem entries_sublist {fewer history : History} (kept : fewer.Sublist history) :
    entriesByteSize fewer ≤ entriesByteSize history := by
  induction kept with
  | slnil => exact Int.le_refl _
  | cons msg _ ih =>
      have size := entry_size_nonneg msg
      rw [entries_cons]
      omega
  | cons_cons msg _ ih =>
      rw [entries_cons, entries_cons]
      omega

theorem entries_map_idx (change : Nat → KiroHistoryMessage → KiroHistoryMessage)
    (history : History) (shrinks : ∀ index, ∀ msg ∈ history,
      historyEntryByteSize (change index msg) ≤ historyEntryByteSize msg) :
    entriesByteSize (history.mapIdx change) ≤ entriesByteSize history := by
  induction history generalizing change with
  | nil => exact Int.le_refl _
  | cons msg history ih =>
      have rest := ih (fun index => change (index + 1))
        (fun index other member => shrinks (index + 1) other (List.mem_cons_of_mem _ member))
      have head := shrinks 0 msg List.mem_cons_self
      rw [List.mapIdx_cons, entries_cons, entries_cons]
      omega

/-- A pass shortens a terse history and leaves it terse. -/
theorem sanitized_size (history : History) (ids : List GoString) (keep : Nat → Bool)
    (terse : Terse history) :
    entriesByteSize (sanitizeKiroHistoryKeeping history ids keep) ≤ entriesByteSize history ∧
      Terse (sanitizeKiroHistoryKeeping history ids keep) := by
  have fewer := sanitized_sublist history ids keep
  refine ⟨(entries_sublist fewer).trans (entries_map_idx _ history fun index msg member =>
    sanitize_turn_size _ (terse_names history terse) _ _ index msg (terse.spoken msg member)), ?_,
    fun use member => terse.named use ((sanitized_calls history ids keep).subset member)⟩
  intro msg member user said
  obtain ⟨index, bound, same⟩ := List.mem_mapIdx.mp (fewer.subset member)
  have before := terse.spoken _ (List.getElem_mem bound)
  rw [← same] at said
  unfold sanitizeTurn at said
  dsimp only at said
  split_ifs at said
  · exact before user said
  · obtain ⟨turn, _, filled⟩ := Option.map_eq_some_iff.mp said
    rw [← filled, sanitize_user_fills]
    exact filled_spoken _

/-- Pairing the tool turns of a terse history never makes it larger. -/
theorem paired_size (ids : List GoString) (attempts : Nat) (history : History)
    (terse : Terse history) :
    entriesByteSize (ensurePairedFrom ids attempts history) ≤ entriesByteSize history := by
  induction attempts generalizing history with
  | zero =>
      rw [ensurePairedFrom]
      split_ifs
      · exact Int.le_refl _
      · exact (sanitized_size history ids _ terse).1
  | succ attempts ih =>
      rw [ensurePairedFrom]
      split_ifs
      · exact Int.le_refl _
      · obtain ⟨shorter, still⟩ := sanitized_size history ids
          (structuredToolPairs history none) terse
        exact (ih _ still).trans shorter

end Passes

end KiroProxy.PayloadText
