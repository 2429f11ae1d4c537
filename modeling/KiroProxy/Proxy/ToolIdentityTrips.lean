import KiroProxy.Proxy.ResponsesInput

/-!
# Round trips of tool calls

A call goes out as an output item under the name its tool was declared with, and the item comes
back as input. What the declared tree is flattened to is stated apart from the walk over it.
-/

namespace KiroProxy.Responses

open GoStrings KiroTypes

set_option autoImplicit false

section Names

/-- A qualified name needs no trimming. -/
theorem qualified_name_trimmed (namespace_ name : GoString) :
    trimSpace (qualifiedResponsesToolName namespace_ name) =
      qualifiedResponsesToolName namespace_ name := by
  have solid : ∀ rune ∈ spaceRunes, (0x5F : UInt8) ∉ rune ∧ (0x5F : UInt8) ∉ rune := by decide
  unfold qualifiedResponsesToolName
  simp only
  split_ifs
  · exact trim_space_twice name
  · exact trim_space_twice namespace_
  · exact trim_space_twice name
  · exact trim_space_joined _ (lit "__") _ 0x5F 0x5F rfl rfl solid (trim_space_twice namespace_)
      (trim_space_twice name)

theorem qualified_name_alone (name : GoString) :
    qualifiedResponsesToolName [] name = trimSpace name := by
  have empty : trimSpace [] = [] := rfl
  unfold qualifiedResponsesToolName
  rw [empty]
  exact if_pos rfl

variable (letters : Letters)

/-- What holds of every tool a conversion yields. -/
def ConvertsTo (holds : ConvertedTool → Prop)
    (converted : Except GoString (List ConvertedTool)) : Prop :=
  ∀ tools, converted = .ok tools → ∀ tool ∈ tools, holds tool

theorem converts_none (holds : ConvertedTool → Prop) : ConvertsTo holds (.ok []) := by
  intro tools same tool member
  rw [← Except.ok.inj same] at member
  exact absurd member List.not_mem_nil

mutual

theorem converted_tool_holds (holds : ConvertedTool → Prop)
    (specified : ∀ namespace_ hosted tool,
      ConvertsTo holds (convertSpecification namespace_ hosted tool))
    (namespace_ : GoString) (tool : ResponsesTool) :
    ConvertsTo holds (convertResponsesTool letters namespace_ tool) := by
  obtain ⟨tool, children⟩ := tool
  rw [convertResponsesTool]
  split_ifs
  · exact converted_children_hold holds specified _ children
  · cases toolSpecification letters tool with
    | none => exact converts_none holds
    | some found => exact specified namespace_ _ found

theorem converted_children_hold (holds : ConvertedTool → Prop)
    (specified : ∀ namespace_ hosted tool,
      ConvertsTo holds (convertSpecification namespace_ hosted tool))
    (namespace_ : GoString) (children : List ResponsesTool) :
    ConvertsTo holds (convertChildren letters namespace_ children) := by
  cases children with
  | nil => exact converts_none holds
  | cons tool rest =>
      intro tools same converted member
      have first := converted_tool_holds holds specified namespace_ tool
      have others := converted_children_hold holds specified namespace_ rest
      rw [convertChildren] at same
      cases head : convertResponsesTool letters namespace_ tool with
      | error message =>
          rw [head] at same
          cases same
      | ok front =>
          cases tail : convertChildren letters namespace_ rest with
          | error message =>
              rw [head, tail] at same
              cases same
          | ok back =>
              rw [head, tail] at same
              rw [← Except.ok.inj same, List.mem_append] at member
              exact member.elim (first front head converted) (others back tail converted)

end

theorem specification_trimmed (namespace_ : GoString) (hosted : Bool) (tool : ToolSpecification) :
    ConvertsTo (fun tool => trimSpace tool.name = tool.name)
      (convertSpecification namespace_ hosted tool) := by
  intro tools same converted member
  unfold convertSpecification at same
  simp only at same
  split_ifs at same
  rw [← Except.ok.inj same, List.mem_singleton] at member
  rw [member]
  exact qualified_name_trimmed namespace_ (trimSpace tool.name)

theorem converted_children_trimmed (namespace_ : GoString) (children : List ResponsesTool) :
    ConvertsTo (fun tool => trimSpace tool.name = tool.name)
      (convertChildren letters namespace_ children) :=
  converted_children_hold letters _ specification_trimmed namespace_ children

end Names

section Identities

variable (letters : Letters)

mutual

/-- The identities that a declaration stands for, from left to right. -/
def declaredBy (namespace_ : GoString) : ResponsesTool → List ResponsesToolIdentity
  | .declare tool tools =>
      if letters.toLower (trimSpace tool.type) = lit "namespace" then
        declaredIn (qualifiedResponsesToolName namespace_ tool.name) tools
      else (toolIdentity letters namespace_ tool).toList

def declaredIn (namespace_ : GoString) : List ResponsesTool → List ResponsesToolIdentity
  | [] => []
  | tool :: tools => declaredBy namespace_ tool ++ declaredIn namespace_ tools

end

def declaredIdentities (tools : List ResponsesTool) : List ResponsesToolIdentity :=
  declaredIn letters [] tools

mutual

theorem walk_tool_records (namespace_ : GoString) (identities : ToolIdentities)
    (tool : ResponsesTool) :
    walkTool letters namespace_ identities tool =
      (declaredBy letters namespace_ tool).foldl .record identities := by
  obtain ⟨tool, children⟩ := tool
  rw [walkTool, declaredBy]
  split_ifs
  · exact walk_tools_records _ identities children
  · cases toolIdentity letters namespace_ tool <;> rfl

/-- The walk records what is declared, in order. -/
theorem walk_tools_records (namespace_ : GoString) (identities : ToolIdentities)
    (tools : List ResponsesTool) :
    walkTools letters namespace_ identities tools =
      (declaredIn letters namespace_ tools).foldl .record identities := by
  cases tools with
  | nil => rfl
  | cons tool rest =>
      rw [walkTools, declaredIn, List.foldl_append, walk_tool_records namespace_ identities tool]
      exact walk_tools_records namespace_ _ rest

end

/-- The recorded identities against the ones that were declared. -/
structure Recorded (declared : List ResponsesToolIdentity) (identities : ToolIdentities) :
    Prop where
  found : ∀ key identity, identities.result.lookup key = some identity →
    identity ∈ declared ∧ identity.key = key
  distinct : identities.conflict = none →
    ∀ identity ∈ declared, identities.result.lookup identity.key = some identity

theorem record_keeps (declared : List ResponsesToolIdentity) (identities : ToolIdentities)
    (identity : ResponsesToolIdentity) (recorded : Recorded declared identities) :
    Recorded (declared ++ [identity]) (identities.record identity) := by
  constructor
  · intro key held found
    unfold ToolIdentities.record at found
    rw [List.lookup_cons] at found
    by_cases same : key = identity.key
    · rw [beq_iff_eq.mpr same] at found
      rw [← Option.some.inj found]
      exact ⟨List.mem_concat_self, same.symm⟩
    · rw [beq_eq_false_iff_ne.mpr same] at found
      obtain ⟨member, keyed⟩ := recorded.found key held found
      exact ⟨List.mem_append_left _ member, keyed⟩
  · intro accepted held member
    have earlier : identities.conflict = none ∧
        ∀ prior, identities.result.lookup identity.key = some prior → prior = identity := by
      unfold ToolIdentities.record at accepted
      cases known : identities.result.lookup identity.key with
      | none =>
          rw [known] at accepted
          exact ⟨accepted, fun prior found => absurd found.symm (Option.some_ne_none prior)⟩
      | some prior =>
          rw [known] at accepted
          simp only at accepted
          split_ifs at accepted with same
          exact ⟨accepted, fun other found => Option.some.inj found ▸ not_not.mp same⟩
    change List.lookup held.key ((identity.key, identity) :: identities.result) = _
    rw [List.lookup_cons]
    rcases List.mem_append.mp member with old | new
    · have known := recorded.distinct earlier.1 held old
      by_cases same : held.key = identity.key
      · rw [beq_iff_eq.mpr same]
        rw [same] at known
        exact congrArg some (earlier.2 held known).symm
      · rw [beq_eq_false_iff_ne.mpr same]
        exact known
    · rw [List.mem_singleton.mp new, beq_self_eq_true]

theorem identities_recorded (tools : List ResponsesTool) :
    Recorded (declaredIdentities letters tools) (responsesToolIdentities letters tools) := by
  unfold responsesToolIdentities declaredIdentities
  rw [walk_tools_records]
  generalize declaredIn letters [] tools = declared
  induction declared using List.reverseRecOn with
  | nil =>
      exact ⟨fun key identity found => absurd found.symm (Option.some_ne_none identity),
        fun _ identity member => absurd member List.not_mem_nil⟩
  | append_singleton declared identity ih =>
      rw [List.foldl_append]
      exact record_keeps declared _ identity ih

end Identities

section Items

variable (options : InputOptions)

theorem first_string_text (text : GoString) : firstString [some (.str text)] = text := by
  cases text <;> rfl

namespace ToolOutputItem

variable (item : ToolOutputItem)

theorem members_name : firstString [item.members.get (lit "name")] = item.name.getD [] := by
  obtain ⟨id, name, namespace_, content⟩ := item
  unfold members
  by_cases empty : namespace_ = []
  · rw [if_neg (not_not.mpr empty)]
    cases name with
    | none => cases content <;> rfl
    | some name => cases name <;> rfl
  · rw [if_pos empty]
    cases name with
    | none => cases content <;> rfl
    | some name => cases name <;> rfl

theorem members_namespace : firstString [item.members.get (lit "namespace")] = item.namespace_ := by
  obtain ⟨id, name, namespace_, content⟩ := item
  unfold members
  cases namespace_ with
  | nil => cases name <;> cases content <;> rfl
  | cons byte namespace_ => cases name <;> rfl

theorem members_arguments : item.members.get (lit "arguments") =
    item.content.members.get (lit "arguments") := by
  obtain ⟨id, name, namespace_, content⟩ := item
  unfold members
  cases namespace_ <;> cases name <;> rfl

theorem members_input : item.members.get (lit "input") =
    item.content.members.get (lit "input") := by
  obtain ⟨id, name, namespace_, content⟩ := item
  unfold members
  cases namespace_ <;> cases name <;> rfl

theorem members_type : stringField item.members (lit "type") = lit item.content.itemType := rfl

theorem members_call : firstString [item.members.get (lit "call_id")] = item.id := by
  obtain ⟨id, name, namespace_, content⟩ := item
  cases id <;> rfl

theorem function_message (arguments : GoString) :
    functionCallMessage item.members arguments =
      callMessage ⟨item.id, qualifiedResponsesToolName item.namespace_ (item.name.getD []),
        arguments⟩ := by
  have id : firstString [item.members.get (lit "call_id"), item.members.get (lit "id")] =
      item.id := by
    obtain ⟨id, name, namespace_, content⟩ := item
    cases id <;> rfl
  unfold functionCallMessage
  rw [id, members_name, members_namespace]

/-- A function call comes back with the name it is qualified to. -/
theorem function_read (arguments : GoString) (content : item.content = .arguments arguments)
    (written : arguments ≠ []) :
    itemMessages options item.members =
      .ok [callMessage ⟨item.id, qualifiedResponsesToolName item.namespace_ (item.name.getD []),
        arguments⟩] := by
  have type := item.members_type
  rw [content] at type
  have read : callArguments item.members = arguments := by
    have held : item.members.get (lit "arguments") = some (.str arguments) := by
      rw [members_arguments, content]
      rfl
    unfold callArguments
    rw [held, first_string_text]
    exact if_pos written
  unfold itemMessages
  rw [type, ← function_message, ← read]
  rfl

theorem custom_read (input : GoString) (content : item.content = .input input) :
    itemMessages options item.members =
      .ok [callMessage ⟨item.id, qualifiedResponsesToolName item.namespace_ (item.name.getD []),
        JsonText.marshal (.obj (wrappedInput input))⟩] := by
  have type := item.members_type
  have held := item.members_input
  rw [content] at type held
  rw [← function_message]
  unfold itemMessages
  rw [type, held]
  rfl

/-- A search comes back under the one name of a search, and not without an identifier. -/
theorem search_read (fields : JsonFields) (content : item.content = .search fields) :
    itemMessages options item.members =
      .ok (if item.id = [] then []
        else [callMessage ⟨item.id, toolSearchToolType, JsonText.marshal (.obj fields)⟩]) := by
  have type := item.members_type
  have held := item.members_arguments
  rw [content] at type held
  have read : toolSearchCallMessages item.members =
      if item.id = [] then []
      else [callMessage ⟨item.id, toolSearchToolType, JsonText.marshal (.obj fields)⟩] := by
    unfold toolSearchCallMessages
    rw [members_call, held]
    rfl
  unfold itemMessages
  rw [type, ← read]
  rfl

end ToolOutputItem

end Items

section Trips

variable (options : InputOptions)

/-- The message that holds the call a client was given. -/
def returnedCall (toolUse : KiroToolUse) : OpenAIMessage :=
  callMessage ⟨toolUse.toolUseID, toolUse.name, JsonText.marshal (.obj toolUse.input)⟩

/-- The output item of a call, sent back as input, is that call. -/
def ComesBack (identities : List (GoString × ResponsesToolIdentity)) (toolUse : KiroToolUse) :
    Prop :=
  responseInputItemToMessages options
      (OutputItem.json (.tool (buildPreparedResponsesToolOutputItem identities toolUse))) =
    .ok [returnedCall toolUse]

theorem marshalled_object_ne_nil (fields : JsonFields) : JsonText.marshal (.obj fields) ≠ [] := by
  rw [JsonText.marshal]
  intro empty
  have brace : lit "\x7b" = [] :=
    (List.append_eq_nil_iff.mp (List.append_eq_nil_iff.mp empty).1).1
  exact absurd brace (by decide)

variable {identities : List (GoString × ResponsesToolIdentity)} {toolUse : KiroToolUse}

theorem unknown_call_comes_back (unknown : identities.lookup toolUse.name = none)
    (trimmed : trimSpace toolUse.name = toolUse.name) : ComesBack options identities toolUse := by
  unfold ComesBack buildPreparedResponsesToolOutputItem
  rw [unknown]
  change itemMessages options (buildResponsesToolOutputItem toolUse).members = _
  rw [ToolOutputItem.function_read options _ _ rfl (marshalled_object_ne_nil toolUse.input)]
  change Except.ok [callMessage ⟨_, qualifiedResponsesToolName [] toolUse.name, _⟩] = _
  rw [qualified_name_alone, trimmed]
  rfl

variable {identity : ResponsesToolIdentity}

/-- Where no search is called, the name is put together again. -/
theorem known_call_comes_back (known : identities.lookup toolUse.name = some identity)
    (keyed : identity.key = toolUse.name) (kept : identity.type ≠ toolSearchToolType)
    (wrapped : identity.type = lit "custom" → ∃ input, toolUse.input = wrappedInput input) :
    ComesBack options identities toolUse := by
  unfold ComesBack buildPreparedResponsesToolOutputItem
  rw [known]
  simp only
  rw [if_neg (show identity.type ≠ lit "tool_search" from kept)]
  by_cases custom : identity.type = lit "custom"
  · obtain ⟨input, held⟩ := wrapped custom
    rw [if_pos custom, held]
    change itemMessages options (ToolOutputItem.members ⟨_, some identity.name, _, .input input⟩) =
      _
    rw [ToolOutputItem.custom_read options _ input rfl]
    unfold returnedCall
    rw [held, ← keyed]
    rfl
  · rw [if_neg custom]
    change itemMessages options (ToolOutputItem.members ⟨_, some identity.name, _, .arguments _⟩) =
      _
    rw [ToolOutputItem.function_read options _ _ rfl (marshalled_object_ne_nil toolUse.input)]
    unfold returnedCall
    rw [← keyed]
    rfl

theorem search_comes_back_iff (known : identities.lookup toolUse.name = some identity)
    (search : identity.type = toolSearchToolType) :
    ComesBack options identities toolUse ↔
      toolUse.name = toolSearchToolType ∧ toolUse.toolUseID ≠ [] := by
  unfold ComesBack buildPreparedResponsesToolOutputItem
  rw [known]
  simp only
  rw [if_pos (show identity.type = lit "tool_search" from search)]
  change itemMessages options (ToolOutputItem.members ⟨_, none, _, .search toolUse.input⟩) = _ ↔ _
  rw [ToolOutputItem.search_read options _ toolUse.input rfl]
  change Except.ok (if toolUse.toolUseID = [] then [] else _) = _ ↔ _
  split_ifs with missing
  · constructor
    · intro same
      exact absurd (Except.ok.inj same) (List.cons_ne_nil _ _).symm
    · intro held
      exact absurd missing held.2
  · constructor
    · intro same
      have calls := congrArg OpenAIMessage.toolCalls (List.cons.inj (Except.ok.inj same)).1
      have names := congrArg ToolCall.name (List.cons.inj calls).1
      exact ⟨names.symm, missing⟩
    · intro held
      unfold returnedCall
      rw [held.1]
      rfl

end Trips

section Declared

variable (options : InputOptions) (tools : List ResponsesTool)

/-- A name that the model may call: of an identity, or of a tool as it is converted. -/
def DeclaredName (name : GoString) : Prop :=
  (∃ identity ∈ declaredIdentities options.letters tools, identity.key = name) ∨
    ∃ converted, convertChildren options.letters [] tools = .ok converted ∧
      ∃ tool ∈ converted, tool.name = name

/-- Calls of a declared tool of a type. -/
def CallsTool (type : GoString) (toolUse : KiroToolUse) : Prop :=
  ∃ identity ∈ declaredIdentities options.letters tools,
    identity.key = toolUse.name ∧ identity.type = type

/-- What declared tools without conflicts are called is told apart, and each call comes back but
for the calls of a search that is in a namespace or that has no identifier. -/
theorem declared_calls_come_back
    (accepted : (responsesToolIdentities options.letters tools).conflict = none) :
    (∀ first ∈ declaredIdentities options.letters tools,
      ∀ second ∈ declaredIdentities options.letters tools,
        first.key = second.key → first = second) ∧
    ∀ toolUse, DeclaredName options tools toolUse.name →
      (CallsTool options tools (lit "custom") toolUse →
        ∃ input, toolUse.input = wrappedInput input) →
      (ComesBack options (responsesToolIdentities options.letters tools).result toolUse ↔
        (CallsTool options tools toolSearchToolType toolUse →
          toolUse.name = toolSearchToolType ∧ toolUse.toolUseID ≠ [])) := by
  have recorded := identities_recorded options.letters tools
  have distinct := recorded.distinct accepted
  refine ⟨?_, ?_⟩
  · intro first held second other same
    have found := distinct first held
    rw [same, distinct second other] at found
    exact (Option.some.inj found).symm
  · intro toolUse declared wrapped
    cases known : (responsesToolIdentities options.letters tools).result.lookup toolUse.name with
    | none =>
        have absent : ∀ identity ∈ declaredIdentities options.letters tools,
            identity.key ≠ toolUse.name := by
          intro identity member same
          have found := distinct identity member
          rw [same, known] at found
          exact absurd found (Option.some_ne_none identity).symm
        have trimmed : trimSpace toolUse.name = toolUse.name := by
          rcases declared with ⟨identity, member, same⟩ | ⟨converted, read, tool, member, same⟩
          · exact absurd same (absent identity member)
          · rw [← same]
            exact converted_children_trimmed options.letters [] tools converted read tool member
        refine iff_of_true (unknown_call_comes_back options known trimmed) ?_
        rintro ⟨identity, member, same, -⟩
        exact absurd same (absent identity member)
    | some identity =>
        obtain ⟨member, keyed⟩ := recorded.found _ _ known
        by_cases search : identity.type = toolSearchToolType
        · rw [search_comes_back_iff options known search]
          constructor
          · intro held _
            exact held
          · intro held
            exact held ⟨identity, member, keyed, search⟩
        · refine iff_of_true (known_call_comes_back options known keyed search ?_) ?_
          · intro custom
            exact wrapped ⟨identity, member, keyed, custom⟩
          · rintro ⟨other, among, same, type⟩
            have found := distinct other among
            rw [same, known] at found
            exact absurd (Option.some.inj found ▸ type) search

/-- A namespace with a custom tool and with a search that the client runs. -/
def namespacedTools : List ResponsesTool :=
  let untitled : ToolDeclaration := ⟨[], [], [], [], .null, [], ⟨[], [], .null⟩⟩
  [.declare { untitled with type := lit "namespace", name := lit "ns" }
    [.declare { untitled with type := lit "custom", name := lit "patch" } [],
      .declare { untitled with type := toolSearchToolType, execution := lit "client" } []]]

def asciiInput : InputOptions := ⟨asciiLetters, fun _ => []⟩

def namespacedIdentity (type name : GoString) : ResponsesToolIdentity := ⟨type, name, lit "ns"⟩

theorem namespaced_identities : declaredIdentities asciiInput.letters namespacedTools =
    [namespacedIdentity (lit "custom") (lit "patch"),
      namespacedIdentity toolSearchToolType toolSearchToolType] := by
  rfl

theorem namespaced_custom_comes_back :
    ComesBack asciiInput (responsesToolIdentities asciiInput.letters namespacedTools).result
      ⟨lit "call_1", lit "ns__patch", wrappedInput (lit "text")⟩ := by
  apply ((declared_calls_come_back asciiInput namespacedTools (by decide)).2 _ ?_ ?_).mpr
  · rintro ⟨identity, member, keyed, type⟩
    rw [namespaced_identities, List.mem_cons, List.mem_singleton] at member
    rcases member with rfl | rfl
    · exact absurd type (by decide)
    · exact absurd keyed (by decide)
  · refine .inl ⟨namespacedIdentity (lit "custom") (lit "patch"), ?_, by decide⟩
    rw [namespaced_identities]
    exact List.mem_cons_self
  · intro _
    exact ⟨lit "text", rfl⟩

/-- The call of a search in a namespace comes back as that of another tool. -/
theorem namespaced_search_lost :
    ¬∀ (options : InputOptions) (tools : List ResponsesTool) (toolUse : KiroToolUse),
      (responsesToolIdentities options.letters tools).conflict = none →
      DeclaredName options tools toolUse.name →
      (CallsTool options tools (lit "custom") toolUse →
        ∃ input, toolUse.input = wrappedInput input) →
      ComesBack options (responsesToolIdentities options.letters tools).result toolUse := by
  intro returns
  have search : namespacedIdentity toolSearchToolType toolSearchToolType ∈
      declaredIdentities asciiInput.letters namespacedTools := by
    rw [namespaced_identities]
    exact List.mem_cons_of_mem _ List.mem_cons_self
  have back := returns asciiInput namespacedTools ⟨lit "call_1", lit "ns__tool_search", []⟩
    (by decide) (.inl ⟨_, search, by decide⟩) (by
      rintro ⟨identity, member, keyed, type⟩
      rw [namespaced_identities, List.mem_cons, List.mem_singleton] at member
      rcases member with rfl | rfl
      · exact absurd keyed (by decide)
      · exact absurd type (by decide))
  have known := (identities_recorded asciiInput.letters namespacedTools).distinct (by decide) _
    search
  rw [search_comes_back_iff asciiInput known rfl] at back
  exact absurd back.1 (by decide)

end Declared

end KiroProxy.Responses
