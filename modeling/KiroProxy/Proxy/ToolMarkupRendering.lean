import KiroProxy.Proxy.ToolMarkupConservation

/-!
# Reading rendered calls

Calls rendered as invoke blocks, bare or inside a wrapper, with any whitespace
between the tags. The parser reads a block as the call it renders, whatever
follows it.
-/

namespace KiroProxy.ToolMarkup

open GoStrings Foundation.Searching KiroTypes

set_option autoImplicit false

section Rendering

/-- A parameter and the whitespace before its block. -/
structure MarkupParam where
  space : GoString
  name : GoString
  value : GoString

/-- A call, the whitespace before its block and before the block's closing tag. -/
structure MarkupCall where
  space : GoString
  name : GoString
  params : List MarkupParam
  closing : GoString

variable (tags : ToolMarkupTags)

def paramText (param : MarkupParam) : GoString :=
  param.space ++ (tags.paramOpen ++ (param.name ++ (lit "\">" ++ (param.value ++
    tags.paramClose))))

def paramsText (params : List MarkupParam) : GoString := params.flatMap (paramText tags)

def invokeText (call : MarkupCall) : GoString :=
  tags.invokeOpen ++ (call.name ++ (lit "\">" ++ (paramsText tags call.params ++
    (call.closing ++ tags.invokeClose))))

def spacedText (calls : List MarkupCall) : GoString :=
  calls.flatMap fun call => call.space ++ invokeText tags call

/-- Whether the blocks stand alone or inside a wrapper, with the whitespace before its
closing tag. -/
inductive Layout where
  | bare
  | wrapped (closing : GoString)

def renderCalls (layout : Layout) (calls : List MarkupCall) : GoString :=
  match layout, calls with
  | .bare, [] => []
  | .bare, first :: rest => invokeText tags first ++ spacedText tags rest
  | .wrapped closing, calls =>
      tags.callsOpen ++ (spacedText tags calls ++ (closing ++ tags.callsClose))

structure NameWritten (name : GoString) : Prop where
  nonempty : name ≠ []
  short : name.length ≤ maxMarkupNameLen
  plain : containsAny nameBreaks name = false

structure ParamWritten (param : MarkupParam) : Prop where
  space : Blank param.space
  name : NameWritten param.name
  value : ¬tags.paramClose <:+: param.value

structure CallWritten (tools : DeclaredTools) (call : MarkupCall) : Prop where
  space : Blank call.space
  closing : Blank call.closing
  name : NameWritten call.name
  declared : (tools.lookup call.name).isSome = true
  params : ∀ param ∈ call.params, ParamWritten tags param
  distinct : (call.params.map MarkupParam.name).Nodup

def Layout.Written : Layout → Prop
  | .bare => True
  | .wrapped closing => Blank closing

variable (unmarshal : GoString → Option Json) (tools : DeclaredTools)

def decodedParam (paramTypes : ParamTypes) (param : MarkupParam) : GoString × Json :=
  (param.name,
    coerceMarkupParam unmarshal param.value ((paramTypes.lookup param.name).getD []))

/-- The call that the rendering encodes. -/
def decodedCall (call : MarkupCall) : KiroToolUse where
  toolUseID := []
  name := call.name
  input := call.params.map (decodedParam unmarshal ((tools.lookup call.name).getD []))

end Rendering

section Dialects

/-- A text that starts with neither of two tags when it starts with the other. -/
def Apart (left right : GoString) : Prop :=
  left.isPrefixOf right = false ∧ right.isPrefixOf left = false

instance (left right : GoString) : Decidable (Apart left right) :=
  inferInstanceAs (Decidable (_ ∧ _))

/-- What tells the tags of a dialect from each other. -/
structure TagsTold (tags : ToolMarkupTags) : Prop where
  invokeOpen : tags.invokeOpen.head? = some 0x3C
  invokeClose : tags.invokeClose.head? = some 0x3C
  paramOpen : tags.paramOpen.head? = some 0x3C
  callsOpen : tags.callsOpen.head? = some 0x3C
  callsClose : tags.callsClose.head? = some 0x3C
  paramClose : tags.paramClose.head? = some 0x3C
  paramCloseOnce : 0x3C ∉ tags.paramClose.tail
  params : Apart tags.paramOpen tags.invokeClose
  calls : Apart tags.invokeOpen tags.callsClose
  opens : Apart tags.invokeOpen tags.callsOpen
  thinkingInvoke : Apart tags.invokeOpen thinkingOpenTag
  thinkingCalls : Apart tags.callsOpen thinkingOpenTag

theorem tags_told (dialect : Dialect) (known : dialect ∈ toolMarkupDialects) :
    TagsTold dialect.1 := by
  simp only [toolMarkupDialects, List.mem_cons, List.not_mem_nil, or_false] at known
  cases known with
  | inl plain =>
      rw [plain]
      constructor <;> decide
  | inr named =>
      rw [named]
      constructor <;> decide

theorem apart_unmatched (tag other more : GoString) (apart : Apart tag other) :
    other.isPrefixOf (tag ++ more) = false ∧ isPartialTag (tag ++ more) other = false := by
  constructor
  · cases starts : other.isPrefixOf (tag ++ more) with
    | false => rfl
    | true =>
        cases prefix_append_cases other tag more starts with
        | inl here =>
            rw [apart.2] at here
            exact absurd here (by decide)
        | inr part =>
            rw [apart.1] at part
            exact absurd part.2 (by decide)
  · cases part : isPartialTag (tag ++ more) other with
    | false => rfl
    | true =>
        unfold isPartialTag at part
        rw [Bool.and_eq_true, List.isPrefixOf_iff_prefix] at part
        have starts := (List.prefix_append tag more).trans part.2
        rw [← List.isPrefixOf_iff_prefix, apart.1] at starts
        exact absurd starts (by decide)

theorem prefix_self (tag more : GoString) : tag.isPrefixOf (tag ++ more) = true :=
  List.isPrefixOf_iff_prefix.mpr (List.prefix_append tag more)

/-- Whitespace before a tag is skipped and nothing else. -/
theorem trim_blank (space tag more : GoString) (blank : Blank space)
    (starts : tag.head? = some 0x3C) :
    trimMarkupSpace (space ++ (tag ++ more)) = tag ++ more := by
  obtain ⟨rest, same⟩ : ∃ rest, tag = 0x3C :: rest := by
    cases tag with
    | nil => simp at starts
    | cons head rest =>
        rw [List.head?_cons, Option.some.injEq] at starts
        exact ⟨rest, by rw [starts]⟩
  unfold Blank trimMarkupSpace trimLeft at blank
  unfold trimMarkupSpace trimLeft
  rw [List.dropWhile_append, blank, same]
  rfl

end Dialects

section Reading

theorem written_name (tag name more : GoString) (written : NameWritten name) :
    markupName (tag ++ (name ++ (lit "\">" ++ more))) tag.length =
      .complete name (tag.length + name.length + 2) := by
  have quote : lit "\">" = [0x22, 0x3E] := by decide
  have absent : ¬[0x22, 0x3E] <:+: name := by
    intro occurs
    have member : (0x22 : UInt8) ∈ name := occurs.subset (by simp)
    have plain := written.plain
    unfold containsAny at plain
    rw [List.any_eq_false] at plain
    exact plain 0x22 member (by decide)
  have first := first_at_once 0x22 [0x3E] name more (by decide) absent
  rw [List.append_assoc] at first
  have found := first_at_index (by simp) first
  have bad : ¬(name = [] ∨ maxMarkupNameLen < name.length ∨
      containsAny nameBreaks name = true) := by
    rw [written.plain]
    have short := written.short
    simp only [written.nonempty, false_or, Bool.false_eq_true, or_false]
    omega
  unfold markupName
  rw [List.drop_left, quote]
  simp only [found, List.take_left]
  rw [if_neg bad]

variable (unmarshal : GoString → Option Json) (tools : DeclaredTools) (dialect : Dialect)

theorem set_new (fields : JsonFields) (key : GoString) (value : Json)
    (fresh : key ∉ fields.map Prod.fst) : fields.set key value = fields ++ [(key, value)] := by
  induction fields with
  | nil => rfl
  | cons field fields ih =>
      rw [List.map_cons, List.mem_cons, not_or] at fresh
      rw [JsonFields.set, if_neg (Ne.symm fresh.1), ih fresh.2]
      rfl

omit dialect in
theorem value_found (tags : ToolMarkupTags) (told : TagsTold tags) (value more : GoString)
    (absent : ¬tags.paramClose <:+: value) :
    indexOf tags.paramClose (value ++ (tags.paramClose ++ more)) = some value.length := by
  have starts := told.paramClose
  have once := told.paramCloseOnce
  cases close : tags.paramClose with
  | nil => simp [close] at starts
  | cons head tail =>
      rw [close, List.head?_cons, Option.some.injEq] at starts
      rw [close, List.tail_cons] at once
      rw [close, starts] at absent
      rw [starts]
      have first := first_at_once 0x3C tail value more once absent
      rw [List.append_assoc] at first
      exact first_at_index (by simp) first

/-- One written parameter is read and the rest of the text is left. -/
theorem parse_written_param (told : TagsTold dialect.1) (name : GoString)
    (paramTypes : ParamTypes) (param : MarkupParam) (written : ParamWritten dialect.1 param)
    (tail : GoString) (fuel consumed : Nat) (input : JsonFields)
    (fresh : param.name ∉ input.map Prod.fst) :
    parseParams unmarshal dialect.1 name paramTypes (fuel + 1)
        (paramText dialect.1 param ++ tail) consumed input =
      parseParams unmarshal dialect.1 name paramTypes fuel tail
        (consumed + (paramText dialect.1 param).length)
        (input ++ [decodedParam unmarshal paramTypes param]) := by
  have two : (lit "\">").length = 2 := by decide
  let body := param.value ++ (dialect.1.paramClose ++ tail)
  let text := dialect.1.paramOpen ++ (param.name ++ (lit "\">" ++ body))
  have whole : paramText dialect.1 param ++ tail = param.space ++ text := by
    simp only [paramText, List.append_assoc, text, body]
  have rest := trim_blank param.space dialect.1.paramOpen (param.name ++ (lit "\">" ++ body))
    written.space told.paramOpen
  have unclosed := (apart_unmatched dialect.1.paramOpen dialect.1.invokeClose
    (param.name ++ (lit "\">" ++ body)) told.params).1
  have key := written_name dialect.1.paramOpen param.name body written.name
  have value := value_found dialect.1 told param.value tail written.value
  have behindName : text.drop (dialect.1.paramOpen.length + param.name.length + 2) = body := by
    simp only [text]
    rw [← List.append_assoc, ← List.append_assoc, List.drop_left']
    simp only [List.length_append, two]
  have behindValue : text.drop (dialect.1.paramOpen.length + param.name.length + 2 +
      param.value.length + dialect.1.paramClose.length) = tail := by
    rw [Nat.add_assoc _ param.value.length, ← List.drop_drop, behindName]
    simp only [body]
    rw [← List.append_assoc, List.drop_left' List.length_append]
  have size : consumed + ((param.space ++ text).length - text.length) +
      (dialect.1.paramOpen.length + param.name.length + 2 + param.value.length +
        dialect.1.paramClose.length) = consumed + (paramText dialect.1 param).length := by
    simp only [paramText, List.length_append, two]
    omega
  rw [whole, parseParams]
  dsimp only
  rw [rest, if_neg (by simp [unclosed]), if_pos (prefix_self _ _), key]
  dsimp only
  rw [behindName, value]
  dsimp only
  rw [List.take_left, behindValue, set_new input param.name _ fresh, size]
  rfl

theorem parse_written_params (told : TagsTold dialect.1) (name : GoString)
    (paramTypes : ParamTypes) (params : List MarkupParam)
    (written : ∀ param ∈ params, ParamWritten dialect.1 param) (closing more : GoString)
    (blank : Blank closing) (fuel consumed : Nat) (input : JsonFields)
    (distinct : (input.map Prod.fst ++ params.map MarkupParam.name).Nodup)
    (enough : params.length < fuel) :
    parseParams unmarshal dialect.1 name paramTypes fuel
        (paramsText dialect.1 params ++ (closing ++ (dialect.1.invokeClose ++ more))) consumed
        input =
      .complete (consumed + (paramsText dialect.1 params ++
          (closing ++ dialect.1.invokeClose)).length)
        ⟨[], name, input ++ params.map (decodedParam unmarshal paramTypes)⟩ := by
  induction params generalizing fuel consumed input with
  | nil =>
      obtain ⟨fuel, rfl⟩ := Nat.exists_eq_succ_of_ne_zero (Nat.ne_of_gt enough)
      have rest := trim_blank closing dialect.1.invokeClose more blank told.invokeClose
      simp only [paramsText, List.flatMap_nil, List.nil_append]
      rw [parseParams]
      dsimp only
      rw [rest, if_pos (prefix_self _ _)]
      have size : consumed + ((closing ++ (dialect.1.invokeClose ++ more)).length -
          (dialect.1.invokeClose ++ more).length) + dialect.1.invokeClose.length =
          consumed + (closing ++ dialect.1.invokeClose).length := by
        simp only [List.length_append]
        omega
      rw [size]
      simp
  | cons param params ih =>
      obtain ⟨fuel, rfl⟩ := Nat.exists_eq_succ_of_ne_zero (Nat.ne_zero_of_lt enough)
      rw [List.map_cons] at distinct
      have fresh : param.name ∉ input.map Prod.fst := by
        intro member
        exact (List.nodup_append.mp distinct).2.2 param.name member param.name
          List.mem_cons_self rfl
      have one := parse_written_param unmarshal dialect told name paramTypes param
        (written param List.mem_cons_self)
        (paramsText dialect.1 params ++ (closing ++ (dialect.1.invokeClose ++ more)))
        fuel consumed input fresh
      have later := ih (fun other member => written other (List.mem_cons_of_mem _ member)) fuel
        (consumed + (paramText dialect.1 param).length)
        (input ++ [decodedParam unmarshal paramTypes param])
        (by
          rw [List.map_append, List.append_assoc]
          exact distinct)
        (Nat.lt_of_succ_lt_succ enough)
      rw [paramsText, List.flatMap_cons, List.append_assoc, ← paramsText]
      refine one.trans (later.trans ?_)
      rw [List.append_assoc]
      congr 1
      simp only [List.length_append]
      omega

theorem params_length (tags : ToolMarkupTags) (params : List MarkupParam) :
    params.length ≤ (paramsText tags params).length := by
  induction params with
  | nil => exact Nat.le_refl 0
  | cons param params ih =>
      have two : (lit "\">").length = 2 := by decide
      simp only [paramsText, List.flatMap_cons, paramText, List.length_append, two,
        List.length_cons] at ih ⊢
      omega

/-- A rendered block is read as the call it renders. -/
theorem parse_written_invoke (told : TagsTold dialect.1) (call : MarkupCall)
    (written : CallWritten dialect.1 tools call) (more : GoString) :
    parseInvoke unmarshal tools (invokeText dialect.1 call ++ more) dialect.1 =
      .complete (invokeText dialect.1 call).length (decodedCall unmarshal tools call) := by
  have two : (lit "\">").length = 2 := by decide
  have text : invokeText dialect.1 call ++ more = dialect.1.invokeOpen ++ (call.name ++
      (lit "\">" ++ (paramsText dialect.1 call.params ++
        (call.closing ++ (dialect.1.invokeClose ++ more))))) := by
    simp only [invokeText, List.append_assoc]
  have behindName : (dialect.1.invokeOpen ++ (call.name ++ (lit "\">" ++
      (paramsText dialect.1 call.params ++
        (call.closing ++ (dialect.1.invokeClose ++ more)))))).drop
          (dialect.1.invokeOpen.length + call.name.length + 2) =
      paramsText dialect.1 call.params ++
        (call.closing ++ (dialect.1.invokeClose ++ more)) := by
    rw [← List.append_assoc, ← List.append_assoc, List.drop_left']
    simp only [List.length_append, two]
  obtain ⟨paramTypes, declared⟩ := Option.isSome_iff_exists.mp written.declared
  have size := params_length dialect.1 call.params
  have parsed := parse_written_params unmarshal dialect told call.name paramTypes call.params
    written.params call.closing more written.closing
    ((invokeText dialect.1 call ++ more).length + 1)
    (dialect.1.invokeOpen.length + call.name.length + 2) [] (by simpa using written.distinct)
    (by simp only [invokeText, List.length_append]; omega)
  rw [text] at parsed ⊢
  unfold parseInvoke
  rw [prefix_self, written_name dialect.1.invokeOpen call.name _ written.name]
  simp only [Bool.not_true, Bool.false_eq_true, if_false, declared]
  rw [behindName, parsed]
  have total : dialect.1.invokeOpen.length + call.name.length + 2 +
      (paramsText dialect.1 call.params ++ (call.closing ++ dialect.1.invokeClose)).length =
      (invokeText dialect.1 call).length := by
    simp only [invokeText, List.length_append, two]
    omega
  rw [total]
  simp [decodedCall, declared]

end Reading

end KiroProxy.ToolMarkup
