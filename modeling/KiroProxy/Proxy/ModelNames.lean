import KiroProxy.Config.ModelMappings
import Mathlib.Data.List.TakeWhile

/-!
# Model names

`ParseModelAndThinking` and `MapModel` of `proxy/translator.go`: the handlers
resolve the requested name with the configured thinking suffix, and the
translator resolves the result again. A slice out of range panics: `none`.
-/

namespace KiroProxy.ModelNames

open Foundation.Searching GoStrings ModelMappings

set_option autoImplicit false

section Versions

def isDigit (byte : UInt8) : Bool := decide (0x30 ≤ byte ∧ byte ≤ 0x39)

def claudeFamilies : List GoString :=
  [lit "claude-opus-", lit "claude-sonnet-", lit "claude-haiku-"]

def splitVersion (lower family : GoString) : Option (GoString × GoString) :=
  if family.isPrefixOf lower then
    let rest := lower.drop family.length
    let major := rest.takeWhile isDigit
    match rest.dropWhile isDigit with
    | [] => none
    | byte :: minor =>
        if byte = 0x2D ∧ major ≠ [] ∧ minor ≠ [] ∧ minor.all isDigit then
          some (family ++ major, minor)
        else none
  else none

/-- `claudeVersionPattern`, with its two groups. -/
def claudeVersion (lower : GoString) : Option (GoString × GoString) :=
  claudeFamilies.findSome? (splitVersion lower)

def dotted (version : GoString × GoString) : GoString :=
  version.1 ++ lit "." ++ version.2

end Versions

section Resolution

variable (letters : Letters) (rules : List ModelMappingRule)

def exactRule (model : GoString) : Option ModelMappingRule :=
  rules.find? fun rule =>
    letters.equalFold (trimSpace rule.key) model && trimSpace rule.value != []

def partRule (lower : GoString) : Option ModelMappingRule :=
  rules.find? fun rule =>
    letters.toLower (trimSpace rule.key) != [] && trimSpace rule.value != [] &&
      (indexOf (letters.toLower (trimSpace rule.key)) lower).isSome

def hasThinkingSuffix (model thinkingSuffix : GoString) : Bool :=
  letters.toLower thinkingSuffix != [] &&
    (letters.toLower thinkingSuffix).isSuffixOf (letters.toLower model)

/-- The model without the suffix, which is cut at its own length in bytes. -/
def withoutSuffix (model thinkingSuffix : GoString) : Option GoString :=
  if hasThinkingSuffix letters model thinkingSuffix then
    if thinkingSuffix.length ≤ model.length then
      some (model.take (model.length - thinkingSuffix.length))
    else none
  else some model

/-- The last branches: a name outside every rule. The `claude-` branch of the source
answers what the fall-through does. -/
def unmappedModel (model : GoString) : GoString :=
  match claudeVersion (letters.toLower model) with
  | some version => dotted version
  | none => model

def parseModelAndThinking (model thinkingSuffix : GoString) : Option (GoString × Bool) :=
  let thinking := hasThinkingSuffix letters model thinkingSuffix
  match exactRule letters rules model with
  | some rule => some (trimSpace rule.value, thinking)
  | none =>
      match withoutSuffix letters model thinkingSuffix with
      | none => none
      | some bare =>
          match exactRule letters rules bare with
          | some rule => some (trimSpace rule.value, thinking)
          | none =>
              match partRule letters rules (letters.toLower bare) with
              | some rule => some (trimSpace rule.value, thinking)
              | none => some (unmappedModel letters bare, thinking)

def mapModel (model : GoString) : Option GoString :=
  (parseModelAndThinking letters rules model (lit "-thinking")).map Prod.fst

/-- The model a handler puts into the request. -/
def requestModel (model suffix : GoString) : Option GoString :=
  (parseModelAndThinking letters rules model suffix).map Prod.fst

/-- The model of the payload: the translator maps the request's model once more. -/
def payloadModel (model suffix : GoString) : Option GoString :=
  (requestModel letters rules model suffix).bind (mapModel letters rules)

end Resolution

section Versions

theorem split_version_some (lower family : GoString) (version : GoString × GoString)
    (found : splitVersion lower family = some version) :
    ∃ major, version.1 = family ++ major ∧ (∀ byte ∈ major, isDigit byte = true) ∧
      version.2 ≠ [] ∧ (∀ byte ∈ version.2, isDigit byte = true) ∧
      lower = version.1 ++ [0x2D] ++ version.2 := by
  unfold splitVersion at found
  split_ifs at found with starts
  obtain ⟨rest, split⟩ := List.isPrefixOf_iff_prefix.mp starts
  simp only [← split, List.drop_left] at found ⊢
  cases after : rest.dropWhile isDigit with
  | nil => simp [after] at found
  | cons byte minor =>
      simp only [after] at found
      split_ifs at found with shape
      rw [Option.some.injEq] at found
      refine ⟨rest.takeWhile isDigit, by rw [← found], ?_, ?_, ?_, ?_⟩
      · intro digit member
        exact List.mem_takeWhile_imp member
      · rw [← found]
        exact shape.2.2.1
      · rw [← found]
        exact List.all_eq_true.mp shape.2.2.2
      · rw [← found, ← shape.1]
        simp only [List.append_assoc, List.singleton_append, List.append_cancel_left_eq]
        rw [← after, List.takeWhile_append_dropWhile]

theorem claude_version_some (lower : GoString) (version : GoString × GoString)
    (found : claudeVersion lower = some version) :
    ∃ family ∈ claudeFamilies, splitVersion lower family = some version := by
  unfold claudeVersion at found
  exact List.exists_of_findSome?_eq_some found

/-- A byte of a dotted version or of the name it was read from. -/
def versionByte (byte : UInt8) : Bool :=
  isDigit byte || byte == 0x2D || (0x61 ≤ byte && byte ≤ 0x7A)

theorem family_bytes : ∀ family ∈ claudeFamilies, ∀ byte ∈ family,
    versionByte byte = true := by
  have every : (claudeFamilies.all fun family => family.all versionByte) = true := by decide
  intro family member
  exact List.all_eq_true.mp (List.all_eq_true.mp every family member)

theorem digit_version_byte (byte : UInt8) (digit : isDigit byte = true) :
    versionByte byte = true := by
  rw [versionByte, digit]
  rfl

theorem version_bytes (lower : GoString) (version : GoString × GoString)
    (found : claudeVersion lower = some version) :
    (∀ byte ∈ version.1, versionByte byte = true) ∧
      (∀ byte ∈ version.2, isDigit byte = true) ∧ version.2 ≠ [] ∧
      lower = version.1 ++ [0x2D] ++ version.2 := by
  obtain ⟨family, member, split⟩ := claude_version_some lower version found
  obtain ⟨major, name, digits, long, minors, whole⟩ :=
    split_version_some lower family version split
  refine ⟨?_, minors, long, whole⟩
  intro byte inside
  rw [name] at inside
  cases List.mem_append.mp inside with
  | inl front => exact family_bytes family member byte front
  | inr back => exact digit_version_byte byte (digits byte back)

/-- A dotted version is no dashed one. -/
theorem dotted_no_version (version : GoString × GoString) :
    claudeVersion (dotted version) = none := by
  by_contra again
  obtain ⟨other, read⟩ := Option.ne_none_iff_exists'.mp again
  have bytes := version_bytes (dotted version) other read
  have dot : (0x2E : UInt8) ∈ dotted version := by
    unfold dotted
    rw [List.append_assoc]
    exact List.mem_append_right _ (List.mem_append_left _ (by decide))
  have outside : versionByte 0x2E = false := by decide
  rw [bytes.2.2.2, List.append_assoc, List.mem_append, List.mem_append] at dot
  have inside : versionByte 0x2E = true := by
    cases dot with
    | inl front => exact bytes.1 _ front
    | inr back =>
        cases back with
        | inl dash => exact absurd dash (by decide)
        | inr minor => exact digit_version_byte _ (bytes.2.1 _ minor)
  rw [outside] at inside
  exact Bool.false_ne_true inside

theorem version_byte_lower (byte : UInt8) (inside : versionByte byte = true ∨ byte = 0x2E) :
    byte < 0x80 ∧ lowerByte byte = byte := by
  unfold versionByte isDigit at inside
  unfold lowerByte
  constructor
  · grind
  · grind

variable (letters : Letters)

/-- A dotted version is its own lower case, and ends in a digit. -/
theorem dotted_lower (lower : GoString) (version : GoString × GoString)
    (found : claudeVersion lower = some version) :
    letters.toLower (dotted version) = dotted version := by
  have bytes := version_bytes lower version found
  have plain : ∀ byte ∈ dotted version, byte < 0x80 ∧ lowerByte byte = byte := by
    intro byte member
    apply version_byte_lower
    unfold dotted at member
    rw [List.append_assoc, List.mem_append, List.mem_append] at member
    cases member with
    | inl front => exact Or.inl (bytes.1 byte front)
    | inr back =>
        cases back with
        | inl dot => exact Or.inr (List.mem_singleton.mp dot)
        | inr minor => exact Or.inl (digit_version_byte byte (bytes.2.1 byte minor))
  rw [letters.lower_ascii _ (fun byte member => (plain byte member).1)]
  calc (dotted version).map lowerByte = (dotted version).map id :=
        List.map_congr_left (fun byte member => (plain byte member).2)
    _ = dotted version := List.map_id _

theorem dotted_no_thinking (lower : GoString) (version : GoString × GoString)
    (found : claudeVersion lower = some version) :
    hasThinkingSuffix letters (dotted version) (lit "-thinking") = false := by
  have bytes := version_bytes lower version found
  have suffix : letters.toLower (lit "-thinking") = lit "-thinking" := by
    rw [letters.lower_ascii _ (ascii_bytes _ (by decide))]
    decide
  rw [hasThinkingSuffix, suffix, dotted_lower letters lower version found]
  by_contra ends
  rw [Bool.not_eq_false, Bool.and_eq_true, List.isSuffixOf_iff_suffix] at ends
  -- The last byte would be a digit and the letter g.
  obtain ⟨front, whole⟩ := ends.2
  have last := congrArg List.getLast? whole
  unfold dotted at last
  obtain ⟨init, digit, minor⟩ := List.eq_nil_or_concat version.2 |>.resolve_left bytes.2.2.1
  have named : lit "-thinking" = lit "-thinkin" ++ [0x67] := by decide
  rw [minor, named, List.concat_eq_append, ← List.append_assoc, ← List.append_assoc,
    List.getLast?_concat, List.getLast?_concat, Option.some.injEq] at last
  have numeral := bytes.2.1 digit (by rw [minor]; simp)
  rw [← last] at numeral
  exact absurd numeral (by decide)

end Versions

section OneHop

variable (letters : Letters) (rules : List ModelMappingRule)

/-- The rule a name meets once its suffix is cut: one for the whole name, or else one whose
source is a part of it. -/
def ruleFor (bare : GoString) : Option ModelMappingRule :=
  (exactRule letters rules bare).or (partRule letters rules (letters.toLower bare))

/-- What a target must be like for the translator to keep it: without the thinking suffix it
meets a rule to this very target, or it carries no suffix, has no rule's source in it and is
no dashed Claude version. -/
def Settled (target : GoString) : Prop :=
  ∃ bare, withoutSuffix letters target (lit "-thinking") = some bare ∧
    match ruleFor letters rules bare with
    | some rule => trimSpace rule.value = target
    | none =>
        hasThinkingSuffix letters target (lit "-thinking") = false ∧
          claudeVersion (letters.toLower target) = none

/-- A name outside every rule is kept when its dotted version meets no rule to another
target, or when what a further thinking suffix leaves of it meets a rule back to it. -/
def UnmappedSettled (bare : GoString) : Prop :=
  match claudeVersion (letters.toLower bare) with
  | some version =>
      ∀ rule, ruleFor letters rules (dotted version) = some rule →
        trimSpace rule.value = dotted version
  | none =>
      hasThinkingSuffix letters bare (lit "-thinking") = true →
        ∃ shorter rule, withoutSuffix letters bare (lit "-thinking") = some shorter ∧
          ruleFor letters rules shorter = some rule ∧ trimSpace rule.value = bare

/-- When the second resolution of a requested model changes nothing. -/
def OneHop (model suffix : GoString) : Prop :=
  match exactRule letters rules model with
  | some rule => Settled letters rules (trimSpace rule.value)
  | none =>
      ∀ bare, withoutSuffix letters model suffix = some bare →
        match ruleFor letters rules bare with
        | some rule => Settled letters rules (trimSpace rule.value)
        | none => UnmappedSettled letters rules bare

theorem request_model_cases (model suffix : GoString) :
    requestModel letters rules model suffix =
      match exactRule letters rules model with
      | some rule => some (trimSpace rule.value)
      | none =>
          (withoutSuffix letters model suffix).map fun bare =>
            match ruleFor letters rules bare with
            | some rule => trimSpace rule.value
            | none => unmappedModel letters bare := by
  unfold requestModel parseModelAndThinking ruleFor
  cases exactRule letters rules model with
  | some rule => rfl
  | none =>
      cases withoutSuffix letters model suffix with
      | none => rfl
      | some bare =>
          cases found : exactRule letters rules bare with
          | some rule => simp [found]
          | none =>
              cases part : partRule letters rules (letters.toLower bare) with
              | some rule => simp [found, part]
              | none => simp [found, part]

theorem without_suffix_shorter (model suffix bare : GoString) (long : suffix ≠ [])
    (ends : hasThinkingSuffix letters model suffix = true)
    (cut : withoutSuffix letters model suffix = some bare) : bare ≠ model := by
  intro same
  unfold withoutSuffix at cut
  split_ifs at cut with fits
  rw [Option.some.injEq] at cut
  have sizes := congrArg List.length (cut.trans same)
  rw [List.length_take] at sizes
  have positive := List.length_pos_iff.mpr long
  omega

theorem unmapped_not_same (model bare : GoString)
    (cut : withoutSuffix letters model (lit "-thinking") = some bare) :
    unmappedModel letters bare = model ↔
      hasThinkingSuffix letters model (lit "-thinking") = false ∧
        claudeVersion (letters.toLower model) = none := by
  unfold unmappedModel
  cases ends : hasThinkingSuffix letters model (lit "-thinking") with
  | false =>
      have same : model = bare := by
        unfold withoutSuffix at cut
        rw [ends] at cut
        exact Option.some.inj cut
      rw [← same]
      cases read : claudeVersion (letters.toLower model) with
      | none => simp
      | some version =>
          simp only [true_and, reduceCtorEq, iff_false]
          intro kept
          have plain := dotted_lower letters _ version read
          have again := dotted_no_version version
          rw [kept] at plain again
          rw [plain, again] at read
          exact absurd read (by simp)
  | true =>
      have shorter := without_suffix_shorter letters model _ bare (by decide) ends cut
      cases read : claudeVersion (letters.toLower bare) with
      | none => simpa using shorter
      | some version =>
          simp only [Bool.true_eq_false, false_and, iff_false]
          intro kept
          have plain := dotted_no_thinking letters _ version read
          rw [kept, ends] at plain
          exact absurd plain (by decide)

/-- Resolving a name that is no rule's source once more. -/
theorem map_model_same (name : GoString) (source : exactRule letters rules name = none) :
    mapModel letters rules name = some name ↔ Settled letters rules name := by
  have mapped := request_model_cases letters rules name (lit "-thinking")
  rw [source] at mapped
  rw [mapModel, ← requestModel, mapped, Settled]
  cases cut : withoutSuffix letters name (lit "-thinking") with
  | none => simp
  | some bare =>
      cases met : ruleFor letters rules bare with
      | some rule => simp [met]
      | none => simp [met, unmapped_not_same letters name bare cut]

theorem rule_for_none (bare : GoString) (unmet : ruleFor letters rules bare = none) :
    exactRule letters rules bare = none := by
  unfold ruleFor at unmet
  rw [Option.or_eq_none_iff] at unmet
  exact unmet.1

theorem unmapped_settled_iff (bare : GoString) (unmet : ruleFor letters rules bare = none) :
    mapModel letters rules (unmappedModel letters bare) = some (unmappedModel letters bare) ↔
      UnmappedSettled letters rules bare := by
  unfold UnmappedSettled unmappedModel
  cases read : claudeVersion (letters.toLower bare) with
  | some version =>
      have plain := dotted_no_thinking letters _ version read
      have cut : withoutSuffix letters (dotted version) (lit "-thinking") =
          some (dotted version) := by
        rw [withoutSuffix, plain]
        rfl
      have mapped := request_model_cases letters rules (dotted version) (lit "-thinking")
      simp only
      rw [mapModel, ← requestModel, mapped, cut]
      cases exact : exactRule letters rules (dotted version) with
      | some rule => simp [ruleFor, exact]
      | none =>
          have kept : unmappedModel letters (dotted version) = dotted version := by
            rw [unmappedModel, dotted_lower letters _ version read, dotted_no_version]
          cases met : ruleFor letters rules (dotted version) with
          | some rule => simp [met]
          | none => simp [met, kept]
  | none =>
      simp only
      rw [map_model_same letters rules bare (rule_for_none letters rules bare unmet), Settled]
      cases ends : hasThinkingSuffix letters bare (lit "-thinking") with
      | false =>
          have cut : withoutSuffix letters bare (lit "-thinking") = some bare := by
            rw [withoutSuffix, ends]
            rfl
          simp [cut, unmet, read]
      | true =>
          cases cut : withoutSuffix letters bare (lit "-thinking") with
          | none => simp
          | some shorter =>
              cases met : ruleFor letters rules shorter with
              | some rule => simp [met]
              | none => simp [met]

variable {letters rules}

theorem exact_rule_mem (model : GoString) (rule : ModelMappingRule)
    (found : exactRule letters rules model = some rule) : rule ∈ rules :=
  List.mem_of_find?_eq_some found

theorem rule_for_mem (bare : GoString) (rule : ModelMappingRule)
    (found : ruleFor letters rules bare = some rule) : rule ∈ rules := by
  unfold ruleFor at found
  rw [Option.or_eq_some_iff] at found
  cases found with
  | inl exact => exact List.mem_of_find?_eq_some exact
  | inr part => exact List.mem_of_find?_eq_some part.2

variable {quote : GoString → GoString}

/-- The normalization makes every target a name without an exact rule. -/
theorem target_unmapped (mappings : AcceptedMappings letters quote) (rule : ModelMappingRule)
    (member : rule ∈ mappings.rules) :
    exactRule letters mappings.rules (trimSpace rule.value) = none := by
  unfold exactRule
  rw [List.find?_eq_none]
  intro other among
  rw [mappings.target_no_source rule other member among]
  simp

theorem target_settled_iff (mappings : AcceptedMappings letters quote)
    (rule : ModelMappingRule) (member : rule ∈ mappings.rules) :
    mapModel letters mappings.rules (trimSpace rule.value) = some (trimSpace rule.value) ↔
      Settled letters mappings.rules (trimSpace rule.value) :=
  map_model_same letters mappings.rules _ (target_unmapped mappings rule member)

theorem one_hop_iff (mappings : AcceptedMappings letters quote) (model suffix : GoString) :
    payloadModel letters mappings.rules model suffix =
        requestModel letters mappings.rules model suffix ↔
      OneHop letters mappings.rules model suffix := by
  unfold payloadModel OneHop
  rw [request_model_cases]
  cases exact : exactRule letters mappings.rules model with
  | some rule =>
      exact target_settled_iff mappings rule (exact_rule_mem model rule exact)
  | none =>
      cases cut : withoutSuffix letters model suffix with
      | none => simp
      | some bare =>
          cases met : ruleFor letters mappings.rules bare with
          | some rule =>
              have settled := target_settled_iff mappings rule (rule_for_mem bare rule met)
              simpa [met] using settled
          | none =>
              have settled := unmapped_settled_iff letters mappings.rules bare met
              simpa [met] using settled

/-- The target of the first rule has the source of the second one in it. -/
def overlappingMappings : List ModelMappingRule :=
  [⟨lit "my-model", lit "gpt-5.4-mini"⟩, ⟨lit "gpt-5", lit "claude-opus-5"⟩]

theorem mapped_model_remapped :
    ¬∀ (letters : Letters) (quote : GoString → GoString)
      (mappings : AcceptedMappings letters quote) (model suffix : GoString),
      payloadModel letters mappings.rules model suffix =
        requestModel letters mappings.rules model suffix := by
  intro once
  have accepted : normalizeModelMappings asciiLetters id overlappingMappings =
      .ok overlappingMappings := by decide
  have same := once asciiLetters id ⟨overlappingMappings, overlappingMappings, accepted⟩
    (lit "my-model") (lit "-thinking")
  have first : requestModel asciiLetters overlappingMappings (lit "my-model")
      (lit "-thinking") = some (lit "gpt-5.4-mini") := by decide
  have second : payloadModel asciiLetters overlappingMappings (lit "my-model")
      (lit "-thinking") = some (lit "claude-opus-5") := by decide
  rw [first, second] at same
  exact absurd same (by decide)

end OneHop

end KiroProxy.ModelNames
