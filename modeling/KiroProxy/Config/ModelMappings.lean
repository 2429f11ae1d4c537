import KiroProxy.GoStrings

/-!
# Model mapping rules

`normalizeModelMappings` of `config/model_mapping_validation.go` and the default
rules of `config/config.go`. `quote` is the `%q` verb of package `fmt`.
-/

namespace KiroProxy.ModelMappings

open GoStrings

set_option autoImplicit false

structure ModelMappingRule where
  key : GoString
  value : GoString
deriving DecidableEq

def maxModelMappings : Nat := 200
def maxModelIDBytes : Nat := 256

def defaultModelMappings : List ModelMappingRule :=
  [⟨lit "claude-sonnet-4-20250514", lit "claude-sonnet-5"⟩,
    ⟨lit "claude-3-5-sonnet", lit "claude-sonnet-5"⟩,
    ⟨lit "claude-3-sonnet", lit "claude-sonnet-5"⟩,
    ⟨lit "claude-3-opus", lit "claude-opus-5"⟩,
    ⟨lit "claude-3-haiku", lit "claude-haiku-4.5"⟩,
    ⟨lit "gpt-5.4-mini", lit "claude-haiku-4.5"⟩,
    ⟨lit "gpt-5", lit "claude-opus-5"⟩,
    ⟨lit "gpt-4-turbo", lit "claude-sonnet-5"⟩,
    ⟨lit "gpt-3.5-turbo", lit "claude-sonnet-5"⟩]

/-- `GetModelMappings`: a store without a list serves the defaults. -/
def getModelMappings (stored : Option (List ModelMappingRule)) : List ModelMappingRule :=
  stored.getD defaultModelMappings

/-- `ModelMappingError`. The index is -1 when the list as a whole is invalid. -/
structure ModelMappingError where
  index : Int
  reason : GoString
deriving DecidableEq

def decimal (number : Nat) : GoString := lit (toString number)

def validateModelMappingID (quote : GoString → GoString) (id : GoString) : GoString :=
  if maxModelIDBytes < id.length then
    lit "model ID " ++ quote (id.take 32) ++ lit "... is longer than " ++
      decimal maxModelIDBytes ++ lit " bytes"
  else if hasRune (spaceRunes ++ controlRunes) id then
    lit "model ID " ++ quote id ++ lit " contains whitespace or control characters"
  else []

/-- One entry of the list, given the entries cleaned before it. -/
def normalizeMapping (letters : Letters) (quote : GoString → GoString)
    (cleaned : List ModelMappingRule) (index : Nat) (mapping : ModelMappingRule) :
    Except ModelMappingError ModelMappingRule :=
  let key := letters.toLower (trimSpace mapping.key)
  let value := trimSpace mapping.value
  if key = [] ∧ value = [] then
    .error ⟨index, lit "model mapping " ++ decimal (index + 1) ++ lit " is empty"⟩
  else if key = [] then
    .error ⟨index, lit "mapping to " ++ quote value ++ lit " has no source model"⟩
  else if value = [] then
    .error ⟨index, lit "mapping " ++ quote key ++ lit " has no target model"⟩
  else if validateModelMappingID quote key ≠ [] then
    .error ⟨index, validateModelMappingID quote key⟩
  else if validateModelMappingID quote value ≠ [] then
    .error ⟨index, validateModelMappingID quote value⟩
  else if letters.equalFold key value then
    .error ⟨index, lit "mapping " ++ quote key ++ lit " points to itself"⟩
  else if cleaned.any fun previous => letters.equalFold previous.key key then
    .error ⟨index, lit "source " ++ quote key ++ lit " is mapped more than once"⟩
  else .ok ⟨key, value⟩

def cleanMappings (letters : Letters) (quote : GoString → GoString) :
    List ModelMappingRule → Nat → List ModelMappingRule →
      Except ModelMappingError (List ModelMappingRule)
  | cleaned, _, [] => .ok cleaned
  | cleaned, index, mapping :: mappings =>
      match normalizeMapping letters quote cleaned index mapping with
      | .error fault => .error fault
      | .ok rule => cleanMappings letters quote (cleaned ++ [rule]) (index + 1) mappings

/-- The first rule from an index on whose target is a source of the list. -/
def chainFault (letters : Letters) (quote : GoString → GoString)
    (cleaned : List ModelMappingRule) :
    Nat → List ModelMappingRule → Option ModelMappingError
  | _, [] => none
  | index, mapping :: mappings =>
      if cleaned.any fun other => letters.equalFold other.key mapping.value then
        some ⟨index, lit "target " ++ quote mapping.value ++
          lit " is also a mapping source; mappings resolve in one hop"⟩
      else chainFault letters quote cleaned (index + 1) mappings

def normalizeModelMappings (letters : Letters) (quote : GoString → GoString)
    (mappings : List ModelMappingRule) : Except ModelMappingError (List ModelMappingRule) :=
  if maxModelMappings < mappings.length then
    .error ⟨-1, lit "at most " ++ decimal maxModelMappings ++
      lit " model mappings are allowed"⟩
  else
    match cleanMappings letters quote [] 0 mappings with
    | .error fault => .error fault
    | .ok cleaned =>
        match chainFault letters quote cleaned 0 cleaned with
        | some fault => .error fault
        | none => .ok cleaned

section Accepted

/-- A rule as the normalization leaves it: trimmed, with a target. -/
structure CleanRule (rule : ModelMappingRule) : Prop where
  key_trimmed : trimSpace rule.key = rule.key
  value_trimmed : trimSpace rule.value = rule.value
  targeted : rule.value ≠ []

variable (letters : Letters) (quote : GoString → GoString)

theorem valid_id_trimmed (id : GoString) (valid : validateModelMappingID quote id = []) :
    trimSpace id = id := by
  have worded : lit "model ID " ≠ [] := by decide
  apply trim_space_spared
  rw [validateModelMappingID] at valid
  split_ifs at valid with long spaced
  · simp only [List.append_eq_nil_iff, worded, false_and] at valid
  · simp only [List.append_eq_nil_iff, worded, false_and] at valid
  · rw [Bool.not_eq_true] at spaced
    unfold hasRune at spaced ⊢
    rw [List.any_eq_false] at spaced ⊢
    intro rest member
    have outside := spaced rest member
    rw [List.any_append, Bool.or_eq_true, not_or] at outside
    exact outside.1

theorem normalized_mapping_clean (cleaned : List ModelMappingRule) (index : Nat)
    (mapping rule : ModelMappingRule)
    (accepted : normalizeMapping letters quote cleaned index mapping = .ok rule) :
    CleanRule rule := by
  unfold normalizeMapping at accepted
  simp only at accepted
  split_ifs at accepted with nothing sourceless untargeted key value itself twice
  rw [Except.ok.injEq] at accepted
  rw [← accepted]
  exact {
    key_trimmed := valid_id_trimmed quote _ (not_not.mp key)
    value_trimmed := valid_id_trimmed quote _ (not_not.mp value)
    targeted := untargeted }

theorem cleaned_mappings_clean (mappings cleaned rules : List ModelMappingRule) (index : Nat)
    (before : ∀ rule ∈ cleaned, CleanRule rule)
    (accepted : cleanMappings letters quote cleaned index mappings = .ok rules) :
    ∀ rule ∈ rules, CleanRule rule := by
  induction mappings generalizing cleaned index with
  | nil =>
      rw [cleanMappings, Except.ok.injEq] at accepted
      rw [← accepted]
      exact before
  | cons mapping mappings ih =>
      rw [cleanMappings] at accepted
      cases outcome : normalizeMapping letters quote cleaned index mapping with
      | error fault =>
          rw [outcome] at accepted
          exact absurd accepted (by simp)
      | ok rule =>
          rw [outcome] at accepted
          apply ih (cleaned ++ [rule]) (index + 1) _ accepted
          intro other member
          cases List.mem_append.mp member with
          | inl old => exact before other old
          | inr new =>
              rw [List.mem_singleton.mp new]
              exact normalized_mapping_clean letters quote cleaned index mapping rule outcome

theorem chain_fault_none (cleaned mappings : List ModelMappingRule) (index : Nat)
    (passed : chainFault letters quote cleaned index mappings = none) :
    ∀ mapping ∈ mappings, ∀ other ∈ cleaned,
      letters.equalFold other.key mapping.value = false := by
  induction mappings generalizing index with
  | nil => simp
  | cons first mappings ih =>
      rw [chainFault] at passed
      split_ifs at passed with chained
      intro mapping member other among
      cases List.mem_cons.mp member with
      | inl same =>
          rw [same]
          rw [Bool.not_eq_true, List.any_eq_false] at chained
          exact Bool.not_eq_true _ ▸ chained other among
      | inr later => exact ih (index + 1) passed mapping later other among

/-- The rules a request is resolved with: some list that `normalizeModelMappings` accepted. -/
structure AcceptedMappings where
  rules : List ModelMappingRule
  accepted : ∃ mappings, normalizeModelMappings letters quote mappings = .ok rules

variable {letters quote}

theorem AcceptedMappings.checked (accepted : AcceptedMappings letters quote) :
    (∀ rule ∈ accepted.rules, CleanRule rule) ∧
      ∀ rule ∈ accepted.rules, ∀ other ∈ accepted.rules,
        letters.equalFold other.key rule.value = false := by
  obtain ⟨mappings, passed⟩ := accepted.accepted
  unfold normalizeModelMappings at passed
  split_ifs at passed
  cases outcome : cleanMappings letters quote [] 0 mappings with
  | error fault => simp [outcome] at passed
  | ok cleaned =>
      cases chained : chainFault letters quote cleaned 0 cleaned with
      | some fault => simp [outcome, chained] at passed
      | none =>
          simp only [outcome, chained, Except.ok.injEq] at passed
          rw [← passed]
          exact ⟨cleaned_mappings_clean letters quote mappings [] cleaned 0 (by simp) outcome,
            chain_fault_none letters quote cleaned cleaned 0 chained⟩

/-- No target is a source: the check that mappings resolve in one hop. -/
theorem AcceptedMappings.target_no_source (accepted : AcceptedMappings letters quote)
    (rule other : ModelMappingRule) (member : rule ∈ accepted.rules)
    (among : other ∈ accepted.rules) :
    letters.equalFold (trimSpace other.key) (trimSpace rule.value) = false := by
  rw [(accepted.checked.1 other among).key_trimmed,
    (accepted.checked.1 rule member).value_trimmed]
  exact accepted.checked.2 rule member other among

end Accepted

end KiroProxy.ModelMappings
