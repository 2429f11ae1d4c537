import KiroProxy.Foundation.FirstSeen
import KiroProxy.Json

/-!
# Model lists

The lists of models that `proxy/handler.go` merges: an account's models into those known before.
The merge goes by an index from ids to places; it is the merge by key in order of first
appearance, ids compared without case and surrounding blanks.
-/

namespace KiroProxy.ModelLists

open Foundation.FirstSeen GoStrings

set_option autoImplicit false

structure ModelInfo (Rate : Type) where
  modelId : GoString
  modelName : GoString
  description : GoString
  inputTypes : List GoString
  rateMultiplier : Rate
  additionalModelRequestFieldsSchema : Option JsonFields
  /-- The most input and output tokens. -/
  tokenLimits : Option (Int × Int)

section Merging

variable {Rate : Type} [Zero Rate] [DecidableEq Rate] (letters : Letters)

def foldedKey (text : GoString) : GoString := letters.toLower (trimSpace text)

/-- An item that is blank or was seen is passed over. -/
def addString (state : List GoString × List GoString) (item : GoString) :
    List GoString × List GoString :=
  if foldedKey letters item = [] ∨ foldedKey letters item ∈ state.2 then state
  else (state.1 ++ [item], foldedKey letters item :: state.2)

def mergeStringLists (base extra : List GoString) : List GoString :=
  if extra = [] then base else ((base ++ extra).foldl (addString letters) ([], [])).1

def mergeModelInfo (base extra : ModelInfo Rate) : ModelInfo Rate where
  modelId := base.modelId
  modelName := if base.modelName = [] then extra.modelName else base.modelName
  description := if base.description = [] then extra.description else base.description
  inputTypes := mergeStringLists letters base.inputTypes extra.inputTypes
  rateMultiplier := if base.rateMultiplier = 0 then extra.rateMultiplier else base.rateMultiplier
  additionalModelRequestFieldsSchema :=
    base.additionalModelRequestFieldsSchema.or extra.additionalModelRequestFieldsSchema
  tokenLimits := base.tokenLimits.or extra.tokenLimits

def modelKey (model : ModelInfo Rate) : GoString := foldedKey letters model.modelId

/-- `indexByID`: the place of each id, the last that was put in. -/
abbrev Index := List (GoString × Nat)

def indexModels (models : List (ModelInfo Rate)) : Index :=
  models.zipIdx.foldl (fun index entry => (modelKey letters entry.1, entry.2) :: index) []

def mergeModel (state : List (ModelInfo Rate) × Index) (model : ModelInfo Rate) :
    List (ModelInfo Rate) × Index :=
  if modelKey letters model = [] then state
  else
    match state.2.lookup (modelKey letters model) with
    | some place =>
        (state.1.modify place fun known => mergeModelInfo letters known model, state.2)
    | none => (state.1 ++ [model], (modelKey letters model, state.1.length) :: state.2)

def mergeUniqueModels (existing incoming : List (ModelInfo Rate)) : List (ModelInfo Rate) :=
  if incoming = [] then existing
  else (incoming.foldl (mergeModel letters) (existing, indexModels letters existing)).1

end Merging

section Indexed

variable {Rate : Type} [Zero Rate] [DecidableEq Rate] (letters : Letters)

abbrev keys (models : List (ModelInfo Rate)) : List GoString := models.map (modelKey letters)

theorem merge_keyed (model extra : ModelInfo Rate) :
    modelKey letters (mergeModelInfo letters model extra) = modelKey letters model := rfl

/-- The index leads to the place of every key, and to no other. -/
def Indexed (models : List (ModelInfo Rate)) (index : Index) : Prop :=
  ∀ key place, index.lookup key = some place ↔ (keys letters models)[place]? = some key

variable {letters}

omit [Zero Rate] [DecidableEq Rate] in
theorem indexed_append {models : List (ModelInfo Rate)} {index : Index}
    (indexed : Indexed letters models index) (model : ModelInfo Rate)
    (new : modelKey letters model ∉ keys letters models) :
    Indexed letters (models ++ [model]) ((modelKey letters model, models.length) :: index) := by
  have length : (keys letters models).length = models.length := List.length_map _
  intro key place
  rw [List.lookup_cons, keys, List.map_append, List.getElem?_append, length]
  by_cases same : key = modelKey letters model
  · rw [same, beq_self_eq_true]
    dsimp only
    split_ifs with early
    · constructor
      · intro here
        rw [← Option.some.inj here] at early
        exact absurd early (Nat.lt_irrefl _)
      · exact fun here => absurd (List.mem_of_getElem? here) new
    · constructor
      · intro here
        rw [← Option.some.inj here, Nat.sub_self]
        rfl
      · intro here
        have bound := (List.getElem?_eq_some_iff.mp here).1
        rw [List.length_map, List.length_singleton] at bound
        exact congrArg some (by omega)
  · rw [beq_false_of_ne same]
    dsimp only
    rw [indexed]
    split_ifs with early
    · rfl
    · constructor
      · intro here
        exact absurd ((List.getElem?_eq_some_iff.mp here).1) (by rwa [length])
      · intro here
        have member := List.mem_of_getElem? here
        rw [List.map_singleton] at member
        exact absurd (List.mem_singleton.mp member) same

omit [Zero Rate] [DecidableEq Rate] in
theorem index_models (models : List (ModelInfo Rate)) (distinct : (keys letters models).Nodup) :
    Indexed letters models (indexModels letters models) := by
  induction models using List.reverseRecOn with
  | nil => intro key place; simp [indexModels, keys]
  | append_singleton models model ih =>
      rw [keys, List.map_append] at distinct
      obtain ⟨before, _, apart⟩ := List.nodup_append.mp distinct
      have new : modelKey letters model ∉ keys letters models := fun member =>
        apart _ member _ (List.mem_singleton.mpr rfl) rfl
      have next := indexed_append (ih before) model new
      rwa [indexModels, List.zipIdx_append, List.foldl_append, List.zipIdx_singleton,
        List.foldl_cons, List.foldl_nil, Nat.zero_add]

theorem modify_absorbs {models : List (ModelInfo Rate)} (distinct : (keys letters models).Nodup)
    (model : ModelInfo Rate) (place : Nat)
    (here : (keys letters models)[place]? = some (modelKey letters model)) :
    (models.modify place fun known => mergeModelInfo letters known model) =
      absorb (modelKey letters) (mergeModelInfo letters) models model := by
  rw [absorb, if_pos (List.mem_of_getElem? here)]
  apply List.ext_getElem?
  intro index
  rw [List.getElem?_modify, List.getElem?_map]
  cases found : models[index]? with
  | none => rfl
  | some known =>
      have named : (keys letters models)[index]? = some (modelKey letters known) := by
        rw [List.getElem?_map, found, Option.map_some]
      by_cases equal : place = index
      · rw [equal, named] at here
        simp [equal, Option.some.inj here]
      · have apart : modelKey letters known ≠ modelKey letters model := by
          intro same
          rw [same, ← here] at named
          have bound := (List.getElem?_eq_some_iff.mp here).1
          exact equal ((List.getElem?_inj bound distinct).mp named.symm)
        simp [equal, apart]

/-- Merging models by their places is merging them by their keys. -/
theorem merge_unique_models (existing incoming : List (ModelInfo Rate))
    (distinct : (keys letters existing).Nodup) :
    mergeUniqueModels letters existing incoming =
      absorbAll (modelKey letters) (mergeModelInfo letters) existing
        (incoming.filter fun model => decide (modelKey letters model ≠ [])) := by
  have folded : ∀ (incoming models : List (ModelInfo Rate)) (index : Index),
      (keys letters models).Nodup → Indexed letters models index →
      (incoming.foldl (mergeModel letters) (models, index)).1 =
        absorbAll (modelKey letters) (mergeModelInfo letters) models
          (incoming.filter fun model => decide (modelKey letters model ≠ [])) := by
    intro incoming
    induction incoming with
    | nil => exact fun models index _ _ => rfl
    | cons model incoming ih =>
        intro models index distinct indexed
        rw [List.foldl_cons, mergeModel]
        by_cases blank : modelKey letters model = []
        · rw [if_pos blank, List.filter_cons_of_neg (by simp [blank])]
          exact ih models index distinct indexed
        · rw [if_neg blank, List.filter_cons_of_pos (by simp [blank]), absorbAll,
            List.foldl_cons]
          have next := absorb_distinct (merge_keyed letters) models distinct model
          dsimp only
          cases found : index.lookup (modelKey letters model) with
          | some place =>
              have here := (indexed _ _).mp found
              have modified := modify_absorbs distinct model place here
              have same := absorb_keys (merge_keyed letters) models model
              rw [if_pos (List.mem_of_getElem? here)] at same
              dsimp only
              rw [modified]
              exact ih _ index next (fun key place => by rw [keys, same]; exact indexed key place)
          | none =>
              have new : modelKey letters model ∉ keys letters models := by
                intro member
                obtain ⟨place, here⟩ := List.mem_iff_getElem?.mp member
                rw [(indexed _ _).mpr here] at found
                exact absurd found (Option.some_ne_none place)
              have added : absorb (modelKey letters) (mergeModelInfo letters) models model =
                  models ++ [model] := by rw [absorb, if_neg new]
              rw [added] at next ⊢
              exact ih _ _ next (indexed_append indexed model new)
  rw [mergeUniqueModels]
  split_ifs with empty
  · rw [empty]
    rfl
  · exact folded incoming existing _ distinct (index_models existing distinct)

theorem merge_unique_distinct (existing incoming : List (ModelInfo Rate))
    (distinct : (keys letters existing).Nodup) (named : [] ∉ keys letters existing) :
    (keys letters (mergeUniqueModels letters existing incoming)).Nodup ∧
      [] ∉ keys letters (mergeUniqueModels letters existing incoming) := by
  obtain ⟨once, _, listed⟩ := absorb_all_keys (merge_keyed letters) (incoming.filter
    fun model => decide (modelKey letters model ≠ [])) existing distinct
  rw [merge_unique_models existing incoming distinct]
  refine ⟨once, fun member => ?_⟩
  rcases (listed []).mp member with old | here
  · exact named old
  · obtain ⟨model, inside, same⟩ := List.mem_map.mp here
    exact absurd same (of_decide_eq_true (List.mem_filter.mp inside).2)

/-- The merge of several lists, one after the other. -/
def mergeAll (letters : Letters) (lists : List (List (ModelInfo Rate))) : List (ModelInfo Rate) :=
  lists.foldl (mergeUniqueModels letters) []

/-- What a list of models is that was merged from a listing: each key once, in order of first
appearance, every model taking in the later ones of its key. -/
structure MergedFrom (letters : Letters) (listing merged : List (ModelInfo Rate)) : Prop where
  distinct : (keys letters merged).Nodup
  named : [] ∉ keys letters merged
  listed : ∀ key ≠ [], key ∈ keys letters merged ↔ key ∈ keys letters listing
  models : ∀ key ≠ [], merged.find? (fun model => decide (modelKey letters model = key)) =
    combined (modelKey letters) (mergeModelInfo letters) listing key

theorem merge_all_absorbs (lists : List (List (ModelInfo Rate))) :
    mergeAll letters lists = absorbAll (modelKey letters) (mergeModelInfo letters) []
      (lists.flatten.filter fun model => decide (modelKey letters model ≠ [])) := by
  induction lists using List.reverseRecOn with
  | nil => rfl
  | append_singleton lists list ih =>
      rw [mergeAll, List.foldl_append, List.foldl_cons, List.foldl_nil]
      rw [mergeAll] at ih
      have distinct := (absorb_all_keys (merge_keyed letters) (lists.flatten.filter fun model =>
        decide (modelKey letters model ≠ [])) [] List.nodup_nil).1
      rw [ih, merge_unique_models _ _ distinct, List.flatten_append, List.flatten_singleton,
        List.filter_append, absorbAll, absorbAll, absorbAll, List.foldl_append]

theorem merge_all_merged (lists : List (List (ModelInfo Rate))) :
    MergedFrom letters lists.flatten (mergeAll letters lists) := by
  have kept : ∀ key ≠ [], key ∈ keys letters (lists.flatten.filter fun model =>
      decide (modelKey letters model ≠ [])) ↔ key ∈ keys letters lists.flatten := by
    intro key some_
    rw [List.mem_map, List.mem_map]
    constructor
    · rintro ⟨model, member, same⟩
      exact ⟨model, List.mem_of_mem_filter member, same⟩
    · rintro ⟨model, member, same⟩
      exact ⟨model, List.mem_filter.mpr ⟨member, by simp [same, some_]⟩, same⟩
  obtain ⟨distinct, _, listed⟩ := absorb_all_keys (merge_keyed letters) (lists.flatten.filter
    fun model => decide (modelKey letters model ≠ [])) [] List.nodup_nil
  rw [merge_all_absorbs]
  refine ⟨distinct, ?_, ?_, ?_⟩
  · intro member
    rcases (listed []).mp member with none_ | here
    · exact absurd none_ List.not_mem_nil
    · obtain ⟨model, inside, same⟩ := List.mem_map.mp here
      exact absurd same (of_decide_eq_true (List.mem_filter.mp inside).2)
  · intro key some_
    rw [← kept key some_]
    exact (listed key).trans ⟨fun either => either.resolve_left List.not_mem_nil, .inr⟩
  · intro key some_
    rw [absorb_all_find (merge_keyed letters), combined, combined, List.filter_filter]
    have same : lists.flatten.filter (fun model => decide (modelKey letters model = key) &&
        decide (modelKey letters model ≠ [])) =
        lists.flatten.filter fun model => decide (modelKey letters model = key) := by
      apply List.filter_congr
      intro model _
      by_cases here : modelKey letters model = key
      · simp [here, some_]
      · simp [here]
    rw [same]

end Indexed

end KiroProxy.ModelLists
