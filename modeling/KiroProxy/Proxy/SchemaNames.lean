import KiroProxy.JsonPaths
import KiroProxy.Proxy.ToolSchema

/-!
# Property names of cleaned schemas

What `ensureObjectSchema` of `proxy/translator.go` makes of a schema, place by place: the clean-up
drops some keys wherever they stand, and the branches of a composition at the root give their
properties to the root.
-/

namespace KiroProxy.ToolSchema

set_option autoImplicit false

section Keys

mutual

/-- No map has a key twice. -/
def DistinctKeys : Json → Prop
  | .obj fields => (fields.map Prod.fst).Nodup ∧ DistinctFields fields
  | .arr items => DistinctItems items
  | _ => True

def DistinctFields : List (GoString × Json) → Prop
  | [] => True
  | (_, value) :: fields => DistinctKeys value ∧ DistinctFields fields

def DistinctItems : List Json → Prop
  | [] => True
  | item :: items => DistinctKeys item ∧ DistinctItems items

end

theorem distinct_field (fields : JsonFields) (distinct : DistinctFields fields) (key : GoString)
    (value : Json) (found : fields.get key = some value) : DistinctKeys value := by
  induction fields with
  | nil => simp [JsonFields.get] at found
  | cons field fields ih =>
      obtain ⟨name, head⟩ := field
      rw [JsonFields.get, List.lookup_cons] at found
      cases same : key == name with
      | true =>
          rw [same] at found
          rw [← Option.some.inj found]
          exact distinct.1
      | false =>
          rw [same] at found
          exact ih distinct.2 found

theorem distinct_item (items : List Json) (distinct : DistinctItems items) (position : Nat)
    (value : Json) (found : items[position]? = some value) : DistinctKeys value := by
  induction items generalizing position with
  | nil => simp at found
  | cons item items ih =>
      cases position with
      | zero =>
          rw [← Option.some.inj found]
          exact distinct.1
      | succ position => exact ih distinct.2 position found

theorem distinct_child (value inner : Json) (step : JsonStep) (distinct : DistinctKeys value)
    (child : value.child step = some inner) : DistinctKeys inner := by
  cases value with
  | obj fields =>
      cases step with
      | key name => exact distinct_field fields distinct.2 name inner child
      | index position => simp [Json.child] at child
  | arr items =>
      cases step with
      | key name => simp [Json.child] at child
      | index position => exact distinct_item items distinct position inner child
  | _ => simp [Json.child] at child

end Keys

section Cleaning

theorem get_clean (fields : JsonFields) (distinct : (fields.map Prod.fst).Nodup)
    (key : GoString) :
    JsonFields.get (cleanSchema fields) key =
      ((fields.get key).filter fun value => !droppedField key value).map cleanValue := by
  induction fields with
  | nil => rfl
  | cons field fields ih =>
      obtain ⟨name, value⟩ := field
      rw [List.map_cons, List.nodup_cons] at distinct
      have rest := ih distinct.2
      rw [cleanSchema, JsonFields.get, JsonFields.get, List.lookup_cons]
      by_cases same : key = name
      · subst same
        have absent : JsonFields.get fields key = none := by
          rw [JsonFields.get, List.lookup_eq_none_iff]
          intro field member
          rw [bne_iff_ne]
          intro here
          exact distinct.1 (List.mem_map.mpr ⟨field, member, here.symm⟩)
        rw [beq_self_eq_true]
        by_cases dropped : droppedField key value = true
        · rw [if_pos dropped]
          rw [absent] at rest
          simp only [Option.filter_some, dropped, Bool.not_true, Bool.false_eq_true, if_false]
          exact rest
        · rw [if_neg dropped, List.lookup_cons, beq_self_eq_true]
          simp only [Option.filter_some, dropped, Bool.not_false, if_true, Option.map_some]
      · have apart : (key == name) = false := by simpa using same
        rw [apart]
        split_ifs
        · exact rest
        · rw [List.lookup_cons, apart]
          exact rest

/-- How far the clean-up gets: a value it enters, an item of an array, or a value it leaves as
it is. -/
inductive Reach where
  | entered
  | item
  | raw
  deriving DecidableEq

namespace Reach

def cleaned : Reach → Json → Json
  | .entered, value => cleanValue value
  | .item, value => cleanItem value
  | .raw, value => value

def inside : Reach → Json → Reach
  | .raw, _ => .raw
  | _, .obj _ => .entered
  | .entered, .arr _ => .item
  | _, _ => .raw

def drops (reach : Reach) (step : JsonStep) (inner : Json) : Bool :=
  match reach, step with
  | .raw, _ => false
  | _, .key name => droppedField name inner
  | _, .index _ => false

end Reach

/-- Whether a key on the way is dropped. -/
def dropsOn (reach : Reach) (value : Json) : JsonPath → Bool
  | [] => false
  | step :: path =>
      match value.child step with
      | none => false
      | some inner => reach.drops step inner || dropsOn (reach.inside value) inner path

theorem clean_items_get (items : List Json) (position : Nat) :
    (cleanItems items)[position]? = items[position]?.map cleanItem := by
  induction items generalizing position with
  | nil => rfl
  | cons item items ih =>
      cases position with
      | zero => rfl
      | succ position => exact ih position

theorem child_cleaned (reach : Reach) (value : Json) (distinct : DistinctKeys value)
    (step : JsonStep) :
    (reach.cleaned value).child step =
      ((value.child step).filter fun inner => !reach.drops step inner).map
        (reach.inside value).cleaned := by
  cases reach with
  | raw =>
      change value.child step = ((value.child step).filter fun _ => true).map id
      cases value.child step <;> rfl
  | entered =>
      cases value with
      | obj fields =>
          cases step with
          | key name => exact get_clean fields distinct.1 name
          | index position => rfl
      | arr items =>
          cases step with
          | key name => rfl
          | index position =>
              refine (clean_items_get items position).trans ?_
              change _ = (items[position]?.filter fun _ => true).map cleanItem
              cases items[position]? <;> rfl
      | _ => cases step <;> rfl
  | item =>
      cases value with
      | obj fields =>
          cases step with
          | key name => exact get_clean fields distinct.1 name
          | index position => rfl
      | arr items =>
          cases step with
          | key name => rfl
          | index position =>
              change items[position]? = (items[position]?.filter fun _ => true).map id
              cases items[position]? <;> rfl
      | _ => cases step <;> rfl

/-- A place is left when no key on the way to it is dropped. -/
theorem follow_cleaned (reach : Reach) (value : Json) (distinct : DistinctKeys value)
    (path : JsonPath) :
    ((reach.cleaned value).follow path).isSome =
      ((value.follow path).isSome && !dropsOn reach value path) := by
  induction path generalizing reach value with
  | nil => rfl
  | cons step path ih =>
      rw [Json.follow, Json.follow, dropsOn, child_cleaned reach value distinct step]
      cases child : value.child step with
      | none => rfl
      | some inner =>
          cases dropped : reach.drops step inner with
          | true =>
              simp only [Option.filter_some, dropped, Bool.not_true, Bool.false_eq_true, if_false,
                Option.map_none, Option.bind_none, Option.isSome_none, Bool.true_or,
                Bool.and_false]
          | false =>
              simp only [Option.filter_some, dropped, Bool.not_false, if_true, Option.map_some,
                Option.bind_some, Bool.false_or]
              exact ih (reach.inside value) inner
                (distinct_child value inner step distinct child)

end Cleaning

section Flattening

def composition : List GoString := [lit "oneOf", lit "anyOf", lit "allOf"]

/-- The schema of a property. -/
def rootSpec (fields : JsonFields) (name : GoString) : Option Json :=
  (objectField fields (lit "properties")).bind fun props => JsonFields.get props name

def branchSpec (name : GoString) : Json → Option Json
  | .obj fields => rootSpec fields name
  | _ => none

def branchesAt (fields : JsonFields) (keyword : GoString) : List Json :=
  match fields.get keyword with
  | some (.arr branches) => branches
  | _ => []

theorem root_spec_get (fields : JsonFields) (name : GoString) :
    rootSpec fields name =
      JsonFields.get ((objectField fields (lit "properties")).getD []) name := by
  unfold rootSpec
  cases objectField fields (lit "properties") <;> rfl

theorem get_cons (field : GoString × Json) (fields : JsonFields) (key : GoString) :
    JsonFields.get (field :: fields) key =
      if key = field.1 then some field.2 else fields.get key := by
  rw [JsonFields.get, List.lookup_cons]
  by_cases same : key = field.1
  · rw [if_pos same, same, beq_self_eq_true]
  · have apart : (key == field.1) = false := by simpa using same
    rw [if_neg same, apart]
    rfl

theorem get_add_missing (props : JsonFields) (field : GoString × Json) (key : GoString) :
    JsonFields.get (addMissing props field) key =
      (props.get key).or (if key = field.1 then some field.2 else none) := by
  unfold addMissing
  by_cases same : key = field.1
  · rw [if_pos same, ← same]
    cases found : props.get key with
    | none => exact JsonFields.get_set_same props key field.2
    | some value => simpa using found
  · rw [if_neg same, Option.or_none]
    split_ifs
    · rfl
    · exact JsonFields.get_set_other props field.1 key field.2 same

theorem get_add_all (more props : JsonFields) (key : GoString) :
    JsonFields.get (more.foldl addMissing props) key = (props.get key).or (more.get key) := by
  induction more generalizing props with
  | nil => exact Option.or_none.symm
  | cons field more ih =>
      rw [List.foldl_cons, ih, get_add_missing, get_cons, Option.or_assoc]
      split_ifs
      · rfl
      · rw [Option.none_or]

theorem get_add_branch (props : JsonFields) (branch : Json) (key : GoString) :
    JsonFields.get (addBranch props branch) key = (props.get key).or (branchSpec key branch) := by
  cases branch with
  | obj fields =>
      change JsonFields.get (List.foldl addMissing props _) key = _
      rw [get_add_all, branchSpec, root_spec_get]
  | _ => exact Option.or_none.symm

theorem get_add_branches (branches : List Json) (props : JsonFields) (key : GoString) :
    JsonFields.get (branches.foldl addBranch props) key =
      (props.get key).or (branches.findSome? (branchSpec key)) := by
  induction branches generalizing props with
  | nil => exact Option.or_none.symm
  | cons branch branches ih =>
      rw [List.foldl_cons, ih, get_add_branch, List.findSome?_cons, Option.or_assoc]
      cases branchSpec key branch with
      | none => rw [Option.none_or]
      | some value => rfl

theorem merged_spec (root : JsonFields) (branches : List Json) (key : GoString) :
    rootSpec (mergeBranchesIntoRoot root branches) key =
      (rootSpec root key).or (branches.findSome? (branchSpec key)) := by
  have added := get_add_branches branches
    ((objectField root (lit "properties")).getD []) key
  rw [← root_spec_get] at added
  rw [mergeBranchesIntoRoot]
  split_ifs with empty
  · rw [empty] at added
    rw [← added]
    exact (Option.or_eq_none_iff.mp added.symm).1
  · rw [← added, rootSpec, objectField, JsonFields.get_set_same]
    rfl

theorem merged_other (root : JsonFields) (branches : List Json) (key : GoString)
    (other : key ≠ lit "properties") :
    (mergeBranchesIntoRoot root branches).get key = root.get key := by
  rw [mergeBranchesIntoRoot]
  split_ifs
  · rfl
  · exact JsonFields.get_set_other root _ key _ other

/-- With nothing to merge, whatever stands under `properties` stays. -/
theorem merged_none (root : JsonFields) (branches : List Json)
    (none_ : ∀ key, rootSpec (mergeBranchesIntoRoot root branches) key = none) :
    mergeBranchesIntoRoot root branches = root := by
  by_cases empty : branches.foldl addBranch
      ((objectField root (lit "properties")).getD []) = []
  · rw [mergeBranchesIntoRoot, if_pos empty]
  · obtain ⟨field, rest, split⟩ := List.exists_cons_of_ne_nil empty
    have here := none_ field.1
    rw [mergeBranchesIntoRoot, if_neg empty] at here
    rw [rootSpec, objectField, JsonFields.get_set_same, split] at here
    change JsonFields.get (field :: rest) field.1 = none at here
    rw [get_cons, if_pos rfl] at here
    exact absurd here (by simp)

theorem object_field_iff (fields : JsonFields) (key : GoString) (value : JsonFields) :
    objectField fields key = some value ↔ fields.get key = some (.obj value) := by
  unfold objectField
  split
  · rename_i object found
    rw [found]
    simp
  · rename_i other
    constructor
    · intro same
      exact absurd same (by simp)
    · intro found
      exact absurd found (other value)

theorem merged_nil (root : JsonFields) : mergeBranchesIntoRoot root [] = root := by
  by_cases empty : List.foldl addBranch
      ((objectField root (lit "properties")).getD []) [] = []
  · rw [mergeBranchesIntoRoot, if_pos empty]
  · rw [mergeBranchesIntoRoot, if_neg empty, List.foldl_nil]
    rw [List.foldl_nil] at empty
    cases object : objectField root (lit "properties") with
    | none =>
        rw [object] at empty
        exact absurd rfl empty
    | some props => exact JsonFields.set_found root _ _ ((object_field_iff _ _ _).mp object)

/-- What the root has after some keywords. -/
structure LiftedAt (keywords : List GoString) (fields next : JsonFields) : Prop where
  spec : ∀ key, rootSpec next key = (rootSpec fields key).or
    (keywords.findSome? fun keyword => (branchesAt fields keyword).findSome? (branchSpec key))
  gone : ∀ keyword ∈ keywords, next.get keyword = none
  others : ∀ key, key ∉ keywords → key ≠ lit "properties" → next.get key = fields.get key
  plain : (∀ key, rootSpec next key = none) →
    next.get (lit "properties") = fields.get (lit "properties")

theorem lifted_nil (fields : JsonFields) : LiftedAt [] fields fields := by
  constructor
  · intro key
    exact Option.or_none.symm
  · simp
  · intro _ _ _
    rfl
  · intro _
    rfl

theorem root_spec_deleted (fields : JsonFields) (keyword key : GoString)
    (other : lit "properties" ≠ keyword) :
    rootSpec (fields.delete keyword) key = rootSpec fields key := by
  rw [rootSpec, objectField, JsonFields.get_delete_other fields keyword _ other, rootSpec,
    objectField]

theorem lifted_keyword (keywords : List GoString) (fields middle : JsonFields) (flag : Bool)
    (keyword : GoString) (lifted : LiftedAt keywords fields middle) (new : keyword ∉ keywords)
    (outside : lit "properties" ∉ keywords) (other : lit "properties" ≠ keyword) :
    LiftedAt (keywords ++ [keyword]) fields (flattenKeyword (middle, flag) keyword).1 := by
  have same := lifted.others keyword new other.symm
  cases found : middle.get keyword with
  | none =>
      have step : (flattenKeyword (middle, flag) keyword).1 = middle := by
        rw [flattenKeyword]
        simp only [found]
      have branches : branchesAt fields keyword = [] := by
        rw [branchesAt, ← same, found]
      rw [step]
      constructor
      · intro key
        rw [lifted.spec, List.findSome?_append, List.findSome?_singleton, branches,
          List.findSome?_nil, Option.or_none]
      · intro gone member
        cases List.mem_append.mp member with
        | inl before => exact lifted.gone gone before
        | inr here => rwa [List.mem_singleton.mp here]
      · intro key absent plain
        exact lifted.others key (fun before => absent (List.mem_append_left _ before)) plain
      · exact lifted.plain
  | some value =>
      have step : (flattenKeyword (middle, flag) keyword).1 =
          (mergeBranchesIntoRoot middle (branchesAt fields keyword)).delete keyword := by
        rw [flattenKeyword, branchesAt, ← same]
        simp only [found]
        cases value with
        | arr branches => rfl
        | _ => rw [merged_nil]
      rw [step]
      constructor
      · intro key
        rw [root_spec_deleted _ keyword key other, merged_spec, lifted.spec,
          List.findSome?_append, List.findSome?_singleton, Option.or_assoc]
      · intro gone member
        by_cases here : gone = keyword
        · rw [here, JsonFields.get_delete_same]
        · cases List.mem_append.mp member with
          | inl before =>
              have plain : gone ≠ lit "properties" := fun named => outside (named ▸ before)
              rw [JsonFields.get_delete_other _ _ _ here, merged_other _ _ _ plain]
              exact lifted.gone gone before
          | inr last => exact absurd (List.mem_singleton.mp last) here
      · intro key absent plain
        rw [List.mem_append, List.mem_singleton, not_or] at absent
        rw [JsonFields.get_delete_other _ _ _ absent.2, merged_other _ _ _ plain]
        exact lifted.others key absent.1 plain
      · intro none_
        have merged : ∀ key, rootSpec
            (mergeBranchesIntoRoot middle (branchesAt fields keyword)) key = none := by
          intro key
          rw [← root_spec_deleted _ keyword key other]
          exact none_ key
        have unmerged : ∀ key, rootSpec middle key = none := by
          intro key
          have whole := merged key
          rw [merged_spec, Option.or_eq_none_iff] at whole
          exact whole.1
        rw [JsonFields.get_delete_other _ _ _ other, merged_none middle _ merged]
        exact lifted.plain unmerged

theorem flatten_keyword_flag (state : JsonFields × Bool) (keyword : GoString) :
    (flattenKeyword state keyword).2 = (state.2 || (state.1.get keyword).isSome) := by
  rw [flattenKeyword]
  cases state.1.get keyword with
  | none => exact (Bool.or_false _).symm
  | some value => exact (Bool.or_true _).symm

def composed (fields : JsonFields) : Bool :=
  composition.any fun keyword => (fields.get keyword).isSome

theorem flatten_keywords (fields : JsonFields) :
    LiftedAt composition fields (composition.foldl flattenKeyword (fields, false)).1 ∧
      (composition.foldl flattenKeyword (fields, false)).2 = composed fields := by
  let first := flattenKeyword (fields, false) (lit "oneOf")
  let second := flattenKeyword first (lit "anyOf")
  let third := flattenKeyword second (lit "allOf")
  have one : LiftedAt [lit "oneOf"] fields first.1 :=
    lifted_keyword [] fields fields false _ (lifted_nil fields) (by decide) (by decide)
      (by decide)
  have two : LiftedAt [lit "oneOf", lit "anyOf"] fields second.1 :=
    lifted_keyword _ fields first.1 first.2 _ one (by decide) (by decide) (by decide)
  have three : LiftedAt composition fields third.1 :=
    lifted_keyword _ fields second.1 second.2 _ two (by decide) (by decide) (by decide)
  have folded : composition.foldl flattenKeyword (fields, false) = third := rfl
  rw [folded]
  refine ⟨three, ?_⟩
  have thirdFlag : third.2 = (second.2 || (second.1.get (lit "allOf")).isSome) :=
    flatten_keyword_flag second _
  have secondFlag : second.2 = (first.2 || (first.1.get (lit "anyOf")).isSome) :=
    flatten_keyword_flag first _
  have firstFlag : first.2 = (false || (fields.get (lit "oneOf")).isSome) :=
    flatten_keyword_flag (fields, false) _
  rw [thirdFlag, secondFlag, firstFlag, two.others _ (by decide) (by decide),
    one.others _ (by decide) (by decide), composed, composition]
  simp only [List.any_cons, List.any_nil, Bool.or_false, Bool.false_or, Bool.or_assoc]

end Flattening

section Ensuring

/-- The root that a cleaned schema is given. -/
structure Ensured (clean final : JsonFields) : Prop where
  spec : ∀ key, rootSpec final key = (rootSpec clean key).or
    (composition.findSome? fun keyword => (branchesAt clean keyword).findSome? (branchSpec key))
  gone : ∀ keyword ∈ composition, final.get keyword = none
  others : ∀ key, key ∉ composition → key ≠ lit "properties" → key ≠ lit "type" →
    final.get key = clean.get key
  plain : (∀ key, rootSpec final key = none) →
    final.get (lit "properties") = clean.get (lit "properties")
  typed : final.get (lit "type") =
    if composed clean then some (.str (lit "object"))
    else (clean.get (lit "type")).or (some (.str (lit "object")))

theorem typed_keeps (clean next : JsonFields) (value : Json)
    (lifted : LiftedAt composition clean next)
    (typed : some value = if composed clean then some (.str (lit "object"))
      else (clean.get (lit "type")).or (some (.str (lit "object")))) :
    Ensured clean (next.set (lit "type") value) := by
  have props : (next.set (lit "type") value).get (lit "properties") =
      next.get (lit "properties") := JsonFields.get_set_other _ _ _ _ (by decide)
  have specs : ∀ key, rootSpec (next.set (lit "type") value) key = rootSpec next key := by
    intro key
    rw [rootSpec, objectField, props, rootSpec, objectField]
  constructor
  · intro key
    rw [specs]
    exact lifted.spec key
  · intro keyword member
    have apart : ∀ keyword ∈ composition, keyword ≠ lit "type" := by decide
    rw [JsonFields.get_set_other _ _ _ _ (apart keyword member)]
    exact lifted.gone keyword member
  · intro key outside plain other
    rw [JsonFields.get_set_other _ _ _ _ other]
    exact lifted.others key outside plain
  · intro none_
    rw [props]
    exact lifted.plain fun key => (specs key).symm.trans (none_ key)
  · rw [JsonFields.get_set_same]
    exact typed

theorem ensured_schema (fields : JsonFields) :
    ∃ final, ensureObjectSchema (.obj fields) = .obj final ∧
      Ensured (cleanSchema fields) final := by
  obtain ⟨lifted, flag⟩ := flatten_keywords (cleanSchema fields)
  let next := (composition.foldl flattenKeyword (cleanSchema fields, false)).1
  have step : flattenTopLevelComposition (cleanSchema fields) =
      if composed (cleanSchema fields) then next.set (lit "type") (.str (lit "object"))
      else next := by
    rw [← flag]
    rfl
  rw [ensureObjectSchema]
  simp only [step]
  cases flattened : composed (cleanSchema fields) with
  | true =>
      simp only [if_true]
      refine ⟨_, if_pos ?_, typed_keeps _ next _ lifted ?_⟩
      · rw [JsonFields.get_set_same]
        rfl
      · rw [flattened]
        rfl
  | false =>
      simp only [Bool.false_eq_true, if_false]
      have same : next.get (lit "type") = (cleanSchema fields).get (lit "type") :=
        lifted.others _ (by decide) (by decide)
      cases found : next.get (lit "type") with
      | some value =>
          have keeps := typed_keeps _ next value lifted (by
            rw [flattened, ← same, found]
            rfl)
          rw [JsonFields.set_found next _ _ found] at keeps
          exact ⟨next, if_pos rfl, keeps⟩
      | none =>
          refine ⟨_, if_neg Bool.false_ne_true, typed_keeps _ next _ lifted ?_⟩
          rw [flattened, ← same, found]
          rfl

theorem clean_items_map (items : List Json) : cleanItems items = items.map cleanItem := by
  induction items with
  | nil => rfl
  | cons item items ih => rw [cleanItems, ih, List.map_cons]

variable (fields : JsonFields)

def keptSpec (name : GoString) (props : JsonFields) : Option Json :=
  (props.get name).filter fun spec => !droppedField name spec

/-- The schema of a property that the clean-up leaves. -/
def ownSpec (name : GoString) (fields : JsonFields) : Option Json :=
  (objectField fields (lit "properties")).bind (keptSpec name)

def branchOwn (name : GoString) : Json → Option Json
  | .obj fields => ownSpec name fields
  | _ => none

/-- The one that the root is given: its own, or the first of a branch. -/
def firstSpec (name : GoString) (fields : JsonFields) : Option Json :=
  (ownSpec name fields).or
    (composition.findSome? fun keyword => (branchesAt fields keyword).findSome? (branchOwn name))

theorem get_clean_kept (distinct : (fields.map Prod.fst).Nodup) (key : GoString)
    (kept : ∀ value, droppedField key value = false) :
    JsonFields.get (cleanSchema fields) key = (fields.get key).map cleanValue := by
  rw [get_clean fields distinct]
  cases fields.get key with
  | none => rfl
  | some value => simp only [Option.filter_some, kept value, Bool.not_false, if_true]

theorem root_spec_clean (distinct : DistinctKeys (.obj fields)) (name : GoString) :
    rootSpec (cleanSchema fields) name = (ownSpec name fields).map cleanValue := by
  have props := get_clean_kept fields distinct.1 (lit "properties") fun _ => rfl
  rw [rootSpec, ownSpec, objectField, objectField, props]
  cases found : fields.get (lit "properties") with
  | none => rfl
  | some value =>
      cases value with
      | obj inner =>
          have below := distinct_field fields distinct.2 _ _ found
          exact get_clean inner below.1 name
      | _ => rfl

theorem composition_kept (keyword : GoString) (member : keyword ∈ composition) (value : Json) :
    droppedField keyword value = false := by
  have apart : ∀ keyword ∈ composition, (keyword == lit "encrypted") = false ∧
      (keyword == lit "additionalProperties") = false ∧
      (keyword == lit "required") = false := by decide
  obtain ⟨first, second, third⟩ := apart keyword member
  rw [droppedField, first, second, third]
  rfl

theorem branches_clean (distinct : DistinctKeys (.obj fields)) (keyword : GoString)
    (member : keyword ∈ composition) :
    branchesAt (cleanSchema fields) keyword = (branchesAt fields keyword).map cleanItem := by
  rw [branchesAt, branchesAt,
    get_clean_kept fields distinct.1 keyword (composition_kept keyword member)]
  cases fields.get keyword with
  | none => rfl
  | some value =>
      cases value with
      | arr items => exact clean_items_map items
      | _ => rfl

theorem find_some_mapped {Item Found Mapped : Type} (items : List Item)
    (first : Item → Option Mapped) (second : Item → Option Found) (change_ : Found → Mapped)
    (same : ∀ item ∈ items, first item = (second item).map change_) :
    items.findSome? first = (items.findSome? second).map change_ := by
  induction items with
  | nil => rfl
  | cons item items ih =>
      rw [List.findSome?_cons, List.findSome?_cons, same item List.mem_cons_self]
      cases second item with
      | none => exact ih fun other member => same other (List.mem_cons_of_mem _ member)
      | some found => rfl

theorem distinct_branches (distinct : DistinctKeys (.obj fields)) (keyword : GoString) :
    ∀ branch ∈ branchesAt fields keyword, DistinctKeys branch := by
  intro branch member
  unfold branchesAt at member
  split at member
  · rename_i branches found
    have below := distinct_field fields distinct.2 _ _ found
    obtain ⟨position, there⟩ := List.mem_iff_getElem?.mp member
    exact distinct_item branches below position branch there
  · simp at member

theorem first_spec_clean (distinct : DistinctKeys (.obj fields)) (final : JsonFields)
    (ensured : Ensured (cleanSchema fields) final) (name : GoString) :
    rootSpec final name = (firstSpec name fields).map cleanValue := by
  have branch : ∀ branch, DistinctKeys branch →
      branchSpec name (cleanItem branch) = (branchOwn name branch).map cleanValue := by
    intro branch keys
    cases branch with
    | obj inner => exact root_spec_clean inner keys name
    | _ => rfl
  have lifted := find_some_mapped composition
    (fun keyword => (branchesAt (cleanSchema fields) keyword).findSome? (branchSpec name))
    (fun keyword => (branchesAt fields keyword).findSome? (branchOwn name)) cleanValue (by
      intro keyword member
      rw [branches_clean fields distinct keyword member, List.findSome?_map]
      exact find_some_mapped _ _ _ _ fun inner inside =>
        branch inner (distinct_branches fields distinct keyword inner inside))
  rw [ensured.spec, root_spec_clean fields distinct, lifted, firstSpec]
  cases ownSpec name fields <;> rfl

theorem composed_clean (distinct : DistinctKeys (.obj fields)) :
    composed (cleanSchema fields) = composed fields := by
  have same : ∀ keyword ∈ composition,
      (JsonFields.get (cleanSchema fields) keyword).isSome = (fields.get keyword).isSome := by
    intro keyword member
    rw [get_clean_kept fields distinct.1 keyword (composition_kept keyword member)]
    cases fields.get keyword <;> rfl
  rw [composed, composed, Bool.eq_iff_iff, List.any_eq_true, List.any_eq_true]
  constructor
  · rintro ⟨keyword, member, present⟩
    exact ⟨keyword, member, same keyword member ▸ present⟩
  · rintro ⟨keyword, member, present⟩
    exact ⟨keyword, member, (same keyword member).symm ▸ present⟩

end Ensuring

section Names

/-- A name of a `properties` map. -/
def Declares (schema : Json) (path : JsonPath) (name : GoString) : Prop :=
  (schema.follow (path ++ [.key (lit "properties"), .key name])).isSome = true

/-- Where a place ends up: the root takes over what stands in a branch of its own. -/
def lifted : JsonPath → JsonPath
  | .key keyword :: .index position :: rest =>
      if keyword ∈ composition then rest else .key keyword :: .index position :: rest
  | path => path

/-- Every name of the schema is in the cleaned one. -/
def Kept (schema cleaned : Json) : Prop :=
  ∀ path name, Declares schema path name →
    (cleaned.follow (lifted (path ++ [.key (lit "properties"), .key name]))).isSome = true

/-- A place that is there, with no dropped key on the way. -/
def Spared (schema : Json) (path : JsonPath) : Prop :=
  (schema.follow path).isSome = true ∧ dropsOn .entered schema path = false

/-- Whether a place below `properties` is left: in the first schema of its property, or where
there is no property. -/
def PropertySurvives (fields : JsonFields) : JsonPath → Prop
  | .key name :: more => ∃ spec, firstSpec name fields = some spec ∧ Spared spec more
  | .index position :: more => (∀ name, firstSpec name fields = none) ∧
      Spared (.obj fields) (.key (lit "properties") :: .index position :: more)
  | [] => False

/-- Whether the root of the cleaned schema has a place; the keywords are gone from it, and its
type is replaced with them. -/
def Survives (fields : JsonFields) : JsonPath → Prop
  | .key key :: rest =>
      if key = lit "properties" then PropertySurvives fields rest
      else key ∉ composition ∧ (key = lit "type" → composed fields = false) ∧
        Spared (.obj fields) (.key key :: rest)
  | _ => False

variable (fields final : JsonFields)

theorem spared_cleaned (value : Json) (distinct : DistinctKeys value) (path : JsonPath) :
    ((cleanValue value).follow path).isSome = true ↔ Spared value path := by
  have cleaned := follow_cleaned .entered value distinct path
  rw [Reach.cleaned] at cleaned
  rw [cleaned, Spared, Bool.and_eq_true, Bool.not_eq_true']

theorem own_spec_distinct (distinct : DistinctKeys (.obj fields)) (name : GoString) (spec : Json)
    (found : ownSpec name fields = some spec) : DistinctKeys spec := by
  obtain ⟨props, object, kept⟩ := Option.bind_eq_some_iff.mp found
  have below := distinct_field fields distinct.2 _ _ ((object_field_iff _ _ _).mp object)
  exact distinct_field props below.2 name spec (Option.filter_eq_some_iff.mp kept).1

theorem first_spec_distinct (distinct : DistinctKeys (.obj fields)) (name : GoString)
    (spec : Json) (found : firstSpec name fields = some spec) : DistinctKeys spec := by
  rw [firstSpec, Option.or_eq_some_iff] at found
  rcases found with own | ⟨_, lifted⟩
  · exact own_spec_distinct fields distinct name spec own
  · obtain ⟨keyword, _, inside⟩ := List.exists_of_findSome?_eq_some lifted
    obtain ⟨branch, member, own⟩ := List.exists_of_findSome?_eq_some inside
    have keys := distinct_branches fields distinct keyword branch member
    cases branch with
    | obj inner => exact own_spec_distinct inner keys name spec own
    | _ => simp [branchOwn] at own

theorem follow_field (key : GoString) (rest : JsonPath) :
    (Json.obj fields).follow (.key key :: rest) =
      (fields.get key).bind fun inner => inner.follow rest := rfl

theorem properties_survive (distinct : DistinctKeys (.obj fields))
    (ensured : Ensured (cleanSchema fields) final) (rest : JsonPath) (below : rest ≠ []) :
    ((Json.obj final).follow (.key (lit "properties") :: rest)).isSome = true ↔
      Survives fields (.key (lit "properties") :: rest) := by
  have specs := first_spec_clean fields distinct final ensured
  cases rest with
  | nil => exact absurd rfl below
  | cons step more =>
      cases step with
      | key name =>
          have there : (Json.obj final).follow (.key (lit "properties") :: .key name :: more) =
              (rootSpec final name).bind fun inner => inner.follow more := by
            rw [follow_field, rootSpec, objectField]
            cases final.get (lit "properties") with
            | none => rfl
            | some value => cases value <;> rfl
          rw [there, specs, Survives, if_pos rfl, PropertySurvives]
          cases found : firstSpec name fields with
          | none => simp
          | some spec =>
              have keys := first_spec_distinct fields distinct name spec found
              rw [Option.map_some, Option.bind_some, spared_cleaned spec keys more]
              simp
      | index position =>
          rw [Survives, if_pos rfl, PropertySurvives]
          by_cases none_ : ∀ name, firstSpec name fields = none
          · have same : final.get (lit "properties") =
                (cleanSchema fields).get (lit "properties") :=
              ensured.plain fun name => by rw [specs, none_ name]; rfl
            rw [follow_field, same, ← follow_field (cleanSchema fields)]
            exact (spared_cleaned (.obj fields) distinct _).trans
              ⟨fun spared => ⟨none_, spared⟩, fun both => both.2⟩
          · refine iff_of_false ?_ (fun both => none_ both.1)
            push Not at none_
            obtain ⟨name, some_⟩ := none_
            obtain ⟨spec, found⟩ := Option.ne_none_iff_exists'.mp some_
            have rooted := specs name
            rw [found] at rooted
            obtain ⟨props, object, _⟩ := Option.bind_eq_some_iff.mp rooted
            rw [follow_field, (object_field_iff _ _ _).mp object]
            simp [Json.follow, Json.child]

/-- The places below a key of the root. -/
theorem root_survives (distinct : DistinctKeys (.obj fields))
    (ensured : Ensured (cleanSchema fields) final) (step : JsonStep) (rest : JsonPath)
    (below : rest ≠ []) :
    ((Json.obj final).follow (step :: rest)).isSome = true ↔ Survives fields (step :: rest) := by
  cases step with
  | index position => exact iff_of_false (by simp [Json.follow, Json.child]) (fun never => never)
  | key key =>
      by_cases props : key = lit "properties"
      · rw [props]
        exact properties_survive fields final distinct ensured rest below
      · rw [Survives, if_neg props]
        by_cases keyword : key ∈ composition
        · refine iff_of_false ?_ (fun both => both.1 keyword)
          rw [follow_field, ensured.gone key keyword]
          simp
        · have clean := spared_cleaned (.obj fields) distinct (.key key :: rest)
          change ((Json.obj (cleanSchema fields)).follow (.key key :: rest)).isSome = true ↔ _
            at clean
          by_cases type : key = lit "type"
          · have text : (Json.str (lit "object")).follow rest = none := by
              cases rest with
              | nil => exact absurd rfl below
              | cons step rest => cases step <;> rfl
            rw [follow_field, type, ensured.typed, composed_clean fields distinct]
            rw [follow_field, type] at clean
            cases flattened : composed fields with
            | true =>
                refine iff_of_false ?_ (fun both => Bool.noConfusion (both.2.1 rfl))
                rw [if_pos rfl, Option.bind_some, text]
                simp
            | false =>
                rw [if_neg Bool.false_ne_true]
                refine Iff.trans ?_ (clean.trans ⟨fun spared => ⟨?_, fun _ => rfl, spared⟩,
                  fun both => both.2.2⟩)
                · cases (cleanSchema fields).get (lit "type") with
                  | none => simp [text]
                  | some value => simp
                · exact type ▸ keyword
          · rw [follow_field, ensured.others key keyword props type, ← follow_field]
            exact clean.trans ⟨fun spared => ⟨keyword, fun same => absurd same type, spared⟩,
              fun both => both.2.2⟩

/-- The place of a name is below a key. -/
theorem lifted_below (path : JsonPath) (name : GoString) :
    ∃ step rest, rest ≠ [] ∧
      lifted (path ++ [.key (lit "properties"), .key name]) = step :: rest := by
  match path with
  | [] => exact ⟨.key (lit "properties"), [.key name], List.cons_ne_nil _ _, rfl⟩
  | .index position :: path => exact ⟨.index position, _, by simp, rfl⟩
  | [.key keyword] =>
      exact ⟨.key keyword, [.key (lit "properties"), .key name], List.cons_ne_nil _ _, rfl⟩
  | .key keyword :: .key key :: path => exact ⟨.key keyword, _, List.cons_ne_nil _ _, rfl⟩
  | .key keyword :: .index position :: path =>
      rw [List.cons_append, List.cons_append, lifted]
      split_ifs
      · cases path with
        | nil => exact ⟨.key (lit "properties"), [.key name], List.cons_ne_nil _ _, rfl⟩
        | cons step path => exact ⟨step, _, by simp, rfl⟩
      · exact ⟨.key keyword, _, List.cons_ne_nil _ _, rfl⟩

theorem kept_iff (distinct : DistinctKeys (.obj fields)) :
    Kept (.obj fields) (ensureObjectSchema (.obj fields)) ↔
      ∀ path name, Declares (.obj fields) path name →
        Survives fields (lifted (path ++ [.key (lit "properties"), .key name])) := by
  obtain ⟨final, same, ensured⟩ := ensured_schema fields
  have survives : ∀ path name,
      ((Json.obj final).follow
        (lifted (path ++ [.key (lit "properties"), .key name]))).isSome = true ↔
      Survives fields (lifted (path ++ [.key (lit "properties"), .key name])) := by
    intro path name
    obtain ⟨step, rest, below, shape⟩ := lifted_below path name
    rw [shape]
    exact root_survives fields final distinct ensured step rest below
  constructor
  · intro kept path name declared
    have there := kept path name declared
    rw [same] at there
    exact (survives path name).mp there
  · intro left path name declared
    rw [same]
    exact (survives path name).mpr (left path name declared)

end Names

section Twice

theorem dropped_cleaned (key : GoString) (value : Json) :
    droppedField key (cleanValue value) = droppedField key value := by
  have malformed : malformedRequired (cleanValue value) = malformedRequired value := by
    cases value with
    | arr items => cases items <;> rfl
    | _ => rfl
  rw [droppedField, malformed, droppedField]

/-- A field that the clean-up leaves as it is. -/
def CleanField (field : GoString × Json) : Prop :=
  droppedField field.1 field.2 = false ∧ cleanValue field.2 = field.2

theorem clean_schema_fixed (fields : JsonFields) (clean : ∀ field ∈ fields, CleanField field) :
    cleanSchema fields = fields := by
  induction fields with
  | nil => rfl
  | cons field fields ih =>
      obtain ⟨key, value⟩ := field
      obtain ⟨kept, same⟩ := clean _ List.mem_cons_self
      rw [cleanSchema, if_neg (by rw [kept]; exact Bool.false_ne_true), same,
        ih fun other member => clean other (List.mem_cons_of_mem _ member)]

mutual

theorem clean_value_twice : ∀ value : Json, cleanValue (cleanValue value) = cleanValue value
  | .obj fields => by
      rw [cleanValue, cleanValue, clean_schema_fixed _ (clean_schema_clean fields)]
  | .arr items => by rw [cleanValue, cleanValue, clean_items_twice items]
  | .null => rfl
  | .bool _ => rfl
  | .num _ => rfl
  | .str _ => rfl

theorem clean_schema_clean : ∀ fields : List (GoString × Json),
    ∀ field ∈ cleanSchema fields, CleanField field
  | [] => by
      intro field member
      rw [cleanSchema] at member
      exact absurd member List.not_mem_nil
  | (key, value) :: fields => by
      intro field member
      rw [cleanSchema] at member
      split_ifs at member with dropped
      · exact clean_schema_clean fields field member
      · cases List.mem_cons.mp member with
        | inl here =>
            rw [here]
            refine ⟨?_, clean_value_twice value⟩
            rw [dropped_cleaned]
            simpa using dropped
        | inr later => exact clean_schema_clean fields field later

theorem clean_items_twice : ∀ items : List Json, cleanItems (cleanItems items) = cleanItems items
  | [] => rfl
  | item :: items => by
      rw [cleanItems, cleanItems, clean_item_twice item, clean_items_twice items]

theorem clean_item_twice : ∀ item : Json, cleanItem (cleanItem item) = cleanItem item
  | .obj fields => by
      rw [cleanItem, cleanItem, clean_schema_fixed _ (clean_schema_clean fields)]
  | .arr _ => rfl
  | .null => rfl
  | .bool _ => rfl
  | .num _ => rfl
  | .str _ => rfl

end

def CleanRoot (fields : JsonFields) : Prop := ∀ field ∈ fields, CleanField field

theorem get_member (fields : JsonFields) (key : GoString) (value : Json)
    (found : fields.get key = some value) : (key, value) ∈ fields := by
  induction fields with
  | nil => simp [JsonFields.get] at found
  | cons field fields ih =>
      rw [get_cons] at found
      split_ifs at found with same
      · rw [same, ← Option.some.inj found]
        exact List.mem_cons_self
      · exact List.mem_cons_of_mem _ (ih found)

/-- An object that the clean-up leaves as it is has clean fields. -/
theorem clean_object (fields : JsonFields) (fixed : cleanSchema fields = fields) :
    CleanRoot fields := by
  intro field member
  rw [← fixed] at member
  exact clean_schema_clean fields field member

theorem clean_root_object (fields inner : JsonFields) (key : GoString) (clean : CleanRoot fields)
    (found : objectField fields key = some inner) : CleanRoot inner := by
  have fixed := (clean _ (get_member _ _ _ ((object_field_iff _ _ _).mp found))).2
  rw [cleanValue] at fixed
  exact clean_object inner (Json.obj.inj fixed)

theorem mem_set (fields : JsonFields) (key : GoString) (value : Json)
    (field : GoString × Json) (member : field ∈ fields.set key value) :
    field = (key, value) ∨ field ∈ fields := by
  induction fields with
  | nil => exact Or.inl (List.mem_singleton.mp member)
  | cons first fields ih =>
      rw [JsonFields.set] at member
      split_ifs at member
      · cases List.mem_cons.mp member with
        | inl here => exact Or.inl here
        | inr later => exact Or.inr (List.mem_cons_of_mem _ later)
      · cases List.mem_cons.mp member with
        | inl here => exact Or.inr (here ▸ List.mem_cons_self)
        | inr later => exact (ih later).imp_right (List.mem_cons_of_mem _)

theorem clean_set (fields : JsonFields) (key : GoString) (value : Json) (clean : CleanRoot fields)
    (new : CleanField (key, value)) : CleanRoot (fields.set key value) := by
  intro field member
  cases mem_set fields key value field member with
  | inl here => rwa [here]
  | inr old => exact clean field old

theorem clean_delete (fields : JsonFields) (key : GoString) (clean : CleanRoot fields) :
    CleanRoot (fields.delete key) :=
  fun field member => clean field (List.mem_of_mem_filter member)

theorem clean_add_all (more props : JsonFields) (cleanMore : CleanRoot more)
    (clean : CleanRoot props) : CleanRoot (more.foldl addMissing props) := by
  induction more generalizing props with
  | nil => exact clean
  | cons field more ih =>
      rw [List.foldl_cons]
      apply ih _ (fun other member => cleanMore other (List.mem_cons_of_mem _ member))
      unfold addMissing
      split_ifs
      · exact clean
      · exact clean_set props field.1 field.2 clean (cleanMore field List.mem_cons_self)

theorem clean_nil : CleanRoot [] := fun _ member => absurd member List.not_mem_nil

theorem clean_props (fields : JsonFields) (clean : CleanRoot fields) :
    CleanRoot ((objectField fields (lit "properties")).getD []) := by
  cases found : objectField fields (lit "properties") with
  | none => exact clean_nil
  | some inner => exact clean_root_object fields inner _ clean found

theorem clean_add_branches (branches : List Json) (props : JsonFields)
    (items : ∀ branch ∈ branches, cleanItem branch = branch) (clean : CleanRoot props) :
    CleanRoot (branches.foldl addBranch props) := by
  induction branches generalizing props with
  | nil => exact clean
  | cons branch branches ih =>
      rw [List.foldl_cons]
      apply ih _ fun other member => items other (List.mem_cons_of_mem _ member)
      have fixed := items branch List.mem_cons_self
      cases branch with
      | obj fields =>
          rw [cleanItem] at fixed
          exact clean_add_all _ props
            (clean_props fields (clean_object fields (Json.obj.inj fixed))) clean
      | _ => exact clean

theorem clean_merge (root : JsonFields) (branches : List Json)
    (items : ∀ branch ∈ branches, cleanItem branch = branch) (clean : CleanRoot root) :
    CleanRoot (mergeBranchesIntoRoot root branches) := by
  have props := clean_add_branches branches _ items (clean_props root clean)
  rw [mergeBranchesIntoRoot]
  split_ifs
  · exact clean
  · apply clean_set root _ _ clean
    refine ⟨rfl, ?_⟩
    rw [cleanValue, clean_schema_fixed _ props]

theorem clean_keyword (state : JsonFields × Bool) (keyword : GoString) (clean : CleanRoot state.1) :
    CleanRoot (flattenKeyword state keyword).1 := by
  rw [flattenKeyword]
  cases found : state.1.get keyword with
  | none => exact clean
  | some value =>
      apply clean_delete
      cases value with
      | arr branches =>
          have fixed := (clean _ (get_member _ _ _ found)).2
          rw [cleanValue, clean_items_map] at fixed
          have mapped : branches.map cleanItem = branches.map id :=
            (Json.arr.inj fixed).trans (List.map_id branches).symm
          exact clean_merge state.1 branches (List.map_inj_left.mp mapped) clean
      | _ => exact clean

theorem clean_typed (fields : JsonFields) (clean : CleanRoot fields) :
    CleanRoot (fields.set (lit "type") (.str (lit "object"))) :=
  clean_set fields _ _ clean ⟨rfl, rfl⟩

theorem clean_flattened (fields : JsonFields) (clean : CleanRoot fields) :
    CleanRoot (flattenTopLevelComposition fields) := by
  have folded : CleanRoot (composition.foldl flattenKeyword (fields, false)).1 :=
    clean_keyword _ _ (clean_keyword _ _ (clean_keyword (fields, false) _ clean))
  have step : flattenTopLevelComposition fields =
      if (composition.foldl flattenKeyword (fields, false)).2 then
        (composition.foldl flattenKeyword (fields, false)).1.set (lit "type")
          (.str (lit "object"))
      else (composition.foldl flattenKeyword (fields, false)).1 := rfl
  rw [step]
  split_ifs
  · exact clean_typed _ folded
  · exact folded

/-- A clean root without composition keywords and with a type stays as it is. -/
theorem ensure_fixed (fields : JsonFields) (clean : CleanRoot fields)
    (gone : ∀ keyword ∈ composition, fields.get keyword = none)
    (typed : (fields.get (lit "type")).isSome = true) :
    ensureObjectSchema (.obj fields) = .obj fields := by
  have flattened : flattenTopLevelComposition fields = fields := by
    have first := gone (lit "oneOf") (by decide)
    have second := gone (lit "anyOf") (by decide)
    have third := gone (lit "allOf") (by decide)
    simp only [flattenTopLevelComposition, List.foldl_cons, List.foldl_nil, flattenKeyword,
      first, second, third, Bool.false_eq_true, if_false]
  rw [ensureObjectSchema]
  simp only [clean_schema_fixed fields clean, flattened, typed, if_true]

theorem ensure_twice (fields : JsonFields) :
    ensureObjectSchema (ensureObjectSchema (.obj fields)) = ensureObjectSchema (.obj fields) := by
  obtain ⟨final, same, ensured⟩ := ensured_schema fields
  have clean := clean_flattened _ (clean_schema_clean fields)
  have root : CleanRoot final := by
    rw [ensureObjectSchema] at same
    split_ifs at same
    · rwa [← Json.obj.inj same]
    · rw [← Json.obj.inj same]
      exact clean_typed _ clean
  rw [same]
  apply ensure_fixed final root ensured.gone
  rw [ensured.typed]
  split_ifs
  · rfl
  · cases JsonFields.get (cleanSchema fields) (lit "type") <;> rfl

end Twice

end KiroProxy.ToolSchema
