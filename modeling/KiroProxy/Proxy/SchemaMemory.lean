import KiroProxy.Proxy.SchemaTrees

/-!
# Cleaned schemas in memory

The maps that the client's schema consists of are left alone, and what is returned is the schema
that `ensureObjectSchema` makes of their contents.
-/

namespace KiroProxy.SchemaMaps

open Foundation (Keyed)
open ToolSchema

set_option autoImplicit false

section Fields

variable (fields : Keyed GoString Tree) (key : GoString)

theorem json_get : JsonFields.get (Tree.jsonFields fields) key =
    (fields.get key).map Tree.json := by
  rw [Tree.json_fields_map]
  exact Keyed.get_map_values Tree.json fields key

theorem json_set (tree : Tree) : JsonFields.set (Tree.jsonFields fields) key tree.json =
    Tree.jsonFields (fields.set key tree) := by
  rw [Tree.json_fields_map, Tree.json_fields_map, JsonFields.set_keyed]
  exact Keyed.set_map_values Tree.json fields key tree

theorem json_delete : JsonFields.delete (Tree.jsonFields fields) key =
    Tree.jsonFields (fields.delete key) := by
  rw [Tree.json_fields_map, Tree.json_fields_map]
  exact Keyed.delete_map_values Tree.json fields key

theorem entries_get : (Tree.entries fields).get key = (fields.get key).map Tree.value :=
  Keyed.get_map_values Tree.value fields key

theorem entries_set (tree : Tree) : (Tree.entries fields).set key tree.value =
    Tree.entries (fields.set key tree) :=
  Keyed.set_map_values Tree.value fields key tree

theorem entries_delete : (Tree.entries fields).delete key = Tree.entries (fields.delete key) :=
  Keyed.delete_map_values Tree.value fields key

theorem entries_keys : (Tree.entries fields).map Prod.fst = fields.map Prod.fst :=
  Keyed.keys_map_values Tree.value fields

theorem maps_delete (map : Nat × Entries) (inside : map ∈ Tree.mapsFields (fields.delete key)) :
    map ∈ Tree.mapsFields fields := by
  obtain ⟨field, member, found⟩ := Tree.maps_fields _ map inside
  exact Tree.maps_field fields field ((Keyed.mem_delete _ _ _).mp member).1 map found

theorem maps_get (tree : Tree) (found : fields.get key = some tree) (map : Nat × Entries)
    (inside : map ∈ tree.maps) : map ∈ Tree.mapsFields fields :=
  Tree.maps_field fields (key, tree) (Keyed.mem_of_get _ _ _ found) map inside

theorem maps_set (tree : Tree) (distinct : (fields.map Prod.fst).Nodup) (map : Nat × Entries)
    (inside : map ∈ Tree.mapsFields (fields.set key tree)) :
    map ∈ tree.maps ∨ map ∈ Tree.mapsFields (fields.delete key) := by
  obtain ⟨field, member, found⟩ := Tree.maps_fields _ map inside
  rcases Keyed.mem_set_distinct fields key tree distinct field member with rfl | other
  · exact .inl found
  · exact .inr (Tree.maps_field _ field other map found)

end Fields

section Filling

/-- The properties that a root has gathered, and the maps that stay as they are meanwhile. -/
structure Filling (heap : Heap) (props : Nat) (pool : List (Nat × Entries))
    (inner : Keyed GoString Tree) : Prop where
  gathered : Stored heap [(props, Tree.entries inner)]
  stored : Stored heap pool
  apart : ∀ map ∈ pool, map.1 ≠ props
  inside : ∀ map ∈ Tree.mapsFields inner, map ∈ pool

/-- Only one map was written. -/
structure OnlyAt (address : Nat) (before after : Heap) : Prop where
  next : after.next = before.next
  others : ∀ other, other ≠ address → after.cell other = before.cell other

variable {heap : Heap} {props : Nat} {pool : List (Nat × Entries)}
  {inner : Keyed GoString Tree}

theorem only_at_trans (address : Nat) (first middle last : Heap)
    (one : OnlyAt address first middle) (two : OnlyAt address middle last) :
    OnlyAt address first last where
  next := two.next.trans one.next
  others other apart := (two.others other apart).trans (one.others other apart)

theorem only_at_write (address : Nat) (heap : Heap) (entries : Entries) :
    OnlyAt address heap (heap.write address entries) where
  next := rfl
  others other apart := cell_write_other heap address other entries apart

theorem filling_cell (filling : Filling heap props pool inner) :
    props < heap.next ∧ heap.cell props = Tree.entries inner ∧
      ((Tree.entries inner).map Prod.fst).Nodup :=
  filling.gathered _ List.mem_cons_self

theorem add_missing_entry (filling : Filling heap props pool inner) (key : GoString)
    (tree : Tree) (below : ∀ map ∈ tree.maps, map ∈ pool) :
    ∃ filled, Filling (addMissingEntry props heap (key, tree.value)) props pool filled ∧
      Tree.jsonFields filled = addMissing (Tree.jsonFields inner) (key, tree.json) ∧
      OnlyAt props heap (addMissingEntry props heap (key, tree.value)) := by
  obtain ⟨bound, cell, distinct⟩ := filling_cell filling
  rw [addMissingEntry, cell, entries_get, Option.isSome_map, addMissing, json_get,
    Option.isSome_map]
  split_ifs with found
  · exact ⟨inner, filling, rfl, rfl, fun _ _ => rfl⟩
  · have keys : (inner.map Prod.fst).Nodup := entries_keys inner ▸ distinct
    refine ⟨inner.set key tree, ?_, (json_set inner key tree).symm, only_at_write _ _ _⟩
    rw [entries_set]
    constructor
    · intro map member
      rw [List.mem_singleton.mp member]
      refine ⟨bound, cell_write _ _ _, ?_⟩
      rw [entries_keys]
      exact Keyed.keys_set inner key tree keys
    · apply stored_write _ _ _ _ filling.stored
      intro member
      obtain ⟨map, inside, same⟩ := List.mem_map.mp member
      exact filling.apart map inside same
    · exact filling.apart
    · intro map member
      rcases maps_set inner key tree keys map member with here | kept
      · exact below map here
      · exact filling.inside map (maps_delete inner key map kept)

theorem add_missing_entries (more : Keyed GoString Tree) :
    ∀ (heap : Heap) (inner : Keyed GoString Tree), Filling heap props pool inner →
      (∀ map ∈ Tree.mapsFields more, map ∈ pool) →
      ∃ filled, Filling ((Tree.entries more).foldl (addMissingEntry props) heap) props pool filled ∧
        Tree.jsonFields filled =
          (Tree.jsonFields more).foldl addMissing (Tree.jsonFields inner) ∧
        OnlyAt props heap ((Tree.entries more).foldl (addMissingEntry props) heap) := by
  induction more with
  | nil => exact fun heap inner filling _ => ⟨inner, filling, rfl, rfl, fun _ _ => rfl⟩
  | cons field more ih =>
      obtain ⟨key, tree⟩ := field
      intro heap inner filling below
      rw [Tree.mapsFields, List.forall_mem_append] at below
      obtain ⟨one, filled, json, only⟩ := add_missing_entry filling key tree below.1
      obtain ⟨all, rest, jsons, others⟩ := ih _ one filled below.2
      refine ⟨all, rest, ?_, only_at_trans _ _ _ _ only others⟩
      rw [jsons, json]
      rfl

theorem map_at (fields : Keyed GoString Tree) (key : GoString) :
    mapAt (Tree.entries fields) key = match fields.get key with
      | some (.map address _) => some address
      | _ => none := by
  rw [mapAt, entries_get]
  cases fields.get key with
  | none => rfl
  | some tree => cases tree <;> rfl

theorem object_field (fields : Keyed GoString Tree) (key : GoString) :
    objectField (Tree.jsonFields fields) key = match fields.get key with
      | some (.map _ inner) => some (Tree.jsonFields inner)
      | _ => none := by
  rw [objectField, json_get]
  cases fields.get key with
  | none => rfl
  | some tree => cases tree <;> rfl

theorem add_branch_map (filling : Filling heap props pool inner) (branch : Tree)
    (below : ∀ map ∈ branch.maps, map ∈ pool) :
    ∃ filled, Filling (addBranchMap props heap branch.value) props pool filled ∧
      Tree.jsonFields filled = addBranch (Tree.jsonFields inner) branch.json ∧
      OnlyAt props heap (addBranchMap props heap branch.value) := by
  have same : ∃ filled, Filling heap props pool filled ∧
      Tree.jsonFields filled = Tree.jsonFields inner ∧ OnlyAt props heap heap :=
    ⟨inner, filling, rfl, rfl, fun _ _ => rfl⟩
  cases branch with
  | map address fields =>
      have cell := filling.stored _ (below _ List.mem_cons_self)
      rw [Tree.value, Tree.json, addBranchMap, cell.2.1, map_at, addBranch, object_field]
      cases found : Keyed.get fields (lit "properties") with
      | none => exact same
      | some tree =>
          cases tree with
          | map address more =>
              have inside := fun map member =>
                below map (List.mem_cons_of_mem _ (maps_get fields _ _ found map member))
              have stored := filling.stored _ (inside _ List.mem_cons_self)
              dsimp only
              rw [stored.2.1]
              exact add_missing_entries more heap inner filling
                fun map member => inside map (List.mem_cons_of_mem _ member)
          | _ => exact same
  | _ => exact same

theorem add_branch_maps (branches : List Tree) :
    ∀ (heap : Heap) (inner : Keyed GoString Tree), Filling heap props pool inner →
      (∀ map ∈ Tree.mapsItems branches, map ∈ pool) →
      ∃ filled,
        Filling ((Tree.values branches).foldl (addBranchMap props) heap) props pool filled ∧
        Tree.jsonFields filled =
          (Tree.jsonItems branches).foldl addBranch (Tree.jsonFields inner) ∧
        OnlyAt props heap ((Tree.values branches).foldl (addBranchMap props) heap) := by
  induction branches with
  | nil => exact fun heap inner filling _ => ⟨inner, filling, rfl, rfl, fun _ _ => rfl⟩
  | cons branch branches ih =>
      intro heap inner filling below
      rw [Tree.mapsItems, List.forall_mem_append] at below
      obtain ⟨one, filled, json, only⟩ := add_branch_map filling branch below.1
      obtain ⟨all, rest, jsons, others⟩ := ih _ one filled below.2
      refine ⟨all, rest, ?_, only_at_trans _ _ _ _ only others⟩
      rw [jsons, json]
      rfl

end Filling

section Rooted

/-- A root of its own: nothing else leads to it or to its properties, and the maps that were
there at the start are as they were. -/
structure Rooted (origin heap : Heap) (root : Nat) (fields : Keyed GoString Tree) : Prop where
  stored : Stored heap (Tree.map root fields).maps
  fresh : ∀ map ∈ (Tree.map root fields).maps, origin.next ≤ map.1
  grows : origin.next ≤ heap.next
  old : ∀ address < origin.next, heap.cell address = origin.cell address
  apart : ∀ map ∈ Tree.mapsFields fields, map.1 ≠ root
  owned : ∀ props inner, fields.get (lit "properties") = some (.map props inner) →
    (∀ map ∈ Tree.mapsFields inner, map.1 ≠ props) ∧
      ∀ map ∈ Tree.mapsFields (fields.delete (lit "properties")), map.1 ≠ props

variable {origin heap : Heap} {root : Nat} {fields : Keyed GoString Tree}

theorem rooted_cell (rooted : Rooted origin heap root fields) :
    root < heap.next ∧ heap.cell root = Tree.entries fields ∧ (fields.map Prod.fst).Nodup := by
  obtain ⟨bound, cell, distinct⟩ := rooted.stored _ List.mem_cons_self
  exact ⟨bound, cell, entries_keys fields ▸ distinct⟩

/-- Other fields are written to the root, which take no further maps with them. -/
theorem rooted_write (rooted : Rooted origin heap root fields) (next : Keyed GoString Tree)
    (distinct : (next.map Prod.fst).Nodup)
    (below : ∀ map ∈ Tree.mapsFields next, map ∈ Tree.mapsFields fields)
    (props : next.get (lit "properties") = fields.get (lit "properties"))
    (others : ∀ map ∈ Tree.mapsFields (next.delete (lit "properties")),
      map ∈ Tree.mapsFields (fields.delete (lit "properties"))) :
    Rooted origin (heap.write root (Tree.entries next)) root next where
  stored := by
    rw [Tree.maps, stored_cons]
    refine ⟨⟨(rooted_cell rooted).1, cell_write _ _ _, ?_⟩, ?_⟩
    · rw [entries_keys]
      exact distinct
    · apply stored_write
      · intro map member
        exact rooted.stored map (List.mem_cons_of_mem _ (below map member))
      · intro member
        obtain ⟨map, inside, same⟩ := List.mem_map.mp member
        exact rooted.apart map (below map inside) same
  fresh map member := by
    rcases List.mem_cons.mp member with rfl | inside
    · exact rooted.fresh (root, Tree.entries fields) List.mem_cons_self
    · exact rooted.fresh map (List.mem_cons_of_mem _ (below map inside))
  grows := rooted.grows
  old address bound := by
    have apart : address ≠ root :=
      Nat.ne_of_lt (bound.trans_le (rooted.fresh _ List.mem_cons_self))
    rw [cell_write_other _ _ _ _ apart]
    exact rooted.old address bound
  apart map member := rooted.apart map (below map member)
  owned address inner found := by
    obtain ⟨inside, outside⟩ := rooted.owned address inner (props ▸ found)
    exact ⟨inside, fun map member => outside map (others map member)⟩

theorem rooted_delete (rooted : Rooted origin heap root fields) (key : GoString)
    (apart : lit "properties" ≠ key) :
    Rooted origin (heap.write root ((heap.cell root).delete key)) root (fields.delete key) := by
  obtain ⟨_, cell, distinct⟩ := rooted_cell rooted
  rw [cell, entries_delete]
  apply rooted_write rooted _ (Keyed.keys_delete fields key distinct) (maps_delete fields key)
    (Keyed.get_delete_other fields key _ apart)
  intro map member
  obtain ⟨field, inside, found⟩ := Tree.maps_fields _ map member
  obtain ⟨kept, other⟩ := (Keyed.mem_delete _ _ _).mp inside
  exact Tree.maps_field _ field ((Keyed.mem_delete _ _ _).mpr
    ⟨((Keyed.mem_delete _ _ _).mp kept).1, other⟩) map found

theorem rooted_typed (rooted : Rooted origin heap root fields) (text : GoString) :
    Rooted origin (heap.write root ((heap.cell root).set (lit "type") (.str text))) root
      (fields.set (lit "type") (.str text)) := by
  obtain ⟨_, cell, distinct⟩ := rooted_cell rooted
  have below : ∀ map ∈ Tree.mapsFields (fields.set (lit "type") (.str text)),
      map ∈ Tree.mapsFields (fields.delete (lit "type")) := by
    intro map member
    exact (maps_set fields _ (.str text) distinct map member).resolve_left List.not_mem_nil
  rw [cell, ← Tree.value, entries_set]
  apply rooted_write rooted _ (Keyed.keys_set fields _ _ distinct)
    (fun map member => maps_delete fields _ map (below map member))
    (Keyed.get_set_other fields _ _ _ (by decide))
  intro map member
  obtain ⟨field, inside, found⟩ := Tree.maps_fields _ map member
  obtain ⟨kept, other⟩ := (Keyed.mem_delete _ _ _).mp inside
  rcases Keyed.mem_set fields _ _ field kept with rfl | old
  · exact absurd found List.not_mem_nil
  · exact Tree.maps_field _ field ((Keyed.mem_delete _ _ _).mpr ⟨old, other⟩) map found

theorem rooted_props (rooted : Rooted origin heap root fields) :
    ∃ inner, Filling (ownedProps heap root).1 (ownedProps heap root).2
        (Tree.mapsFields (fields.delete (lit "properties")) ++ Tree.mapsFields inner) inner ∧
      Tree.jsonFields inner =
        (objectField (Tree.jsonFields fields) (lit "properties")).getD [] ∧
      (∀ map ∈ Tree.mapsFields inner, map ∈ Tree.mapsFields fields) ∧
      Rooted origin (ownedProps heap root).1 root fields ∧
      origin.next ≤ (ownedProps heap root).2 ∧ (ownedProps heap root).2 ≠ root := by
  obtain ⟨bound, cell, distinct⟩ := rooted_cell rooted
  have others := maps_delete fields (lit "properties")
  have below := fun map member => rooted.stored map (List.mem_cons_of_mem (root, _) member)
  by_cases own : ∃ props inner, fields.get (lit "properties") = some (.map props inner)
  · obtain ⟨props, inner, found⟩ := own
    have owned : ownedProps heap root = (heap, props) := by
      rw [ownedProps, cell, map_at, found]
    have member := maps_get fields _ _ found
    obtain ⟨inside, outside⟩ := rooted.owned props inner found
    rw [owned]
    refine ⟨inner, ⟨?_, ?_, ?_, ?_⟩, ?_, ?_, rooted, ?_, ?_⟩
    · intro map here
      rw [List.mem_singleton.mp here]
      exact below _ (member _ List.mem_cons_self)
    · rw [stored_append]
      exact ⟨fun map here => below map (others map here),
        fun map here => below map (member map (List.mem_cons_of_mem _ here))⟩
    · exact List.forall_mem_append.mpr ⟨outside, inside⟩
    · exact fun map here => List.mem_append_right _ here
    · rw [object_field, found]
      rfl
    · exact fun map here => member map (List.mem_cons_of_mem _ here)
    · exact rooted.fresh _ (List.mem_cons_of_mem _ (member _ List.mem_cons_self))
    · exact rooted.apart _ (member _ List.mem_cons_self)
  · have owned : ownedProps heap root = ((heap.alloc []).1, heap.next) := by
      rw [ownedProps, cell, map_at]
      split <;> rename_i found
      · split at found
        · exact absurd ⟨_, _, ‹_›⟩ own
        · exact absurd found (Option.some_ne_none _).symm
      · rfl
    have kept : ∀ address < heap.next,
        (heap.alloc []).1.cell address = heap.cell address := fun address bound =>
      Function.update_of_ne (Nat.ne_of_lt bound) _ _
    have stored : Stored (heap.alloc []).1 (Tree.map root fields).maps := by
      apply stored_frame heap _ _ rooted.stored (Nat.le_succ _)
      intro address member
      exact kept address (stored_below heap _ rooted.stored address member)
    rw [owned]
    refine ⟨[], ⟨?_, ?_, ?_, ?_⟩, ?_, ?_, ?_, rooted.grows, (Nat.ne_of_lt bound).symm⟩
    · intro map here
      rw [List.mem_singleton.mp here]
      exact ⟨Nat.lt_succ_self _, Function.update_self _ _ _, List.nodup_nil⟩
    · intro map here
      rw [Tree.mapsFields, List.append_nil] at here
      exact stored map (List.mem_cons_of_mem _ (others map here))
    · intro map here
      rw [Tree.mapsFields, List.append_nil] at here
      exact Nat.ne_of_lt (below map (others map here)).1
    · exact fun map here => absurd here List.not_mem_nil
    · rw [object_field]
      split
      · exact absurd ⟨_, _, ‹_›⟩ own
      · rfl
    · exact fun map here => absurd here List.not_mem_nil
    · refine ⟨stored, rooted.fresh, rooted.grows.trans (Nat.le_succ _), ?_, rooted.apart,
        rooted.owned⟩
      intro address bound
      rw [kept address (bound.trans_le rooted.grows), rooted.old address bound]

theorem only_at_same (address : Nat) (before after : Heap) (only : OnlyAt address before after)
    (same : after.cell address = before.cell address) : after = before := by
  have cells : after.cell = before.cell := by
    funext other
    by_cases here : other = address
    · rw [here, same]
    · exact only.others other here
  cases after
  cases before
  rw [Heap.mk.injEq]
  exact ⟨only.next, cells⟩

theorem add_branches_nil (branches : List Json) (props : JsonFields)
    (empty : branches.foldl addBranch props = []) : props = [] := by
  cases props with
  | nil => rfl
  | cons field rest =>
      have here := get_add_branches branches (field :: rest) field.1
      rw [empty, get_cons, if_pos rfl, Option.some_or] at here
      exact absurd here (Option.some_ne_none field.2).symm

/-- The gathered properties go to the root. -/
theorem rooted_filled (rooted : Rooted origin heap root fields) (after : Heap) (props : Nat)
    (inner filled : Keyed GoString Tree)
    (inside : ∀ map ∈ Tree.mapsFields inner, map ∈ Tree.mapsFields fields)
    (filling : Filling after props
      (Tree.mapsFields (fields.delete (lit "properties")) ++ Tree.mapsFields inner) filled)
    (only : OnlyAt props heap after) (fresh : origin.next ≤ props) (apart : props ≠ root) :
    Rooted origin
      (after.write root ((after.cell root).set (lit "properties") (.map props))) root
      (fields.set (lit "properties") (.map props filled)) := by
  obtain ⟨bound, cell, distinct⟩ := rooted_cell rooted
  have pool : ∀ map ∈ Tree.mapsFields (fields.delete (lit "properties")) ++
      Tree.mapsFields inner, map ∈ Tree.mapsFields fields :=
    List.forall_mem_append.mpr ⟨maps_delete fields _, inside⟩
  have split : ∀ map ∈ Tree.mapsFields (fields.set (lit "properties") (.map props filled)),
      map = (props, Tree.entries filled) ∨ map ∈ Tree.mapsFields
        (fields.delete (lit "properties")) ++ Tree.mapsFields inner := by
    intro map member
    rcases maps_set fields _ _ distinct map member with here | other
    · exact (List.mem_cons.mp here).imp_right (filling.inside map)
    · exact .inr (List.mem_append_left _ other)
  have written : (after.cell root).set (lit "properties") (.map props) =
      Tree.entries (fields.set (lit "properties") (.map props filled)) := by
    rw [only.others root apart.symm, cell]
    exact entries_set fields _ (.map props filled)
  constructor
  · rw [Tree.maps, stored_cons, written]
    refine ⟨⟨bound.trans_le (Nat.le_of_eq only.next.symm), cell_write _ _ _, ?_⟩, ?_⟩
    · rw [entries_keys]
      exact Keyed.keys_set fields _ _ distinct
    · apply stored_write
      · intro map member
        rcases split map member with rfl | other
        · exact filling.gathered _ List.mem_cons_self
        · exact filling.stored map other
      · intro member
        obtain ⟨map, here, same⟩ := List.mem_map.mp member
        rcases split map here with rfl | other
        · exact apart same
        · exact rooted.apart map (pool map other) same
  · intro map member
    rcases List.mem_cons.mp member with rfl | here
    · exact rooted.fresh (root, Tree.entries fields) List.mem_cons_self
    · rcases split map here with rfl | other
      · exact fresh
      · exact rooted.fresh map (List.mem_cons_of_mem _ (pool map other))
  · exact rooted.grows.trans (Nat.le_of_eq only.next.symm)
  · intro address old
    have away : address ≠ root :=
      Nat.ne_of_lt (old.trans_le (rooted.fresh _ List.mem_cons_self))
    rw [cell_write_other _ _ _ _ away, only.others _ (Nat.ne_of_lt (old.trans_le fresh))]
    exact rooted.old address old
  · intro map member
    rcases split map member with rfl | other
    · exact apart
    · exact rooted.apart map (pool map other)
  · intro address more found
    rw [Keyed.get_set_same, Option.some.injEq, Tree.map.injEq] at found
    obtain ⟨rfl, rfl⟩ := found
    refine ⟨fun map member => filling.apart map (filling.inside map member), ?_⟩
    intro map member
    rw [Keyed.delete_set_same] at member
    exact filling.apart map (List.mem_append_left _ member)

theorem merge_branch_maps (rooted : Rooted origin heap root fields) (branches : List Tree)
    (below : ∀ map ∈ Tree.mapsItems branches,
      map ∈ Tree.mapsFields (fields.delete (lit "properties"))) :
    ∃ next, Rooted origin (mergeBranchMaps heap root (Tree.values branches)) root next ∧
      Tree.jsonFields next =
        mergeBranchesIntoRoot (Tree.jsonFields fields) (Tree.jsonItems branches) := by
  obtain ⟨inner, filling, json, inside, owned, fresh, apart⟩ := rooted_props rooted
  obtain ⟨filled, full, jsons, only⟩ := add_branch_maps branches _ inner filling
    fun map member => List.mem_append_left _ (below map member)
  have cell := (filling_cell full).2.1
  rw [json] at jsons
  rw [mergeBranchMaps, mergeBranchesIntoRoot, cell, ← jsons]
  cases filled with
  | nil =>
      have empty : inner = [] := by
        have none_ := add_branches_nil _ _ jsons.symm
        rw [← json] at none_
        cases inner with
        | nil => rfl
        | cons field rest => exact absurd none_ (List.cons_ne_nil _ _)
      have same := only_at_same _ _ _ only (by
        rw [cell, (filling_cell filling).2.1, empty])
      rw [same]
      exact ⟨fields, owned, rfl⟩
  | cons field rest =>
      refine ⟨_, rooted_filled owned _ _ inner _ inside full only fresh apart, ?_⟩
      rw [← json_set]
      rfl

theorem merged_texts (root : JsonFields) (texts : List GoString) :
    mergeBranchesIntoRoot root (texts.map Json.str) = root := by
  have unchanged : ∀ props : JsonFields, (texts.map Json.str).foldl addBranch props = props := by
    intro props
    induction texts with
    | nil => rfl
    | cons text texts ih => exact ih
  have none_ := merged_nil root
  rw [mergeBranchesIntoRoot] at none_ ⊢
  rw [unchanged]
  exact none_

theorem keyword_value (rooted : Rooted origin heap root fields) (keyword : GoString)
    (apart : keyword ≠ lit "properties") (tree : Tree) (found : fields.get keyword = some tree) :
    ∃ next, Rooted origin (match tree.value with
        | .slice branches => mergeBranchMaps heap root branches
        | _ => heap) root next ∧
      Tree.jsonFields next = match tree.json with
        | .arr branches => mergeBranchesIntoRoot (Tree.jsonFields fields) branches
        | _ => Tree.jsonFields fields := by
  cases tree with
  | slice items =>
      apply merge_branch_maps rooted items
      intro map member
      exact maps_get (fields.delete (lit "properties")) keyword (.slice items)
        ((Keyed.get_delete_other fields _ _ apart).trans found) map member
  | strings texts => exact ⟨fields, rooted, (merged_texts _ texts).symm⟩
  | _ => exact ⟨fields, rooted, rfl⟩

theorem flatten_keyword_map (rooted : Rooted origin heap root fields) (flag : Bool)
    (keyword : GoString) (apart : keyword ≠ lit "properties") :
    ∃ next, Rooted origin (flattenKeywordMap root (heap, flag) keyword).1 root next ∧
      (Tree.jsonFields next, (flattenKeywordMap root (heap, flag) keyword).2) =
        flattenKeyword (Tree.jsonFields fields, flag) keyword := by
  rw [flattenKeywordMap, flattenKeyword, (rooted_cell rooted).2.1, entries_get, json_get]
  cases found : Keyed.get fields keyword with
  | none => exact ⟨fields, rooted, rfl⟩
  | some tree =>
      obtain ⟨merged, owned, json⟩ := keyword_value rooted keyword apart tree found
      refine ⟨merged.delete keyword, rooted_delete owned keyword apart.symm, ?_⟩
      rw [← json_delete, json]
      rfl

theorem flatten_keyword_maps (keywords : List GoString) (apart : lit "properties" ∉ keywords)
    (rooted : Rooted origin heap root fields) (flag : Bool) :
    ∃ next, Rooted origin (keywords.foldl (flattenKeywordMap root) (heap, flag)).1 root next ∧
      (Tree.jsonFields next, (keywords.foldl (flattenKeywordMap root) (heap, flag)).2) =
        keywords.foldl flattenKeyword (Tree.jsonFields fields, flag) := by
  induction keywords generalizing heap fields flag with
  | nil => exact ⟨fields, rooted, rfl⟩
  | cons keyword keywords ih =>
      rw [List.mem_cons, not_or] at apart
      obtain ⟨middle, owned, json⟩ :=
        flatten_keyword_map rooted flag keyword (Ne.symm apart.1)
      obtain ⟨next, last, jsons⟩ := ih apart.2 owned (flattenKeywordMap root (heap, flag) keyword).2
      refine ⟨next, last, jsons.trans ?_⟩
      rw [json]
      rfl

theorem flatten_map (rooted : Rooted origin heap root fields) :
    ∃ next, Rooted origin (flattenMap heap root) root next ∧
      Tree.jsonFields next = flattenTopLevelComposition (Tree.jsonFields fields) := by
  obtain ⟨next, owned, json⟩ :=
    flatten_keyword_maps composition (by decide) rooted false
  rw [flattenMap, flattenTopLevelComposition]
  rw [composition] at json owned ⊢
  rw [← json]
  dsimp only
  split_ifs
  · exact ⟨_, rooted_typed owned _, (json_set _ _ (.str _)).symm⟩
  · exact ⟨next, owned, rfl⟩

end Rooted

section Ensured

theorem value_map (tree : Tree) (address : Nat) (value : tree.value = .map address) :
    ∃ fields, tree = .map address fields := by
  cases tree with
  | map here fields => exact ⟨fields, congrArg (Tree.map · fields) (GoValue.map.inj value)⟩
  | _ => exact GoValue.noConfusion value

theorem fields_apart (fields : List (GoString × Tree))
    (apart : ((Tree.mapsFields fields).map Prod.fst).Nodup) (one other : GoString × Tree)
    (inOne : one ∈ fields) (inOther : other ∈ fields) (differ : one.1 ≠ other.1)
    (map more : Nat × Entries) (inside : map ∈ one.2.maps) (outside : more ∈ other.2.maps) :
    map.1 ≠ more.1 := by
  induction fields with
  | nil => exact absurd inOne List.not_mem_nil
  | cons field fields ih =>
      rw [Tree.mapsFields, List.map_append, List.nodup_append] at apart
      have across : ∀ map ∈ field.2.maps, ∀ more ∈ Tree.mapsFields fields, map.1 ≠ more.1 :=
        fun map here more there => apart.2.2 _ (List.mem_map_of_mem here) _
          (List.mem_map_of_mem there)
      rcases List.mem_cons.mp inOne with rfl | first
      · rcases List.mem_cons.mp inOther with rfl | second
        · exact absurd rfl differ
        · exact across map inside more (Tree.maps_field fields other second more outside)
      · rcases List.mem_cons.mp inOther with rfl | second
        · exact (across more outside map (Tree.maps_field fields one first map inside)).symm
        · exact ih apart.2.1 first second

theorem field_once (fields : List (GoString × Tree))
    (apart : ((Tree.mapsFields fields).map Prod.fst).Nodup) (field : GoString × Tree)
    (member : field ∈ fields) : (field.2.maps.map Prod.fst).Nodup := by
  induction fields with
  | nil => exact absurd member List.not_mem_nil
  | cons head fields ih =>
      rw [Tree.mapsFields, List.map_append, List.nodup_append] at apart
      rcases List.mem_cons.mp member with rfl | below
      · exact apart.1
      · exact ih apart.2.1 below

/-- A new tree without sharing is a root of its own. -/
theorem rooted_start (origin heap : Heap) (root : Nat) (fields : Keyed GoString Tree)
    (stored : Stored heap (Tree.map root fields).maps)
    (fresh : ∀ map ∈ (Tree.map root fields).maps, origin.next ≤ map.1)
    (grows : origin.next ≤ heap.next)
    (old : ∀ address < origin.next, heap.cell address = origin.cell address)
    (once : ((Tree.map root fields).maps.map Prod.fst).Nodup) :
    Rooted origin heap root fields := by
  rw [Tree.maps, List.map_cons, List.nodup_cons] at once
  refine ⟨stored, fresh, grows, old, ?_, ?_⟩
  · intro map member same
    have inside := List.mem_map_of_mem (f := Prod.fst) member
    exact once.1 (same ▸ inside)
  · intro props inner found
    have member := Keyed.mem_of_get _ _ _ found
    have inside := field_once fields once.2 _ member
    rw [Tree.maps, List.map_cons, List.nodup_cons] at inside
    constructor
    · intro map here same
      have again := List.mem_map_of_mem (f := Prod.fst) here
      exact inside.1 (same ▸ again)
    · intro map here
      obtain ⟨field, kept, below⟩ := Tree.maps_fields _ map here
      obtain ⟨other, apart⟩ := (Keyed.mem_delete _ _ _).mp kept
      exact fields_apart fields once.2 field _ other member apart map
        (props, Tree.entries inner) below List.mem_cons_self

/-- The copy, cleaned. -/
theorem cleaned_copy (heap : Heap) (address fuel : Nat) (fields : Keyed GoString Tree)
    (stored : Stored heap (Tree.map address fields).maps)
    (enough : (Tree.map address fields).height ≤ fuel) :
    ∃ root left, (cloneSchemaValue fuel heap (.map address)).2 = .map root ∧
      Rooted heap (cleanMap fuel (cloneSchemaValue fuel heap (.map address)).1 root) root left ∧
      Tree.jsonFields left = cleanSchema (Tree.jsonFields fields) := by
  obtain ⟨copy, cloned, same, tall, made⟩ := clone_tree _ fuel heap enough stored
  obtain ⟨left, here, json, changed⟩ := clean_tree copy fuel _ (tall ▸ enough) made.stored
    made.apart
  rw [Tree.value] at cloned made changed
  have shape : ∃ root copies, copy = .map root copies := by
    cases copy with
    | map root copies => exact ⟨root, copies, rfl⟩
    | strings texts => exact Json.noConfusion same
    | _ => exact Json.noConfusion same
  obtain ⟨root, copies, rfl⟩ := shape
  obtain ⟨cleaned, rfl⟩ := value_map left root here
  refine ⟨root, cleaned, cloned, ?_, ?_⟩
  · have inside : ∀ map ∈ (Tree.map root cleaned).maps, heap.next ≤ map.1 := by
      intro map member
      exact made.fresh _ (changed.within.subset (List.mem_map_of_mem member))
    apply rooted_start heap _ root cleaned changed.stored inside
    · exact made.grows.trans (Nat.le_of_eq changed.next.symm)
    · intro old bound
      refine (changed.others old ?_).trans (made.old old bound)
      intro member
      exact absurd (made.fresh old member) (Nat.not_le.mpr bound)
    · exact made.apart.sublist changed.within
  · rw [same, Tree.json, Tree.json, cleanValue, Json.obj.injEq] at json
    exact json

theorem rooted_holds (origin heap : Heap) (root : Nat) (fields : Keyed GoString Tree)
    (rooted : Rooted origin heap root fields) :
    (∀ old < origin.next, heap.cell old = origin.cell old) ∧
      Holds heap (.map root) (.obj (Tree.jsonFields fields)) :=
  ⟨rooted.old, .map root fields, rfl, rfl, rooted.stored⟩

/-- The memory after the clean-up: the old maps as they were, and the cleaned schema. -/
theorem ensure_map (heap : Heap) (address fuel : Nat) (fields : Keyed GoString Tree)
    (stored : Stored heap (Tree.map address fields).maps)
    (enough : (Tree.map address fields).height ≤ fuel) :
    (∀ old < heap.next,
      (ensureMap fuel heap (.map address)).1.cell old = heap.cell old) ∧
      Holds (ensureMap fuel heap (.map address)).1 (ensureMap fuel heap (.map address)).2
        (ensureObjectSchema (.obj (Tree.jsonFields fields))) := by
  obtain ⟨root, left, cloned, rooted, json⟩ := cleaned_copy heap address fuel fields stored enough
  obtain ⟨next, flat, flattened⟩ := flatten_map rooted
  rw [ensureMap]
  dsimp only
  rw [cloned, ensureObjectSchema]
  dsimp only
  rw [← json, ← flattened, (rooted_cell flat).2.1, entries_get, json_get, Option.isSome_map,
    Option.isSome_map]
  split_ifs
  · exact rooted_holds heap _ root next flat
  · have typed := rooted_typed flat (lit "object")
    rw [(rooted_cell flat).2.1] at typed
    have json := json_set next (lit "type") (.str (lit "object"))
    rw [Tree.json] at json
    rw [json]
    exact rooted_holds heap _ root _ typed

theorem holds_map (heap : Heap) (address : Nat) (fields : JsonFields)
    (holds : Holds heap (.map address) (.obj fields)) :
    ∃ trees : Keyed GoString Tree, Stored heap (Tree.map address trees).maps ∧
      Tree.jsonFields trees = fields := by
  obtain ⟨tree, value, json, stored⟩ := holds
  obtain ⟨trees, rfl⟩ := value_map tree address value
  exact ⟨trees, stored, Json.obj.inj json⟩

/-- A deep enough recursion leaves the memory alone and returns the cleaned schema. -/
theorem ensure_memory (heap : Heap) (address : Nat) (fields : JsonFields)
    (holds : Holds heap (.map address) (.obj fields)) :
    ∃ needed, ∀ fuel, needed ≤ fuel →
      (∀ old < heap.next,
        (ensureMap fuel heap (.map address)).1.cell old = heap.cell old) ∧
        Holds (ensureMap fuel heap (.map address)).1 (ensureMap fuel heap (.map address)).2
          (ensureObjectSchema (.obj fields)) := by
  obtain ⟨trees, stored, rfl⟩ := holds_map heap address fields holds
  exact ⟨_, fun fuel enough => ensure_map heap address fuel trees stored enough⟩

/-- What a client's parameters are promised: its maps are not written to, no declared name is
lost, the root has no composition keyword, and a second clean-up changes nothing. -/
def KeepsParameters (heap : Heap) (address : Nat) (fields : JsonFields) : Prop :=
  ∃ needed, ∀ fuel, needed ≤ fuel →
    let ensured := ensureMap fuel heap (.map address)
    (∀ old < heap.next, ensured.1.cell old = heap.cell old) ∧
      ∃ final, Holds ensured.1 ensured.2 (.obj final) ∧ Kept (.obj fields) (.obj final) ∧
        (∀ keyword ∈ composition, JsonFields.get final keyword = none) ∧
        ∃ again, ∀ fuel, again ≤ fuel →
          Holds (ensureMap fuel ensured.1 ensured.2).1 (ensureMap fuel ensured.1 ensured.2).2
            (.obj final)

theorem keeps_kept (heap : Heap) (address : Nat) (fields : JsonFields)
    (holds : Holds heap (.map address) (.obj fields)) :
    KeepsParameters heap address fields ↔
      Kept (.obj fields) (ensureObjectSchema (.obj fields)) := by
  obtain ⟨enough, works⟩ := ensure_memory heap address fields holds
  obtain ⟨final, same, ensured⟩ := ensured_schema fields
  constructor
  · rintro ⟨needed, keeps⟩
    obtain ⟨_, found, held, kept, _⟩ := keeps (max needed enough) (Nat.le_max_left _ _)
    have here := (works (max needed enough) (Nat.le_max_right _ _)).2
    rw [holds_unique _ _ _ _ here held]
    exact kept
  · intro kept
    refine ⟨enough, fun fuel deep => ?_⟩
    obtain ⟨old, held⟩ := works fuel deep
    rw [same] at held kept
    refine ⟨old, final, held, kept, ensured.gone, ?_⟩
    obtain ⟨tree, value, json, stored⟩ := held
    have shape : ∃ root, (ensureMap fuel heap (.map address)).2 = .map root := by
      cases tree with
      | map root fields => exact ⟨root, value.symm⟩
      | strings texts => exact Json.noConfusion json
      | _ => exact Json.noConfusion json
    obtain ⟨root, result⟩ := shape
    rw [result] at value ⊢
    obtain ⟨again, rerun⟩ := ensure_memory _ root final ⟨tree, value, json, stored⟩
    refine ⟨again, fun fuel deep => ?_⟩
    have twice := ensure_twice fields
    rw [same] at twice
    have second := (rerun fuel deep).2
    rwa [twice] at second

/-- Two branches that are one map. -/
def sharedMemory : Heap where
  next := 4
  cell
    | 0 => [(lit "oneOf", .slice [.map 1, .map 1])]
    | 1 => [(lit "properties", .map 2)]
    | 2 => [(lit "city", .map 3)]
    | 3 => [(lit "type", .str (lit "string"))]
    | _ => []

def cityBranch : Tree :=
  .map 1 [(lit "properties", .map 2 [(lit "city", .map 3 [(lit "type", .str (lit "string"))])])]

def cityFields : JsonFields :=
  Tree.jsonFields [(lit "oneOf", .slice [cityBranch, cityBranch])]

/-- A parameter that has the name of a dropped key. -/
def encryptedMemory : Heap where
  next := 3
  cell
    | 0 => [(lit "type", .str (lit "object")), (lit "properties", .map 1)]
    | 1 => [(lit "encrypted", .map 2)]
    | 2 => [(lit "type", .str (lit "string"))]
    | _ => []

def encryptedTree : Keyed GoString Tree :=
  [(lit "type", .str (lit "object")),
    (lit "properties", .map 1 [(lit "encrypted", .map 2 [(lit "type", .str (lit "string"))])])]

end Ensured

end KiroProxy.SchemaMaps
