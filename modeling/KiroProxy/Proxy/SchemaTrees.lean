import KiroProxy.Proxy.SchemaMaps

/-!
# The trees behind schema maps

A value in memory unfolds to a tree that tells where each of its maps is. What the clone and the
clean-up do to the memory is told by the trees they start from and leave.
-/

namespace KiroProxy.SchemaMaps

open Foundation (Keyed)
open ToolSchema

set_option autoImplicit false

inductive Tree where
  | null
  | bool (value : Bool)
  | num (text : GoString)
  | str (text : GoString)
  | strings (texts : List GoString)
  | slice (items : List Tree)
  | map (address : Nat) (fields : List (GoString × Tree))

namespace Tree

mutual

def value : Tree → GoValue
  | .null => .null
  | .bool value => .bool value
  | .num text => .num text
  | .str text => .str text
  | .strings texts => .strings texts
  | .slice items => .slice (values items)
  | .map address _ => .map address

def values : List Tree → List GoValue
  | [] => []
  | item :: items => item.value :: values items

end

abbrev entries (fields : Keyed GoString Tree) : Entries := fields.mapValues value

mutual

def json : Tree → Json
  | .null => .null
  | .bool value => .bool value
  | .num text => .num text
  | .str text => .str text
  | .strings texts => .arr (texts.map .str)
  | .slice items => .arr (jsonItems items)
  | .map _ fields => .obj (jsonFields fields)

def jsonItems : List Tree → List Json
  | [] => []
  | item :: items => item.json :: jsonItems items

def jsonFields : List (GoString × Tree) → JsonFields
  | [] => []
  | (key, tree) :: fields => (key, tree.json) :: jsonFields fields

/-- The maps of a tree with their entries. -/
def maps : Tree → List (Nat × Entries)
  | .slice items => mapsItems items
  | .map address fields => (address, entries fields) :: mapsFields fields
  | _ => []

def mapsItems : List Tree → List (Nat × Entries)
  | [] => []
  | item :: items => item.maps ++ mapsItems items

def mapsFields : List (GoString × Tree) → List (Nat × Entries)
  | [] => []
  | (_, tree) :: fields => tree.maps ++ mapsFields fields

def height : Tree → Nat
  | .slice items => heightItems items + 1
  | .map _ fields => heightFields fields + 1
  | _ => 0

def heightItems : List Tree → Nat
  | [] => 0
  | item :: items => max item.height (heightItems items)

def heightFields : List (GoString × Tree) → Nat
  | [] => 0
  | (_, tree) :: fields => max tree.height (heightFields fields)

end

theorem json_fields_map (fields : Keyed GoString Tree) : jsonFields fields = fields.mapValues json := by
  induction fields with
  | nil => rfl
  | cons field fields ih =>
      rw [jsonFields, ih]
      rfl

theorem maps_field (fields : Keyed GoString Tree) (field : GoString × Tree) (member : field ∈ fields)
    (map : Nat × Entries) (inside : map ∈ field.2.maps) : map ∈ mapsFields fields := by
  induction fields with
  | nil => exact absurd member List.not_mem_nil
  | cons head fields ih =>
      rw [mapsFields, List.mem_append]
      rcases List.mem_cons.mp member with rfl | below
      · exact .inl inside
      · exact .inr (ih below)

theorem maps_fields (fields : Keyed GoString Tree) (map : Nat × Entries) (inside : map ∈ mapsFields fields) :
    ∃ field ∈ fields, map ∈ field.2.maps := by
  induction fields with
  | nil => exact absurd inside List.not_mem_nil
  | cons head fields ih =>
      rw [mapsFields, List.mem_append] at inside
      rcases inside with here | below
      · exact ⟨head, List.mem_cons_self, here⟩
      · obtain ⟨field, member, found⟩ := ih below
        exact ⟨field, List.mem_cons_of_mem _ member, found⟩

end Tree

section Memory

/-- The memory has these maps, each with a key once. -/
def Stored (heap : Heap) (maps : List (Nat × Entries)) : Prop :=
  ∀ map ∈ maps, map.1 < heap.next ∧ heap.cell map.1 = map.2 ∧ (map.2.map Prod.fst).Nodup

/-- A JSON value in memory; parts of it may be shared. -/
def Holds (heap : Heap) (value : GoValue) (json : Json) : Prop :=
  ∃ tree : Tree, tree.value = value ∧ tree.json = json ∧ Stored heap tree.maps

theorem stored_append (heap : Heap) (first second : List (Nat × Entries)) :
    Stored heap (first ++ second) ↔ Stored heap first ∧ Stored heap second :=
  List.forall_mem_append

theorem stored_cons (heap : Heap) (map : Nat × Entries) (maps : List (Nat × Entries)) :
    Stored heap (map :: maps) ↔
      (map.1 < heap.next ∧ heap.cell map.1 = map.2 ∧ (map.2.map Prod.fst).Nodup) ∧
        Stored heap maps :=
  List.forall_mem_cons

theorem stored_frame (before after : Heap) (maps : List (Nat × Entries))
    (stored : Stored before maps) (grows : before.next ≤ after.next)
    (same : ∀ address ∈ maps.map Prod.fst, after.cell address = before.cell address) :
    Stored after maps := by
  intro map member
  obtain ⟨bound, cell, distinct⟩ := stored map member
  exact ⟨bound.trans_le grows, (same map.1 (List.mem_map_of_mem member)).trans cell, distinct⟩

theorem stored_below (heap : Heap) (maps : List (Nat × Entries)) (stored : Stored heap maps)
    (address : Nat) (member : address ∈ maps.map Prod.fst) : address < heap.next := by
  obtain ⟨map, inside, rfl⟩ := List.mem_map.mp member
  exact (stored map inside).1

theorem cell_write_other (heap : Heap) (address other : Nat) (entries : Entries)
    (apart : other ≠ address) : (heap.write address entries).cell other = heap.cell other :=
  Function.update_of_ne apart _ _

theorem cell_write (heap : Heap) (address : Nat) (entries : Entries) :
    (heap.write address entries).cell address = entries :=
  Function.update_self _ _ _

theorem stored_write (heap : Heap) (address : Nat) (entries : Entries)
    (maps : List (Nat × Entries)) (stored : Stored heap maps)
    (apart : address ∉ maps.map Prod.fst) : Stored (heap.write address entries) maps := by
  apply stored_frame heap (heap.write address entries) maps stored (Nat.le_refl heap.next)
  intro other member
  apply cell_write_other
  intro same
  exact apart (same ▸ member)

end Memory

section Contents

theorem distinct_texts (texts : List GoString) : DistinctItems (texts.map Json.str) := by
  induction texts with
  | nil => trivial
  | cons text texts ih => exact ⟨trivial, ih⟩

mutual

theorem distinct_tree (heap : Heap) : ∀ tree : Tree, Stored heap tree.maps →
    DistinctKeys tree.json
  | .slice items, stored => distinct_items heap items stored
  | .map _ fields, stored => by
      obtain ⟨here, below⟩ := (stored_cons _ _ _).mp stored
      refine ⟨?_, distinct_fields heap fields below⟩
      rw [Tree.json_fields_map, Keyed.keys_map_values, ← Keyed.keys_map_values Tree.value]
      exact here.2.2
  | .strings texts, _ => distinct_texts texts
  | .null, _ => trivial
  | .bool _, _ => trivial
  | .num _, _ => trivial
  | .str _, _ => trivial

theorem distinct_items (heap : Heap) : ∀ items : List Tree, Stored heap (Tree.mapsItems items) →
    DistinctItems (Tree.jsonItems items)
  | [], _ => trivial
  | item :: items, stored => by
      obtain ⟨here, below⟩ := (stored_append _ _ _).mp stored
      exact ⟨distinct_tree heap item here, distinct_items heap items below⟩

theorem distinct_fields (heap : Heap) : ∀ fields : List (GoString × Tree),
    Stored heap (Tree.mapsFields fields) → DistinctFields (Tree.jsonFields fields)
  | [], _ => trivial
  | (_, tree) :: fields, stored => by
      obtain ⟨here, below⟩ := (stored_append _ _ _).mp stored
      exact ⟨distinct_tree heap tree here, distinct_fields heap fields below⟩

end

mutual

/-- A value in memory has one contents. -/
theorem contents_unique (heap : Heap) : ∀ tree other : Tree, tree.value = other.value →
    Stored heap tree.maps → Stored heap other.maps → tree.json = other.json
  | .slice items, .slice others, same, stored, again => by
      rw [Tree.json, Tree.json, items_unique heap items others (GoValue.slice.inj same) stored
        again]
  | .map address fields, .map other others, same, stored, again => by
      obtain ⟨here, below⟩ := (stored_cons _ _ _).mp stored
      obtain ⟨there, under⟩ := (stored_cons _ _ _).mp again
      have addresses : address = other := GoValue.map.inj same
      subst addresses
      have entries := here.2.1.symm.trans there.2.1
      rw [Tree.json, Tree.json, fields_unique heap fields others entries below under]
  | .strings texts, .strings others, same, _, _ => by
      rw [Tree.json, Tree.json, GoValue.strings.inj same]
  | .null, .null, _, _, _ => rfl
  | .bool _, .bool _, same, _, _ => congrArg Json.bool (GoValue.bool.inj same)
  | .num _, .num _, same, _, _ => congrArg Json.num (GoValue.num.inj same)
  | .str _, .str _, same, _, _ => congrArg Json.str (GoValue.str.inj same)

theorem items_unique (heap : Heap) : ∀ items others : List Tree,
    Tree.values items = Tree.values others → Stored heap (Tree.mapsItems items) →
      Stored heap (Tree.mapsItems others) → Tree.jsonItems items = Tree.jsonItems others
  | [], [], _, _, _ => rfl
  | item :: items, other :: others, same, stored, again => by
      obtain ⟨here, below⟩ := (stored_append _ _ _).mp stored
      obtain ⟨there, under⟩ := (stored_append _ _ _).mp again
      obtain ⟨value, values⟩ := List.cons.inj same
      rw [Tree.jsonItems, Tree.jsonItems, contents_unique heap item other value here there,
        items_unique heap items others values below under]

theorem fields_unique (heap : Heap) : ∀ fields others : List (GoString × Tree),
    Tree.entries fields = Tree.entries others → Stored heap (Tree.mapsFields fields) →
      Stored heap (Tree.mapsFields others) → Tree.jsonFields fields = Tree.jsonFields others
  | [], [], _, _, _ => rfl
  | (name, tree) :: fields, (repeated, other) :: others, same, stored, again => by
      obtain ⟨here, below⟩ := (stored_append _ _ _).mp stored
      obtain ⟨there, under⟩ := (stored_append _ _ _).mp again
      obtain ⟨entry, entries⟩ := List.cons.inj same
      have key : name = repeated := congrArg Prod.fst entry
      have value : tree.value = other.value := congrArg Prod.snd entry
      rw [Tree.jsonFields, Tree.jsonFields, key, contents_unique heap tree other value here there,
        fields_unique heap fields others entries below under]

end

theorem holds_unique (heap : Heap) (value : GoValue) (first second : Json)
    (one : Holds heap value first) (other : Holds heap value second) : first = second := by
  obtain ⟨tree, same, rfl, stored⟩ := one
  obtain ⟨again, here, rfl, kept⟩ := other
  exact contents_unique heap tree again (same.trans here.symm) stored kept

theorem holds_distinct (heap : Heap) (value : GoValue) (json : Json)
    (holds : Holds heap value json) : DistinctKeys json := by
  obtain ⟨tree, _, rfl, stored⟩ := holds
  exact distinct_tree heap tree stored

end Contents

section Clone

/-- New maps were made and no old one was touched. -/
structure Made (before after : Heap) (maps : List (Nat × Entries)) : Prop where
  grows : before.next ≤ after.next
  old : ∀ address < before.next, after.cell address = before.cell address
  stored : Stored after maps
  fresh : ∀ address ∈ maps.map Prod.fst, before.next ≤ address
  apart : (maps.map Prod.fst).Nodup

theorem made_nothing (heap : Heap) : Made heap heap [] where
  grows := le_rfl
  old _ _ := rfl
  stored _ member := absurd member List.not_mem_nil
  fresh _ member := absurd member List.not_mem_nil
  apart := List.nodup_nil

theorem made_keeps (before after : Heap) (maps old : List (Nat × Entries))
    (made : Made before after maps) (stored : Stored before old) : Stored after old := by
  apply stored_frame before after old stored made.grows
  intro address member
  exact made.old address (stored_below before old stored address member)

theorem made_append (before middle after : Heap) (first second : List (Nat × Entries))
    (made : Made before middle first) (more : Made middle after second) :
    Made before after (first ++ second) where
  grows := made.grows.trans more.grows
  old address bound :=
    (more.old address (bound.trans_le made.grows)).trans (made.old address bound)
  stored := (stored_append _ _ _).mpr ⟨made_keeps _ _ _ _ more made.stored, more.stored⟩
  fresh := by
    rw [List.map_append]
    exact List.forall_mem_append.mpr
      ⟨made.fresh, fun address member => made.grows.trans (more.fresh address member)⟩
  apart := by
    rw [List.map_append, List.nodup_append]
    refine ⟨made.apart, more.apart, ?_⟩
    intro address inFirst other inSecond
    have bound := stored_below middle first made.stored address inFirst
    exact Nat.ne_of_lt (bound.trans_le (more.fresh other inSecond))

theorem made_alloc (before after : Heap) (maps : List (Nat × Entries)) (entries : Entries)
    (made : Made before after maps) (distinct : (entries.map Prod.fst).Nodup) :
    Made before (after.alloc entries).1 ((after.next, entries) :: maps) := by
  have others : ∀ address < after.next,
      (after.alloc entries).1.cell address = after.cell address := fun address bound =>
    Function.update_of_ne (Nat.ne_of_lt bound) _ _
  have below := stored_below after maps made.stored
  constructor
  · exact made.grows.trans (Nat.le_succ _)
  · intro address bound
    rw [others address (bound.trans_le made.grows), made.old address bound]
  · rw [stored_cons]
    refine ⟨⟨Nat.lt_succ_self _, Function.update_self _ _ _, distinct⟩, ?_⟩
    apply stored_frame after _ maps made.stored (Nat.le_succ _)
    intro address member
    exact others address (below address member)
  · intro address member
    rcases List.mem_cons.mp member with rfl | inside
    · exact made.grows
    · exact made.fresh address inside
  · rw [List.map_cons, List.nodup_cons]
    exact ⟨fun member => absurd (below _ member) (Nat.lt_irrefl _), made.apart⟩

/-- The loop over the entries of a map. -/
def cloneEntry (fuel : Nat) (heap : Heap) (entry : GoString × GoValue) :
    Heap × (GoString × GoValue) :=
  let value := cloneSchemaValue fuel heap entry.2
  (value.1, (entry.1, value.2))

theorem clone_map (fuel : Nat) (heap : Heap) (address : Nat) :
    cloneSchemaValue (fuel + 1) heap (.map address) =
      (mapHeap (cloneEntry fuel) heap (heap.cell address)).1.alloc
        (mapHeap (cloneEntry fuel) heap (heap.cell address)).2 := rfl

mutual

theorem clone_tree : ∀ (tree : Tree) (fuel : Nat) (heap : Heap), tree.height ≤ fuel →
    Stored heap tree.maps → ∃ copy : Tree,
      (cloneSchemaValue fuel heap tree.value).2 = copy.value ∧ copy.json = tree.json ∧
        copy.height = tree.height ∧
        Made heap (cloneSchemaValue fuel heap tree.value).1 copy.maps
  | .slice items, 0, _, high, _ => absurd high (Nat.not_succ_le_zero _)
  | .map address fields, 0, _, high, _ => absurd high (Nat.not_succ_le_zero _)
  | .slice items, fuel + 1, heap, high, stored => by
      obtain ⟨copies, values, same, tall, made⟩ :=
        clone_items items fuel heap (Nat.le_of_succ_le_succ high) stored
      refine ⟨.slice copies, ?_, ?_, ?_, made⟩
      · exact congrArg GoValue.slice values
      · rw [Tree.json, Tree.json, same]
      · rw [Tree.height, Tree.height, tall]
  | .map address fields, fuel + 1, heap, high, stored => by
      obtain ⟨here, below⟩ := (stored_cons _ _ _).mp stored
      obtain ⟨copies, made, same, tall, keys, fresh⟩ :=
        clone_fields fields fuel heap (Nat.le_of_succ_le_succ high) below
      have distinct : ((Tree.entries copies).map Prod.fst).Nodup := by
        rw [Keyed.keys_map_values, keys, ← Keyed.keys_map_values Tree.value]
        exact here.2.2
      rw [Tree.value, clone_map, here.2.1, made]
      refine ⟨.map _ copies, rfl, ?_, ?_, made_alloc _ _ _ _ fresh distinct⟩
      · rw [Tree.json, Tree.json, same]
      · rw [Tree.height, Tree.height, tall]
  | .null, fuel, heap, _, _ => by
      cases fuel <;> exact ⟨.null, rfl, rfl, rfl, made_nothing heap⟩
  | .bool value, fuel, heap, _, _ => by
      cases fuel <;> exact ⟨.bool value, rfl, rfl, rfl, made_nothing heap⟩
  | .num text, fuel, heap, _, _ => by
      cases fuel <;> exact ⟨.num text, rfl, rfl, rfl, made_nothing heap⟩
  | .str text, fuel, heap, _, _ => by
      cases fuel <;> exact ⟨.str text, rfl, rfl, rfl, made_nothing heap⟩
  | .strings texts, fuel, heap, _, _ => by
      cases fuel <;> exact ⟨.strings texts, rfl, rfl, rfl, made_nothing heap⟩

theorem clone_items : ∀ (items : List Tree) (fuel : Nat) (heap : Heap),
    Tree.heightItems items ≤ fuel → Stored heap (Tree.mapsItems items) →
      ∃ copies : List Tree,
        (mapHeap (cloneSchemaValue fuel) heap (Tree.values items)).2 = Tree.values copies ∧
          Tree.jsonItems copies = Tree.jsonItems items ∧
          Tree.heightItems copies = Tree.heightItems items ∧
          Made heap (mapHeap (cloneSchemaValue fuel) heap (Tree.values items)).1
            (Tree.mapsItems copies)
  | [], _, heap, _, _ => ⟨[], rfl, rfl, rfl, made_nothing heap⟩
  | item :: items, fuel, heap, high, stored => by
      obtain ⟨here, below⟩ := (stored_append _ _ _).mp stored
      obtain ⟨first, second⟩ := Nat.max_le.mp high
      obtain ⟨copy, value, json, tall, made⟩ := clone_tree item fuel heap first here
      obtain ⟨copies, values, jsons, talls, more⟩ := clone_items items fuel
        (cloneSchemaValue fuel heap item.value).1 second (made_keeps _ _ _ _ made below)
      refine ⟨copy :: copies, ?_, ?_, ?_, made_append _ _ _ _ _ made more⟩
      · rw [Tree.values, Tree.values, mapHeap, value, values]
      · rw [Tree.jsonItems, Tree.jsonItems, json, jsons]
      · rw [Tree.heightItems, Tree.heightItems, tall, talls]

theorem clone_fields : ∀ (fields : List (GoString × Tree)) (fuel : Nat) (heap : Heap),
    Tree.heightFields fields ≤ fuel → Stored heap (Tree.mapsFields fields) →
      ∃ copies : Keyed GoString Tree,
        (mapHeap (cloneEntry fuel) heap (Tree.entries fields)).2 = Tree.entries copies ∧
          Tree.jsonFields copies = Tree.jsonFields fields ∧
          Tree.heightFields copies = Tree.heightFields fields ∧
          copies.map Prod.fst = fields.map Prod.fst ∧
          Made heap (mapHeap (cloneEntry fuel) heap (Tree.entries fields)).1
            (Tree.mapsFields copies)
  | [], _, heap, _, _ => ⟨[], rfl, rfl, rfl, rfl, made_nothing heap⟩
  | (key, tree) :: fields, fuel, heap, high, stored => by
      obtain ⟨here, below⟩ := (stored_append _ _ _).mp stored
      obtain ⟨first, second⟩ := Nat.max_le.mp high
      obtain ⟨copy, value, json, tall, made⟩ := clone_tree tree fuel heap first here
      obtain ⟨copies, values, jsons, talls, keys, more⟩ := clone_fields fields fuel
        (cloneSchemaValue fuel heap tree.value).1 second (made_keeps _ _ _ _ made below)
      refine ⟨(key, copy) :: copies, ?_, ?_, ?_, ?_, made_append _ _ _ _ _ made more⟩
      · exact congrArg₂ (fun value rest => (key, value) :: rest) value values
      · rw [Tree.jsonFields, Tree.jsonFields, json, jsons]
      · rw [Tree.heightFields, Tree.heightFields, tall, talls]
      · rw [List.map_cons, List.map_cons, keys]

end

end Clone

section Clean

/-- Only these maps were changed, and these are left of them. -/
structure Changed (before after : Heap) (old left : List (Nat × Entries)) : Prop where
  next : after.next = before.next
  others : ∀ address ∉ old.map Prod.fst, after.cell address = before.cell address
  stored : Stored after left
  within : (left.map Prod.fst).Sublist (old.map Prod.fst)

theorem changed_nothing (heap : Heap) : Changed heap heap [] [] where
  next := rfl
  others _ _ := rfl
  stored _ member := absurd member List.not_mem_nil
  within := List.Sublist.refl _

theorem changed_keeps (before after : Heap) (old left maps : List (Nat × Entries))
    (changed : Changed before after old left) (stored : Stored before maps)
    (apart : ∀ address ∈ maps.map Prod.fst, address ∉ old.map Prod.fst) : Stored after maps := by
  apply stored_frame before after maps stored (Nat.le_of_eq changed.next.symm)
  intro address member
  exact changed.others address (apart address member)

theorem changed_append (before middle after : Heap)
    (first second firstLeft secondLeft : List (Nat × Entries))
    (changed : Changed before middle first firstLeft)
    (more : Changed middle after second secondLeft)
    (apart : ((first ++ second).map Prod.fst).Nodup) :
    Changed before after (first ++ second) (firstLeft ++ secondLeft) where
  next := more.next.trans changed.next
  others address absent := by
    rw [List.map_append, List.mem_append, not_or] at absent
    rw [more.others address absent.2, changed.others address absent.1]
  stored := by
    rw [stored_append]
    refine ⟨changed_keeps _ _ _ _ _ more changed.stored ?_, more.stored⟩
    rw [List.map_append, List.nodup_append] at apart
    intro address member inSecond
    exact apart.2.2 address (changed.within.subset member) address inSecond rfl
  within := by
    rw [List.map_append, List.map_append]
    exact changed.within.append more.within

/-- A map is written first, then the maps below it are changed. -/
theorem changed_map (before after : Heap) (address : Nat) (entries written : Entries)
    (below left : List (Nat × Entries)) (bound : address < before.next)
    (distinct : (written.map Prod.fst).Nodup) (apart : address ∉ below.map Prod.fst)
    (changed : Changed (before.write address written) after below left) :
    Changed before after ((address, entries) :: below) ((address, written) :: left) where
  next := changed.next
  others other absent := by
    rw [List.map_cons, List.mem_cons, not_or] at absent
    rw [changed.others other absent.2, cell_write_other _ _ _ _ absent.1]
  stored := by
    rw [stored_cons]
    refine ⟨⟨bound.trans_le (Nat.le_of_eq changed.next.symm), ?_, distinct⟩, changed.stored⟩
    rw [changed.others address apart, cell_write]
  within := changed.within.cons_cons address

theorem changed_skips (before after : Heap) (old left skipped : List (Nat × Entries))
    (changed : Changed before after old left) : Changed before after (skipped ++ old) left where
  next := changed.next
  others address absent := by
    rw [List.map_append, List.mem_append, not_or] at absent
    exact changed.others address absent.2
  stored := changed.stored
  within := by
    rw [List.map_append]
    exact changed.within.trans (List.sublist_append_right _ _)

theorem changed_leaf (heap : Heap) (maps : List (Nat × Entries)) (stored : Stored heap maps) :
    Changed heap heap maps maps where
  next := rfl
  others _ _ := rfl
  stored := stored
  within := List.Sublist.refl _

theorem json_items_empty (items : List Tree) :
    (Tree.jsonItems items).isEmpty = (Tree.values items).isEmpty := by
  cases items <;> rfl

theorem dropped_tree (key : GoString) (tree : Tree) :
    dropped (key, tree.value) = droppedField key tree.json := by
  have required : malformed tree.value = malformedRequired tree.json := by
    cases tree with
    | slice items => exact (json_items_empty items).symm
    | strings texts => exact (List.isEmpty_map).symm
    | _ => rfl
  rw [dropped, droppedField, required]

def cleanKept (fuel : Nat) (heap : Heap) (entries : Entries) : Heap :=
  entries.foldl (fun heap entry => cleanEntry (cleanMap fuel) heap entry.2) heap

theorem clean_map_step (fuel : Nat) (heap : Heap) (address : Nat) (entries : Entries)
    (cell : heap.cell address = entries) :
    cleanMap (fuel + 1) heap address =
      cleanKept fuel (heap.write address (entries.filter fun entry => !dropped entry))
        (entries.filter fun entry => !dropped entry) := by
  rw [← cell]
  rfl

/-- What is left of the fields of a map. -/
structure CleanedFields (heap after : Heap) (fields left : Keyed GoString Tree) : Prop where
  entries : Tree.entries left = (Tree.entries fields).filter fun entry => !dropped entry
  json : Tree.jsonFields left = cleanSchema (Tree.jsonFields fields)
  maps : Changed heap after (Tree.mapsFields fields) (Tree.mapsFields left)

theorem clean_map_fields (fields : Keyed GoString Tree) (fuel address : Nat) (heap : Heap)
    (stored : Stored heap (Tree.map address fields).maps)
    (apart : ((Tree.map address fields).maps.map Prod.fst).Nodup)
    (below : ∀ heap, Stored heap (Tree.mapsFields fields) → ∃ left, CleanedFields heap
      (cleanKept fuel heap ((Tree.entries fields).filter fun entry => !dropped entry))
      fields left) :
    ∃ left : Keyed GoString Tree, Tree.jsonFields left = cleanSchema (Tree.jsonFields fields) ∧
      Changed heap (cleanMap (fuel + 1) heap address) (Tree.map address fields).maps
        (Tree.map address left).maps := by
  obtain ⟨here, under⟩ := (stored_cons _ _ _).mp stored
  rw [Tree.maps, List.map_cons, List.nodup_cons] at apart
  obtain ⟨left, cleaned⟩ := below _ (stored_write heap address
    ((Tree.entries fields).filter fun entry => !dropped entry) _ under apart.1)
  rw [← clean_map_step fuel heap address _ here.2.1] at cleaned
  refine ⟨left, cleaned.json, ?_⟩
  rw [Tree.maps, Tree.maps, cleaned.entries]
  apply changed_map heap _ address _ _ _ _ here.1 _ apart.1 cleaned.maps
  exact here.2.2.sublist (List.filter_sublist.map Prod.fst)

theorem clean_texts (texts : List GoString) :
    cleanItems (texts.map Json.str) = texts.map Json.str := by
  induction texts with
  | nil => rfl
  | cons text texts ih =>
      rw [List.map_cons, cleanItems, ih]
      rfl

mutual

theorem clean_tree : ∀ (tree : Tree) (fuel : Nat) (heap : Heap), tree.height ≤ fuel →
    Stored heap tree.maps → (tree.maps.map Prod.fst).Nodup → ∃ left : Tree,
      left.value = tree.value ∧ left.json = cleanValue tree.json ∧
        Changed heap (cleanEntry (cleanMap fuel) heap tree.value) tree.maps left.maps
  | .map address fields, 0, _, high, _, _ => absurd high (Nat.not_succ_le_zero _)
  | .map address fields, fuel + 1, heap, high, stored, apart => by
      obtain ⟨left, json, changed⟩ := clean_map_fields fields fuel address heap stored apart
        fun heap stored => clean_fields fields fuel heap (Nat.le_of_succ_le_succ high) stored
          (List.nodup_cons.mp apart).2
      refine ⟨.map address left, rfl, ?_, changed⟩
      rw [Tree.json, Tree.json, cleanValue, json]
  | .slice items, fuel, heap, high, stored, apart => by
      obtain ⟨left, values, json, changed⟩ :=
        clean_items items fuel heap (Nat.le_of_succ_le high) stored apart
      refine ⟨.slice left, ?_, ?_, changed⟩
      · exact congrArg GoValue.slice values
      · rw [Tree.json, Tree.json, cleanValue, json]
  | .strings texts, _, heap, _, _, _ => by
      refine ⟨.strings texts, rfl, ?_, changed_nothing heap⟩
      rw [Tree.json, cleanValue, clean_texts]
  | .null, _, heap, _, _, _ => ⟨.null, rfl, rfl, changed_nothing heap⟩
  | .bool value, _, heap, _, _, _ => ⟨.bool value, rfl, rfl, changed_nothing heap⟩
  | .num text, _, heap, _, _, _ => ⟨.num text, rfl, rfl, changed_nothing heap⟩
  | .str text, _, heap, _, _, _ => ⟨.str text, rfl, rfl, changed_nothing heap⟩

theorem clean_items : ∀ (items : List Tree) (fuel : Nat) (heap : Heap),
    Tree.heightItems items ≤ fuel → Stored heap (Tree.mapsItems items) →
      ((Tree.mapsItems items).map Prod.fst).Nodup → ∃ left : List Tree,
        Tree.values left = Tree.values items ∧
          Tree.jsonItems left = cleanItems (Tree.jsonItems items) ∧
          Changed heap ((Tree.values items).foldl (cleanItemMap (cleanMap fuel)) heap)
            (Tree.mapsItems items) (Tree.mapsItems left)
  | [], _, heap, _, _, _ => ⟨[], rfl, rfl, changed_nothing heap⟩
  | item :: items, fuel, heap, high, stored, apart => by
      obtain ⟨here, below⟩ := (stored_append _ _ _).mp stored
      obtain ⟨first, second⟩ := Nat.max_le.mp high
      have parts := apart
      rw [Tree.mapsItems, List.map_append, List.nodup_append] at parts
      obtain ⟨one, value, json, changed⟩ := clean_item item fuel heap first here parts.1
      obtain ⟨left, values, jsons, more⟩ := clean_items items fuel
        (cleanItemMap (cleanMap fuel) heap item.value) second
        (changed_keeps _ _ _ _ _ changed below fun address member inside =>
          parts.2.2 address inside address member rfl) parts.2.1
      refine ⟨one :: left, ?_, ?_, changed_append _ _ _ _ _ _ _ changed more apart⟩
      · rw [Tree.values, Tree.values, value, values]
      · rw [Tree.jsonItems, Tree.jsonItems, cleanItems, json, jsons]

theorem clean_item : ∀ (item : Tree) (fuel : Nat) (heap : Heap), item.height ≤ fuel →
    Stored heap item.maps → (item.maps.map Prod.fst).Nodup → ∃ left : Tree,
      left.value = item.value ∧ left.json = cleanItem item.json ∧
        Changed heap (cleanItemMap (cleanMap fuel) heap item.value) item.maps left.maps
  | .map address fields, 0, _, high, _, _ => absurd high (Nat.not_succ_le_zero _)
  | .map address fields, fuel + 1, heap, high, stored, apart => by
      obtain ⟨left, json, changed⟩ := clean_map_fields fields fuel address heap stored apart
        fun heap stored => clean_fields fields fuel heap (Nat.le_of_succ_le_succ high) stored
          (List.nodup_cons.mp apart).2
      refine ⟨.map address left, rfl, ?_, changed⟩
      rw [Tree.json, Tree.json, cleanItem, json]
  | .slice items, _, heap, _, stored, _ =>
      ⟨.slice items, rfl, rfl, changed_leaf heap _ stored⟩
  | .strings texts, _, heap, _, _, _ => ⟨.strings texts, rfl, rfl, changed_nothing heap⟩
  | .null, _, heap, _, _, _ => ⟨.null, rfl, rfl, changed_nothing heap⟩
  | .bool value, _, heap, _, _, _ => ⟨.bool value, rfl, rfl, changed_nothing heap⟩
  | .num text, _, heap, _, _, _ => ⟨.num text, rfl, rfl, changed_nothing heap⟩
  | .str text, _, heap, _, _, _ => ⟨.str text, rfl, rfl, changed_nothing heap⟩

theorem clean_fields : ∀ (fields : List (GoString × Tree)) (fuel : Nat) (heap : Heap),
    Tree.heightFields fields ≤ fuel → Stored heap (Tree.mapsFields fields) →
      ((Tree.mapsFields fields).map Prod.fst).Nodup → ∃ left : Keyed GoString Tree,
        CleanedFields heap (cleanKept fuel heap
          ((Tree.entries fields).filter fun entry => !dropped entry)) fields left
  | [], _, heap, _, _, _ => ⟨[], rfl, rfl, changed_nothing heap⟩
  | (key, tree) :: fields, fuel, heap, high, stored, apart => by
      obtain ⟨here, below⟩ := (stored_append _ _ _).mp stored
      obtain ⟨first, second⟩ := Nat.max_le.mp high
      have parts := apart
      rw [Tree.mapsFields, List.map_append, List.nodup_append] at parts
      have entries : Tree.entries ((key, tree) :: fields) =
          (key, tree.value) :: Tree.entries fields := rfl
      rw [entries, List.filter_cons]
      cases drop : dropped (key, tree.value) with
      | true =>
          obtain ⟨left, cleaned⟩ := clean_fields fields fuel heap second below parts.2.1
          refine ⟨left, ?_, ?_, changed_skips _ _ _ _ _ cleaned.maps⟩
          · rw [entries, List.filter_cons, drop]
            exact cleaned.entries
          · rw [Tree.jsonFields, cleanSchema, ← dropped_tree, if_pos drop]
            exact cleaned.json
      | false =>
          obtain ⟨one, value, json, changed⟩ := clean_tree tree fuel heap first here parts.1
          obtain ⟨left, cleaned⟩ := clean_fields fields fuel
            (cleanEntry (cleanMap fuel) heap tree.value) second
            (changed_keeps _ _ _ _ _ changed below fun address member inside =>
              parts.2.2 address inside address member rfl) parts.2.1
          refine ⟨(key, one) :: left, ?_, ?_,
            changed_append _ _ _ _ _ _ _ changed cleaned.maps apart⟩
          · rw [entries, List.filter_cons, drop, ← value]
            exact congrArg _ cleaned.entries
          · rw [Tree.jsonFields, Tree.jsonFields, cleanSchema, ← dropped_tree, drop,
              if_neg Bool.false_ne_true, json, cleaned.json]

end

end Clean

end KiroProxy.SchemaMaps
