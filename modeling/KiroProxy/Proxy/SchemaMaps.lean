import KiroProxy.Proxy.SchemaNames
import Mathlib.Logic.Function.Basic

/-!
# Schemas in memory

The clean-up of `proxy/translator.go` on Go maps, which are shared and changed in place: it works
on a copy. Recursion through a schema takes fuel, and as much as the schema is deep is enough.
-/

namespace KiroProxy.SchemaMaps

open Foundation (Keyed)
open ToolSchema

set_option autoImplicit false

/-- A Go value; a map is where its entries are. `strings` is a `[]string`, and no slice is ever
written to. -/
inductive GoValue where
  | null
  | bool (value : Bool)
  | num (text : GoString)
  | str (text : GoString)
  | strings (texts : List GoString)
  | slice (items : List GoValue)
  | map (address : Nat)

abbrev Entries := Keyed GoString GoValue

structure Heap where
  next : Nat
  cell : Nat → Entries

namespace Heap

def write (heap : Heap) (address : Nat) (entries : Entries) : Heap where
  next := heap.next
  cell := Function.update heap.cell address entries

def alloc (heap : Heap) (entries : Entries) : Heap × GoValue :=
  (⟨heap.next + 1, Function.update heap.cell heap.next entries⟩, .map heap.next)

end Heap

section Clone

/-- A loop that changes the heap and makes a list. -/
def mapHeap {Item Made : Type} (make : Heap → Item → Heap × Made) :
    Heap → List Item → Heap × List Made
  | heap, [] => (heap, [])
  | heap, item :: items =>
      let first := make heap item
      let rest := mapHeap make first.1 items
      (rest.1, first.2 :: rest.2)

def cloneSchemaValue : Nat → Heap → GoValue → Heap × GoValue
  | fuel + 1, heap, .map address =>
      let cloned := mapHeap (fun heap entry =>
        let value := cloneSchemaValue fuel heap entry.2
        (value.1, (entry.1, value.2))) heap (heap.cell address)
      cloned.1.alloc cloned.2
  | fuel + 1, heap, .slice items =>
      let cloned := mapHeap (cloneSchemaValue fuel) heap items
      (cloned.1, .slice cloned.2)
  | _, heap, value => (heap, value)

end Clone

section Clean

def malformed : GoValue → Bool
  | .slice items => items.isEmpty
  | .strings texts => texts.isEmpty
  | _ => true

def dropped (entry : GoString × GoValue) : Bool :=
  entry.1 == lit "encrypted" || entry.1 == lit "additionalProperties" ||
    (entry.1 == lit "required" && malformed entry.2)

def cleanItemMap (clean : Heap → Nat → Heap) (heap : Heap) : GoValue → Heap
  | .map address => clean heap address
  | _ => heap

def cleanEntry (clean : Heap → Nat → Heap) (heap : Heap) : GoValue → Heap
  | .map address => clean heap address
  | .slice items => items.foldl (cleanItemMap clean) heap
  | _ => heap

def cleanMap : Nat → Heap → Nat → Heap
  | 0, heap, _ => heap
  | fuel + 1, heap, address =>
      let kept := (heap.cell address).filter fun entry => !dropped entry
      kept.foldl (fun heap entry => cleanEntry (cleanMap fuel) heap entry.2)
        (heap.write address kept)

end Clean

section Flatten

/-- The map under a key. -/
def mapAt (entries : Entries) (key : GoString) : Option Nat :=
  match entries.get key with
  | some (.map address) => some address
  | _ => none

def addMissingEntry (props : Nat) (heap : Heap) (entry : GoString × GoValue) : Heap :=
  if ((heap.cell props).get entry.1).isSome then heap
  else heap.write props ((heap.cell props).set entry.1 entry.2)

def addBranchMap (props : Nat) (heap : Heap) : GoValue → Heap
  | .map branch =>
      match mapAt (heap.cell branch) (lit "properties") with
      | some more => (heap.cell more).foldl (addMissingEntry props) heap
      | none => heap
  | _ => heap

/-- The root's map of properties, or else a new one. -/
def ownedProps (heap : Heap) (root : Nat) : Heap × Nat :=
  match mapAt (heap.cell root) (lit "properties") with
  | some props => (heap, props)
  | none => ((heap.alloc []).1, heap.next)

def mergeBranchMaps (heap : Heap) (root : Nat) (branches : List GoValue) : Heap :=
  let owned := ownedProps heap root
  let merged := branches.foldl (addBranchMap owned.2) owned.1
  if merged.cell owned.2 = [] then merged
  else merged.write root ((merged.cell root).set (lit "properties") (.map owned.2))

def flattenKeywordMap (root : Nat) (state : Heap × Bool) (keyword : GoString) : Heap × Bool :=
  match (state.1.cell root).get keyword with
  | none => state
  | some value =>
      let merged := match value with
        | .slice branches => mergeBranchMaps state.1 root branches
        | _ => state.1
      (merged.write root ((merged.cell root).delete keyword), true)

def flattenMap (heap : Heap) (root : Nat) : Heap :=
  let flattened := composition.foldl (flattenKeywordMap root) (heap, false)
  if flattened.2 then
    flattened.1.write root
      ((flattened.1.cell root).set (lit "type") (.str (lit "object")))
  else flattened.1

/-- `ensureObjectSchema`: the heap behind it and the value it returns. -/
def ensureMap (fuel : Nat) (heap : Heap) : GoValue → Heap × GoValue
  | .map address =>
      let cloned := cloneSchemaValue fuel heap (.map address)
      match cloned.2 with
      | .map root =>
          let cleaned := flattenMap (cleanMap fuel cloned.1 root) root
          (if ((cleaned.cell root).get (lit "type")).isSome then cleaned
            else cleaned.write root
              ((cleaned.cell root).set (lit "type") (.str (lit "object"))), .map root)
      | value => (cloned.1, value)
  | _ => heap.alloc [(lit "type", .str (lit "object"))]

end Flatten

end KiroProxy.SchemaMaps
