import Mathlib.Data.List.Nodup
import QueryFlow.Document.Reader

/-!
# How documents are spelled

`Respells`: one change to the objects of a document that should not matter. Members trade places,
unknown members are added, or a default is written out. Which members are known, and which have a
default, depends on what is read where the object stands.
-/

namespace QueryFlow

namespace Json

abbrev Members := List (Option String × Json)

/-- No key stands twice. Keys without a value are not compared. -/
def Members.Distinct (ms : Members) : Prop := (ms.filterMap Prod.fst).Nodup

def Fits (n : Nat) (j : Json) : Prop := n + j.depth ≤ nestingLimit

end Json

open Json (Members)

/-- What is read from a part of a document. -/
inductive Place
  | document
  | tables
  | table
  | column
  | value
  | node
  | expression
  | comparison
  | field
  | list (item : Place)
  | leaf

structure Slot where
  name : String
  place : Place
  /-- What says the same as leaving the member out. -/
  defaults : List Json

def Node.Kind.slots : Kind → List Slot
  | values =>
    [⟨"columns", .list .column, []⟩, ⟨"rows", .list (.list .value), [.array []]⟩,
      ⟨"convention", .leaf, [.ofString "physical", .object [(some "physical", .null)]]⟩]
  | union =>
    [⟨"columns", .list .column, []⟩, ⟨"all", .leaf, [.bool true]⟩, ⟨"inputs", .list .node, []⟩]
  | scan => [⟨"table", .leaf, []⟩]
  | file => [⟨"path", .leaf, []⟩, ⟨"columns", .list .column, []⟩]
  | filter => [⟨"predicate", .expression, []⟩, ⟨"input", .node, []⟩]
  | project => [⟨"fields", .list .field, []⟩, ⟨"input", .node, []⟩]
  | join => [⟨"condition", .expression, [.null]⟩, ⟨"left", .node, []⟩, ⟨"right", .node, []⟩]

def Node.kind? (r : Reading) (ms : Members) : Option Kind :=
  (Json.member? "op" ms).bind fun op => op.bind (Kind.ofJson? r)

namespace Place

def structured : Place → Bool
  | document | table | column | value | node | comparison | field => true
  | tables | expression | list _ | leaf => false

def slots : Place → Members → List Slot
  | document, _ => [⟨"tables", tables, [.object []]⟩, ⟨"plan", node, []⟩]
  | tables, ms => ms.filterMap fun m => m.1.map fun name => ⟨name, table, []⟩
  | table, _ => [⟨"columns", list column, []⟩, ⟨"rows", list (list value), [.array []]⟩]
  | column, _ => [⟨"name", leaf, []⟩, ⟨"data_type", leaf, []⟩, ⟨"nullable", leaf, [.bool true]⟩]
  | value, _ => [⟨"t", leaf, []⟩, ⟨"v", leaf, []⟩]
  | node, ms => ⟨"op", leaf, []⟩ :: ((Node.kind? .collected ms).map Node.Kind.slots).getD []
  | expression, _ =>
    [⟨"column", leaf, []⟩, ⟨"literal", value, []⟩, ⟨"cmp", comparison, []⟩,
      ⟨"and", list expression, []⟩, ⟨"or", list expression, []⟩, ⟨"not", expression, []⟩,
      ⟨"is_null", expression, []⟩]
  | comparison, _ => [⟨"op", leaf, []⟩, ⟨"left", expression, []⟩, ⟨"right", expression, []⟩]
  | field, _ => [⟨"expr", expression, []⟩, ⟨"alias", leaf, []⟩]
  | list _, _ | leaf, _ => []

/-- What is read from the items of an array. A structure in the form of a list is left alone. -/
def item? : Place → Option Place
  | list item => some item
  | tables | expression | leaf => some leaf
  | document | table | column | value | node | comparison | field => none

end Place

/-- `Respells n place j k`: the parts `j` and `k`, which stand at `place` inside of `n` arrays and
objects, differ by one change in how an object is written. -/
inductive Respells : Nat → Place → Json → Json → Prop
  | permute {n place ms ms'} : ms.Perm ms' → Members.Distinct ms →
      Respells n place (.object ms) (.object ms')
  /-- A member that nothing reads is added, if it has a value and the nesting limit leaves room. -/
  | add {n place ms name k} : place.structured = true → (∀ s ∈ place.slots ms, s.name ≠ name) →
      k.sound = true → k.Fits (n + 1) →
      Respells n place (.object ms) (.object ((some name, k) :: ms))
  /-- What a missing member stands for is written out. -/
  | write {n place ms slot k} : slot ∈ place.slots ms → k ∈ slot.defaults →
      (∀ m ∈ ms, m.1 ≠ some slot.name) →
      Respells n place (.object ms) (.object ((some slot.name, k) :: ms))
  /-- The change is inside of a member that is read, of one that is not, or of an item. -/
  | known {n place before slot k k' after} :
      slot ∈ place.slots (before ++ (some slot.name, k) :: after) →
      Respells (n + 1) slot.place k k' →
      Respells n place (.object (before ++ (some slot.name, k) :: after))
        (.object (before ++ (some slot.name, k') :: after))
  | unknown {n place before key k k' after} :
      (∀ s ∈ place.slots (before ++ (key, k) :: after), key ≠ some s.name) →
      Respells (n + 1) .leaf k k' →
      Respells n place (.object (before ++ (key, k) :: after))
        (.object (before ++ (key, k') :: after))
  | item {n place inner before k k' after} : place.item? = some inner →
      Respells (n + 1) inner k k' →
      Respells n place (.array (before ++ k :: after)) (.array (before ++ k' :: after))

namespace Place

theorem nodup_names {place : Place} (ms : Members) (other : place ≠ tables) :
    ((place.slots ms).map Slot.name).Nodup := by
  cases place with
  | tables => exact absurd rfl other
  | node =>
    rw [slots]
    rcases Node.kind? .collected ms with _ | ⟨⟨⟩⟩ <;> decide
  | document | table | column | value | expression | comparison | field | list | leaf =>
    simp [slots]

theorem slot_of_tables {ms : Members} {s : Slot} (known : s ∈ tables.slots ms) :
    ∃ name, s = ⟨name, table, []⟩ := by
  obtain ⟨_, -, shape⟩ := List.mem_filterMap.1 known
  obtain ⟨name, -, rfl⟩ := Option.map_eq_some_iff.1 shape
  exact ⟨name, rfl⟩

theorem eq_of_name_eq {place : Place} {ms : Members} {s t : Slot} (hs : s ∈ place.slots ms)
    (ht : t ∈ place.slots ms) (same : s.name = t.name) : s = t := by
  by_cases map : place = tables
  · subst map
    obtain ⟨name, rfl⟩ := slot_of_tables hs
    obtain ⟨name', rfl⟩ := slot_of_tables ht
    cases same
    rfl
  · exact List.inj_on_of_nodup_map (nodup_names ms map) hs ht same

end Place

end QueryFlow
