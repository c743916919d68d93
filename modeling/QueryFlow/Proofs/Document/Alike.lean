import QueryFlow.Proofs.Document.Members

/-!
# Parts that are read alike

`Place.Reads`: no reader at a place tells two parts apart. `Alike`: for each member that is read
from an object, the same is found before and after a change, or what is read the same.
-/

namespace QueryFlow

open Json (Members)

/-! ## Leaves -/

inductive Json.SameLeaf : Json → Json → Prop
  | refl {j} : SameLeaf j j
  | array {js js'} : js.mapM Value.byte? = js'.mapM Value.byte? →
      SameLeaf (.array js) (.array js')
  | object {ms ms'} : (∀ r : Reading, r.name? (.object ms) = r.name? (.object ms')) →
      (ms = [] ↔ ms' = []) → SameLeaf (.object ms) (.object ms')

namespace Json.SameLeaf

variable {j k : Json}

theorem name (same : SameLeaf j k) (r : Reading) : r.name? j = r.name? k := by
  cases same with
  | refl | array => rfl
  | object name => exact name r

theorem text (same : SameLeaf j k) : j.text? = k.text? := by cases same <;> rfl

theorem bool (same : SameLeaf j k) : j.bool? = k.bool? := by cases same <;> rfl

theorem int (same : SameLeaf j k) : j.int? = k.int? := by cases same <;> rfl

theorem double (same : SameLeaf j k) : j.double? = k.double? := by cases same <;> rfl

theorem bytes (same : SameLeaf j k) : j.list? Value.byte? = k.list? Value.byte? := by
  cases same with
  | refl | object => rfl
  | array items => exact items

theorem kind (same : SameLeaf j k) (r : Reading) :
    Node.Kind.ofJson? r j = Node.Kind.ofJson? r k := by cases same <;> rfl

theorem parts (same : SameLeaf j k) (type : Option DataType) :
    Value.ofParts? type (some j) = Value.ofParts? type (some k) := by
  have text := same.text
  have bool := same.bool
  have double := same.double
  have bytes := same.bytes
  have int : Value.int64? j = Value.int64? k := by rw [Value.int64?, Value.int64?, same.int]
  cases type with
  | none => cases same <;> rfl
  | some type => cases type <;> simp only [Value.ofParts?, text, bool, double, bytes, int]

end Json.SameLeaf

theorem Reading.name?_of_crowded (r : Reading) {ms : Members} (crowded : 1 < ms.length) :
    r.name? (.object ms) = none := by
  match ms with
  | [] => cases crowded
  | [_] => exact absurd crowded (Nat.lt_irrefl 1)
  | _ :: _ :: _ => simp [name?]

theorem Expr.ofJson?_of_crowded {levels : Nat} {ms : Members} (crowded : 1 < ms.length) :
    Expr.ofJson? levels (.object ms) = none := by
  match levels, ms with
  | 0, _ => simp [ofJson?]
  | _ + 1, [] => cases crowded
  | _ + 1, [_] => exact absurd crowded (Nat.lt_irrefl 1)
  | _ + 1, _ :: _ :: _ => simp [ofJson?]

/-! ## What is read -/

/-- At a place inside of `n` arrays and objects, the same is read from two parts. -/
def Place.Reads (n : Nat) : Place → Json → Json → Prop
  | document, j, k => n = 0 → Document.ofJson? j = Document.ofJson? k
  | tables, j, k => Document.tablesOfJson? j = Document.tablesOfJson? k
  | table, j, k => TableSpec.ofJson? j = TableSpec.ofJson? k
  | column, j, k => ∀ r, Column.ofJson? r j = Column.ofJson? r k
  | value, j, k => ∀ r, Value.ofJson? r j = Value.ofJson? r k
  | node, j, k => ∀ r levels, Node.ofJson? r levels j = Node.ofJson? r levels k
  | expression, j, k =>
    (∀ levels, Expr.ofJson? levels j = Expr.ofJson? levels k) ∧ (j = .null ↔ k = .null)
  | comparison, j, k =>
    ∀ levels, Expr.ofJson? levels (.object [(some "cmp", j)]) =
      Expr.ofJson? levels (.object [(some "cmp", k)])
  | field, j, k => Field.ofJson? j = Field.ofJson? k
  | list item, j, k => ∀ {α : Type} (read : Json → Option α),
      (∀ i i', item.Reads (n + 1) i i' → read i = read i') → j.list? read = k.list? read
  | leaf, j, k => j.SameLeaf k

theorem Place.Reads.refl {n : Nat} (place : Place) (j : Json) : place.Reads n j j := by
  cases place with
  | document => exact fun _ => rfl
  | tables | table | field => rfl
  | column | value | comparison => exact fun _ => rfl
  | node => exact fun _ _ => rfl
  | expression => exact ⟨fun _ => rfl, Iff.rfl⟩
  | list item => exact fun _ _ => rfl
  | leaf => exact Json.SameLeaf.refl

/-- What is found of a member before and after a change inside of it, or before and after its
default is written out. -/
inductive Slot.Same (n : Nat) (s : Slot) : Option Json → Option Json → Prop
  | refl {o} : Same n s o o
  | changed {k k'} : Respells n s.place k k' → s.place.Reads n k k' → Same n s (some k) (some k')
  | written {k} : k ∈ s.defaults → Same n s none (some k)

namespace Slot.Same

variable {n : Nat} {s : Slot} {o o' : Option Json}

theorem read {α : Type} (same : s.Same n o o') (read : Option Json → Option α)
    (changed : ∀ k k', s.place.Reads n k k' → read (some k) = read (some k'))
    (written : ∀ k ∈ s.defaults, read none = read (some k)) : read o = read o' := by
  cases same with
  | refl => rfl
  | changed _ reads => exact changed _ _ reads
  | written default => exact written _ default

theorem required (same : s.Same n o o') (none : s.defaults = []) :
    (o = .none ∧ o' = .none) ∨ ∃ k k', o = some k ∧ o' = some k' ∧ s.place.Reads n k k' := by
  cases same with
  | refl =>
    cases o with
    | none => exact .inl ⟨rfl, rfl⟩
    | some k => exact .inr ⟨k, k, rfl, rfl, .refl _ k⟩
  | changed _ reads => exact .inr ⟨_, _, rfl, rfl, reads⟩
  | written default =>
    rw [none] at default
    cases default

end Slot.Same

inductive Slot.SameAll (n : Nat) : List Slot → List (Option Json) → List (Option Json) → Prop
  | nil : SameAll n [] [] []
  | cons {s ss o o' os os'} : s.Same n o o' → SameAll n ss os os' →
      SameAll n (s :: ss) (o :: os) (o' :: os')

/-- The members of an object before and after a change, as its readers find them. -/
structure Alike (n : Nat) (slots : List Slot) (ms ms' : Members) : Prop where
  keys : (ms.all fun m => m.1.isSome) = ms'.all fun m => m.1.isSome
  members : ∀ s ∈ slots,
    Option.Rel (s.Same n) (Json.member? s.name ms) (Json.member? s.name ms')

namespace Alike

variable {n : Nat} {slots : List Slot} {ms ms' : Members}

theorem tail {s : Slot} (alike : Alike n (s :: slots) ms ms') : Alike n slots ms ms' where
  keys := alike.keys
  members t mem := alike.members t (List.mem_cons_of_mem _ mem)

theorem mapM (alike : Alike n slots ms ms') :
    Option.Rel (Slot.SameAll n slots)
      ((slots.map Slot.name).mapM fun name => Json.member? name ms)
      ((slots.map Slot.name).mapM fun name => Json.member? name ms') := by
  induction slots with
  | nil => exact .some .nil
  | cons s ss ih =>
    have first := alike.members s List.mem_cons_self
    have rest := ih alike.tail
    rw [List.map_cons, List.mapM_cons, List.mapM_cons]
    generalize Json.member? s.name ms = found at first ⊢
    generalize Json.member? s.name ms' = found' at first ⊢
    generalize (ss.map Slot.name).mapM (fun name => Json.member? name ms) = os at rest ⊢
    generalize (ss.map Slot.name).mapM (fun name => Json.member? name ms') = os' at rest ⊢
    cases first with
    | none => exact .none
    | some same =>
      cases rest with
      | none => exact .none
      | some all => exact .some (.cons same all)

theorem bind_fields {α : Type} (alike : Alike n slots ms ms') {names : List String}
    (named : slots.map Slot.name = names) (read : List (Option Json) → Option α)
    (same : ∀ os os', Slot.SameAll n slots os os' → read os = read os') :
    ((Json.object ms).fields? names).bind read = ((Json.object ms').fields? names).bind read := by
  subst named
  rw [Json.fields?_object, Json.fields?_object, alike.keys]
  have found := alike.mapM
  split
  · generalize (slots.map Slot.name).mapM (fun name => Json.member? name ms) = os at found ⊢
    generalize (slots.map Slot.name).mapM (fun name => Json.member? name ms') = os' at found ⊢
    cases found with
    | none => rfl
    | some all => exact same _ _ all
  · rfl

theorem rel_refl (s : Slot) (found : Option (Option Json)) :
    Option.Rel (s.Same n) found found := by
  cases found with
  | none => exact .none
  | some o => exact .some .refl

theorem of_members (keys : (ms.all fun m => m.1.isSome) = ms'.all fun m => m.1.isSome)
    (same : ∀ s ∈ slots, Json.member? s.name ms = Json.member? s.name ms') :
    Alike n slots ms ms' where
  keys := keys
  members s mem := by
    rw [same s mem]
    exact rel_refl s _

theorem of_perm (perm : ms.Perm ms') : Alike n slots ms ms' :=
  of_members perm.all_eq fun _ _ => Json.member?_perm perm

theorem of_add {name : String} (k : Json) (unknown : ∀ s ∈ slots, s.name ≠ name) :
    Alike n slots ms ((some name, k) :: ms) := by
  refine of_members rfl fun s mem => (Json.member?_cons_of_ne ?_).symm
  rintro ⟨⟩
  exact unknown s mem rfl

theorem of_unknown {before after : Members} {key : Option String} {k k' : Json}
    (unknown : ∀ s ∈ slots, key ≠ some s.name) :
    Alike n slots (before ++ (key, k) :: after) (before ++ (key, k') :: after) := by
  refine of_members ?_ fun s mem => Json.member?_replace_of_ne (unknown s mem)
  simp only [List.all_append, List.all_cons]

theorem of_write {place : Place} {slot : Slot} {k : Json} (known : slot ∈ place.slots ms)
    (default : k ∈ slot.defaults) (absent : ∀ m ∈ ms, m.1 ≠ some slot.name) :
    Alike n (place.slots ms) ms ((some slot.name, k) :: ms) where
  keys := rfl
  members s mem := by
    by_cases same : s.name = slot.name
    · obtain rfl := Place.eq_of_name_eq mem known same
      rw [Json.member?_of_absent absent, Json.member?_cons_of_absent absent]
      exact .some (.written default)
    · rw [Json.member?_cons_of_ne fun other => same (Option.some.inj other).symm]
      exact rel_refl s _

theorem of_known {place : Place} {slot : Slot} {before after : Members} {k k' : Json}
    (known : slot ∈ place.slots (before ++ (some slot.name, k) :: after))
    (respells : Respells n slot.place k k') (reads : slot.place.Reads n k k') :
    Alike n (place.slots (before ++ (some slot.name, k) :: after))
      (before ++ (some slot.name, k) :: after) (before ++ (some slot.name, k') :: after) where
  keys := by simp only [List.all_append, List.all_cons]
  members s mem := by
    by_cases same : s.name = slot.name
    · obtain rfl := Place.eq_of_name_eq mem known same
      rcases Json.member?_replace with ⟨missed, missed'⟩ | ⟨once, once'⟩
      · rw [missed, missed']
        exact .none
      · rw [once, once']
        exact .some (.changed respells reads)
    · rw [Json.member?_replace_of_ne fun other => same (Option.some.inj other).symm]
      exact rel_refl s _

end Alike

end QueryFlow
