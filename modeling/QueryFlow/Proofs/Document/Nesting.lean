import QueryFlow.Proofs.Document.Members

/-!
# Literals and nesting in respelled documents

`Respells.sound`: a change in how an object is written keeps every literal its value.
`Respells.fits_iff`: inside of a plan that can be read, it keeps the text within the nesting limit.
A default that is written out is nested no deeper than the columns that stand beside it.
-/

namespace QueryFlow

open Json (Members)

theorem exists_of_forall₂ {α β : Type} {R : α → β → Prop} {as : List α} {bs : List β}
    (h : List.Forall₂ R as bs) : ∀ a ∈ as, ∃ b, R a b := by
  induction h with
  | nil => exact List.forall_mem_nil _
  | cons first _ ih => exact List.forall_mem_cons.2 ⟨⟨_, first⟩, ih⟩

/-! ## Nodes by their members -/

namespace Node

def ofFields? (levels : Nat) : Kind → List (Option Json) → Option Node
  | .values => fun
    | [some columns, rows, convention] => do
      return .values (← Column.listOfJson? .collected columns)
        (← rows.elim (some []) (Row.listOfJson? .collected))
        (← convention.elim (some .physical) (Convention.ofJson? .collected))
    | _ => none
  | .union => fun
    | [some columns, all, some inputs] => do
      return .union (← Column.listOfJson? .collected columns) (← all.elim (some true) Json.bool?)
        (← inputs.list? (ofJson? .collected levels))
    | _ => none
  | .scan => fun
    | [some table] => do return .scan (← table.text?)
    | _ => none
  | .file => fun
    | [some path, some columns] => do
      return .file (← path.text?) (← Column.listOfJson? .collected columns)
    | _ => none
  | .filter => fun
    | [some predicate, some input] => do
      return .filter (← Expr.ofJson? nestingLimit predicate) (← ofJson? .collected levels input)
    | _ => none
  | .project => fun
    | [some fields, some input] => do
      return .project (← fields.list? Field.ofJson?) (← ofJson? .collected levels input)
    | _ => none
  | .join => fun
    | [condition, some left, some right] => do
      return .join (← condition? condition) (← ofJson? .collected levels left)
        (← ofJson? .collected levels right)
    | _ => none

variable {r : Reading} {levels : Nat} {ms : Members} {kind : Kind} {n : Node}

theorem ofJson?_object : ofJson? r (levels + 1) (.object ms) = (kind? r ms).bind fun kind =>
    ((Json.object ms).fields? (kind.slots.map Slot.name)).bind (ofFields? levels kind) := by
  rw [ofJson?, tagged?, kind?]
  rcases Json.member? "op" ms with _ | _ | op
  · rfl
  · rfl
  simp only [Option.bind_eq_bind, Option.pure_def, Option.bind_some]
  rcases Kind.ofJson? r op with _ | kind
  · rfl
  have names : "op" ∉ kind.slots.map Slot.name := by cases kind <;> decide
  rw [Option.bind_some, Option.bind_some, ← Json.fields?_filter_of_ne names]
  cases kind <;> rfl

theorem kind?_collected (h : kind? r ms = some kind) : kind? .collected ms = some kind := by
  cases r with
  | collected => exact h
  | direct =>
    obtain ⟨op, found, h⟩ := Option.bind_eq_some_iff.1 h
    obtain ⟨op, rfl, h⟩ := Option.bind_eq_some_iff.1 h
    rw [kind?, found, Option.bind_some]
    cases op with
    | text s => cases s <;> exact h
    | number n => rcases n with _ | _ | _ <;> cases h
    | null | bool | array | object => cases h

theorem fields_of_ofJson? (h : ofJson? r levels (.object ms) = some n) :
    ∃ kind os levels, kind? .collected ms = some kind ∧ ofFields? levels kind os = some n ∧
      List.Forall₂ (fun s o => Json.member? s.name ms = some o) kind.slots os := by
  cases levels with
  | zero => cases h
  | succ levels =>
    rw [ofJson?_object] at h
    obtain ⟨kind, named, h⟩ := Option.bind_eq_some_iff.1 h
    obtain ⟨os, fields, h⟩ := Option.bind_eq_some_iff.1 h
    exact ⟨kind, os, levels, kind?_collected named, h,
      List.forall₂_map_left_iff.1 (Json.members_of_fields? fields)⟩

end Node

/-! ## Literals -/

theorem Place.default_plain {place : Place} {ms : Members} {s : Slot} {k : Json}
    (known : s ∈ place.slots ms) (default : k ∈ s.defaults) : k.sound = true ∧ k.depth ≤ 1 := by
  have all : ((place.slots ms).all fun s =>
      s.defaults.all fun k => k.sound && decide (k.depth ≤ 1)) = true := by
    cases place with
    | tables =>
      refine List.all_eq_true.2 fun s known => ?_
      obtain ⟨_, rfl⟩ := slot_of_tables known
      rfl
    | node =>
      rw [slots]
      rcases Node.kind? .collected ms with _ | ⟨⟨⟩⟩ <;> rfl
    | document | table | column | value | expression | comparison | field | list | leaf => rfl
  have plain := List.all_eq_true.1 (List.all_eq_true.1 all s known) k default
  rwa [Bool.and_eq_true, decide_eq_true_eq] at plain

namespace Respells

variable {n : Nat} {place : Place} {j k : Json}

theorem sound (h : Respells n place j k) : j.sound = k.sound := by
  induction h with
  | permute perm _ =>
    rw [Json.sound, Json.sound, Json.soundMembers_eq_all, Json.soundMembers_eq_all, perm.all_eq]
  | add _ _ sound _ => rw [Json.sound, Json.sound, Json.soundMembers, sound]; rfl
  | write known default _ =>
    rw [Json.sound, Json.sound, Json.soundMembers, (Place.default_plain known default).1]
    rfl
  | known _ _ ih | unknown _ _ ih =>
    simp only [Json.sound, Json.soundMembers_eq_all, List.all_append, List.all_cons, ih]
  | item _ _ ih =>
    simp only [Json.sound, Json.soundItems_eq_all, List.all_append, List.all_cons, ih]

end Respells

/-! ## Nesting -/

/-- A part of a plan that can be read as far as its nodes go. -/
def Place.Measured : Place → Json → Prop
  | document, _ | tables, _ | table, _ => False
  | node, j => ∃ r levels n, Node.ofJson? r levels j = some n
  | list item, j => ∀ k ∈ j.parts, item.Measured k
  | column, _ | value, _ | expression, _ | comparison, _ | field, _ | leaf, _ => True

theorem Node.measured_of_list? {levels : Nat} {j : Json} {ns : List Node}
    (h : j.list? (ofJson? .collected levels) = some ns) : (Place.list .node).Measured j := by
  cases j with
  | array items =>
    intro k mem
    obtain ⟨n, read⟩ := exists_of_forall₂ (forall₂_of_mapM h) k mem
    exact ⟨_, _, n, read⟩
  | object | null | bool | number | text => cases h

theorem Node.measured_of_ofFields? {levels : Nat} {kind : Kind} {os : List (Option Json)} {n : Node}
    (h : ofFields? levels kind os = some n) :
    List.Forall₂ (fun s o => ∀ k ∈ o, s.place.Measured k) kind.slots os := by
  have sub {o : Json} {n : Node} (read : ofJson? .collected levels o = some n) :
      ∀ k ∈ some o, Place.node.Measured k := by
    rintro _ ⟨⟩
    exact ⟨_, _, n, read⟩
  cases kind with
  | values | scan | file =>
    simp only [ofFields?] at h
    split at h
    · simp [Kind.slots, Place.Measured]
    · cases h
  | union =>
    simp only [ofFields?] at h
    split at h
    · simp only [Option.bind_eq_bind, Option.bind_eq_some_iff, Option.pure_def] at h
      obtain ⟨_, -, _, -, ns, inputs, -⟩ := h
      refine .cons (fun _ _ _ _ => trivial) (.cons (fun _ _ => trivial) (.cons ?_ .nil))
      rintro _ ⟨⟩
      exact measured_of_list? inputs
    · cases h
  | filter =>
    simp only [ofFields?] at h
    split at h
    · simp only [Option.bind_eq_bind, Option.bind_eq_some_iff, Option.pure_def] at h
      obtain ⟨_, -, n, input, -⟩ := h
      exact .cons (fun _ _ => trivial) (.cons (sub input) .nil)
    · cases h
  | project =>
    simp only [ofFields?] at h
    split at h
    · simp only [Option.bind_eq_bind, Option.bind_eq_some_iff, Option.pure_def] at h
      obtain ⟨_, -, n, input, -⟩ := h
      exact .cons (fun _ _ _ _ => trivial) (.cons (sub input) .nil)
    · cases h
  | join =>
    simp only [ofFields?] at h
    split at h
    · simp only [Option.bind_eq_bind, Option.bind_eq_some_iff, Option.pure_def] at h
      obtain ⟨_, -, l, left, r, right, -⟩ := h
      exact .cons (fun _ _ => trivial) (.cons (sub left) (.cons (sub right) .nil))
    · cases h

theorem Node.columns_of_ofFields? {levels : Nat} {os : List (Option Json)} {n : Node}
    (h : ofFields? levels .values os = some n) : ∃ columns rest, os = some columns :: rest ∧
      0 < columns.depth := by
  simp only [ofFields?] at h
  split at h
  · simp only [Option.bind_eq_bind, Option.bind_eq_some_iff, Option.pure_def] at h
    obtain ⟨cs, columns, -⟩ := h
    exact ⟨_, _, rfl, Json.depth_pos_of_list? columns⟩
  · cases h

theorem Place.measured_member {place : Place} {ms : Members} {s : Slot} {k : Json}
    (measured : place.Measured (.object ms)) (known : s ∈ place.slots ms)
    (once : ∀ o, Json.member? s.name ms = some o → o = some k) : s.place.Measured k := by
  cases place with
  | document | tables | table => exact measured.elim
  | node =>
    obtain ⟨r, levels, n, read⟩ := measured
    obtain ⟨kind, os, levels, named, body, found⟩ := Node.fields_of_ofJson? read
    rw [slots, named] at known
    rcases List.mem_cons.1 known with rfl | known
    · exact trivial
    have both := List.Forall₂.mp (fun _ _ => And.intro) found (Node.measured_of_ofFields? body)
    obtain ⟨o, member, measured⟩ := exists_of_forall₂ both s known
    exact measured k (once o member)
  | column | value | expression | comparison | field =>
    revert known
    simp +contextual [slots, or_imp, Measured]
  | list | leaf => cases known

theorem Place.flat_default_or {place : Place} {ms : Members} {s : Slot} {k : Json}
    (measured : place.Measured (.object ms)) (known : s ∈ place.slots ms)
    (default : k ∈ s.defaults) : k.depth = 0 ∨ ∃ m ∈ ms, k.depth ≤ m.2.depth := by
  have flat (slots : List Slot)
      (all : (slots.all fun s => s.defaults.all fun k => k.depth == 0) = true)
      (known : s ∈ slots) : k.depth = 0 :=
    beq_iff_eq.1 (List.all_eq_true.1 (List.all_eq_true.1 all s known) k default)
  cases place with
  | document | tables | table => exact measured.elim
  | node =>
    obtain ⟨r, levels, n, read⟩ := measured
    obtain ⟨kind, os, levels, named, body, found⟩ := Node.fields_of_ofJson? read
    cases kind with
    | values =>
      obtain ⟨columns, rest, rfl, deep⟩ := Node.columns_of_ofFields? body
      cases found with
      | cons first _ =>
        obtain ⟨m, mem, rfl⟩ := List.mem_map.1 (Json.mem_parts_of_member? first rfl)
        exact .inr ⟨m, mem, Nat.le_trans (Place.default_plain known default).2 deep⟩
    | union | scan | file | filter | project | join =>
      rw [slots, named] at known
      exact .inl (flat _ rfl known)
  | column | value | expression | comparison | field | list | leaf => exact .inl (flat _ rfl known)

namespace Respells

variable {n : Nat} {place : Place} {j k : Json}

theorem fits_iff (h : Respells n place j k) (measured : place.Measured j) :
    j.Fits n ↔ k.Fits n := by
  induction h with
  | permute perm _ => simp only [Json.fits_object, perm.mem_iff]
  | add _ _ _ fits =>
    rw [Json.fits_object, Json.fits_object, List.forall_mem_cons, and_iff_right fits]
  | @write n place ms s k known default _ =>
    rw [Json.fits_object, Json.fits_object, List.forall_mem_cons]
    refine and_congr_right fun room => (and_iff_right_of_imp fun all => ?_).symm
    show n + 1 + k.depth ≤ nestingLimit
    rcases Place.flat_default_or measured known default with flat | ⟨m, mem, beside⟩
    · rwa [flat]
    · have fits : n + 1 + m.2.depth ≤ nestingLimit := all m mem
      omega
  | known slot _ ih =>
    have inside := ih (Place.measured_member measured slot fun _ => Json.member?_eq_of_mem)
    simp only [Json.fits_object, List.forall_mem_append, List.forall_mem_cons, inside]
  | unknown _ _ ih =>
    have inside := ih trivial
    simp only [Json.fits_object, List.forall_mem_append, List.forall_mem_cons, inside]
  | @item n place inner before k k' after items _ ih =>
    have inside : k.Fits (n + 1) ↔ k'.Fits (n + 1) := by
      refine ih ?_
      cases place with
      | list item =>
        cases items
        exact measured k (List.mem_append_right _ List.mem_cons_self)
      | tables | expression | leaf =>
        cases items
        exact trivial
      | document | table | column | value | node | comparison | field => cases items
    simp only [Json.fits_array, List.forall_mem_append, List.forall_mem_cons, inside]

end Respells

end QueryFlow
