import QueryFlow.Proofs.Document.Parts
import QueryFlow.Proofs.Expr.Soundness
import QueryFlow.Proofs.Json.Numeric

/-!
# Numbers in documents that are read

Reading makes no double that is not a number: what a document holds comes from the literals of its
text.
-/

namespace QueryFlow

inductive Node.Numeric : Node → Prop
  | values {columns rows convention} : (∀ r ∈ rows, Row.Numeric r) →
      Numeric (.values columns rows convention)
  | union {columns all inputs} : (∀ n ∈ inputs, Numeric n) → Numeric (.union columns all inputs)
  | scan {table} : Numeric (.scan table)
  | file {path columns} : Numeric (.file path columns)
  | filter {predicate input} : predicate.Numeric → Numeric input →
      Numeric (.filter predicate input)
  | project {fields input} : (∀ f ∈ fields, f.expr.Numeric) → Numeric input →
      Numeric (.project fields input)
  | join {condition left right} : (∀ c, condition = some c → c.Numeric) → Numeric left →
      Numeric right → Numeric (.join condition left right)

structure Document.Numeric (d : Document) : Prop where
  tables : ∀ t ∈ d.tables, ∀ r ∈ t.2.rows, Row.Numeric r
  plan : d.plan.Numeric

/-! ## Members and items -/

namespace Json

theorem Numeric.part {j k : Json} (numeric : j.Numeric) (mem : k ∈ j.parts) : k.Numeric := by
  cases numeric with
  | array items => exact items k mem
  | object members =>
    obtain ⟨m, place, rfl⟩ := List.mem_map.1 mem
    exact members m place
  | null | bool | number _ | text => cases mem

theorem numeric_fields? {names : List String} {j : Json} {fs : List (Option Json)}
    (numeric : j.Numeric) (h : j.fields? names = some fs) : ∀ o ∈ fs, ∀ k ∈ o, k.Numeric :=
  fun o mem k value => numeric.part (mem_parts_of_fields? h o mem k value)

theorem numeric_list? {α : Type} {f : Json → Option α} {P : α → Prop} {j : Json} {xs : List α}
    (each : ∀ k x, k.Numeric → f k = some x → P x) (numeric : j.Numeric)
    (h : j.list? f = some xs) : ∀ x ∈ xs, P x := by
  intro x mem
  obtain ⟨k, place, found⟩ := mem_parts_of_list? h x mem
  exact each k x (numeric.part place) found

theorem numeric_double? {j : Json} {d : Double} (numeric : j.Numeric) (h : j.double? = some d) :
    d.isNaN = false := by
  unfold double? at h
  split at h
  · cases h
    cases numeric with
    | number value => exact value _ rfl
  · cases h
    exact Double.isNaN_ofInt _
  · cases h

end Json

/-! ## Values and expressions -/

namespace Value

theorem numeric_ofParts? {type : Option DataType} {constant : Option Json} {v : Value}
    (numeric : ∀ j ∈ constant, j.Numeric) (h : ofParts? type constant = some v) :
    v.isNaN = false := by
  unfold ofParts? at h
  split at h
  case h_5 j =>
    obtain ⟨d, read, rfl⟩ := Option.map_eq_some_iff.1 h
    exact Json.numeric_double? (numeric j rfl) read
  case h_8 => cases h
  case h_1 | h_2 =>
    cases h
    rfl
  all_goals
    obtain ⟨x, -, rfl⟩ := Option.map_eq_some_iff.1 h
    rfl

theorem numeric_ofJson? {r : Reading} {j : Json} {v : Value} (numeric : j.Numeric)
    (h : ofJson? r j = some v) : v.isNaN = false := by
  unfold ofJson? at h
  split at h
  · simp only [Option.bind_eq_bind, Option.bind_eq_some_iff] at h
    obtain ⟨type, -, read⟩ := h
    cases numeric with
    | array items =>
      refine numeric_ofParts? ?_ read
      rintro _ ⟨⟩
      exact items _ (List.mem_cons_of_mem _ List.mem_cons_self)
  · simp only [Option.bind_eq_bind, Option.bind_eq_some_iff] at h
    obtain ⟨fs, fields, h⟩ := h
    have all := Json.numeric_fields? numeric fields
    split at h
    · simp only [Option.bind_eq_some_iff] at h
      obtain ⟨type, -, read⟩ := h
      exact numeric_ofParts? (all _ (List.mem_cons_of_mem _ List.mem_cons_self)) read
    · cases h
  · cases h

end Value

theorem Row.numeric_listOfJson? {r : Reading} {j : Json} {rows : List Row} (numeric : j.Numeric)
    (h : listOfJson? r j = some rows) : ∀ r ∈ rows, Row.Numeric r :=
  Json.numeric_list? (P := Row.Numeric)
    (fun _ _ hk read => Json.numeric_list? (fun _ _ => Value.numeric_ofJson?) hk read) numeric h

namespace Expr

theorem numeric_of_operands {es : List Expr} (h : ∀ e ∈ es, e.Numeric) :
    ∀ v ∈ literalsAll es, v.isNaN = false := by
  induction es with
  | nil => exact List.forall_mem_nil _
  | cons e es ih =>
    obtain ⟨first, rest⟩ := List.forall_mem_cons.1 h
    exact List.forall_mem_append.2 ⟨first, ih rest⟩

theorem numeric_ofJson? {levels : Nat} {j : Json} {e : Expr} (numeric : j.Numeric)
    (h : ofJson? levels j = some e) : e.Numeric := by
  induction levels generalizing j e with
  | zero => cases h
  | succ levels ih =>
    have operands {body : Json} {es : List Expr} (hb : body.Numeric)
        (read : body.list? (ofJson? levels) = some es) : ∀ v ∈ literalsAll es, v.isNaN = false :=
      numeric_of_operands (Json.numeric_list? (fun _ _ => ih) hb read)
    unfold ofJson? at h
    split at h
    · rename_i body same
      cases same
      have hb : body.Numeric := by
        cases numeric with
        | object members => exact members _ List.mem_cons_self
      split at h
      · obtain ⟨n, -, h⟩ := Option.bind_eq_some_iff.1 h
        split at h <;> cases h
        exact nofun
      · obtain ⟨v, read, rfl⟩ := Option.map_eq_some_iff.1 h
        exact List.forall_mem_singleton.2 (Value.numeric_ofJson? hb read)
      · obtain ⟨fs, fields, h⟩ := Option.bind_eq_some_iff.1 h
        have all := Json.numeric_fields? hb fields
        split at h
        · simp only [List.forall_mem_cons] at all
          obtain ⟨-, left, right, -⟩ := all
          simp only [Option.bind_eq_bind, Option.bind_eq_some_iff, Option.pure_def,
            Option.some.injEq] at h
          obtain ⟨op, -, l, readl, r, readr, rfl⟩ := h
          exact List.forall_mem_append.2 ⟨ih (left _ rfl) readl, ih (right _ rfl) readr⟩
        · cases h
      · obtain ⟨es, read, rfl⟩ := Option.map_eq_some_iff.1 h
        exact operands hb read
      · obtain ⟨es, read, rfl⟩ := Option.map_eq_some_iff.1 h
        exact operands hb read
      · obtain ⟨e, read, rfl⟩ := Option.map_eq_some_iff.1 h
        have inner : e.Numeric := ih hb read
        exact inner
      · obtain ⟨e, read, rfl⟩ := Option.map_eq_some_iff.1 h
        have inner : e.Numeric := ih hb read
        exact inner
      · cases h
    · cases h

end Expr

theorem Field.numeric_ofJson? {j : Json} {f : Field} (numeric : j.Numeric)
    (h : ofJson? j = some f) : f.expr.Numeric := by
  simp only [ofJson?, Option.bind_eq_bind, Option.bind_eq_some_iff] at h
  obtain ⟨fs, fields, h⟩ := h
  have all := Json.numeric_fields? numeric fields
  split at h
  · simp only [List.forall_mem_cons] at all
    obtain ⟨expr, -⟩ := all
    simp only [Option.bind_eq_some_iff, Option.pure_def, Option.some.injEq] at h
    obtain ⟨e, read, name, -, rfl⟩ := h
    exact Expr.numeric_ofJson? (expr _ rfl) read
  · cases h

/-! ## Nodes and documents -/

namespace Node

theorem numeric_tagged? {j op body : Json} (numeric : j.Numeric)
    (h : tagged? j = some (op, body)) : body.Numeric := by
  unfold tagged? at h
  split at h
  · cases numeric with
    | object members =>
      simp only [Option.bind_eq_bind, Option.bind_eq_some_iff] at h
      obtain ⟨o, -, h⟩ := h
      split at h
      · cases h
        exact .object fun m mem => members m (List.mem_of_mem_filter mem)
      · cases h
  · cases numeric with
    | array items =>
      cases h
      exact .array fun k mem => items k (List.mem_cons_of_mem _ mem)
  · cases h

theorem numeric_condition? {o : Option Json} {condition : Option Expr}
    (numeric : ∀ j ∈ o, j.Numeric) (h : condition? o = some condition) :
    ∀ c, condition = some c → c.Numeric := by
  unfold condition? at h
  split at h
  · cases h
    exact nofun
  · cases h
    exact nofun
  · obtain ⟨e, read, rfl⟩ := Option.map_eq_some_iff.1 h
    rintro _ ⟨⟩
    exact Expr.numeric_ofJson? (numeric _ rfl) read

theorem numeric_rows {r : Reading} {o : Option Json} {rows : List Row}
    (numeric : ∀ j ∈ o, j.Numeric) (h : o.elim (some []) (Row.listOfJson? r) = some rows) :
    ∀ r ∈ rows, Row.Numeric r := by
  cases o with
  | none =>
    cases h
    exact nofun
  | some j => exact Row.numeric_listOfJson? (numeric j rfl) h

theorem numeric_ofJson? {levels : Nat} {r : Reading} {j : Json} {n : Node} (numeric : j.Numeric)
    (h : ofJson? r levels j = some n) : n.Numeric := by
  induction levels generalizing r j n with
  | zero => cases h
  | succ levels ih =>
    simp only [ofJson?, Option.bind_eq_bind, Option.bind_eq_some_iff] at h
    obtain ⟨⟨op, body⟩, tagged, kind, -, h⟩ := h
    have hb := numeric_tagged? numeric tagged
    cases kind with
    | values =>
      obtain ⟨fs, fields, h⟩ := Option.bind_eq_some_iff.1 h
      have all := Json.numeric_fields? hb fields
      split at h
      · simp only [List.forall_mem_cons] at all
        obtain ⟨-, rows, -⟩ := all
        simp only [Option.bind_eq_some_iff, Option.pure_def, Option.some.injEq] at h
        obtain ⟨columns, -, read, hrows, convention, -, rfl⟩ := h
        exact .values (numeric_rows rows hrows)
      · cases h
    | union =>
      obtain ⟨fs, fields, h⟩ := Option.bind_eq_some_iff.1 h
      have all := Json.numeric_fields? hb fields
      split at h
      · simp only [List.forall_mem_cons] at all
        obtain ⟨-, -, inputs, -⟩ := all
        simp only [Option.bind_eq_some_iff, Option.pure_def, Option.some.injEq] at h
        obtain ⟨columns, -, flag, -, read, hinputs, rfl⟩ := h
        exact .union (Json.numeric_list? (fun _ _ => ih) (inputs _ rfl) hinputs)
      · cases h
    | scan =>
      obtain ⟨fs, fields, h⟩ := Option.bind_eq_some_iff.1 h
      split at h
      · simp only [Option.bind_eq_some_iff, Option.pure_def, Option.some.injEq] at h
        obtain ⟨name, -, rfl⟩ := h
        exact .scan
      · cases h
    | file =>
      obtain ⟨fs, fields, h⟩ := Option.bind_eq_some_iff.1 h
      split at h
      · simp only [Option.bind_eq_some_iff, Option.pure_def, Option.some.injEq] at h
        obtain ⟨path, -, columns, -, rfl⟩ := h
        exact .file
      · cases h
    | filter =>
      obtain ⟨fs, fields, h⟩ := Option.bind_eq_some_iff.1 h
      have all := Json.numeric_fields? hb fields
      split at h
      · simp only [List.forall_mem_cons] at all
        obtain ⟨predicate, input, -⟩ := all
        simp only [Option.bind_eq_some_iff, Option.pure_def, Option.some.injEq] at h
        obtain ⟨e, he, n, hn, rfl⟩ := h
        exact .filter (Expr.numeric_ofJson? (predicate _ rfl) he) (ih (input _ rfl) hn)
      · cases h
    | project =>
      obtain ⟨fs, fields, h⟩ := Option.bind_eq_some_iff.1 h
      have all := Json.numeric_fields? hb fields
      split at h
      · simp only [List.forall_mem_cons] at all
        obtain ⟨fields, input, -⟩ := all
        simp only [Option.bind_eq_some_iff, Option.pure_def, Option.some.injEq] at h
        obtain ⟨es, hes, n, hn, rfl⟩ := h
        exact .project
          (Json.numeric_list? (fun _ _ => Field.numeric_ofJson?) (fields _ rfl) hes)
          (ih (input _ rfl) hn)
      · cases h
    | join =>
      obtain ⟨fs, fields, h⟩ := Option.bind_eq_some_iff.1 h
      have all := Json.numeric_fields? hb fields
      split at h
      · simp only [List.forall_mem_cons] at all
        obtain ⟨condition, left, right, -⟩ := all
        simp only [Option.bind_eq_some_iff, Option.pure_def, Option.some.injEq] at h
        obtain ⟨c, hc, l, hl, r, hr, rfl⟩ := h
        exact .join (numeric_condition? condition hc) (ih (left _ rfl) hl) (ih (right _ rfl) hr)
      · cases h

end Node

theorem TableSpec.numeric_ofJson? {j : Json} {t : TableSpec} (numeric : j.Numeric)
    (h : ofJson? j = some t) : ∀ r ∈ t.rows, Row.Numeric r := by
  simp only [ofJson?, Option.bind_eq_bind, Option.bind_eq_some_iff] at h
  obtain ⟨fs, fields, h⟩ := h
  have all := Json.numeric_fields? numeric fields
  split at h
  · simp only [List.forall_mem_cons] at all
    obtain ⟨-, rows, -⟩ := all
    simp only [Option.bind_eq_some_iff, Option.pure_def, Option.some.injEq] at h
    obtain ⟨columns, -, read, hrows, rfl⟩ := h
    exact Node.numeric_rows rows hrows
  · cases h

namespace Document

theorem mem_of_mem_putTable {name : String} {t : TableSpec} {tables : List (String × TableSpec)} :
    ∀ u ∈ putTable name t tables, u = (name, t) ∨ u ∈ tables := by
  induction tables with
  | nil => simp [putTable]
  | cons first rest ih =>
    intro u mem
    rw [putTable] at mem
    split at mem
    · simpa using mem
    split at mem
    · rcases List.mem_cons.1 mem with new | old
      · exact .inl new
      · exact .inr (List.mem_cons_of_mem _ old)
    · rcases List.mem_cons.1 mem with same | later
      · exact .inr (same ▸ List.mem_cons_self)
      · exact (ih u later).imp_right (List.mem_cons_of_mem _)

theorem numeric_tablesOfJson? {j : Json} {tables : List (String × TableSpec)}
    (numeric : j.Numeric) (h : tablesOfJson? j = some tables) :
    ∀ t ∈ tables, ∀ r ∈ t.2.rows, Row.Numeric r := by
  unfold tablesOfJson? at h
  split at h
  · cases numeric with
    | object members =>
      refine foldlM_preserves (P := fun ts : List (String × TableSpec) =>
        ∀ t ∈ ts, ∀ r ∈ t.2.rows, Row.Numeric r) ?_ members (List.forall_mem_nil _) h
      intro ts m us all hm step
      simp only [Option.bind_eq_bind, Option.bind_eq_some_iff, Option.pure_def,
        Option.some.injEq] at step
      obtain ⟨name, -, t, read, rfl⟩ := step
      intro u mem
      rcases mem_of_mem_putTable u mem with rfl | old
      · exact TableSpec.numeric_ofJson? hm read
      · exact all u old
  · cases h

theorem numeric_ofJson? {j : Json} {d : Document} (numeric : j.Numeric) (h : ofJson? j = some d) :
    d.Numeric := by
  simp only [ofJson?, Option.bind_eq_bind, Option.bind_eq_some_iff] at h
  obtain ⟨fs, fields, h⟩ := h
  have all := Json.numeric_fields? numeric fields
  split at h
  · rename_i tables plan
    simp only [List.forall_mem_cons] at all
    obtain ⟨htables, hplan, -⟩ := all
    simp only [Option.bind_eq_some_iff, Option.pure_def, Option.some.injEq] at h
    obtain ⟨ts, readTables, n, readPlan, rfl⟩ := h
    refine ⟨?_, ?_⟩
    · cases tables with
      | none =>
        cases readTables
        exact nofun
      | some k => exact numeric_tablesOfJson? (htables k rfl) readTables
    · unfold planOfJson? at readPlan
      split at readPlan
      · exact Node.numeric_ofJson? (hplan _ rfl) readPlan
      · cases readPlan
  · cases h

theorem numeric_parse {text : String} {d : Document} (h : parse text = .ok d) : d.Numeric := by
  unfold parse at h
  split at h
  · rename_i e read
    cases h
    obtain ⟨j, parsed, read⟩ := Option.bind_eq_some_iff.1 read
    exact numeric_ofJson? (Json.numeric_parse? parsed) read
  · cases h

end Document

end QueryFlow
