import QueryFlow.Proofs.Pipeline.Compiled
import QueryFlow.Proofs.Schema

namespace QueryFlow.Plan

/-! ## The constructors -/

theorem checkInputs_eq_ok {operator : String} {ps : List Plan} :
    checkInputs operator ps = .ok () ↔ ∀ p ∈ ps, p.convention = .physical := by
  induction ps with
  | nil => simp [checkInputs]
  | cons p ps ih => simp [checkInputs, check_eq_ok, Convention.checkPhysical_eq_ok, ih]

theorem checkBranches_eq_ok {schema : Schema} {ps : List Plan} :
    checkBranches schema ps = .ok () ↔ ∀ p ∈ ps, schema.accepts p.schema = true := by
  induction ps with
  | nil => simp [checkBranches]
  | cons p ps ih => simp [checkBranches, check_eq_ok, Schema.checkAccepts_eq_ok, ih]

theorem makeFilter_eq_ok {input p : Plan} {predicate : Expr} :
    makeFilter input predicate = .ok p ↔
      input.convention = .physical ∧ predicate.checkPredicate input.schema = .ok () ∧
        .filter predicate input = p := by
  simp only [makeFilter, check_eq_ok, checkInputs_eq_ok, List.forall_mem_singleton, pure_eq_ok]

theorem makeProject_eq_ok {input p : Plan} {fields : List Field} :
    makeProject input fields = .ok p ↔
      input.convention = .physical ∧
        ∃ columns, fields.mapM (fun f => f.column input.schema) = .ok columns ∧
          .project ⟨columns⟩ fields input = p := by
  rw [makeProject, check_eq_ok, checkInputs_eq_ok, List.forall_mem_singleton]
  simp only [bind_eq_ok, pure_eq_ok]

theorem makeUnion_eq_ok {schema : Schema} {inputs : List Plan} {all : Bool} {p : Plan} :
    makeUnion schema inputs all = .ok p ↔
      (∀ q ∈ inputs, q.convention = .physical) ∧
        (∀ q ∈ inputs, schema.accepts q.schema = true) ∧ .union schema all inputs = p := by
  simp only [makeUnion, check_eq_ok, checkInputs_eq_ok, checkBranches_eq_ok, pure_eq_ok]

theorem remakeUnion_eq_ok {schema : Schema} {convention : Convention} {inputs : List Plan}
    {all : Bool} {p : Plan} :
    remakeUnion schema convention inputs all = .ok p ↔
      convention = .physical ∧ makeUnion schema inputs all = .ok p := by
  rw [remakeUnion, check_eq_ok, Convention.checkPhysical_eq_ok]

theorem makeJoin_eq_ok {left right p : Plan} {condition : Option Expr} :
    makeJoin left right condition = .ok p ↔
      left.convention = .physical ∧ right.convention = .physical ∧
        (∀ c, condition = some c → c.checkPredicate (left.schema.concat right.schema) = .ok ()) ∧
        .join condition left right = p := by
  cases condition <;>
    simp only [makeJoin, check_eq_ok, checkInputs_eq_ok, List.forall_mem_cons, List.not_mem_nil,
      false_implies, implies_true, and_true, and_assoc, pure_eq_ok, Option.some.injEq, forall_eq',
      reduceCtorEq, true_and]

inductive Built : Plan → Prop
  | values {schema tuples convention} : Built (.values schema tuples convention)
  | scan {table} : Built (.scan table)
  | filter {input predicate p} : Built input → makeFilter input predicate = .ok p → Built p
  | project {input fields p} : Built input → makeProject input fields = .ok p → Built p
  | union {schema inputs all p} : (∀ q ∈ inputs, Built q) →
      makeUnion schema inputs all = .ok p → Built p
  | remake {schema convention inputs all p} : (∀ q ∈ inputs, Built q) →
      remakeUnion schema convention inputs all = .ok p → Built p
  | join {left right condition p} : Built left → Built right →
      makeJoin left right condition = .ok p → Built p

/-- The plans whose expressions fit the schemas of their inputs, and whose inputs are physical. -/
inductive Typed : Plan → Prop
  | values {schema tuples convention} : Typed (.values schema tuples convention)
  | scan {table} : Typed (.scan table)
  | filter {predicate input} : Typed input → input.convention = .physical →
      predicate.checkPredicate input.schema = .ok () → Typed (.filter predicate input)
  | project {columns fields input} : Typed input → input.convention = .physical →
      fields.mapM (fun f => f.column input.schema) = .ok columns →
      Typed (.project ⟨columns⟩ fields input)
  | union {schema all inputs} : (∀ q ∈ inputs, Typed q) →
      (∀ q ∈ inputs, q.convention = .physical) →
      (∀ q ∈ inputs, schema.accepts q.schema = true) → Typed (.union schema all inputs)
  | join {condition left right} : Typed left → Typed right → left.convention = .physical →
      right.convention = .physical →
      (∀ c, condition = some c → c.checkPredicate (left.schema.concat right.schema) = .ok ()) →
      Typed (.join condition left right)

theorem Built.typed {p : Plan} (h : Built p) : Typed p := by
  induction h with
  | values => exact .values
  | scan => exact .scan
  | filter _ made ih =>
    obtain ⟨physical, checked, rfl⟩ := makeFilter_eq_ok.1 made
    exact .filter ih physical checked
  | project _ made ih =>
    obtain ⟨physical, columns, derived, rfl⟩ := makeProject_eq_ok.1 made
    exact .project ih physical derived
  | union _ made ih =>
    obtain ⟨physical, accepts, rfl⟩ := makeUnion_eq_ok.1 made
    exact .union ih physical accepts
  | remake _ made ih =>
    obtain ⟨physical, accepts, rfl⟩ := makeUnion_eq_ok.1 (remakeUnion_eq_ok.1 made).2
    exact .union ih physical accepts
  | join _ _ made ihl ihr =>
    obtain ⟨physicall, physicalr, checked, rfl⟩ := makeJoin_eq_ok.1 made
    exact .join ihl ihr physicall physicalr checked

/-! ## Occurrences -/

/-- `Within p q`: the plan `p` occurs in the tree of `q`. -/
inductive Within (p : Plan) : Plan → Prop
  | root : Within p p
  | input {q r} : q ∈ r.inputs → Within p q → Within p r

structure DataAdmitted (plan : Plan) : Prop where
  tuples : ∀ schema tuples convention, Within (.values schema tuples convention) plan →
    ∀ r ∈ tuples, schema.admits r = true
  items : ∀ table items, Within (.scan table) plan → table.contents = .ok items →
    ∀ r, .ok r ∈ items → table.schema.admits r = true

theorem dataAdmitted_values {schema : Schema} {tuples : List Row} {convention : Convention}
    (fits : ∀ r ∈ tuples, schema.admits r = true) :
    DataAdmitted (.values schema tuples convention) where
  tuples _ _ _ occurs := by
    cases occurs with
    | root => exact fits
    | input mem _ => cases mem
  items _ _ occurs := by
    cases occurs with
    | input mem _ => cases mem

theorem dataAdmitted_scan {table : Table}
    (fits : ∀ items, table.contents = .ok items →
      ∀ r, .ok r ∈ items → table.schema.admits r = true) :
    DataAdmitted (.scan table) where
  tuples _ _ _ occurs := by
    cases occurs with
    | input mem _ => cases mem
  items _ _ occurs := by
    cases occurs with
    | root => exact fits _
    | input mem _ => cases mem

theorem dataAdmitted_of_inputs {p : Plan}
    (values : ∀ schema tuples convention, .values schema tuples convention ≠ p)
    (scan : ∀ table, .scan table ≠ p) (inputs : ∀ q ∈ p.inputs, DataAdmitted q) :
    DataAdmitted p where
  tuples _ _ _ occurs := by
    cases occurs with
    | root => exact absurd rfl (values _ _ _)
    | input mem occurs => exact (inputs _ mem).tuples _ _ _ occurs
  items _ _ occurs := by
    cases occurs with
    | root => exact absurd rfl (scan _)
    | input mem occurs => exact (inputs _ mem).items _ _ occurs

theorem dataAdmitted_filter {predicate : Expr} {input : Plan} (h : DataAdmitted input) :
    DataAdmitted (.filter predicate input) :=
  dataAdmitted_of_inputs (by simp) (by simp) (List.forall_mem_singleton.2 h)

theorem dataAdmitted_project {schema : Schema} {fields : List Field} {input : Plan}
    (h : DataAdmitted input) : DataAdmitted (.project schema fields input) :=
  dataAdmitted_of_inputs (by simp) (by simp) (List.forall_mem_singleton.2 h)

theorem dataAdmitted_union {schema : Schema} {all : Bool} {inputs : List Plan}
    (h : ∀ q ∈ inputs, DataAdmitted q) : DataAdmitted (.union schema all inputs) :=
  dataAdmitted_of_inputs (by simp) (by simp) h

theorem dataAdmitted_join {condition : Option Expr} {left right : Plan} (hl : DataAdmitted left)
    (hr : DataAdmitted right) : DataAdmitted (.join condition left right) :=
  dataAdmitted_of_inputs (by simp) (by simp)
    (List.forall_mem_cons.2 ⟨hl, List.forall_mem_singleton.2 hr⟩)

theorem DataAdmitted.input {p q : Plan} (h : DataAdmitted p) (mem : q ∈ p.inputs) :
    DataAdmitted q where
  tuples _ _ _ occurs := h.tuples _ _ _ (.input mem occurs)
  items _ _ occurs := h.items _ _ (.input mem occurs)

end QueryFlow.Plan
