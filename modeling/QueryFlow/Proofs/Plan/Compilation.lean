import QueryFlow.Proofs.Plan.Opening

/-!
# What compilation depends on

`compile_of_built`: whether a built plan compiles, and with which error it fails, is decided by the
convention of its root, by its consumer's schema and by the tables that do not open. The checks
below the root repeat what the constructors have checked.
-/

namespace QueryFlow

def Table.fault? (t : Table) : Option Error :=
  match t.contents with
  | .ok _ => none
  | .error e => some e

namespace Plan

mutual

/-- The tables of a plan, one for each scan, in the order in which compilation opens them. -/
def tables : Plan → List Table
  | values .. => []
  | scan table => [table]
  | filter _ input => tables input
  | project _ _ input => tables input
  | union _ _ inputs => allTables inputs
  | join _ left right => tables right ++ tables left

def allTables : List Plan → List Table
  | [] => []
  | p :: ps => tables p ++ allTables ps

end

def opened (ts : List Table) : Except Error Unit :=
  match ts.findSome? Table.fault? with
  | none => .ok ()
  | some e => .error e

theorem opened_append (ts us : List Table) :
    opened (ts ++ us) = (opened ts >>= fun _ => opened us) := by
  simp only [opened, List.findSome?_append]
  cases ts.findSome? Table.fault? <;> rfl

mutual

theorem openTables_eq (p : Plan) : p.openTables = opened p.tables := by
  match p with
  | values .. => rfl
  | scan table =>
    simp only [openTables, tables, opened, List.findSome?_cons, Table.fault?]
    cases table.contents <;> rfl
  | filter _ input => exact openTables_eq input
  | project _ _ input => exact openTables_eq input
  | union _ _ inputs => exact openAllTables_eq inputs
  | join _ left right =>
    rw [openTables, tables, opened_append, openTables_eq right, openTables_eq left]

theorem openAllTables_eq (ps : List Plan) : openAllTables ps = opened (allTables ps) := by
  match ps with
  | [] => rfl
  | p :: ps => rw [openAllTables, allTables, opened_append, openTables_eq p, openAllTables_eq ps]

end

theorem compile_of_logical {p : Plan} (logical : p.convention = .logical) (consumer : Schema) :
    p.compile consumer = .error (.conventionMismatch p.operator .physical .logical) := by
  have refused : p.checkConsumer consumer =
      .error (.conventionMismatch p.operator .physical .logical) := by
    simp only [checkConsumer, logical, Convention.checkPhysical, error_bind]
  cases p <;> simp only [compile, refused, error_bind]

theorem compile_of_rejected {p : Plan} {consumer : Schema} (physical : p.convention = .physical)
    (rejects : consumer.accepts p.schema = false) :
    p.compile consumer =
      .error (.schemaMismatch p.operator consumer.display p.schema.display) := by
  have refused : p.checkConsumer consumer =
      .error (.schemaMismatch p.operator consumer.display p.schema.display) := by
    simp only [checkConsumer, physical, Convention.checkPhysical, Schema.checkAccepts, rejects,
      ok_bind, Bool.false_eq_true, if_false]
  cases p <;> simp only [compile, refused, error_bind]

theorem compile_of_built {p : Plan} (built : p.Built) (consumer : Schema) :
    (match p.convention, consumer.accepts p.schema, p.tables.findSome? Table.fault? with
      | .logical, _, _ =>
        p.compile consumer = .error (.conventionMismatch p.operator .physical .logical)
      | .physical, false, _ =>
        p.compile consumer = .error (.schemaMismatch p.operator consumer.display p.schema.display)
      | .physical, true, some e => p.compile consumer = .error e
      | .physical, true, none => ∃ q, p.compile consumer = .ok q) ∧
      (p.checkConsumer consumer = .ok () →
        ∀ sink q, Visits consumer p sink q → q.checkConsumer sink = .ok ()) := by
  refine ⟨?_, built.typed.fits⟩
  rcases convention : p.convention with _ | _
  · exact compile_of_logical convention consumer
  rcases accepts : consumer.accepts p.schema with _ | _
  · exact compile_of_rejected convention accepts
  have outcome := built.typed.compile_outcome consumer convention accepts
  rw [openTables_eq, opened] at outcome
  rcases faults : p.tables.findSome? Table.fault? with _ | e
  · rw [faults] at outcome
    exact outcome.exists_ok
  · rw [faults] at outcome
    exact outcome.eq_error

/-- A join reads its right input first, here a union that is wider than its inputs, of which the
second does not open. -/
theorem compile_of_built_join :
    let ints (nullable : Bool) : Schema := ⟨[⟨"n", .int, nullable⟩]⟩
    let closed (name : String) : Plan := .scan ⟨name, ints false, .error (.io name)⟩
    let one : Plan := .values (ints false) [[.int 1]] .physical
    let right : Plan := .union (ints true) true [one, closed "b", closed "c"]
    let plan : Plan := .join none (closed "a") right
    let consumer (nullable : Bool) : Schema := (ints nullable).concat (ints nullable)
    plan.compile (consumer true) = .error (.io "b") ∧
      plan.compile (consumer false) = .error (.schemaMismatch "NestedLoopJoin"
        "(n BIGINT NOT NULL, n BIGINT NOT NULL)" "(n BIGINT NOT NULL, n BIGINT)") ∧
      one.checkConsumer (ints true) = .ok () ∧
      (Plan.values (ints true) [] .logical).compile (ints false) =
        .error (.conventionMismatch "Values" .physical .logical) := by
  intro ints closed one right plan consumer
  have union : right.Built := by
    refine @Built.union (ints true) [one, closed "b", closed "c"] true _ ?_ rfl
    simp only [List.forall_mem_cons]
    exact ⟨.values, .scan, .scan, List.forall_mem_nil _⟩
  have built : plan.Built := @Built.join (closed "a") right none _ .scan union rfl
  refine ⟨(compile_of_built built (consumer true)).1, ?_, ?_, ?_⟩
  · exact (compile_of_built built (consumer false)).1
  · refine (compile_of_built built (consumer true)).2 rfl (ints true) one ?_
    exact .right (.union List.mem_cons_self .root)
  · exact (compile_of_built (@Built.values (ints true) [] .logical) (ints false)).1

end Plan

end QueryFlow
