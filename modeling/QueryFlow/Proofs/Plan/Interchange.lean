import QueryFlow.Proofs.Expr.Narrowing
import QueryFlow.Proofs.Pipeline.Trace
import QueryFlow.Proofs.Plan.Compilation

/-!
# Interchangeable plans

Plans with the same schema, tables and trace are the same to every consumer and on every engine.
`trees_interchangeable`: a condition may stand in a join or in a filter above it, filters and
projections may stand above a union or in its branches, and a union may be part of another one.
-/

namespace QueryFlow

/-- What no consumer can tell apart. Only the number of predicates that filters evaluate differs. -/
structure Plan.Interchangeable (p p' : Plan) : Prop where
  schema : p'.schema = p.schema
  runs : ∀ consumer, consumer.accepts p.schema = true →
    (∃ e, p.compile consumer = .error e ∧ p'.compile consumer = .error e) ∨
      ∃ q q', p.compile consumer = .ok q ∧ p'.compile consumer = .ok q' ∧
        ∀ {σ : Type} (c : Consumer σ) (stop : σ → Option Error) (s : σ),
          (∃ tests, c.run stop q' s = { c.run stop q s with tests := tests }) ∧
            c.requests stop q' s = c.requests stop q s
  engines : ∀ (options : RunOptions) (g : Engine) (sink : Nat),
    (g.schema (.lazySink sink)).accepts p.schema = true →
      ∃ filters, g.run options ⟨p', sink⟩ =
        let ran := g.run options ⟨p, sink⟩
        (ran.1, { ran.2 with profile := { ran.2.profile with filters := filters } })

theorem Engine.run_of_trace {p p' : Plan} {q q' : Pipeline} {g : Engine} {sink : Nat}
    (options : RunOptions) (bound : (g.lazySink sink).isBound = true)
    (compiled : p.compile (g.schema (.lazySink sink)) = .ok q)
    (compiled' : p'.compile (g.schema (.lazySink sink)) = .ok q') (same : q'.trace = q.trace) :
    ∃ filters, g.run options ⟨p', sink⟩ =
      let ran := g.run options ⟨p, sink⟩
      (ran.1, { ran.2 with profile := { ran.2.profile with filters := filters } }) := by
  obtain ⟨tests, ran⟩ :=
    (consumer (.lazySink sink)).run_of_trace options.stop same g.countCompile
  rw [run_eq_run options bound compiled, run_eq_run options bound compiled', ran]
  exact ⟨g.profile.filters + tests, rfl⟩

namespace Plan

theorem interchangeable_of_trace {p p' : Plan} (typed : p.Typed) (typed' : p'.Typed)
    (physical : p.convention = .physical) (physical' : p'.convention = .physical)
    (schema : p'.schema = p.schema) (tables : p'.tables = p.tables) (trace : p'.trace = p.trace) :
    Interchangeable p p' := by
  have outcome (consumer : Schema) (accepts : consumer.accepts p.schema = true) :
      (∃ e, p.compile consumer = .error e ∧ p'.compile consumer = .error e) ∨
        ∃ q q', p.compile consumer = .ok q ∧ p'.compile consumer = .ok q' ∧ q'.trace = q.trace := by
    have first := typed.compile_outcome consumer physical accepts
    have second := typed'.compile_outcome consumer physical' (schema ▸ accepts)
    rw [openTables_eq, tables, ← openTables_eq] at second
    cases opened : p.openTables with
    | error e =>
      rw [opened] at first second
      exact .inl ⟨e, first.eq_error, second.eq_error⟩
    | ok u =>
      rw [opened] at first second
      obtain ⟨q, compiled⟩ := first.exists_ok
      obtain ⟨q', compiled'⟩ := second.exists_ok
      refine .inr ⟨q, q', compiled, compiled', ?_⟩
      rw [(compile_eq_ok_iff.1 compiled').trace, trace, (compile_eq_ok_iff.1 compiled).trace]
  refine ⟨schema, ?_, ?_⟩
  · intro consumer accepts
    refine (outcome consumer accepts).imp_right ?_
    rintro ⟨q, q', compiled, compiled', same⟩
    exact ⟨q, q', compiled, compiled', fun c stop s =>
      ⟨c.run_of_trace stop same s, c.requests_of_trace stop same s⟩⟩
  · intro options g sink accepts
    rcases bound : (g.lazySink sink).isBound with _ | _
    · rw [(Engine.run_of_unbound bound).1, (Engine.run_of_unbound bound).1]
      exact ⟨g.profile.filters, rfl⟩
    obtain ⟨e, failed, failed'⟩ | ⟨q, q', compiled, compiled', same⟩ := outcome _ accepts
    · rw [Engine.run_of_compile_error bound physical failed,
        Engine.run_of_compile_error bound physical' failed']
      exact ⟨g.profile.filters, rfl⟩
    · exact Engine.run_of_trace options bound compiled compiled' same

/-! ## Conditions of joins -/

theorem trace_filter_join (condition : Expr) (left right : Plan) :
    (filter condition (join none left right)).trace = (join (some condition) left right).trace := by
  have pairs (l : Row) (rows : List Row) :
      (Stream.paired none l rows).flatMap (Stream.selected condition) =
        Stream.paired (some condition) l rows := by
    rw [Stream.paired, Stream.flatMap_flatMapRows]
    simp only [Stream.matching, Stream.flatMap_single]
    rfl
  have kept (t : Stream) : t.kept.flatMap (Stream.selected condition) = t.kept := rfl
  simp only [trace, List.map_append, List.map_cons, List.map_map, Function.comp_def,
    Stream.flatMap_flatMap, Stream.flatMap_nil, pairs, kept]

theorem makeJoin_some_eq (left right : Plan) (condition : Expr) :
    makeJoin left right (some condition) =
      (fun _ => join (some condition) left right) <$>
        (makeJoin left right none >>= fun j => makeFilter j condition) := by
  simp only [makeJoin, makeFilter]
  rcases checkInputs "NestedLoopJoin" [left, right] with e | ⟨⟩
  · rfl
  have checked : (join none left right).schema = left.schema.concat right.schema := rfl
  simp only [ok_bind, pure, Except.pure, checkInputs, convention, Convention.checkPhysical, checked]
  rcases condition.checkPredicate (left.schema.concat right.schema) with e | ⟨⟩
  · rfl
  · rfl

theorem interchangeable_join {left right : Plan} (hl : left.Typed) (hr : right.Typed)
    {condition : Expr} :
    let whole := makeJoin left right (some condition)
    let apart := makeJoin left right none >>= fun j => makeFilter j condition
    (∀ e, whole = .error e ↔ apart = .error e) ∧
      ∀ p p', whole = .ok p → apart = .ok p' → Interchangeable p p' := by
  intro whole apart
  have same : whole = (fun _ => join (some condition) left right) <$> apart :=
    makeJoin_some_eq left right condition
  refine ⟨?_, ?_⟩
  · intro e
    rw [same]
    cases apart with
    | error e' => exact Iff.rfl
    | ok p => exact ⟨nofun, nofun⟩
  · intro p p' made made'
    obtain ⟨physicall, physicalr, checks, rfl⟩ := makeJoin_eq_ok.1 made
    obtain ⟨j, joined, filtered⟩ := bind_eq_ok.1 made'
    obtain ⟨-, -, -, rfl⟩ := makeJoin_eq_ok.1 joined
    obtain ⟨-, checked, rfl⟩ := makeFilter_eq_ok.1 filtered
    have typed : (join none left right).Typed := .join hl hr physicall physicalr nofun
    have filtered : (filter condition (join none left right)).Typed := .filter typed rfl checked
    exact interchangeable_of_trace (.join hl hr physicall physicalr checks) filtered rfl rfl rfl rfl
      (trace_filter_join condition left right)

/-! ## Operators over unions -/

theorem allTables_append (ps qs : List Plan) :
    allTables (ps ++ qs) = allTables ps ++ allTables qs := by
  induction ps with
  | nil => rfl
  | cons p ps ih => rw [List.cons_append, allTables, allTables, ih, List.append_assoc]

/-- `y` is the branch `x` of a union with an operator on top that does `f` to what a step gives. -/
structure Moved (schema : Schema) (f : Stream → Stream) (x y : Plan) : Prop where
  typed : y.Typed
  physical : y.convention = .physical
  accepts : schema.accepts y.schema = true
  tables : y.tables = x.tables
  trace : y.trace = x.trace.map f

variable {schema : Schema} {f : Stream → Stream} {make : Plan → Except Error Plan}
  {inputs : List Plan}

theorem exists_moved (moves : ∀ x ∈ inputs, ∃ y, make x = .ok y ∧ Moved schema f x y) :
    ∃ ys, inputs.mapM make = .ok ys ∧
      (∀ y ∈ ys, y.Typed ∧ y.convention = .physical ∧ schema.accepts y.schema = true) ∧
        allTables ys = allTables inputs ∧ traceAll ys = (traceAll inputs).map f := by
  induction inputs with
  | nil => exact ⟨[], rfl, List.forall_mem_nil _, rfl, rfl⟩
  | cons x xs ih =>
    obtain ⟨⟨y, made, moved⟩, rest⟩ := List.forall_mem_cons.1 moves
    obtain ⟨ys, madeRest, checked, tables, trace⟩ := ih rest
    refine ⟨y :: ys, ?_, ?_, ?_, ?_⟩
    · rw [List.mapM_cons, made, ok_bind, madeRest]
      rfl
    · exact List.forall_mem_cons.2 ⟨⟨moved.typed, moved.physical, moved.accepts⟩, checked⟩
    · rw [allTables, allTables, moved.tables, tables]
    · rw [traceAll, traceAll, moved.trace, trace, List.map_append]

theorem interchangeable_union {p : Plan} (typed : p.Typed) (physical : p.convention = .physical)
    (tables : p.tables = allTables inputs) (trace : p.trace = (traceAll inputs).map f)
    (moves : ∀ x ∈ inputs, ∃ y, make x = .ok y ∧ Moved p.schema f x y) (all : Bool) :
    ∃ p', (inputs.mapM make >>= fun ys => makeUnion p.schema ys all) = .ok p' ∧
      Interchangeable p p' := by
  obtain ⟨ys, made, checked, tables', trace'⟩ := exists_moved moves
  have union : makeUnion p.schema ys all = .ok (.union p.schema all ys) :=
    makeUnion_eq_ok.2 ⟨fun y mem => (checked y mem).2.1, fun y mem => (checked y mem).2.2, rfl⟩
  have typed' : (Plan.union p.schema all ys).Typed :=
    .union (fun y mem => (checked y mem).1) (fun y mem => (checked y mem).2.1)
      fun y mem => (checked y mem).2.2
  refine ⟨_, bind_eq_ok.2 ⟨ys, made, union⟩, ?_⟩
  exact interchangeable_of_trace typed typed' physical rfl rfl (tables'.trans tables.symm)
    (trace'.trans trace.symm)

theorem interchangeable_filter_union (typed : ∀ x ∈ inputs, x.Typed) {all : Bool} {predicate : Expr}
    {p : Plan} (all' : Bool)
    (made : (makeUnion schema inputs all >>= fun u => makeFilter u predicate) = .ok p) :
    ∃ p', (inputs.mapM (makeFilter · predicate) >>= fun ys => makeUnion schema ys all') = .ok p' ∧
      Interchangeable p p' := by
  obtain ⟨u, union, filtered⟩ := bind_eq_ok.1 made
  obtain ⟨physical, accepts, rfl⟩ := makeUnion_eq_ok.1 union
  obtain ⟨-, checked, rfl⟩ := makeFilter_eq_ok.1 filtered
  refine interchangeable_union (f := Stream.flatMap (Stream.selected predicate))
    (.filter (.union typed physical accepts) rfl checked) rfl rfl rfl (fun x mem => ?_) all'
  have narrowed := Expr.checkPredicate_of_accepts (accepts x mem) checked
  exact ⟨filter predicate x, makeFilter_eq_ok.2 ⟨physical x mem, narrowed, rfl⟩,
    .filter (typed x mem) (physical x mem) narrowed, rfl, accepts x mem, rfl, rfl⟩

theorem interchangeable_project_union (typed : ∀ x ∈ inputs, x.Typed) {all : Bool}
    {fields : List Field} {p : Plan} (all' : Bool)
    (made : (makeUnion schema inputs all >>= fun u => makeProject u fields) = .ok p) :
    ∃ p', (inputs.mapM (makeProject · fields) >>= fun ys => makeUnion p.schema ys all') = .ok p' ∧
      Interchangeable p p' := by
  obtain ⟨u, union, projected⟩ := bind_eq_ok.1 made
  obtain ⟨physical, accepts, rfl⟩ := makeUnion_eq_ok.1 union
  obtain ⟨-, columns, derived, rfl⟩ := makeProject_eq_ok.1 projected
  refine interchangeable_union (f := Stream.flatMap (Stream.computed fields))
    (.project (.union typed physical accepts) rfl derived) rfl rfl rfl (fun x mem => ?_) all'
  obtain ⟨narrowed, derived', accepted⟩ := Field.columns_of_accepts (accepts x mem) derived
  exact ⟨project ⟨narrowed⟩ fields x, makeProject_eq_ok.2 ⟨physical x mem, narrowed, derived', rfl⟩,
    .project (typed x mem) (physical x mem) derived', rfl, accepted, rfl, rfl⟩

/-! ## Unions in unions -/

theorem forall_mem_splice {P : Plan → Prop} {before inner after : List Plan} {u : Plan}
    (outer : ∀ q ∈ before ++ [u] ++ after, P q) (each : P u → ∀ q ∈ inner, P q) :
    ∀ q ∈ before ++ inner ++ after, P q := by
  simp only [List.forall_mem_append, List.forall_mem_singleton] at outer ⊢
  obtain ⟨⟨first, middle⟩, last⟩ := outer
  exact ⟨⟨first, each middle⟩, last⟩

theorem interchangeable_union_union {schema' : Schema} {before inner after : List Plan}
    {all all' : Bool} {p : Plan} (typed : ∀ x ∈ before ++ inner ++ after, x.Typed) (all'' : Bool)
    (made : (makeUnion schema' inner all' >>= fun u =>
      makeUnion schema (before ++ [u] ++ after) all) = .ok p) :
    ∃ p', makeUnion schema (before ++ inner ++ after) all'' = .ok p' ∧ Interchangeable p p' := by
  obtain ⟨u, union, outer⟩ := bind_eq_ok.1 made
  obtain ⟨physical, accepts, rfl⟩ := makeUnion_eq_ok.1 union
  obtain ⟨physicals, accepted, rfl⟩ := makeUnion_eq_ok.1 outer
  have physicals' := forall_mem_splice (P := fun q => q.convention = .physical) physicals
    fun _ => physical
  have accepted' := forall_mem_splice (P := fun q => schema.accepts q.schema = true) accepted
    fun outer q mem => Schema.accepts_trans outer (accepts q mem)
  refine ⟨_, makeUnion_eq_ok.2 ⟨physicals', accepted', rfl⟩, ?_⟩
  simp only [List.forall_mem_append] at typed
  obtain ⟨⟨typedBefore, typedInner⟩, typedAfter⟩ := typed
  have whole : (Plan.union schema all (before ++ [.union schema' all' inner] ++ after)).Typed := by
    refine .union ?_ physicals accepted
    simp only [List.forall_mem_append, List.forall_mem_singleton]
    exact ⟨⟨typedBefore, .union typedInner physical accepts⟩, typedAfter⟩
  have flat : (Plan.union schema all'' (before ++ inner ++ after)).Typed := by
    refine .union ?_ physicals' accepted'
    simp only [List.forall_mem_append]
    exact ⟨⟨typedBefore, typedInner⟩, typedAfter⟩
  refine interchangeable_of_trace whole flat rfl rfl rfl ?_ ?_
  · simp only [tables, allTables_append, allTables, List.append_nil]
  · simp only [trace, traceAll_append, traceAll, List.append_nil]

theorem trees_interchangeable :
    (∀ (left right : Plan) (condition : Expr), left.Built → right.Built →
      let whole := makeJoin left right (some condition)
      let apart := makeJoin left right none >>= fun j => makeFilter j condition
      (∀ e, whole = .error e ↔ apart = .error e) ∧
        ∀ p p', whole = .ok p → apart = .ok p' → Interchangeable p p') ∧
    (∀ (schema : Schema) (inputs : List Plan) (all : Bool) (predicate : Expr) (p : Plan),
      (∀ x ∈ inputs, x.Built) →
      (makeUnion schema inputs all >>= fun u => makeFilter u predicate) = .ok p → ∀ all', ∃ p',
        (inputs.mapM (makeFilter · predicate) >>= fun ys => makeUnion schema ys all') = .ok p' ∧
          Interchangeable p p') ∧
    (∀ (schema : Schema) (inputs : List Plan) (all : Bool) (fields : List Field) (p : Plan),
      (∀ x ∈ inputs, x.Built) →
      (makeUnion schema inputs all >>= fun u => makeProject u fields) = .ok p → ∀ all', ∃ p',
        (inputs.mapM (makeProject · fields) >>= fun ys => makeUnion p.schema ys all') = .ok p' ∧
          Interchangeable p p') ∧
    ∀ (schema schema' : Schema) (before inner after : List Plan) (all all' : Bool) (p : Plan),
      (∀ x ∈ before ++ inner ++ after, x.Built) →
      (makeUnion schema' inner all' >>= fun u => makeUnion schema (before ++ [u] ++ after) all) =
        .ok p → ∀ all'', ∃ p',
          makeUnion schema (before ++ inner ++ after) all'' = .ok p' ∧ Interchangeable p p' := by
  refine ⟨?_, ?_, ?_, ?_⟩
  · intro left right condition hl hr
    exact interchangeable_join hl.typed hr.typed
  · intro schema inputs all predicate p built made all'
    exact interchangeable_filter_union (fun x mem => (built x mem).typed) all' made
  · intro schema inputs all fields p built made all'
    exact interchangeable_project_union (fun x mem => (built x mem).typed) all' made
  · intro schema schema' before inner after all all' p built made all''
    exact interchangeable_union_union (fun x mem => (built x mem).typed) all'' made

theorem trees_interchangeable_nullable :
    let ints (nullable : Bool) : Schema := ⟨[⟨"n", .int, nullable⟩]⟩
    let doubles : Schema := ⟨[⟨"d", .float, false⟩]⟩
    let one : Value := .float ⟨0x3ff0000000000000⟩
    let nan : Value := .float (.notANumber false)
    let left : Plan := .values (ints false) [[.int 0]] .physical
    let right : Plan := .values doubles [[one], [nan]] .physical
    let less : Expr := .compare .lt (.column 0) (.column 1)
    let gaps : Plan := .values (ints true) [[.null], [.int 3]] .physical
    let union : Plan := .union (ints true) true [left, gaps]
    let positive : Expr := .compare .lt (.literal (.int 0)) (.column 0)
    let fields : List Field := [⟨positive, "p"⟩]
    let flag (nullable : Bool) : Schema := ⟨[⟨"p", .bool, nullable⟩]⟩
    Interchangeable (.join (some less) left right) (.filter less (.join none left right)) ∧
      Interchangeable (.filter positive union)
        (.union (ints true) false [.filter positive left, .filter positive gaps]) ∧
      Interchangeable (.project (flag true) fields union)
        (.union (flag true) true
          [.project (flag false) fields left, .project (flag true) fields gaps]) ∧
      Interchangeable (.union (ints true) true [gaps, union, left])
        (.union (ints true) true [gaps, left, gaps, left]) := by
  intro ints doubles one nan left right less gaps union positive fields flag
  have built : ∀ x ∈ [left, gaps], x.Built := by
    simp only [List.forall_mem_cons]
    exact ⟨.values, .values, List.forall_mem_nil _⟩
  obtain ⟨join, filter, project, splice⟩ := trees_interchangeable
  refine ⟨(join left right less .values .values).2 _ _ rfl rfl, ?_, ?_, ?_⟩
  · obtain ⟨p', made, same⟩ := filter (ints true) [left, gaps] true positive _ built rfl false
    cases made
    exact same
  · obtain ⟨p', made, same⟩ := project (ints true) [left, gaps] true fields _ built rfl true
    cases made
    exact same
  · have all : ∀ x ∈ [gaps] ++ [left, gaps] ++ [left], x.Built := by
      simp only [List.forall_mem_append, List.forall_mem_singleton]
      exact ⟨⟨.values, built⟩, .values⟩
    obtain ⟨p', made, same⟩ :=
      splice (ints true) (ints true) [gaps] [left, gaps] [left] true true _ all rfl true
    cases made
    exact same

end Plan

end QueryFlow
