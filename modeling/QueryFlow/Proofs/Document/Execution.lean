import QueryFlow.Proofs.Document.Built
import QueryFlow.Proofs.Engine.Execution

/-!
# Executions of documents

`execute_of_parse`: a document that parses and builds cannot fail for its data. Its execution is
refused if the root is logical, or a file is read; otherwise it collects the rows of the stream.
-/

namespace QueryFlow

theorem Plan.operator_of_logical {p : Plan} (logical : p.convention = .logical) :
    p.operator = "Values" := by
  cases p with
  | values => rfl
  | scan | filter | project | union | join => cases logical

theorem execute_of_parse {text : String} {d : Document} {plan : Plan}
    (parsed : Document.parse text = .ok d) (built : d.build = .ok plan) (g : Engine) :
    let result := (g.execute .unlimited plan).1
    if d.plan.convention = .logical then
      result = .error (.error (.conventionMismatch "Values" .physical .logical))
    else if d.plan.readsFile = true then
      result = .error (.error (.unsupported "parquet file scan"))
    else ∃ steps, result = .ok ⟨plan.schema, plan.stream.rows, steps⟩ := by
  have made := Document.makes_of_build (Document.numeric_parse parsed) built
  have bound : ((g.attached plan.schema).lazySink g.lazySinks.size).isBound = true := by
    rw [Engine.lazySink_attached]
    rfl
  have schema : (g.attached plan.schema).schema (.lazySink g.lazySinks.size) = plan.schema := by
    rw [Engine.schema, Engine.lazySink_attached]
  simp only [Engine.execute_eq]
  -- The convention of the root is checked before any table is opened.
  by_cases logical : d.plan.convention = .logical
  · have root := made.convention.trans logical
    rw [if_pos logical, Engine.run_of_logical bound root, Plan.operator_of_logical root]
  have physical : plan.convention = .physical := by
    rw [made.convention]
    cases h : d.plan.convention with
    | logical => exact absurd h logical
    | physical => rfl
  have outcome := made.typed.compile_outcome plan.schema physical (Schema.accepts_refl _)
  rw [made.opens, ← schema] at outcome
  rw [if_neg logical]
  by_cases files : d.plan.readsFile = true
  · rw [files] at outcome
    rw [if_pos files, Engine.run_of_compile_error bound physical outcome.eq_error]
  · have memory := Bool.eq_false_iff.2 files
    rw [memory] at outcome
    rw [if_neg files]
    obtain ⟨q, compiled⟩ := outcome.exists_ok
    have clean := (made.clean memory).stream made.typed
    have free : ∀ h, RunOptions.unlimited.stop h = none := fun _ => rfl
    obtain ⟨steps, h, ran, rows⟩ :=
      Engine.run_of_keeps free bound (g.keeps_attached _) compiled clean.ending
    rw [Engine.buffer_attached] at rows
    refine ⟨steps, ?_⟩
    simp only [ran, rows]
    rfl

theorem execute_of_parse_filter :
    let text := "[\x7b\"t\":[[[\"n\",\"Int\",true]]," ++
      "[[[\"Int\",0]],[[\"Null\",null]],[[\"Int\",1]]]]\x7d," ++
      "[\"filter\",\x7b\"cmp\":[\"lt\",\x7b\"column\":0\x7d," ++
      "\x7b\"literal\":[\"Float\",0.5]\x7d]\x7d,[\"scan\",\"t\"]]]"
    let schema : Schema := ⟨[⟨"n", .int, true⟩]⟩
    ∃ d plan steps, Document.parse text = .ok d ∧ d.build = .ok plan ∧
      (Engine.initial.execute .unlimited plan).1 = .ok ⟨schema, [[.int 0]], steps⟩ := by
  intro text schema
  have evaluated : ((Document.parse text).toOption.bind fun d => d.build.toOption.map fun p =>
      (d.plan.convention, d.plan.readsFile, p.schema, p.stream.rows)) =
      some (.physical, false, schema, [[.int 0]]) := by
    decide +kernel
  rcases parsed : Document.parse text with e | d
  · rw [parsed] at evaluated
    cases evaluated
  rcases built : d.build with e | plan
  · rw [parsed, Except.toOption, Option.bind_some, built] at evaluated
    cases evaluated
  rw [parsed, Except.toOption, Option.bind_some, built] at evaluated
  simp only [Except.toOption, Option.map_some, Option.some.injEq, Prod.mk.injEq] at evaluated
  obtain ⟨convention, files, schemas, rows⟩ := evaluated
  have executed := execute_of_parse parsed built .initial
  simp only [convention, files, schemas, rows, reduceCtorEq, Bool.false_eq_true,
    if_false] at executed
  obtain ⟨steps, executed⟩ := executed
  exact ⟨d, plan, steps, rfl, built, executed⟩

end QueryFlow
