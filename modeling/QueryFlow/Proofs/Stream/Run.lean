import QueryFlow.Proofs.Engine.Counters
import QueryFlow.Proofs.Stream.Refinement

/-!
# Runs deliver streams

`run_refines_stream`: whatever the terminal consumer refuses, a drive of a compiled plan offers it
the rows of the plan's stream in order and ends as the stream or the first refusal says; a run on an
engine that has no deadline and is not cancelled does the same to the sink of its entry, which is
told the end exactly if nothing failed.
-/

namespace QueryFlow

theorem Stream.deliver_comm {σ : Type} {push : Row → σ → Except Failure Unit × σ} {f : σ → σ}
    (comm : ∀ r s, push r (f s) = ((push r s).1, f (push r s).2)) (t : Stream) (s : σ) :
    t.deliver push (f s) = ((t.deliver push s).1, f (t.deliver push s).2) := by
  obtain ⟨rows, ending⟩ := t
  simp only [deliver]
  induction rows generalizing s with
  | nil => rfl
  | cons r rs ih =>
    rw [deliverRows, deliverRows, comm]
    rcases push r s with ⟨⟨⟩ | ⟨⟩, s'⟩
    · rfl
    · exact ih s'

namespace Engine

theorem deliver_counters (t : Stream) (sink : SinkId) (g : Engine) (p : Profile) :
    t.deliver (push sink) { g with profile := p } =
      ((t.deliver (push sink) g).1, { (t.deliver (push sink) g).2 with profile := p }) :=
  Stream.deliver_comm (f := fun g => { g with profile := p })
    (fun r g => push_counters g p sink r) t g

theorem drive_pipe {options : RunOptions} (free : ∀ g, options.stop g = none) (q : Pipeline)
    (next terminal : SinkId) (g : Engine) (p : Profile) :
    ∃ steps counters, drive options (.pipe q next) terminal { g with profile := p } =
      match q.stream.deliver (push next) g with
      | (.error e, h) => (.error e, { h with profile := counters })
      | (.ok (), h) =>
        ((h.finish terminal).1.map fun _ => steps,
          { (h.finish terminal).2 with profile := counters }) := by
  unfold drive
  have delivered : _ = q.stream.deliver (push next) { g with profile := p } :=
    Source.drive_pipe free q next _
  rw [deliver_counters] at delivered
  generalize Source.drive options.stop push (.pipe q next) { g with profile := p } = d
    at delivered ⊢
  obtain ⟨result, steps, tests, state⟩ := d
  obtain ⟨rfl, rfl⟩ := Prod.mk.inj delivered
  rcases q.stream.deliver (push next) g with ⟨e | _, h⟩
  · exact ⟨steps, _, rfl⟩
  · refine ⟨steps, (({ h with profile := p }.countFilters tests).countDrive steps).profile, ?_⟩
    exact congrArg (fun r : Except Failure Unit × Engine => (r.1.map fun _ => steps, r.2))
      (finish_counters h _ terminal)

theorem run_eq {options : RunOptions} (free : ∀ g, options.stop g = none) {plan : Plan} {sink : Nat}
    {g : Engine} (bound : (g.lazySink sink).isBound = true) {q : Pipeline}
    (compiled : plan.compile (g.schema (.lazySink sink)) = .ok q) :
    ∃ steps counters, g.run options ⟨plan, sink⟩ =
      match plan.stream.deliver (push (.lazySink sink)) g with
      | (.error e, h) => (.error e, { h with profile := counters })
      | (.ok (), h) =>
        ((h.finish (.lazySink sink)).1.map fun _ => steps,
          { (h.finish (.lazySink sink)).2 with profile := counters }) := by
  have rules := Plan.compile_eq_ok_iff.1 compiled
  obtain ⟨steps, counters, driven⟩ :=
    drive_pipe free q (.lazySink sink) (.lazySink sink) g g.countCompile.profile
  rw [rules.stream] at driven
  refine ⟨steps, counters, ?_⟩
  rw [← driven]
  simp only [run, LazySink.checkBound, bound, if_true, compilePlan, rules.physical,
    Convention.checkPhysical, compiled, Except.map]
  rfl

end Engine

theorem run_refines_stream (plan : Plan) :
    (∀ consumer q, plan.compile consumer = .ok q →
      ∀ {δ σ : Type} (push : δ → Row → σ → Except Failure Unit × σ) (next : δ) (s : σ),
        let d := Source.drive (fun _ => none) push (.pipe q next) s
        (d.result, d.state) = plan.stream.deliver (push next) s) ∧
    ∀ (options : RunOptions) (g : Engine) (sink : Nat) (q : Pipeline),
      options.timeout = none → (options.token = none ∨ options.token = some (.fixed false)) →
      (g.lazySink sink).isBound = true →
      plan.compile (g.schema (.lazySink sink)) = .ok q →
      ∃ steps counters, g.run options ⟨plan, sink⟩ =
        match plan.stream.deliver (Engine.push (.lazySink sink)) g with
        | (.error e, h) => (.error e, { h with profile := counters })
        | (.ok (), h) =>
          ((h.finish (.lazySink sink)).1.map fun _ => steps,
            { (h.finish (.lazySink sink)).2 with profile := counters }) := by
  refine ⟨?_, ?_⟩
  · intro consumer q compiled δ σ push next s
    rw [← (Plan.compile_eq_ok_iff.1 compiled).stream]
    exact Source.drive_pipe (fun _ => rfl) q next s
  · intro options g sink q untimed token bound compiled
    have free (h : Engine) : options.stop h = none := by
      rcases token with absent | unset
      · simp [RunOptions.stop, untimed, absent]
      · simp [RunOptions.stop, untimed, unset]
    exact Engine.run_eq free bound compiled

/-- A condition that fails part way through a left row wins over the table that fails later. -/
theorem run_refines_stream_nan :
    let ints : Schema := ⟨[⟨"n", .int, false⟩]⟩
    let doubles : Schema := ⟨[⟨"d", .float, false⟩]⟩
    let less : Expr := .compare .lt (.column 0) (.column 1)
    let one : Value := .float ⟨0x3ff0000000000000⟩
    let nan : Value := .float (.notANumber false)
    let plan : Plan := .join (some less)
      (.union ints true
        [.values ints [[.int 0]] .physical, .scan ⟨"t", ints, .ok [.error .cancelled]⟩])
      (.values doubles [[one], [nan]] .physical)
    let engine : Engine :=
      ⟨#[.empty plan.schema .keep], #[⟨plan.schema, some (.buffer 0)⟩], false, ⟨0, 0, 0, 0⟩⟩
    let failure : Failure := .error (.eval (.incomparable (.int 0) .lt nan))
    (∃ q, plan.compile plan.schema = .ok q ∧
      let d := Source.drive (fun _ => none)
        (fun (_ : Unit) r (seen : List Row) => (.ok (), seen ++ [r])) (.pipe q ()) []
      (d.result, d.state) = (.error failure, [[.int 0, one]])) ∧
    ∃ counters, engine.run .unlimited ⟨plan, 0⟩ =
      (.error failure, { engine with
        buffers := #[⟨plan.schema, .keep, #[[.int 0, one]], false⟩], profile := counters }) := by
  intro ints doubles less one nan plan engine failure
  refine ⟨⟨_, rfl, (run_refines_stream plan).1 plan.schema _ rfl _ () []⟩, ?_⟩
  obtain ⟨steps, counters, ran⟩ :=
    (run_refines_stream plan).2 .unlimited engine 0 _ rfl (.inl rfl) rfl rfl
  exact ⟨counters, ran⟩

end QueryFlow
