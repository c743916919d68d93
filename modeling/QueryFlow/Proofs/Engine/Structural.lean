import QueryFlow.Proofs.Engine.Effects
import QueryFlow.Proofs.Pipeline.Lenient
import QueryFlow.Proofs.Stream.Failing

/-!
# Structural errors

An error is structural if it belongs to a plan and not to a run of it. `structural_before_steps`: a
run whose rows end up in a buffer reports such an error before its first step. A run whose chain of
lazy sinks ends before a buffer does so only if the first of them is the one that is unbound.
-/

namespace QueryFlow

/-! ## How deliveries and drives fail -/

section

variable {σ : Type} {P : σ → Prop} {Q : Failure → Prop}

/-- A consumer keeps `P` and refuses rows only with failures of `Q`. -/
def RefusesWith (P : σ → Prop) (Q : Failure → Prop) (push : Row → σ → Except Failure Unit × σ) :
    Prop :=
  ∀ r s, P s → P (push r s).2 ∧ ∀ f, (push r s).1 = .error f → Q f

theorem Burst.deliver_fails {push : Row → σ → Except Failure Unit × σ}
    (refuses : RefusesWith P Q push) (b : Burst)
    (ending : ∀ e, b.stream.ending = some e → Q (.error e)) (s : σ) (h : P s) :
    ∀ f, (b.deliver push s).result = .error f → Q f := by
  induction b generalizing s with
  | quiet => exact nofun
  | failed e =>
    rintro f ⟨⟩
    exact ending e rfl
  | passed i r rest ih => exact ih ending s h
  | row r rest ih =>
    obtain ⟨kept, refused⟩ := refuses r s h
    intro f failed
    rw [deliver] at failed
    generalize push r s = answer at kept refused failed
    obtain ⟨e | ⟨⟩, s'⟩ := answer
    · exact refused f failed
    · exact ih ending s' kept f failed

namespace Source

variable {δ : Type} {stop : σ → Option Error} {push : δ → Row → σ → Except Failure Unit × σ}
  {next : δ}

theorem drive_fails (stops : ∀ s e, stop s = some e → Q (.error e))
    (refuses : RefusesWith P Q (push next)) (q : Pipeline)
    (ending : ∀ e, q.stream.ending = some e → Q (.error e)) (s : σ) (h : P s) :
    ∀ f, (drive stop push (.pipe q next) s).result = .error f → Q f := by
  rcases stopped : stop s with _ | e
  · rcases step : q.step? with _ | ⟨b, rest⟩
    · rw [drive_of_ends stopped (by rw [step?, step])]
      exact nofun
    · have shorter := Pipeline.remaining_step? q b rest step
      have endings : q.stream.ending = b.stream.ending.or rest.stream.ending := by
        rw [(Pipeline.steps_of_step? q b rest step).stream, Stream.ending_append]
      have first := b.deliver_fails refuses
        (fun e failed => ending e (by rw [endings, failed]; rfl)) s h
      have kept := deliver_keeps (fun r s h => (refuses r s h).1) b s h
      have ended (delivered : (b.deliver (push next) s).result = .ok ()) :
          q.stream.ending = rest.stream.ending := by
        rw [endings, Burst.ending_of_delivered delivered]
        rfl
      rw [drive_of_step stopped (by rw [step?, step])]
      generalize b.deliver (push next) s = d at first kept ended
      obtain ⟨f | ⟨⟩, tests, s'⟩ := d
      · exact first
      -- A step that succeeds leaves the end of the stream to the steps that follow.
      · rw [ended rfl] at ending
        exact drive_fails stops refuses rest ending s' kept
  · rw [drive_of_stop stopped]
    rintro f ⟨⟩
    exact stops s e stopped
termination_by q.remaining
decreasing_by omega

end Source

end

/-! ## Consumers that refuse every row -/

def Stream.refused (f : Failure) : Stream → Except Failure Unit
  | ⟨_ :: _, _⟩ => .error f
  | ⟨[], some e⟩ => .error (.error e)
  | ⟨[], none⟩ => .ok ()

section

variable {δ σ : Type} {s : σ} {f : Failure}

theorem Stream.deliver_refused {push : Row → σ → Except Failure Unit × σ}
    (refuses : ∀ r, push r s = (.error f, s)) (t : Stream) :
    t.deliver push s = (t.refused f, s) := by
  obtain ⟨_ | ⟨r, rows⟩, _ | e⟩ := t
  · rfl
  · rfl
  · simp only [deliver, deliverRows, refuses, refused]
  · simp only [deliver, deliverRows, refuses, refused]

theorem Burst.rows_offers_refused {push : Row → σ → Except Failure Unit × σ}
    (refuses : ∀ r, push r s = (.error f, s)) (b : Burst) :
    Offer.rows (b.offers push s) = b.stream.rows.take 1 := by
  induction b with
  | quiet | failed e => rfl
  | passed i r rest ih => exact ih
  | row r rest ih =>
    rw [offers, refuses]
    rfl

theorem Source.drive_refused {stop : σ → Option Error}
    {push : δ → Row → σ → Except Failure Unit × σ} {next : δ} (free : stop s = none)
    (refuses : ∀ r, push next r s = (.error f, s)) (q : Pipeline) :
    let d := drive stop push (.pipe q next) s
    d.result = q.stream.refused f ∧ d.state = s ∧ 0 < d.steps ∧
      Offer.rows (q.offers (push next) d.steps s) = q.stream.rows.take 1 := by
  rcases step : q.step? with _ | ⟨b, rest⟩
  · rw [drive_of_ends free (by rw [step?, step]), (Pipeline.ends_of_step? q step).stream]
    refine ⟨rfl, rfl, Nat.one_pos, ?_⟩
    rw [Pipeline.offers, step]
    rfl
  · have shorter := Pipeline.remaining_step? q b rest step
    obtain ⟨result, state, _, later⟩ := drive_refused free refuses rest
    have delivered := Burst.deliver_stream (push next) b s
    rw [Stream.deliver_refused refuses] at delivered
    have offered (n : Nat) : Offer.rows (q.offers (push next) (n + 1) s) =
        b.stream.rows.take 1 ++ Offer.rows (rest.offers (push next) n s) := by
      rw [Pipeline.offers, step, ← b.rows_offers_refused refuses]
      simp only [(Prod.mk.inj delivered).2]
      exact List.filterMap_append
    rw [drive_of_step free (by rw [step?, step]), (Pipeline.steps_of_step? q b rest step).stream]
    generalize b.deliver (push next) s = taken at delivered
    obtain ⟨result', tests, s'⟩ := taken
    obtain ⟨rfl, rfl⟩ := Prod.mk.inj delivered
    generalize b.stream = t at offered
    -- Only a step without a row and without a failure is followed by another.
    obtain ⟨_ | ⟨r, rows⟩, _ | e⟩ := t
    · refine ⟨result, state, Nat.succ_pos _, ?_⟩
      exact (offered _).trans later
    · exact ⟨rfl, rfl, Nat.one_pos, offered 0⟩
    · exact ⟨rfl, rfl, Nat.one_pos, offered 0⟩
    · exact ⟨rfl, rfl, Nat.one_pos, offered 0⟩
termination_by q.remaining
decreasing_by omega

end

namespace Engine

variable {options : RunOptions} {g : Engine} {b : Nat}

theorem stop_not_structural (e : Error) (stopped : options.stop g = some e) :
    e.isStructural = false := by
  unfold RunOptions.stop at stopped
  extract_lets cancelled at stopped
  split_ifs at stopped with h timeout
  · cases stopped
    rfl
  · cases stopped
    rfl

theorem refusal_not_structural {x : Buffer} {e : Error} (refused : x.refusal? = some e) :
    e.isStructural = false := by
  unfold Buffer.refusal? at refused
  split at refused
  · split at refused
    · cases refused
      rfl
    · cases refused
  · cases refused
  · cases refused

def OfRun (f : Failure) : Prop := ∃ e, f = .error e ∧ e.isStructural = false

theorem refusesWith_push {sink : SinkId} :
    RefusesWith (fun h => h.route sink = .buffer b) OfRun (push sink) := by
  intro r h route
  refine ⟨(route_congr (sameSinks_push h sink r).lazySinks sink).trans route, ?_⟩
  intro f failed
  simp only [push, route] at failed
  rcases refused : (h.buffer b).refusal? with _ | e
  · simp only [refused, reduceCtorEq] at failed
  · simp only [refused, Except.error.injEq] at failed
    exact ⟨e, failed.symm, refusal_not_structural refused⟩

theorem finish_of_route {sink : SinkId} (route : g.route sink = .buffer b) :
    (finish sink g).1 = .ok () := by
  simp only [finish, route]

theorem drive_not_structural {sink : SinkId} {q : Pipeline} (stream : q.stream.FailsOnRow)
    (route : g.route sink = .buffer b) {f : Failure}
    (failed : (g.drive options (.pipe q sink) sink).1 = .error f) : OfRun f := by
  have stops (h : Engine) (e : Error) (stopped : options.stop h = some e) : OfRun (.error e) :=
    ⟨e, rfl, stop_not_structural e stopped⟩
  have ending (e : Error) (ended : q.stream.ending = some e) : OfRun (.error e) := by
    obtain ⟨cause, rfl⟩ := stream e ended
    exact ⟨_, rfl, rfl⟩
  have fails := Source.drive_fails stops refusesWith_push q ending g route
  have routed : (Source.drive options.stop push (.pipe q sink) g).state.route sink = .buffer b :=
    Source.drive_keeps (P := fun h => h.route sink = .buffer b)
      (fun next r h same => (route_congr (sameSinks_push h next r).lazySinks sink).trans same)
      (.pipe q sink) g route
  unfold drive at failed
  generalize Source.drive options.stop push (.pipe q sink) g = d at fails routed failed
  obtain ⟨f' | ⟨⟩, steps, tests, state⟩ := d
  · cases failed
    exact fails _ rfl
  · have counted : ((state.countFilters tests).countDrive steps).route sink = .buffer b :=
      (route_counters state _ sink).trans routed
    simp only [finish_of_route counted] at failed
    cases failed

/-! ## Runs -/

/-- The rows that a run offers, to the sinks between operators and to the one of its entry. -/
def offersOfRun (options : RunOptions) (entry : Entry) (g : Engine) : List Offer :=
  match (g.lazySink entry.sink).checkBound with
  | .error _ => []
  | .ok () =>
    match g.compilePlan entry.plan (.lazySink entry.sink) with
    | (.ok (.pipe q next), h) =>
      q.offers (push next) (Source.drive options.stop push (.pipe q next) h).steps h
    | _ => []

variable {plan : Plan} {sink : Nat}

theorem run_of_unbound (unbound : (g.lazySink sink).isBound = false) :
    g.run options ⟨plan, sink⟩ = (.error (.error (.unbound "lazy sink")), g) ∧
      g.offersOfRun options ⟨plan, sink⟩ = [] := by
  simp [run, offersOfRun, LazySink.checkBound, unbound]

theorem run_of_compiled (options : RunOptions) (bound : (g.lazySink sink).isBound = true)
    {q : Pipeline} (compiled : plan.compile (g.schema (.lazySink sink)) = .ok q) :
    let source : Source SinkId := .pipe q (.lazySink sink)
    g.run options ⟨plan, sink⟩ = g.countCompile.drive options source (.lazySink sink) ∧
      g.offersOfRun options ⟨plan, sink⟩ =
        q.offers (push (.lazySink sink))
          (Source.drive options.stop push source g.countCompile).steps g.countCompile := by
  have physical := (Plan.compile_eq_ok_iff.1 compiled).physical
  simp [run, offersOfRun, LazySink.checkBound, bound, compilePlan, physical,
    Convention.checkPhysical, compiled, Except.map]

theorem run_of_refused (bound : (g.lazySink sink).isBound = true)
    (refused : ∀ q, plan.compile (g.schema (.lazySink sink)) ≠ .ok q) :
    (∃ compiles, (g.run options ⟨plan, sink⟩).2 =
      { g with profile := { g.profile with compiles := compiles } }) ∧
      g.offersOfRun options ⟨plan, sink⟩ = [] := by
  simp only [run, offersOfRun, LazySink.checkBound, bound, if_true, compilePlan]
  rcases plan.convention.checkPhysical plan.operator with e | ⟨⟩
  · exact ⟨⟨_, rfl⟩, rfl⟩
  · rcases compiled : plan.compile (g.schema (.lazySink sink)) with e | q
    · exact ⟨⟨_, rfl⟩, rfl⟩
    · exact absurd compiled (refused q)

theorem push_of_unbound {sink : SinkId} (route : g.route sink = .unbound) (r : Row) :
    push sink r g = (.error (.error (.unbound "lazy sink")), g) := by
  simp only [push, route]

theorem finish_of_unbound {sink : SinkId} (route : g.route sink = .unbound) :
    finish sink g = (.error (.error (.unbound "lazy sink")), g) := by
  simp only [finish, route]

theorem drive_of_unbound {sink : SinkId} (route : g.route sink = .unbound)
    (free : options.stop g = none) (q : Pipeline) :
    let ran := g.drive options (.pipe q sink) sink
    ran.1 = .error (.error (match q.stream with | ⟨[], some e⟩ => e | _ => .unbound "lazy sink")) ∧
      g.profile.steps < ran.2.profile.steps ∧
      Offer.rows (q.offers (push sink) (Source.drive options.stop push (.pipe q sink) g).steps g) =
        q.stream.rows.take 1 := by
  obtain ⟨result, state, began, offered⟩ :=
    Source.drive_refused free (push_of_unbound route) q
  simp only [drive]
  generalize Source.drive options.stop push (.pipe q sink) g = d at result state began offered ⊢
  obtain ⟨result', steps, tests, g'⟩ := d
  obtain rfl : g' = g := state
  obtain rfl := result
  have counted : ((g'.countFilters tests).countDrive steps).route sink = .unbound :=
    (route_counters g' _ sink).trans route
  have finished := finish_of_unbound counted
  have more : g'.profile.steps < ((g'.countFilters tests).countDrive steps).profile.steps :=
    Nat.lt_add_of_pos_right began
  generalize q.stream = t at offered ⊢
  obtain ⟨_ | ⟨r, rows⟩, _ | e⟩ := t
  · simp only [Stream.refused, finished]
    exact ⟨rfl, more, offered⟩
  · exact ⟨rfl, more, offered⟩
  · exact ⟨rfl, more, offered⟩
  · exact ⟨rfl, more, offered⟩

theorem structural_before_steps (stored : plan.Stored) (options : RunOptions) (g : Engine)
    (sink : Nat) :
    let ran := g.run options ⟨plan, sink⟩
    let offers := g.offersOfRun options ⟨plan, sink⟩
    (∀ b e, g.route (.lazySink sink) = .buffer b → ran.1 = .error (.error e) →
      e.isStructural = true →
      (∃ compiles, ran.2 = { g with profile := { g.profile with compiles := compiles } }) ∧
        offers = []) ∧
    ((g.lazySink sink).target = none →
      ran = (.error (.error (.unbound "lazy sink")), g) ∧ offers = []) ∧
    ∀ q, (g.lazySink sink).isBound = true → g.route (.lazySink sink) = .unbound →
      plan.compile (g.schema (.lazySink sink)) = .ok q → options.stop g = none →
      ran.1 =
          .error (.error (match plan.stream with | ⟨[], some e⟩ => e | _ => .unbound "lazy sink")) ∧
        g.profile.steps < ran.2.profile.steps ∧ Offer.rows offers = plan.stream.rows.take 1 := by
  intro ran offers
  refine ⟨?_, ?_, ?_⟩
  · intro b e route failed structural
    have bound := isBound_of_route route
    by_cases compiles : ∃ q, plan.compile (g.schema (.lazySink sink)) = .ok q
    · obtain ⟨q, compiled⟩ := compiles
      have rules := Plan.compile_eq_ok_iff.1 compiled
      have stream : q.stream.FailsOnRow := by
        rw [rules.stream]
        exact rules.failsOnRow stored
      have counted : g.countCompile.route (.lazySink sink) = .buffer b :=
        (route_counters g _ _).trans route
      have ran_eq : ran = _ := (run_of_compiled options bound compiled).1
      rw [ran_eq] at failed
      obtain ⟨e', ⟨⟩, run⟩ := drive_not_structural stream counted failed
      cases structural.symm.trans run
    · exact run_of_refused bound fun q compiled => compiles ⟨q, compiled⟩
  · intro unbound
    exact run_of_unbound (by rw [LazySink.isBound, unbound]; rfl)
  · intro q bound route compiled free
    obtain ⟨ran_eq, offers_eq⟩ := run_of_compiled options bound compiled
    have counted : g.countCompile.route (.lazySink sink) = .unbound :=
      (route_counters g _ _).trans route
    have still : options.stop g.countCompile = none := free
    have driven := drive_of_unbound counted still q
    rw [(Plan.compile_eq_ok_iff.1 compiled).stream] at driven
    rw [show ran = _ from ran_eq, show offers = _ from offers_eq]
    exact driven

theorem structural_before_steps_file :
    let ints : Schema := ⟨[⟨"n", .int, false⟩]⟩
    let one : Plan := .values ints [[.int 1]] .physical
    let plan : Plan := .union ints true [one, .scan (.ofFile "t.parquet" ints)]
    let g : Engine :=
      ⟨#[.empty ints .keep], #[⟨ints, some (.lazySink 1)⟩, ⟨ints, some (.buffer 0)⟩], false,
        ⟨0, 0, 0, 0⟩⟩
    let ran := g.run .unlimited ⟨plan, 0⟩
    plan.Stored ∧ ran.1 = .error (.error (.unsupported "parquet file scan")) ∧
      (∃ compiles, ran.2 = { g with profile := { g.profile with compiles := compiles } }) ∧
      g.offersOfRun .unlimited ⟨plan, 0⟩ = [] := by
  intro ints one plan g ran
  have stored : plan.Stored := List.forall_mem_singleton.2 (.file "t.parquet" ints)
  exact ⟨stored, rfl, (structural_before_steps stored .unlimited g 0).1 0 _ rfl rfl rfl⟩

/-- A lazy sink that is bound, but to one that is not, lets a run take a step and offer a row before
it is reported. -/
theorem unbound_after_step :
    let ints : Schema := ⟨[⟨"n", .int, false⟩]⟩
    let plan : Plan := .values ints [[.int 1], [.int 2]] .physical
    let g : Engine := ⟨#[], #[⟨ints, some (.lazySink 1)⟩, .unbound ints], false, ⟨0, 0, 0, 0⟩⟩
    let e : Error := .unbound "lazy sink"
    plan.Stored ∧ g.makeEntry plan 0 = .ok ⟨plan, 0⟩ ∧ e.isStructural = true ∧
      let ran := g.run .unlimited ⟨plan, 0⟩
      ran.1 = .error (.error e) ∧ 0 < ran.2.profile.steps ∧
        Offer.rows (g.offersOfRun .unlimited ⟨plan, 0⟩) = [[.int 1]] := by
  intro ints plan g e
  refine ⟨List.forall_mem_nil _, rfl, rfl, ?_⟩
  obtain ⟨q, compiled⟩ : ∃ q, plan.compile (g.schema (.lazySink 0)) = .ok q := ⟨_, rfl⟩
  have free : RunOptions.unlimited.stop g.countCompile = none := rfl
  have route : g.countCompile.route (.lazySink 0) = .unbound := rfl
  obtain ⟨ran, offers⟩ := run_of_compiled .unlimited rfl compiled
  rw [ran, offers]
  have driven := drive_of_unbound route free q
  cases compiled
  exact driven

end Engine

end QueryFlow
