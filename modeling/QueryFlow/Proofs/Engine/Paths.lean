import QueryFlow.Proofs.Engine.Histories

/-!
# Paths to a run

A plan meets its consumer before it is compiled or after. `paths_agree`: both ways, and an execution
as well, have the same effect, whatever was done with the engine before, and so have entries and
prepared plans that are used again.
-/

namespace QueryFlow.Engine

/-- The consumer first: a lazy sink in front of the buffer, an entry, a run. -/
def runAttached (options : RunOptions) (plan : Plan) (b : Nat) (g : Engine) :
    Except Failure Nat × Engine :=
  let (sink, g) := g.newLazySink plan.schema
  match g.bind sink (.buffer b) with
  | (.error e, g) => (.error (.error e), g)
  | (.ok (), g) =>
    match g.makeEntry plan sink with
    | .error e => (.error (.error e), g)
    | .ok entry => g.run options entry

/-- The plan first: it is prepared, and then the buffer is attached to it. -/
def runPrepared (options : RunOptions) (plan : Plan) (b : Nat) (g : Engine) :
    Except Failure Nat × Engine :=
  match g.prepare plan with
  | (.error e, g) => (.error (.error e), g)
  | (.ok p, g) =>
    match g.bind p.sink (.buffer b) with
    | (.error e, g) => (.error (.error e), g)
    | (.ok (), g) => g.drivePrepared options p

structure Returns (g : Engine) (schema : Schema) (e : Effect)
    (ran : Except Failure QueryResult × Engine) : Prop where
  result : ran.1 = e.result.map fun steps => ⟨schema, e.rows, steps⟩
  others : ∀ i < g.buffers.size, ran.2.buffer i = g.buffer i
  counters : ran.2.profile = g.profile.add e.counters

/-- On `h`, the runs of a plan with rows for the buffer `b` have the effect `e`. Lazy sinks that
lead to the buffer may be older: they need only have done so on `g`. -/
structure RunsAlike (g h : Engine) (options : RunOptions) (plan : Plan) (b : Nat) (e : Effect) :
    Prop where
  attached : h.Shows b e (h.runAttached options plan b)
  prepared : h.Shows b e (h.runPrepared options plan b)
  executed : h.Returns plan.schema e (h.execute options plan)
  entry : ∀ sink, (g.lazySink sink).schema = plan.schema → g.route (.lazySink sink) = .buffer b →
    h.Shows b e (h.run options ⟨plan, sink⟩)
  /-- The compilation was counted when the plan was prepared. -/
  preparedBefore : ∀ k p, (prepare plan k).1 = .ok p → g.route (.lazySink p.sink) = .buffer b →
    ∃ driven, e = driven.withCompile ∧ h.Shows b driven (h.drivePrepared options p)

variable {g h : Engine} {b : Nat} {schema : Schema} {plan : Plan} {options : RunOptions}

theorem Takes.later (takes : g.Takes b schema) (later : g.Extends h) : h.Takes b schema where
  holds := Nat.lt_of_lt_of_le takes.holds later.size
  policy := (later.buffer b takes.holds).2.trans takes.policy
  accepts := by
    rw [(later.buffer b takes.holds).1]
    exact takes.accepts

/-! ## The consumer first -/

theorem runAttached_eq (takes : g.Takes b plan.schema) :
    g.runAttached options plan b =
      (g.connected plan.schema b).run options ⟨plan, g.lazySinks.size⟩ := by
  have bound : bind g.lazySinks.size (.buffer b) (g.newLazySink plan.schema).2 =
      (.ok (), g.connected plan.schema b) := bind_newLazySink takes g.profile
  unfold runAttached
  simp only [show (g.newLazySink plan.schema).1 = g.lazySinks.size from rfl, bound,
    makeEntry_connected]

theorem shows_runAttached (takes : g.Takes b plan.schema) :
    g.Shows b (plan.effect (options.stop g)) (g.runAttached options plan b) := by
  have same : options.stop (g.connected plan.schema b) = options.stop g := stop_congr rfl
  have declared : ((g.connected plan.schema b).lazySink g.lazySinks.size).schema = plan.schema := by
    rw [lazySink_connected]
  rw [runAttached_eq takes, ← same]
  exact (shows_run (keeps_connected takes) declared).of_same rfl rfl

/-! ## The plan first -/

theorem schema_newLazySink :
    (g.newLazySink schema).2.schema (.lazySink g.lazySinks.size) = schema := by
  rw [Engine.schema, lazySink_newLazySink, if_pos rfl]
  rfl

theorem prepare_eq :
    g.prepare plan =
      match plan.convention.checkPhysical plan.operator with
      | .error e => (.error e, (g.newLazySink plan.schema).2)
      | .ok () =>
        ((plan.compile plan.schema).map fun q =>
            ⟨plan, .pipe q (.lazySink g.lazySinks.size), g.lazySinks.size⟩,
          (g.newLazySink plan.schema).2.countCompile) := by
  have compiled : g.prepare plan =
      (((g.newLazySink plan.schema).2.compilePlan plan (.lazySink g.lazySinks.size)).1.map fun s =>
          ⟨plan, s, g.lazySinks.size⟩,
        ((g.newLazySink plan.schema).2.compilePlan plan (.lazySink g.lazySinks.size)).2) := rfl
  rw [compiled, compilePlan, schema_newLazySink]
  rcases plan.convention.checkPhysical plan.operator with e | ⟨⟩
  · rfl
  · rcases plan.compile plan.schema with e | q <;> rfl

theorem shows_drivePrepared {p : Prepared} {q : Pipeline}
    (source : p.source = .pipe q (.lazySink p.sink)) (keeps : g.Keeps (.lazySink p.sink) b) :
    g.Shows b (q.effect (options.stop g)) (g.drivePrepared options p) := by
  have bound := isBound_of_route keeps.route
  simp only [drivePrepared, split, LazySink.checkBound, bound, if_true, source]
  exact shows_drive keeps q

theorem shows_runPrepared (takes : g.Takes b plan.schema) :
    g.Shows b (plan.effect (options.stop g)) (g.runPrepared options plan b) := by
  unfold runPrepared
  rw [prepare_eq, Plan.effect]
  rcases plan.convention.checkPhysical plan.operator with e | ⟨⟩
  · exact shows_refused rfl rfl
  rcases plan.compile plan.schema with e | q
  · exact shows_refused rfl rfl
  have bound : bind g.lazySinks.size (.buffer b) (g.newLazySink plan.schema).2.countCompile =
      (.ok (), (g.connected plan.schema b).countCompile) :=
    bind_newLazySink takes g.countCompile.profile
  have keeps : (g.connected plan.schema b).countCompile.Keeps (.lazySink g.lazySinks.size) b :=
    (keeps_connected takes).flags g.cancelled g.countCompile.profile
  let p : Prepared := ⟨plan, .pipe q (.lazySink g.lazySinks.size), g.lazySinks.size⟩
  have shows : Shows _ b _ ((g.connected plan.schema b).countCompile.drivePrepared options p) :=
    shows_drivePrepared rfl keeps
  have same : options.stop (g.connected plan.schema b).countCompile = options.stop g :=
    stop_congr rfl
  simp only [Except.map, bound]
  rw [same] at shows
  have counted : g.countCompile.Shows b _ _ := shows.of_same rfl rfl
  exact counted.of_compile

theorem effect_of_prepare {p : Prepared} (prepared : (prepare plan h).1 = .ok p) :
    ∃ q, p.source = .pipe q (.lazySink p.sink) ∧
      ∀ stopped, plan.effect stopped = (q.effect stopped).withCompile := by
  rw [prepare_eq] at prepared
  simp only [Plan.effect]
  generalize plan.convention.checkPhysical plan.operator = checked at prepared ⊢
  generalize plan.compile plan.schema = compiled at prepared ⊢
  rcases checked with e | ⟨⟩
  · cases prepared
  rcases compiled with e | q
  · cases prepared
  · cases prepared
    exact ⟨q, rfl, fun _ => rfl⟩

/-! ## Executions -/

theorem buffer_attached_of_lt {i : Nat} (holds : i < g.buffers.size) :
    (g.attached schema).buffer i = g.buffer i := by
  rw [attached, buffer_setLazySink, extended, buffer_newLazySink, buffer_newBuffer,
    if_neg (Nat.ne_of_lt holds)]

theorem returns_execute :
    g.Returns plan.schema (plan.effect (options.stop g)) (g.execute options plan) := by
  have declared : ((g.attached plan.schema).lazySink g.lazySinks.size).schema = plan.schema := by
    rw [lazySink_attached]
  have same : options.stop (g.attached plan.schema) = options.stop g := stop_congr rfl
  have shows : Shows _ _ _ ((g.attached plan.schema).run options ⟨plan, g.lazySinks.size⟩) :=
    shows_run (keeps_attached g plan.schema) declared
  rw [same] at shows
  rw [execute_run]
  generalize plan.effect (options.stop g) = e at shows ⊢
  generalize (g.attached plan.schema).run options ⟨plan, g.lazySinks.size⟩ = ran at shows ⊢
  obtain ⟨result, h⟩ := ran
  have old (i : Nat) (holds : i < g.buffers.size) : h.buffer i = g.buffer i :=
    (shows.others i (Nat.ne_of_lt holds)).trans (buffer_attached_of_lt holds)
  have rows : (h.buffer g.buffers.size).rows.toList = e.rows := by
    rw [shows.rows, buffer_attached]
    rfl
  have returned : result = e.result := shows.result
  cases result with
  | error failure => exact ⟨by rw [← returned]; rfl, old, shows.counters⟩
  | ok steps =>
    refine ⟨?_, fun i holds => ?_, shows.counters⟩
    · rw [← returned, ← rows]
      rfl
    · have taken : (h.takeRows g.buffers.size).2.buffer i = h.buffer i := by
        unfold takeRows
        rw [buffer_changeBuffer, if_neg fun both => Nat.ne_of_gt holds both.1]
      exact taken.trans (old i holds)

theorem paths_agree (takes : g.Takes b plan.schema) (uses : List Use) (options : RunOptions) :
    let h := g.afterUses uses
    g.RunsAlike h options plan b (plan.effect (options.stop h)) ∧
      (options.token ≠ some .shared → options.stop h = options.stop g) := by
  intro h
  have later : g.Extends h := .afterUses uses g
  have keeps {sink : Nat} (route : g.route (.lazySink sink) = .buffer b) :
      h.Keeps (.lazySink sink) b :=
    Keeps.later ⟨route, takes.holds, takes.policy⟩ later
  constructor
  · exact
      { attached := shows_runAttached (takes.later later)
        prepared := shows_runPrepared (takes.later later)
        executed := returns_execute
        entry := by
          intro sink declared route
          have same := later.lazySink sink (isBound_of_route route)
          exact shows_run (keeps route) (by rw [same, declared])
        preparedBefore := by
          intro k p prepared route
          obtain ⟨q, source, effect⟩ := effect_of_prepare prepared
          exact ⟨_, effect _, shows_drivePrepared source (keeps route)⟩ }
  · intro own
    obtain ⟨timeout, _ | ⟨cancelled | _⟩⟩ := options
    · rfl
    · rfl
    · exact absurd rfl own

theorem paths_agree_again :
    let ints : Schema := ⟨[⟨"n", .int, false⟩]⟩
    let table : Table := ⟨"t", ints, .ok [.ok [.int 3], .error .cancelled]⟩
    let plan : Plan := .union ints true [.values ints [[.int 1], [.int 2]] .physical, .scan table]
    let g : Engine := ⟨#[.empty ints .keep], #[⟨ints, some (.buffer 0)⟩], false, ⟨0, 0, 0, 0⟩⟩
    let uses : List Use :=
      [.run .unlimited ⟨plan, 0⟩, .setCancelled true, .execute ⟨none, some .shared⟩ plan,
        .prepare plan]
    (∃ steps tests, plan.effect none =
      ⟨.error (.error .cancelled), [[.int 1], [.int 2], [.int 3]], ⟨1, 1, steps, tests⟩⟩) ∧
      g.Takes 0 ints ∧ g.RunsAlike (g.afterUses uses) .unlimited plan 0 (plan.effect none) := by
  intro ints table plan g uses
  obtain ⟨q, compiled⟩ : ∃ q, plan.compile plan.schema = .ok q := ⟨_, rfl⟩
  obtain ⟨steps, tests, effect⟩ := q.effect_stream
  have takes : g.Takes 0 ints := ⟨by decide, rfl, by decide⟩
  refine ⟨⟨steps, tests, ?_⟩, takes, (paths_agree takes uses .unlimited).1⟩
  have whole : plan.effect none = (q.effect none).withCompile := by
    simp only [Plan.effect, compiled]
    rfl
  rw [whole, effect]
  cases compiled
  rfl

end QueryFlow.Engine
