import QueryFlow.Proofs.Engine.Keeping
import QueryFlow.Proofs.Stream.Run

/-!
# Executions

What comes of running a plan on fresh sinks: a refusal, or the rows of a stream that does not fail.
-/

namespace QueryFlow.Engine

/-! ## Fresh sinks -/

structure Takes (g : Engine) (b : Nat) (schema : Schema) : Prop where
  holds : b < g.buffers.size
  policy : (g.buffer b).policy = .keep
  accepts : (g.buffer b).schema.accepts schema = true

def connected (g : Engine) (schema : Schema) (b : Nat) : Engine :=
  (g.newLazySink schema).2.setLazySink g.lazySinks.size ⟨schema, some (.buffer b)⟩

def extended (g : Engine) (schema : Schema) : Engine :=
  ((g.newBuffer schema .keep).2.newLazySink schema).2

/-- What an execution runs on: a fresh buffer behind a fresh lazy sink. -/
def attached (g : Engine) (schema : Schema) : Engine :=
  (g.extended schema).setLazySink g.lazySinks.size ⟨schema, some (.buffer g.buffers.size)⟩

section

variable {g : Engine} {schema : Schema} {b : Nat}

theorem lazySink_connected :
    (g.connected schema b).lazySink g.lazySinks.size = ⟨schema, some (.buffer b)⟩ := by
  have holds : g.lazySinks.size < (g.newLazySink schema).2.lazySinks.size :=
    Nat.lt_of_lt_of_eq (Nat.lt_succ_self _) (Array.size_push _).symm
  rw [connected, lazySink_setLazySink, if_pos ⟨rfl, holds⟩]

theorem keeps_connected (takes : g.Takes b schema) :
    (g.connected schema b).Keeps (.lazySink g.lazySinks.size) b where
  route := by
    rw [route, routeWithin, lazySink_connected]
    cases (g.connected schema b).lazySinks.size <;> rfl
  holds := takes.holds
  policy := takes.policy

theorem bind_newLazySink (takes : g.Takes b schema) (profile : Profile) :
    bind g.lazySinks.size (.buffer b) { (g.newLazySink schema).2 with profile := profile } =
      (.ok (), { g.connected schema b with profile := profile }) := by
  have fresh : (g.newLazySink schema).2.lazySink g.lazySinks.size = .unbound schema := by
    rw [lazySink_newLazySink, if_pos rfl]
  have bound : (LazySink.unbound schema).bind (.buffer b) (g.buffer b).schema =
      .ok ⟨schema, some (.buffer b)⟩ :=
    LazySink.bind_eq_ok.2 ⟨rfl, takes.accepts, rfl⟩
  have same (h : Engine) : lazySink { h with profile := profile } = h.lazySink := rfl
  rw [Engine.bind, same, fresh, show Engine.schema _ _ = (g.buffer b).schema from rfl, bound]
  rfl

theorem makeEntry_connected (plan : Plan) :
    (g.connected schema b).makeEntry plan g.lazySinks.size = .ok ⟨plan, g.lazySinks.size⟩ := by
  rw [makeEntry, lazySink_connected]
  rfl

end

variable (g : Engine) (schema : Schema)

theorem takes_newBuffer : (g.newBuffer schema .keep).2.Takes g.buffers.size schema := by
  have fresh : (g.newBuffer schema .keep).2.buffer g.buffers.size = .empty schema .keep := by
    rw [buffer_newBuffer, if_pos rfl]
  refine ⟨?_, ?_, ?_⟩
  · exact Nat.lt_of_lt_of_eq (Nat.lt_succ_self _) (Array.size_push _).symm
  · rw [fresh]
    rfl
  · rw [fresh]
    exact Schema.accepts_refl schema

theorem lazySink_extended :
    (g.extended schema).lazySink g.lazySinks.size = .unbound schema := by
  rw [extended, lazySink_newLazySink]
  exact if_pos rfl

theorem lazySink_attached :
    (g.attached schema).lazySink g.lazySinks.size = ⟨schema, some (.buffer g.buffers.size)⟩ :=
  lazySink_connected

theorem buffer_attached : (g.attached schema).buffer g.buffers.size = .empty schema .keep := by
  rw [attached, buffer_setLazySink, extended, buffer_newLazySink, buffer_newBuffer, if_pos rfl]

theorem keeps_attached :
    (g.attached schema).Keeps (.lazySink g.lazySinks.size) g.buffers.size :=
  keeps_connected (g.takes_newBuffer schema)

theorem bind_extended :
    bind g.lazySinks.size (.buffer g.buffers.size) (g.extended schema) =
      (.ok (), g.attached schema) :=
  bind_newLazySink (g.takes_newBuffer schema) g.profile

theorem makeEntry_attached (plan : Plan) :
    (g.attached schema).makeEntry plan g.lazySinks.size = .ok ⟨plan, g.lazySinks.size⟩ :=
  makeEntry_connected plan

theorem execute_run (options : RunOptions) (plan : Plan) :
    g.execute options plan =
      match (g.attached plan.schema).run options ⟨plan, g.lazySinks.size⟩ with
      | (.error e, h) => (.error e, h)
      | (.ok steps, h) =>
        (.ok ⟨plan.schema, (h.takeRows g.buffers.size).1, steps⟩,
          (h.takeRows g.buffers.size).2) := by
  have bound := g.bind_extended plan.schema
  have entry := g.makeEntry_attached plan.schema plan
  rw [extended] at bound
  unfold execute
  rcases ran : (g.attached plan.schema).run options ⟨plan, g.lazySinks.size⟩ with
    ⟨_ | steps, h⟩ <;>
    simp only [show (g.newBuffer plan.schema .keep).1 = g.buffers.size from rfl,
      show ((g.newBuffer plan.schema .keep).2.newLazySink plan.schema).1 = g.lazySinks.size
        from rfl, bound, entry, ran]

theorem execute_eq (options : RunOptions) (plan : Plan) :
    (g.execute options plan).1 =
      match (g.attached plan.schema).run options ⟨plan, g.lazySinks.size⟩ with
      | (.error e, _) => .error e
      | (.ok steps, h) => .ok ⟨plan.schema, (h.buffer g.buffers.size).rows.toList, steps⟩ := by
  rw [execute_run]
  rcases (g.attached plan.schema).run options ⟨plan, g.lazySinks.size⟩ with ⟨_ | steps, h⟩ <;> rfl

/-! ## Runs on fresh sinks -/

variable {g schema} {options : RunOptions} {plan : Plan} {sink : Nat}

theorem run_of_logical (bound : (g.lazySink sink).isBound = true)
    (logical : plan.convention = .logical) :
    g.run options ⟨plan, sink⟩ =
      (.error (.error (.conventionMismatch plan.operator .physical .logical)), g) := by
  simp only [run, LazySink.checkBound, bound, if_true, compilePlan, logical,
    Convention.checkPhysical]

theorem run_of_compile_error {e : Error} (bound : (g.lazySink sink).isBound = true)
    (physical : plan.convention = .physical)
    (failed : plan.compile (g.schema (.lazySink sink)) = .error e) :
    g.run options ⟨plan, sink⟩ = (.error (.error e), g.countCompile) := by
  simp only [run, LazySink.checkBound, bound, if_true, compilePlan, physical,
    Convention.checkPhysical, failed, Except.map]

theorem run_of_keeps (free : ∀ g, options.stop g = none) {i : Nat}
    (bound : (g.lazySink sink).isBound = true) (keeps : g.Keeps (.lazySink sink) i) {q : Pipeline}
    (compiled : plan.compile (g.schema (.lazySink sink)) = .ok q)
    (ending : plan.stream.ending = none) :
    ∃ steps h, g.run options ⟨plan, sink⟩ = (.ok steps, h) ∧
      (h.buffer i).rows.toList = (g.buffer i).rows.toList ++ plan.stream.rows := by
  obtain ⟨steps, counters, ran⟩ := run_eq free bound compiled
  have kept := keeps.keepRows plan.stream.rows
  have finished : (keepRows i plan.stream.rows g).finish (.lazySink sink) =
      (.ok (), (keepRows i plan.stream.rows g).changeBuffer i Buffer.finish) := by
    simp only [finish, kept.route]
  simp only [deliver_of_keeps keeps, ending, finished, Except.map] at ran
  refine ⟨steps, _, ran, ?_⟩
  have rows : (((keepRows i plan.stream.rows g).changeBuffer i Buffer.finish).buffer i).rows =
      ((keepRows i plan.stream.rows g).buffer i).rows := by
    rw [buffer_changeBuffer, if_pos ⟨rfl, kept.holds⟩, Buffer.finish, kept.policy]
  exact (congrArg Array.toList rows).trans (rows_keepRows keeps.holds _)

end QueryFlow.Engine
