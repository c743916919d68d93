import QueryFlow.Proofs.Engine.Chains
import QueryFlow.Proofs.Pipeline.Simulation

/-!
# Effects of runs

A run whose rows end up in a buffer that keeps every row does the same on every engine. Its effect
is that of a drive that collects the rows in a list; `shows_run`: this is what a run shows, whatever
the engine holds besides.
-/

namespace QueryFlow

def Profile.add (p q : Profile) : Profile :=
  ⟨p.compiles + q.compiles, p.drives + q.drives, p.steps + q.steps, p.filters + q.filters⟩

/-- What a run comes to, apart from the engine that it takes place on. -/
structure Effect where
  /-- The number of steps, unless the run fails. -/
  result : Except Failure Nat
  rows : List Row
  /-- What is added to the profile. -/
  counters : Profile

def collect (_ : Unit) (r : Row) (rows : List Row) : Except Failure Unit × List Row :=
  (.ok (), rows ++ [r])

def Pipeline.effect (q : Pipeline) (stopped : Option Error) : Effect :=
  let d := Source.drive (fun _ => stopped) collect (.pipe q ()) []
  ⟨d.result.map fun _ => d.steps, d.state, ⟨0, 1, d.steps, d.tests⟩⟩

def Effect.refused (e : Error) (compiles : Nat) : Effect :=
  ⟨.error (.error e), [], ⟨compiles, 0, 0, 0⟩⟩

def Effect.withCompile (e : Effect) : Effect :=
  { e with counters := { e.counters with compiles := e.counters.compiles + 1 } }

def Plan.effect (plan : Plan) (stopped : Option Error) : Effect :=
  match plan.convention.checkPhysical plan.operator with
  | .error e => .refused e 0
  | .ok () =>
    match plan.compile plan.schema with
    | .error e => .refused e 1
    | .ok q => (q.effect stopped).withCompile

theorem Stream.deliver_collect (t : Stream) (rows : List Row) :
    t.deliver (collect ()) rows =
      (match t.ending with | none => .ok () | some e => .error (.error e), rows ++ t.rows) := by
  obtain ⟨rest, ending⟩ := t
  unfold deliver
  induction rest generalizing rows with
  | nil => exact congrArg (Prod.mk _) (List.append_nil rows).symm
  | cons r rest ih =>
    have kept := ih (rows ++ [r])
    rw [List.append_assoc] at kept
    exact kept

theorem Pipeline.effect_stream (q : Pipeline) :
    ∃ steps tests, q.effect none =
      ⟨match q.stream.ending with | none => .ok steps | some e => .error (.error e),
        q.stream.rows, ⟨0, 1, steps, tests⟩⟩ := by
  have free (rows : List Row) : (fun _ => none : List Row → Option Error) rows = none := rfl
  have delivered : _ = q.stream.deliver (collect ()) [] := Source.drive_pipe free q () []
  rw [Stream.deliver_collect] at delivered
  unfold effect
  generalize Source.drive (fun _ => none) collect (.pipe q ()) [] = d at delivered ⊢
  obtain ⟨result, steps, tests, rows⟩ := d
  obtain ⟨rfl, rfl⟩ := Prod.mk.inj delivered
  refine ⟨steps, tests, ?_⟩
  cases q.stream.ending <;> rfl

namespace Engine

/-- `g.Shows b e ran`: what `ran` leaves of the engine `g` is the effect `e`, with the rows in the
buffer `b`, which is told the end exactly if nothing fails. -/
structure Shows (g : Engine) (b : Nat) (e : Effect) (ran : Except Failure Nat × Engine) : Prop where
  result : ran.1 = e.result
  rows : (ran.2.buffer b).rows.toList = (g.buffer b).rows.toList ++ e.rows
  finished : (ran.2.buffer b).finished = ((g.buffer b).finished || e.result.isOk)
  others : ∀ i, i ≠ b → ran.2.buffer i = g.buffer i
  counters : ran.2.profile = g.profile.add e.counters

variable {g : Engine} {sink : SinkId} {b : Nat} {options : RunOptions}

/-! ## Rows that are kept -/

theorem keepRows_keeps {P : Engine → Prop}
    (keeps : ∀ r h, P h → P (h.changeBuffer b (Buffer.keep r))) (rows : List Row) (h : P g) :
    P (keepRows b rows g) := by
  induction rows generalizing g with
  | nil => exact h
  | cons r rows ih => exact ih (keeps r g h)

theorem cancelled_keepRows (rows : List Row) : (keepRows b rows g).cancelled = g.cancelled :=
  keepRows_keeps (P := fun h => h.cancelled = g.cancelled) (fun _ _ same => same) rows rfl

theorem profile_keepRows (rows : List Row) : (keepRows b rows g).profile = g.profile :=
  keepRows_keeps (P := fun h => h.profile = g.profile) (fun _ _ same => same) rows rfl

theorem buffer_keepRows_of_ne {i : Nat} (other : i ≠ b) (rows : List Row) :
    (keepRows b rows g).buffer i = g.buffer i := by
  refine keepRows_keeps (P := fun h => h.buffer i = g.buffer i) (fun r h same => ?_) rows rfl
  rw [buffer_changeBuffer, if_neg fun both => other both.1.symm, same]

theorem finished_keepRows (rows : List Row) :
    ((keepRows b rows g).buffer b).finished = (g.buffer b).finished := by
  refine keepRows_keeps (P := fun h => (h.buffer b).finished = (g.buffer b).finished)
    (fun r h same => ?_) rows rfl
  rw [buffer_changeBuffer]
  split
  · exact same
  · exact same

theorem keepRows_concat (rows : List Row) (r : Row) :
    keepRows b (rows ++ [r]) g = (keepRows b rows g).changeBuffer b (Buffer.keep r) :=
  List.foldl_concat ..

theorem finish_of_keeps (keeps : g.Keeps sink b) :
    finish sink g = (.ok (), g.changeBuffer b Buffer.finish) := by
  simp only [finish, keeps.route]

theorem buffer_finish (keeps : g.Keeps sink b) :
    (g.changeBuffer b Buffer.finish).buffer b = { g.buffer b with finished := true } := by
  rw [buffer_changeBuffer, if_pos ⟨rfl, keeps.holds⟩, Buffer.finish]
  simp only [keeps.policy]

theorem stop_congr {h : Engine} (same : h.cancelled = g.cancelled) :
    options.stop h = options.stop g := by
  rw [RunOptions.stop, RunOptions.stop, same]

/-- To a drive, a buffer that keeps every row is a list. -/
theorem drive_alike_collect (options : RunOptions) (keeps : g.Keeps sink b) (q : Pipeline) :
    Source.Drive.Alike (fun h rows => h = keepRows b rows g)
      (Source.drive options.stop push (.pipe q sink) g)
      (Source.drive (fun _ => options.stop g) collect (.pipe q ()) []) := by
  refine Source.drive_alike ?_ ?_ q rfl
  · rintro _ rows rfl
    exact stop_congr (cancelled_keepRows rows)
  · rintro r _ rows rfl
    rw [push_of_keeps (keeps.keepRows rows)]
    exact ⟨rfl, (keepRows_concat rows r).symm⟩

theorem shows_drive (keeps : g.Keeps sink b) (q : Pipeline) :
    g.Shows b (q.effect (options.stop g)) (g.drive options (.pipe q sink) sink) := by
  have alike := drive_alike_collect options keeps q
  unfold drive Pipeline.effect
  generalize Source.drive options.stop push (.pipe q sink) g = d at alike
  generalize Source.drive (fun _ => options.stop g) collect (.pipe q ()) [] = d' at alike
  obtain ⟨result, steps, tests, state⟩ := d
  obtain ⟨result', steps', tests', rows⟩ := d'
  obtain rfl : result = result' := alike.result
  obtain rfl : steps = steps' := alike.steps
  obtain rfl : tests = tests' := alike.tests
  obtain rfl : state = keepRows b rows g := alike.state
  have counted : ((keepRows b rows g).countFilters tests).countDrive steps =
      { keepRows b rows g with profile := g.profile.add ⟨0, 1, steps, tests⟩ } := by
    simp only [countFilters, countDrive, profile_keepRows, Profile.add, Nat.add_zero]
  simp only [counted]
  have kept := (keeps.keepRows rows).flags (keepRows b rows g).cancelled
    (g.profile.add ⟨0, 1, steps, tests⟩)
  cases result with
  | error e =>
    refine ⟨rfl, rows_keepRows keeps.holds rows, ?_,
      fun i other => buffer_keepRows_of_ne other rows, rfl⟩
    exact (finished_keepRows rows).trans (Bool.or_false _).symm
  | ok u =>
    simp only [finish_of_keeps kept]
    refine ⟨rfl, ?_, ?_, fun i other => ?_, rfl⟩
    · rw [buffer_finish kept]
      exact rows_keepRows keeps.holds rows
    · rw [buffer_finish kept]
      exact (Bool.or_true _).symm
    · rw [buffer_changeBuffer, if_neg fun both => other both.1.symm]
      exact buffer_keepRows_of_ne other rows

/-! ## Runs -/

theorem buffer_congr {h : Engine} (same : h.buffers = g.buffers) (i : Nat) :
    h.buffer i = g.buffer i := by
  rw [buffer, same, buffer]

theorem Shows.of_compile {e : Effect} {ran : Except Failure Nat × Engine}
    (h : g.countCompile.Shows b e ran) : g.Shows b e.withCompile ran where
  result := h.result
  rows := h.rows
  finished := h.finished
  others := h.others
  counters := by
    rw [h.counters]
    simp only [Profile.add, countCompile, Effect.withCompile, Nat.add_assoc, Nat.add_comm 1]

theorem Shows.of_same {h : Engine} {e : Effect} {ran : Except Failure Nat × Engine}
    (shows : h.Shows b e ran) (buffers : h.buffers = g.buffers) (profile : h.profile = g.profile) :
    g.Shows b e ran := by
  have same := buffer_congr buffers
  exact
    { result := shows.result
      rows := by rw [shows.rows, same]
      finished := by rw [shows.finished, same]
      others := fun i other => (shows.others i other).trans (same i)
      counters := by rw [shows.counters, profile] }

theorem shows_refused {h : Engine} {e : Error} {compiles : Nat} (buffers : h.buffers = g.buffers)
    (profile : h.profile = { g.profile with compiles := g.profile.compiles + compiles }) :
    g.Shows b (.refused e compiles) (.error (.error e), h) := by
  have same := buffer_congr buffers
  exact
    { result := rfl
      rows := by rw [same]; exact (List.append_nil _).symm
      finished := by rw [same]; exact (Bool.or_false _).symm
      others := fun i _ => same i
      counters := profile }

theorem isBound_of_route {sink : Nat} (route : g.route (.lazySink sink) = .buffer b) :
    (g.lazySink sink).isBound = true := by
  rw [Engine.route, routeWithin] at route
  rw [LazySink.isBound]
  cases target : (g.lazySink sink).target with
  | none =>
    rw [target] at route
    cases route
  | some _ => rfl

theorem shows_run {plan : Plan} {sink : Nat} (keeps : g.Keeps (.lazySink sink) b)
    (declared : (g.lazySink sink).schema = plan.schema) :
    g.Shows b (plan.effect (options.stop g)) (g.run options ⟨plan, sink⟩) := by
  simp only [run, LazySink.checkBound, isBound_of_route keeps.route, if_true, compilePlan, schema,
    declared, Plan.effect]
  rcases plan.convention.checkPhysical plan.operator with e | ⟨⟩
  · exact shows_refused rfl rfl
  rcases plan.compile plan.schema with e | q
  · exact shows_refused rfl rfl
  · exact (shows_drive (keeps.flags g.cancelled g.countCompile.profile) q).of_compile

end Engine

end QueryFlow
