import QueryFlow.Proofs.Engine.Effects
import QueryFlow.Proofs.Engine.Structural

/-!
# Consumers

A run hands rows to its consumer and may tell it the end. Here a consumer is anything that answers
these requests, and the requests of a run can be recorded: first rows, then the end if the source
reaches it. A run on an engine is the run of one of its sinks.
-/

namespace QueryFlow

structure Consumer (σ : Type) where
  push : Row → σ → Except Failure Unit × σ
  finish : σ → Except Failure Unit × σ

inductive Consumer.Request
  | push (r : Row)
  | finish
  deriving DecidableEq

namespace Consumer

variable {σ : Type}

def drive (c : Consumer σ) (stop : σ → Option Error) (q : Pipeline) (s : σ) : Source.Drive σ :=
  Source.drive stop (fun () => c.push) (.pipe q ()) s

def run (c : Consumer σ) (stop : σ → Option Error) (q : Pipeline) (s : σ) : Source.Drive σ :=
  let d := c.drive stop q s
  match d.result with
  | .error _ => d
  | .ok () => { d with result := (c.finish d.state).1, state := (c.finish d.state).2 }

def recorded (c : Consumer σ) : Consumer (σ × List Request) where
  push r s := ((c.push r s.1).1, (c.push r s.1).2, s.2 ++ [.push r])
  finish s := ((c.finish s.1).1, (c.finish s.1).2, s.2 ++ [.finish])

def requests (c : Consumer σ) (stop : σ → Option Error) (q : Pipeline) (s : σ) : List Request :=
  (c.recorded.run (fun t => stop t.1) q (s, [])).state.2

section

variable {c : Consumer σ} {stop : σ → Option Error} {q rest : Pipeline} {b : Burst} {s : σ}

theorem drive_of_stop {e : Error} (stops : stop s = some e) :
    c.drive stop q s = ⟨.error (.error e), 0, 0, s⟩ :=
  Source.drive_of_stop stops

theorem drive_of_ends (free : stop s = none) (ends : q.Ends) :
    c.drive stop q s = ⟨.ok (), 1, 0, s⟩ :=
  Source.drive_of_ends free (by rw [Source.step?, ends.step?])

theorem drive_of_steps (free : stop s = none) (steps : q.Steps b rest) :
    c.drive stop q s =
      match b.deliver c.push s with
      | ⟨.error e, tests, s⟩ => ⟨.error e, 1, tests, s⟩
      | ⟨.ok (), tests, s⟩ =>
        let r := c.drive stop rest s
        ⟨r.result, r.steps + 1, tests + r.tests, r.state⟩ :=
  Source.drive_of_step free (by rw [Source.step?, steps.step?])

theorem free_of_ok (ok : (c.drive stop q s).result = .ok ()) : stop s = none :=
  Source.stop_of_drive ok

theorem drive_of_ok (ok : (c.drive stop q s).result = .ok ()) :
    c.drive stop q s = c.drive (fun _ => none) q s := by
  induction q using Pipeline.step_induction generalizing s with
  | ends q ends => rw [drive_of_ends (free_of_ok ok) ends, drive_of_ends rfl ends]
  | steps q b rest steps ih =>
    have free := free_of_ok ok
    rw [drive_of_steps free steps] at ok ⊢
    rw [drive_of_steps rfl steps]
    generalize b.deliver c.push s = d at ok ⊢
    rcases d with ⟨e | ⟨⟩, tests, t⟩
    · rfl
    · have rest_ok : (c.drive stop rest t).result = .ok () := ok
      simp only [ih rest_ok]

theorem pushes_of_deliver {t : Stream} {before : List Request}
    (ok : (t.deliver c.recorded.push (s, before)).1 = .ok ()) :
    (t.deliver c.recorded.push (s, before)).2.2 = before ++ t.rows.map .push := by
  obtain ⟨rows, ending⟩ := t
  unfold Stream.deliver at ok ⊢
  simp only at ok ⊢
  induction rows generalizing s before with
  | nil => exact (List.append_nil _).symm
  | cons r rows ih =>
    rw [Stream.deliverRows] at ok ⊢
    have next : (c.recorded.push r (s, before)).2 = ((c.push r s).2, before ++ [.push r]) := rfl
    generalize c.recorded.push r (s, before) = answer at ok next ⊢
    obtain ⟨e | ⟨⟩, t⟩ := answer
    · cases ok
    · obtain rfl := next
      have rest := ih ok
      rw [List.append_assoc] at rest
      exact rest

end

variable (c : Consumer σ) (stop : σ → Option Error) (q : Pipeline) (s : σ)

theorem drive_recorded :
    Source.Drive.Alike (fun t u => t.1 = u) (c.recorded.drive (fun t => stop t.1) q (s, []))
      (c.drive stop q s) := by
  apply Source.drive_alike
  · rintro t _ rfl
    rfl
  · rintro r t _ rfl
    exact ⟨rfl, rfl⟩
  · rfl

theorem pushes_of_drive :
    ∃ rows : List Row,
      (c.recorded.drive (fun t => stop t.1) q (s, [])).state.2 = rows.map .push := by
  refine Source.drive_keeps
    (P := fun t : σ × List Request => ∃ rows : List Row, t.2 = rows.map .push) ?_ _ _ ⟨[], rfl⟩
  rintro _ r ⟨t, _⟩ ⟨rows, rfl⟩
  refine ⟨rows ++ [r], ?_⟩
  rw [List.map_append]
  rfl

theorem pushes_of_ok (ok : (c.recorded.drive (fun t => stop t.1) q (s, [])).result = .ok ()) :
    (c.recorded.drive (fun t => stop t.1) q (s, [])).state.2 = q.stream.rows.map .push := by
  have free := drive_of_ok ok
  rw [free] at ok ⊢
  have delivered :
      ((c.recorded.drive (fun _ => none) q (s, [])).result,
        (c.recorded.drive (fun _ => none) q (s, [])).state) =
        q.stream.deliver c.recorded.push (s, []) :=
    Source.drive_pipe (fun _ => rfl) q () (s, [])
  obtain ⟨result, state⟩ := Prod.mk.inj delivered
  exact (congrArg Prod.snd state).trans (pushes_of_deliver (result.symm.trans ok))

theorem requests_eq :
    ∃ rows : List Row, c.requests stop q s =
      rows.map .push ++ (if (c.drive stop q s).result.isOk then [.finish] else []) ∧
        ((c.drive stop q s).result = .ok () → rows = q.stream.rows) := by
  obtain ⟨rows, pushes⟩ := c.pushes_of_drive stop q s
  have alike := c.drive_recorded stop q s
  have whole := c.pushes_of_ok stop q s
  refine ⟨rows, ?_⟩
  unfold requests run
  generalize c.recorded.drive (fun t => stop t.1) q (s, []) = d at alike pushes whole ⊢
  obtain ⟨result, steps, tests, state⟩ := d
  rw [← alike.result]
  cases result with
  | error f => exact ⟨pushes.trans (List.append_nil _).symm, nofun⟩
  | ok u =>
    refine ⟨congrArg (· ++ [Request.finish]) pushes, fun _ => ?_⟩
    exact List.map_injective_iff.2 (fun _ _ => Request.push.inj) (pushes.symm.trans (whole rfl))

end Consumer

/-! ## Sinks of an engine -/

namespace Engine

def consumer (sink : SinkId) : Consumer Engine := ⟨push sink, finish sink⟩

/-- A drive on an engine, with the end told, is such a run. What it adds is the count. -/
theorem drive_eq_run (options : RunOptions) (q : Pipeline) (sink : SinkId) (g : Engine) :
    g.drive options (.pipe q sink) sink =
      let ran := (consumer sink).run options.stop q g
      (ran.result.map fun _ => ran.steps,
        { ran.state with profile := g.profile.add ⟨0, 1, ran.steps, ran.tests⟩ }) := by
  have alike : Source.Drive.Alike Eq (Source.drive options.stop push (.pipe q sink) g)
      ((consumer sink).drive options.stop q g) := by
    apply Source.drive_alike
    · rintro h _ rfl
      rfl
    · rintro r h _ rfl
      exact ⟨rfl, rfl⟩
    · rfl
  have kept : (Source.drive options.stop push (.pipe q sink) g).state.profile = g.profile :=
    Source.drive_keeps (P := fun h => h.profile = g.profile)
      (fun next r h same => (profile_push next r h).trans same) (.pipe q sink) g rfl
  unfold drive Consumer.run
  generalize Source.drive options.stop push (.pipe q sink) g = d at alike kept ⊢
  generalize (consumer sink).drive options.stop q g = e at alike ⊢
  obtain ⟨result, steps, tests, state⟩ := d
  obtain ⟨_, _, _, _⟩ := e
  obtain ⟨rfl, rfl, rfl, rfl⟩ := alike
  have counted : (state.countFilters tests).countDrive steps =
      { state with profile := g.profile.add ⟨0, 1, steps, tests⟩ } := by
    simp only [countFilters, countDrive, Profile.add, Nat.add_zero, ← kept]
  simp only [counted]
  cases result with
  | error f => rfl
  | ok u => simp only [finish_counters, consumer]

theorem run_eq_run (options : RunOptions) {plan : Plan} {sink : Nat} {g : Engine} {q : Pipeline}
    (bound : (g.lazySink sink).isBound = true)
    (compiled : plan.compile (g.schema (.lazySink sink)) = .ok q) :
    g.run options ⟨plan, sink⟩ =
      let ran := (consumer (.lazySink sink)).run options.stop q g.countCompile
      (ran.result.map fun _ => ran.steps,
        { ran.state with profile := g.profile.add ⟨1, 1, ran.steps, ran.tests⟩ }) := by
  rw [(run_of_compiled options bound compiled).1, drive_eq_run]
  simp only [countCompile, Profile.add, Nat.add_zero]

end Engine

end QueryFlow
