import Mathlib.Algebra.GroupWithZero.Nat
import QueryFlow.Proofs.Pipeline.Bursts
import QueryFlow.Proofs.Pipeline.Consumer

/-!
# Cancellation by the consumer

A consumer may request cancellation while it receives a row. `cancels_after_step`: the step that
gives the row is carried out to its end, and the run stops before the next one, which is also what
happens if there is nothing left to come. The consumer is not told the end then. It is told in all
the runs that take every step of the plan and the one that finds the end, and in no others. A run on
an engine is such a run of the sink of its entry.
-/

namespace QueryFlow

variable {σ : Type}

/-- The step after those of the bursts `before` is reached, and `b` is its burst with the `n`-th row
of all. -/
structure Pipeline.GivesRow (q : Pipeline) (n : Nat) (before : List Burst) (b : Burst) : Prop where
  bursts : q.bursts (before.length + 1) = before ++ [b]
  succeed : ∀ u ∈ before, u.stream.ending = none
  few : (before.flatMap Burst.rows).length < n
  enough : n ≤ (before.flatMap Burst.rows).length + b.rows.length

namespace Consumer

def after (c : Consumer σ) (rows : List Row) (s : σ) : σ := rows.foldl (fun s r => (c.push r s).2) s

structure Trips (c : Consumer σ) (stop : σ → Option Error) (n : Nat) (s : σ) : Prop where
  accepts : ∀ rows r, (c.push r (c.after rows s)).1 = .ok ()
  stops : ∀ rows, stop (c.after rows s) = if n ≤ rows.length then some .cancelled else none

variable {c : Consumer σ} {stop : σ → Option Error} {n : Nat} {s : σ}

theorem after_append (rows more : List Row) :
    c.after (rows ++ more) s = c.after more (c.after rows s) :=
  List.foldl_append

theorem Trips.after (trips : c.Trips stop n s) {rows : List Row} (few : rows.length < n) :
    c.Trips stop (n - rows.length) (c.after rows s) where
  accepts more r := by
    rw [← after_append]
    exact trips.accepts _ r
  stops more := by
    rw [← after_append, trips.stops, List.length_append]
    have same : n ≤ rows.length + more.length ↔ n - rows.length ≤ more.length := by omega
    simp only [same]

theorem Trips.free (trips : c.Trips stop n s) (positive : 0 < n) : stop s = none :=
  (trips.stops []).trans (if_neg (Nat.not_le.2 positive))

theorem deliver_of_accepts (b : Burst)
    (accepts : ∀ rows r, (c.push r (c.after rows s)).1 = .ok ()) :
    b.deliver c.push s =
      ⟨match b.stream.ending with | none => .ok () | some e => .error (.error e), b.tests,
        c.after b.rows s⟩ := by
  induction b generalizing s with
  | quiet | failed e => rfl
  | passed i r rest ih =>
    rw [Burst.deliver, ih accepts]
    rfl
  | row r rest ih =>
    have first : (c.push r s).1 = .ok () := accepts [] r
    have later := ih (s := (c.push r s).2) fun rows => accepts (r :: rows)
    have rest_after : c.after (Burst.row r rest).rows s = c.after rest.rows (c.push r s).2 := rfl
    rw [Burst.deliver, rest_after]
    generalize c.push r s = answer at first later
    obtain ⟨_, s'⟩ := answer
    obtain rfl := first
    exact later

theorem Trips.drive {before : List Burst} {b : Burst} {q : Pipeline}
    (trips : c.Trips stop n s) (positive : 0 < n) (gives : q.GivesRow n before b) :
    c.drive stop q s =
      ⟨.error (.error (b.stream.ending.getD .cancelled)), before.length + 1,
        ((before ++ [b]).map Burst.tests).sum, c.after ((before ++ [b]).flatMap Burst.rows) s⟩ := by
  have free := trips.free positive
  obtain ⟨bursts, succeed, few, enough⟩ := gives
  induction before generalizing q n s with
  | nil =>
    obtain ⟨rest, steps, -⟩ := Pipeline.steps_of_bursts bursts
    have reached : n ≤ b.rows.length := by simpa using enough
    have stops : stop (c.after b.rows s) = some .cancelled :=
      (trips.stops _).trans (if_pos reached)
    have stopped : c.drive stop rest (c.after b.rows s) = _ := Source.drive_of_stop stops
    rw [drive_of_steps free steps, deliver_of_accepts b trips.accepts]
    cases b.stream.ending with
    -- Nothing is asked of `rest`, not even whether it is at its end.
    | none => simp [stopped]
    | some e => simp
  | cons u before ih =>
    obtain ⟨rest, steps, later⟩ := Pipeline.steps_of_bursts bursts
    obtain ⟨succeeds, succeed⟩ := List.forall_mem_cons.1 succeed
    rw [List.flatMap_cons, List.length_append] at few enough
    -- The step leaves `n` less its rows to come.
    have fewer : u.rows.length < n := by omega
    have trips' := trips.after fewer
    have driven := ih trips' (by omega) (trips'.free (by omega)) later succeed (by omega) (by omega)
    rw [drive_of_steps free steps, deliver_of_accepts u trips.accepts, succeeds]
    simp only [driven, List.cons_append, List.map_cons, List.sum_cons, List.flatMap_cons,
      after_append, List.length_cons]

theorem Trips.drive_of_few (trips : c.Trips stop n s) {q : Pipeline}
    (few : q.stream.rows.length < n) : c.drive stop q s = c.drive (fun _ => none) q s := by
  have free := trips.free (Nat.zero_lt_of_lt few)
  induction q using Pipeline.step_induction generalizing n s with
  | ends q ends => rw [drive_of_ends free ends, drive_of_ends rfl ends]
  | steps q b rest steps ih =>
    rw [drive_of_steps free steps, drive_of_steps rfl steps, deliver_of_accepts b trips.accepts]
    rw [steps.stream, Stream.append] at few
    cases ending : b.stream.ending with
    | some e => rfl
    | none =>
      simp only [ending, List.length_append, ← Burst.rows_eq_stream] at few
      have fewer : b.rows.length < n := by omega
      have trips' := trips.after fewer
      simp only [ih trips' (by omega) (trips'.free (by omega))]

theorem exists_givesRow {q : Pipeline} (positive : 0 < n) (enough : n ≤ q.stream.rows.length) :
    ∃ before b, q.GivesRow n before b := by
  induction q using Pipeline.step_induction generalizing n with
  | ends q ends =>
    rw [ends.stream] at enough
    exact absurd positive (Nat.not_lt.2 enough)
  | steps q b rest steps ih =>
    by_cases here : n ≤ b.rows.length
    · refine ⟨[], b, ?_, List.forall_mem_nil _, positive, ?_⟩
      · exact Pipeline.bursts_of_step steps.step? 0
      · simpa using here
    -- The row is not in the first burst, which therefore does not fail.
    rw [steps.stream, Stream.append] at enough
    cases ending : b.stream.ending with
    | some e =>
      simp only [ending, ← Burst.rows_eq_stream] at enough
      exact absurd enough here
    | none =>
      simp only [ending, List.length_append, ← Burst.rows_eq_stream] at enough
      obtain ⟨before, u, bursts, succeed, few, reached⟩ :=
        ih (n := n - b.rows.length) (by omega) (by omega)
      refine ⟨b :: before, u, ?_, List.forall_mem_cons.2 ⟨ending, succeed⟩, ?_, ?_⟩
      · rw [List.length_cons, Pipeline.bursts_of_step steps.step?, bursts]
        rfl
      · rw [List.flatMap_cons, List.length_append]
        omega
      · rw [List.flatMap_cons, List.length_append]
        omega

theorem after_recorded (rows : List Row) (before : List Request) :
    c.recorded.after rows (s, before) = (c.after rows s, before ++ rows.map .push) := by
  induction rows generalizing s before with
  | nil => exact congrArg (Prod.mk s) (List.append_nil before).symm
  | cons r rows ih =>
    have rest : c.recorded.after rows ((c.push r s).2, before ++ [.push r]) = _ := ih _
    rw [List.append_assoc] at rest
    exact rest

theorem Trips.recorded (trips : c.Trips stop n s) :
    c.recorded.Trips (fun t => stop t.1) n (s, []) where
  accepts rows r := by
    rw [after_recorded]
    exact trips.accepts rows r
  stops rows := by
    rw [after_recorded]
    exact trips.stops rows

variable {q : Pipeline}

theorem Trips.run {before : List Burst} {b : Burst} (trips : c.Trips stop n s) (positive : 0 < n)
    (gives : q.GivesRow n before b) :
    let rows := (before ++ [b]).flatMap Burst.rows
    c.run stop q s =
        ⟨.error (.error (b.stream.ending.getD .cancelled)), before.length + 1,
          ((before ++ [b]).map Burst.tests).sum, c.after rows s⟩ ∧
      c.requests stop q s = rows.map .push := by
  refine ⟨?_, ?_⟩
  · rw [Consumer.run, trips.drive positive gives]
  · rw [requests, Consumer.run, trips.recorded.drive positive gives]
    exact congrArg Prod.snd (after_recorded _ [])

theorem Trips.run_of_few (trips : c.Trips stop n s) (few : q.stream.rows.length < n) :
    c.run stop q s = c.run (fun _ => none) q s ∧
      c.requests stop q s = c.requests (fun _ => none) q s := by
  refine ⟨?_, ?_⟩
  · rw [Consumer.run, trips.drive_of_few few, Consumer.run]
  · rw [requests, Consumer.run, trips.recorded.drive_of_few few, requests, Consumer.run]

end Consumer

/-! ## Cancellation by a buffer -/

namespace Engine

/-- `g.CancelsAt sink b n`: what is pushed to `sink` ends up in buffer `b`, which keeps every row
and requests cancellation as soon as it holds `n` of them. -/
structure CancelsAt (g : Engine) (sink : SinkId) (b n : Nat) : Prop where
  route : g.route sink = .buffer b
  holds : b < g.buffers.size
  policy : (g.buffer b).policy = .trip n
  cancelled : g.cancelled = decide (n ≤ (g.buffer b).rows.size)

variable {g : Engine} {sink : SinkId} {b n : Nat}

theorem push_of_cancelsAt (h : g.CancelsAt sink b n) (r : Row) :
    (push sink r g).1 = .ok () ∧ (push sink r g).2.CancelsAt sink b n ∧
      ((push sink r g).2.buffer b).rows = (g.buffer b).rows.push r := by
  have kept : (g.changeBuffer b (Buffer.keep r)).buffer b = (g.buffer b).keep r := by
    rw [buffer_changeBuffer, if_pos ⟨rfl, h.holds⟩]
  have cancels : ((g.buffer b).keep r).cancels = decide (n ≤ (g.buffer b).rows.size + 1) := by
    simp only [Buffer.cancels, Buffer.keep, h.policy, Array.size_push]
  have pushed : push sink r g =
      (.ok (), { g.changeBuffer b (Buffer.keep r) with
        cancelled := decide (n ≤ (g.buffer b).rows.size + 1) }) := by
    simp only [push, h.route, Buffer.refusal?, h.policy, kept, cancels]
    by_cases full : n ≤ (g.buffer b).rows.size + 1
    · simp [full]
    · have not_yet : ¬ n ≤ (g.buffer b).rows.size := by omega
      simp [full, changeBuffer, h.cancelled, not_yet]
  have routed : (push sink r g).2.route sink = g.route sink :=
    route_congr (by rw [pushed]; rfl) sink
  have rows : ((push sink r g).2.buffer b).rows = (g.buffer b).rows.push r := by
    rw [pushed]
    exact congrArg Buffer.rows kept
  refine ⟨by rw [pushed], ⟨routed.trans h.route, ?_, ?_, ?_⟩, rows⟩
  · rw [pushed]
    exact Nat.lt_of_lt_of_eq h.holds Array.size_modify.symm
  · rw [pushed]
    exact (congrArg Buffer.policy kept).trans h.policy
  · rw [rows, Array.size_push, pushed]

theorem after_of_cancelsAt (h : g.CancelsAt sink b n) (rows : List Row) :
    ((consumer sink).after rows g).CancelsAt sink b n ∧
      (((consumer sink).after rows g).buffer b).rows.toList = (g.buffer b).rows.toList ++ rows := by
  induction rows generalizing g with
  | nil => exact ⟨h, (List.append_nil _).symm⟩
  | cons r rows ih =>
    obtain ⟨-, still, kept⟩ := push_of_cancelsAt h r
    obtain ⟨last, rest⟩ := ih still
    refine ⟨last, rest.trans ?_⟩
    rw [kept, Array.toList_push, List.append_assoc]
    rfl

theorem trips_of_cancelsAt (h : g.CancelsAt sink b ((g.buffer b).rows.size + n)) :
    (consumer sink).Trips (RunOptions.stop ⟨none, some .shared⟩) n g where
  accepts rows r := (push_of_cancelsAt (after_of_cancelsAt h rows).1 r).1
  stops rows := by
    obtain ⟨last, kept⟩ := after_of_cancelsAt h rows
    have size := congrArg List.length kept
    simp only [List.length_append, Array.length_toList] at size
    simp [RunOptions.stop, last.cancelled, size]

theorem CancelsAt.countCompile (h : g.CancelsAt sink b n) : g.countCompile.CancelsAt sink b n where
  route := (route_counters g _ sink).trans h.route
  holds := h.holds
  policy := h.policy
  cancelled := h.cancelled

end Engine

open Engine in
theorem cancels_after_step {plan : Plan} {consumer : Schema} {q : Pipeline}
    (compiled : plan.compile consumer = .ok q) :
    (∀ {σ : Type} (c : Consumer σ) (stop : σ → Option Error) (n : Nat) (s : σ), 0 < n →
      c.Trips stop n s →
      (∀ before b, q.GivesRow n before b →
        let rows := (before ++ [b]).flatMap Burst.rows
        c.run stop q s =
            ⟨.error (.error (b.stream.ending.getD .cancelled)), before.length + 1,
              ((before ++ [b]).map Burst.tests).sum, c.after rows s⟩ ∧
          c.requests stop q s = rows.map .push) ∧
      (n ≤ plan.stream.rows.length → ∃ before b, q.GivesRow n before b) ∧
      (plan.stream.rows.length < n →
        c.run stop q s = c.run (fun _ => none) q s ∧
          c.requests stop q s = c.requests (fun _ => none) q s)) ∧
    (∀ {σ : Type} (c : Consumer σ) (stop : σ → Option Error) (s : σ), ∃ rows : List Row,
      let done := (c.drive stop q s).steps = plan.totalSteps + 1
      c.requests stop q s = rows.map .push ++ (if done then [.finish] else []) ∧
        (done → rows = plan.stream.rows)) ∧
    (∀ (options : RunOptions) (g : Engine) (sink : Nat), g.schema (.lazySink sink) = consumer →
      (g.lazySink sink).isBound = true →
      g.run options ⟨plan, sink⟩ =
        let ran := (Engine.consumer (.lazySink sink)).run options.stop q g.countCompile
        (ran.result.map fun _ => ran.steps,
          { ran.state with profile := g.profile.add ⟨1, 1, ran.steps, ran.tests⟩ })) ∧
    ∀ (g : Engine) (sink b n : Nat), g.schema (.lazySink sink) = consumer → 0 < n →
      g.CancelsAt (.lazySink sink) b ((g.buffer b).rows.size + n) →
      (∀ before last, q.GivesRow n before last →
        let ran := g.run ⟨none, some .shared⟩ ⟨plan, sink⟩
        let given := before ++ [last]
        ran.1 = .error (.error (last.stream.ending.getD .cancelled)) ∧
          ran.2.profile =
            g.profile.add ⟨1, 1, before.length + 1, (given.map Burst.tests).sum⟩ ∧
          (ran.2.buffer b).rows.toList =
            (g.buffer b).rows.toList ++ given.flatMap Burst.rows) ∧
      (plan.stream.rows.length < n →
        g.run ⟨none, some .shared⟩ ⟨plan, sink⟩ = g.run .unlimited ⟨plan, sink⟩) := by
  have rules := Plan.compile_eq_ok_iff.1 compiled
  rw [← rules.stream, ← rules.remaining]
  refine ⟨?_, ?_, ?_, ?_⟩
  · intro σ c stop n s positive trips
    exact ⟨fun before b gives => trips.run positive gives,
      fun enough => Consumer.exists_givesRow positive enough, fun few => trips.run_of_few few⟩
  · intro σ c stop s
    obtain ⟨rows, requests, whole⟩ := c.requests_eq stop q s
    have ends : (c.drive stop q s).result = .ok () ↔ (c.drive stop q s).steps = q.remaining + 1 :=
      (Source.drive_steps (.pipe q ()) s).2
    refine ⟨rows, ?_, fun done => whole (ends.2 done)⟩
    simp only [← ends, requests]
    rcases (c.drive stop q s).result with f | ⟨⟩
    · simp [Except.isOk, Except.toBool]
    · simp [Except.isOk, Except.toBool]
  · rintro options g sink rfl bound
    exact run_eq_run options bound compiled
  · rintro g sink b n rfl positive cancels
    have bound := isBound_of_route cancels.route
    have trips := trips_of_cancelsAt cancels.countCompile
    refine ⟨?_, ?_⟩
    · intro before last gives
      have kept := (after_of_cancelsAt cancels.countCompile
        ((before ++ [last]).flatMap Burst.rows)).2
      rw [run_eq_run _ bound compiled, (trips.run positive gives).1]
      exact ⟨rfl, rfl, kept⟩
    · intro few
      rw [run_eq_run _ bound compiled, (trips.run_of_few few).1, run_eq_run _ bound compiled]
      rfl

/-- A left row is paired with two right ones. Both pairs are kept, whether the first of them or the
very last row of the plan trips the buffer, unless the condition fails on the second. -/
theorem cancels_after_step_join :
    let ints : Schema := ⟨[⟨"n", .int, false⟩]⟩
    let doubles : Schema := ⟨[⟨"d", .float, false⟩]⟩
    let one : Value := .float ⟨0x3ff0000000000000⟩
    let nan : Value := .float (.notANumber false)
    let plan (condition : Option Expr) (r : Value) : Plan :=
      .join condition (.values ints [[.int 0]] .physical) (.values doubles [[one], [r]] .physical)
    let less : Expr := .compare .lt (.column 0) (.column 1)
    let schema : Schema := (plan none one).schema
    let engine (n : Nat) : Engine :=
      ⟨#[.empty schema (.trip n)], #[⟨schema, some (.buffer 0)⟩], false, ⟨0, 0, 0, 0⟩⟩
    let ran (condition : Option Expr) (r : Value) (n : Nat) :=
      (engine n).run ⟨none, some .shared⟩ ⟨plan condition r, 0⟩
    let both : List Row := [[.int 0, one], [.int 0, one]]
    (∀ n, n = 1 ∨ n = 2 → (ran none one n).1 = .error (.error .cancelled) ∧
      (ran none one n).2.profile = ⟨1, 1, 4, 0⟩ ∧
      ((ran none one n).2.buffer 0).rows.toList = both) ∧
    (∃ q, (plan none one).compile schema = .ok q ∧
      (Engine.consumer (.lazySink 0)).requests (RunOptions.stop ⟨none, some .shared⟩) q (engine 2) =
        both.map .push) ∧
    (ran (some less) nan 1).1 = .error (.error (.eval (.incomparable (.int 0) .lt nan))) := by
  intro ints doubles one nan plan less schema engine ran both
  have cancels {n : Nat} (positive : 0 < n) : (engine n).CancelsAt (.lazySink 0) 0 (0 + n) := by
    rw [Nat.zero_add]
    exact ⟨rfl, Nat.one_pos, rfl, (decide_eq_false (Nat.not_le.2 positive)).symm⟩
  obtain ⟨q, compiled⟩ : ∃ q, (plan none one).compile schema = .ok q := ⟨_, rfl⟩
  obtain ⟨consumers, -, -, engines⟩ := cancels_after_step compiled
  let last : Burst :=
    .passed ⟨.probe, ints⟩ [.int 0] (.row [.int 0, one] (.row [.int 0, one] .quiet))
  have gives {n : Nat} (positive : 0 < n) (le : n ≤ 2) : q.GivesRow n (q.bursts 3) last := by
    cases compiled
    exact ⟨rfl, by decide, positive, le⟩
  refine ⟨?_, ?_, ?_⟩
  · rintro n either
    have positive : 0 < n := by omega
    have tripped := (engines (engine n) 0 0 n rfl positive (cancels positive)).1 _ _
      (gives positive (by omega))
    cases compiled
    exact tripped
  · have trips := Engine.trips_of_cancelsAt (cancels (n := 2) Nat.two_pos)
    have tripped := (consumers _ _ 2 (engine 2) Nat.two_pos trips).1 _ _ (gives Nat.two_pos le_rfl)
    refine ⟨q, compiled, tripped.2.trans ?_⟩
    cases compiled
    rfl
  · obtain ⟨p, compiled⟩ : ∃ p, (plan (some less) nan).compile schema = .ok p := ⟨_, rfl⟩
    have failing : p.GivesRow 1 (p.bursts 3)
        (.passed ⟨.probe, ints⟩ [.int 0] (.row [.int 0, one]
          (.failed (.eval (.incomparable (.int 0) .lt nan))))) := by
      cases compiled
      exact ⟨rfl, by decide, Nat.one_pos, le_rfl⟩
    exact ((cancels_after_step compiled).2.2.2 (engine 1) 0 0 1 rfl Nat.one_pos
      (cancels Nat.one_pos)).1 _ _ failing |>.1

end QueryFlow
