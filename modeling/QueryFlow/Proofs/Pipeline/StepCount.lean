import QueryFlow.Proofs.Engine.Execution
import QueryFlow.Proofs.Pipeline.Offers

/-!
# How many steps there are

`steps_exact`: a plan takes one step for each tuple and table item of its leaves and one for each
join, and finds its end with the step after those. What fails on the way, and what the consumers
answer, changes nothing of that.
-/

namespace QueryFlow

namespace Plan

def ownSteps : Plan → Nat
  | values _ tuples _ => tuples.length
  | scan table =>
    match table.contents with
    | .ok items => items.length
    | .error _ => 0
  | join .. => 1
  | filter .. | project .. | union .. => 0

mutual

def totalSteps : Plan → Nat
  | p@(values ..) | p@(scan _) => p.ownSteps
  | p@(filter _ input) => p.ownSteps + totalSteps input
  | p@(project _ _ input) => p.ownSteps + totalSteps input
  | p@(union _ _ inputs) => p.ownSteps + totalStepsAll inputs
  | p@(join _ left right) => p.ownSteps + totalSteps left + totalSteps right

def totalStepsAll : List Plan → Nat
  | [] => 0
  | p :: ps => totalSteps p + totalStepsAll ps

end

theorem remainingAll_eq {ps : List Plan} {qs : List Pipeline}
    (h : List.Forall₂ (fun p q => Pipeline.remaining q = p.totalSteps) ps qs) :
    Pipeline.remainingAll qs = totalStepsAll ps := by
  induction h with
  | nil => rfl
  | cons first _ ih => rw [Pipeline.remainingAll, totalStepsAll, first, ih]

theorem Compiled.remaining {consumer : Schema} {p : Plan} {q : Pipeline}
    (h : Compiled consumer p q) : q.remaining = p.totalSteps := by
  induction h with
  | values => rfl
  | scan _ opened => simp only [Pipeline.remaining, totalSteps, ownSteps, opened]
  | filter _ _ ih | project _ _ ih =>
    simp only [Pipeline.remaining, totalSteps, ownSteps, ih, Nat.zero_add]
  | union _ length _ ih =>
    have inputs := remainingAll_eq (List.forall₂_iff_zip.2 ⟨length, fun mem => ih _ _ mem⟩)
    simp only [Pipeline.remaining, totalSteps, ownSteps, inputs, Nat.zero_add]
  | join _ _ _ ihr ihl =>
    simp only [Pipeline.remaining, totalSteps, ownSteps, ihr, ihl]
    omega

end Plan

/-! ## Calls -/

structure Call (δ σ : Type) where
  result : Except Failure Progress
  offers : List Offer
  source : Source δ
  state : σ

namespace Source

variable {δ σ : Type} (push : δ → Row → σ → Except Failure Unit × σ) (count : Nat → σ → σ)

theorem step?_eq_none_iff {source : Source δ} : source.step? = none ↔ source.remaining = 0 := by
  refine ⟨remaining_of_step?_eq_none source, ?_⟩
  intro none
  rcases step : source.step? with _ | ⟨b, next, rest⟩
  · rfl
  · have := remaining_step? source b next rest step
    omega

/-- One call, on consumers that may answer anything. `count` takes note of the predicates that
filters evaluate. -/
def call (source : Source δ) (s : σ) : Call δ σ :=
  match source.step? with
  | none => ⟨.ok .done, [], source, s⟩
  | some (b, next, rest) =>
    let d := b.deliver (push next) s
    ⟨d.result.map fun _ => .continues, b.offers (push next) s, rest, count d.tests d.state⟩

/-- The call after `n` others, whatever those return. -/
def callAfter : Nat → Source δ → σ → Call δ σ
  | 0, source, s => source.call push count s
  | n + 1, source, s =>
    let c := source.call push count s
    callAfter n c.source c.state

theorem call_of_remaining {source : Source δ} (more : 0 < source.remaining) (s : σ) :
    (source.call push count s).result ≠ .ok .done ∧
      (source.call push count s).source.remaining + 1 = source.remaining := by
  rcases step : source.step? with _ | ⟨b, next, rest⟩
  · have := step?_eq_none_iff.1 step
    omega
  · simp only [call, step]
    refine ⟨?_, remaining_step? source b next rest step⟩
    rcases (b.deliver (push next) s).result with e | u
    · exact nofun
    · exact nofun

theorem call_of_ended {source : Source δ} (ended : source.remaining = 0) (s : σ) :
    source.call push count s = ⟨.ok .done, [], source, s⟩ := by
  rw [call, step?_eq_none_iff.2 ended]

theorem callAfter_of_lt {n : Nat} {source : Source δ} (more : n < source.remaining) (s : σ) :
    (source.callAfter push count n s).result ≠ .ok .done := by
  induction n generalizing source s with
  | zero => exact (call_of_remaining push count more s).1
  | succ n ih =>
    have first := (call_of_remaining push count (Nat.zero_lt_of_lt more) s).2
    exact ih (by omega) _

theorem callAfter_of_le {n : Nat} {source : Source δ} (ended : source.remaining ≤ n) (s : σ) :
    (source.callAfter push count n s).result = .ok .done ∧
      (source.callAfter push count n s).offers = [] := by
  induction n generalizing source s with
  | zero =>
    rw [callAfter, call_of_ended push count (Nat.le_zero.1 ended)]
    exact ⟨rfl, rfl⟩
  | succ n ih =>
    apply ih
    by_cases more : 0 < source.remaining
    · have first := (call_of_remaining push count more s).2
      omega
    · have none : source.remaining = 0 := by omega
      rw [call_of_ended push count none]
      show source.remaining ≤ n
      omega

/-! ## Drives -/

variable {push} {stop : σ → Option Error}

theorem drive_of_stop {source : Source δ} {s : σ} {e : Error} (stops : stop s = some e) :
    source.drive stop push s = ⟨.error (.error e), 0, 0, s⟩ := by
  unfold drive
  simp only [stops]

theorem stop_of_drive {source : Source δ} {s : σ}
    (driven : (source.drive stop push s).result = .ok ()) : stop s = none := by
  rcases stopped : stop s with _ | e
  · rfl
  · rw [drive_of_stop stopped] at driven
    cases driven

theorem drive_steps (source : Source δ) (s : σ) :
    (source.drive stop push s).steps ≤ source.remaining + 1 ∧
      ((source.drive stop push s).result = .ok () ↔
        (source.drive stop push s).steps = source.remaining + 1) := by
  rcases stops : stop s with _ | e
  · rcases step : source.step? with _ | ⟨b, next, rest⟩
    · simp [drive_of_ends stops step, step?_eq_none_iff.1 step]
    · have shorter := remaining_step? source b next rest step
      have ih := drive_steps rest
      rw [drive_of_step stops step]
      rcases b.deliver (push next) s with ⟨e | ⟨⟩, tests, s'⟩
      · simp only [reduceCtorEq, false_iff]
        omega
      · obtain ⟨bound, ends⟩ := ih s'
        simp only [ends]
        omega
  · simp [drive_of_stop stops]
termination_by source.remaining
decreasing_by omega

theorem deliver_keeps {P : σ → Prop} {push : Row → σ → Except Failure Unit × σ}
    (keeps : ∀ r s, P s → P (push r s).2) (b : Burst) (s : σ) (h : P s) :
    P (b.deliver push s).state := by
  induction b generalizing s with
  | quiet | failed e => exact h
  | passed i r rest ih => exact ih s h
  | row r rest ih =>
    have next := keeps r s h
    rw [Burst.deliver]
    generalize push r s = answer at next ⊢
    rcases answer with ⟨e | ⟨⟩, s'⟩
    · exact next
    · exact ih s' next

theorem drive_keeps {P : σ → Prop} (keeps : ∀ next r s, P s → P (push next r s).2)
    (source : Source δ) (s : σ) (h : P s) : P (source.drive stop push s).state := by
  rcases stops : stop s with _ | e
  · rcases step : source.step? with _ | ⟨b, next, rest⟩
    · rw [drive_of_ends stops step]
      exact h
    · have shorter := remaining_step? source b next rest step
      have ih := drive_keeps keeps rest
      have delivered := deliver_keeps (keeps next) b s h
      rw [drive_of_step stops step]
      generalize b.deliver (push next) s = d at delivered ⊢
      rcases d with ⟨e | ⟨⟩, tests, s'⟩
      · exact delivered
      · exact ih s' delivered
  · rw [drive_of_stop stops]
    exact h
termination_by source.remaining
decreasing_by omega

end Source

/-! ## Runs -/

namespace Engine

theorem step_eq_call (source : Source SinkId) (g : Engine) :
    g.step source =
      let c := source.call push (fun n g => g.countFilters n) g
      (c.result, c.source, c.state) := by
  rw [step, Source.call]
  rcases source.step? with _ | ⟨b, next, rest⟩ <;> rfl

/-- `Counts g h steps`: between `g` and `h` one more drive is counted, of so many steps. -/
structure Counts (g h : Engine) (steps : Nat) : Prop where
  drives : h.profile.drives = g.profile.drives + 1
  steps : h.profile.steps = g.profile.steps + steps

theorem profile_push (sink : SinkId) (r : Row) (g : Engine) :
    (push sink r g).2.profile = g.profile := by
  unfold push
  rcases g.route sink with i | _ | _
  · simp only
    rcases (g.buffer i).refusal? with _ | e
    · simp only
      split <;> rfl
    · rfl
  · rfl
  · rfl

theorem profile_finish (sink : SinkId) (g : Engine) : (finish sink g).2.profile = g.profile := by
  unfold finish
  rcases g.route sink with i | _ | _ <;> rfl

variable {options : RunOptions} {g h : Engine} {steps : Nat}

theorem counts_of_drive {source : Source SinkId} {terminal : SinkId}
    (driven : g.drive options source terminal = (.ok steps, h)) :
    steps = source.remaining + 1 ∧ Counts g h steps := by
  have exact : (source.drive options.stop push g).result = .ok () ↔
      (source.drive options.stop push g).steps = source.remaining + 1 :=
    (Source.drive_steps source g).2
  have kept : (source.drive options.stop push g).state.profile = g.profile :=
    Source.drive_keeps (P := fun h => h.profile = g.profile)
      (fun sink r h same => (profile_push sink r h).trans same) source g rfl
  unfold drive at driven
  generalize source.drive options.stop push g = d at driven exact kept
  rcases result : d.result with e | ⟨⟩
  · simp only [result, Prod.mk.injEq, reduceCtorEq, false_and] at driven
  · simp only [result, Prod.mk.injEq] at driven
    obtain ⟨finished, rfl⟩ := driven
    obtain ⟨-, -, rfl⟩ := map_eq_ok.1 finished
    refine ⟨exact.1 result, ?_, ?_⟩
    · rw [profile_finish, ← kept]
      rfl
    · rw [profile_finish, ← kept]
      rfl

theorem pipe_of_compilePlan {plan : Plan} {next : SinkId} {source : Source SinkId}
    (compiled : g.compilePlan plan next = (.ok source, h)) :
    source.remaining = plan.totalSteps ∧ g.countCompile = h := by
  unfold compilePlan at compiled
  split at compiled
  · cases compiled
  · obtain ⟨mapped, rfl⟩ := Prod.mk.inj compiled
    obtain ⟨q, ok, rfl⟩ := map_eq_ok.1 mapped
    exact ⟨(Plan.compile_eq_ok_iff.1 ok).remaining, rfl⟩

theorem counts_of_run {plan : Plan} {sink : Nat}
    (ran : g.run options ⟨plan, sink⟩ = (.ok steps, h)) :
    steps = plan.totalSteps + 1 ∧ Counts g h steps := by
  unfold run at ran
  split at ran
  · cases ran
  split at ran
  · cases ran
  · rename_i source k compiled
    obtain ⟨total, rfl⟩ := pipe_of_compilePlan compiled
    obtain ⟨exact, counts⟩ := counts_of_drive ran
    -- The compilation is counted by itself, before the drive.
    exact ⟨total ▸ exact, counts.drives, counts.steps⟩

theorem counts_of_execute {plan : Plan} {r : QueryResult}
    (executed : g.execute options plan = (.ok r, h)) :
    r.steps = plan.totalSteps + 1 ∧ Counts g h r.steps := by
  rw [execute_run] at executed
  rcases ran : (g.attached plan.schema).run options ⟨plan, g.lazySinks.size⟩ with ⟨e | steps, k⟩
  · simp only [ran, Prod.mk.injEq, reduceCtorEq, false_and] at executed
  · simp only [ran, Prod.mk.injEq, Except.ok.injEq] at executed
    obtain ⟨rfl, rfl⟩ := executed
    obtain ⟨total, counts⟩ := counts_of_run ran
    exact ⟨total, counts.drives, counts.steps⟩

theorem source_of_prepare {plan : Plan} {p : Prepared} {k : Engine}
    (prepared : k.prepare plan = (.ok p, h)) : p.source.remaining = plan.totalSteps := by
  unfold prepare at prepared
  dsimp only at prepared
  rcases compiled : (k.newLazySink plan.schema).2.compilePlan plan
    (.lazySink (k.newLazySink plan.schema).1) with ⟨result, g⟩
  rw [compiled] at prepared
  obtain ⟨source, rfl, rfl⟩ := map_eq_ok.1 (Prod.mk.inj prepared).1
  exact (pipe_of_compilePlan compiled).1

theorem counts_of_drivePrepared {p : Prepared}
    (driven : g.drivePrepared options p = (.ok steps, h)) :
    steps = p.source.remaining + 1 ∧ Counts g h steps := by
  unfold drivePrepared at driven
  rcases parts : g.split p with e | ⟨source, sink⟩
  · simp only [parts, Prod.mk.injEq, reduceCtorEq, false_and] at driven
  · simp only [parts] at driven
    simp only [split, bind_eq_ok, pure_eq_ok, Prod.mk.injEq] at parts
    obtain ⟨-, -, rfl, rfl⟩ := parts
    exact counts_of_drive driven

end Engine

theorem steps_exact (plan : Plan) :
    (∀ consumer q, plan.compile consumer = .ok q →
      ∀ {δ σ : Type} (push : δ → Row → σ → Except Failure Unit × σ) (count : Nat → σ → σ)
        (next : δ) (s : σ),
        (∀ n, let c := Source.callAfter push count n (.pipe q next) s
          (n < plan.totalSteps → c.result ≠ .ok .done) ∧
            (plan.totalSteps ≤ n → c.result = .ok .done ∧ c.offers = [])) ∧
        ∀ stop, let d := Source.drive stop push (.pipe q next) s
          d.steps ≤ plan.totalSteps + 1 ∧
            (d.result = .ok () ↔ d.steps = plan.totalSteps + 1)) ∧
    (∀ (g : Engine) (source : Source SinkId),
      g.step source =
        let c := source.call Engine.push (fun n g => g.countFilters n) g
        (c.result, c.source, c.state)) ∧
    ∀ (options : RunOptions) (g h : Engine),
      (∀ sink steps, g.run options ⟨plan, sink⟩ = (.ok steps, h) →
        steps = plan.totalSteps + 1 ∧ g.Counts h steps) ∧
      (∀ k p k' steps, Engine.prepare plan k = (.ok p, k') →
        g.drivePrepared options p = (.ok steps, h) →
        steps = plan.totalSteps + 1 ∧ g.Counts h steps) ∧
      ∀ r, g.execute options plan = (.ok r, h) →
        r.steps = plan.totalSteps + 1 ∧ g.Counts h r.steps := by
  refine ⟨?_, fun g source => Engine.step_eq_call source g, ?_⟩
  · intro consumer q compiled δ σ push count next s
    have total : (Source.pipe q next).remaining = plan.totalSteps :=
      (Plan.compile_eq_ok_iff.1 compiled).remaining
    rw [← total]
    refine ⟨?_, fun stop => Source.drive_steps (.pipe q next) s⟩
    intro n
    exact ⟨fun more => Source.callAfter_of_lt push count more s,
      fun ended => Source.callAfter_of_le push count ended s⟩
  · intro options g h
    refine ⟨fun sink steps ran => Engine.counts_of_run ran, ?_,
      fun r executed => Engine.counts_of_execute executed⟩
    intro k p k' steps prepared driven
    rw [← Engine.source_of_prepare prepared]
    exact Engine.counts_of_drivePrepared driven

theorem steps_exact_join :
    let ints : Schema := ⟨[⟨"n", .int, false⟩]⟩
    let less : Expr := .compare .lt (.column 0) (.literal (.float (.notANumber false)))
    let two : Plan := .values ints [[.int 1], [.int 2]] .physical
    let one : Plan := .values ints [[.int 5]] .physical
    let table : Table := ⟨"t", ints, .ok [.error .cancelled, .ok [.int 3]]⟩
    let failing : Plan := .join none (.union ints true [two, .scan table]) (.filter less one)
    let refuse (_ : Unit) (_ : Row) (s : Unit) : Except Failure Unit × Unit :=
      (.error (.error .cancelled), s)
    let good : Plan := .join none two one
    let g : Engine :=
      ⟨#[.empty good.schema .keep], #[⟨good.schema, some (.buffer 0)⟩], false, ⟨0, 0, 0, 0⟩⟩
    (∃ q, failing.compile failing.schema = .ok q ∧
      let calls n := Source.callAfter refuse (fun _ s => s) n (.pipe q ()) ()
      (calls 5).result ≠ .ok .done ∧ (calls 6).result = .ok .done ∧ (calls 6).offers = []) ∧
    ∃ h, g.run .unlimited ⟨good, 0⟩ = (.ok 5, h) ∧ h.profile.drives = 1 ∧ h.profile.steps = 5 := by
  intro ints less two one table failing refuse good g
  refine ⟨?_, ?_⟩
  · obtain ⟨q, compiled⟩ : ∃ q, failing.compile failing.schema = .ok q := ⟨_, rfl⟩
    have calls := ((steps_exact failing).1 _ q compiled refuse (fun _ s => s) () ()).1
    obtain ⟨done, silent⟩ := (calls 6).2 (Nat.le_refl 6)
    exact ⟨q, compiled, (calls 5).1 (Nat.lt_succ_self 5), done, silent⟩
  · have keeps : g.Keeps (.lazySink 0) 0 := ⟨rfl, Nat.one_pos, rfl⟩
    have free : ∀ h, RunOptions.unlimited.stop h = none := fun _ => rfl
    obtain ⟨steps, h, ran, -⟩ : ∃ steps h, g.run .unlimited ⟨good, 0⟩ = (.ok steps, h) ∧
        (h.buffer 0).rows.toList = (g.buffer 0).rows.toList ++ good.stream.rows :=
      Engine.run_of_keeps free rfl keeps rfl rfl
    obtain ⟨rfl, drives, counted⟩ := ((steps_exact good).2.2 .unlimited g h).1 0 steps ran
    exact ⟨h, ran, drives, counted⟩

end QueryFlow
