import QueryFlow.Proofs.Pipeline.StepCount

/-!
# Consumers that answer alike

How a pipeline is driven depends on its consumer only through the consumer's answers. `drive_alike`:
two consumers that answer alike, in states that correspond, see the same drive.
-/

namespace QueryFlow

variable {δ ε σ τ : Type}

/-- `Answers R push push'`: from states that correspond, the consumers answer alike and come to
states that correspond. -/
def Answers (R : σ → τ → Prop) (push : Row → σ → Except Failure Unit × σ)
    (push' : Row → τ → Except Failure Unit × τ) : Prop :=
  ∀ r s t, R s t → (push r s).1 = (push' r t).1 ∧ R (push r s).2 (push' r t).2

structure Source.Drive.Alike (R : σ → τ → Prop) (d : Source.Drive σ) (e : Source.Drive τ) :
    Prop where
  result : d.result = e.result
  steps : d.steps = e.steps
  tests : d.tests = e.tests
  state : R d.state e.state

variable {R : σ → τ → Prop}

theorem Burst.deliver_alike {push : Row → σ → Except Failure Unit × σ}
    {push' : Row → τ → Except Failure Unit × τ} (answers : Answers R push push') (b : Burst)
    {s : σ} {t : τ} (related : R s t) :
    (b.deliver push s).result = (b.deliver push' t).result ∧
      (b.deliver push s).tests = (b.deliver push' t).tests ∧
      R (b.deliver push s).state (b.deliver push' t).state := by
  induction b generalizing s t with
  | quiet | failed e => exact ⟨rfl, rfl, related⟩
  | passed i r rest ih =>
    obtain ⟨result, tests, state⟩ := ih related
    exact ⟨result, congrArg (· + i.tests) tests, state⟩
  | row r rest ih =>
    obtain ⟨same, next⟩ := answers r s t related
    rw [deliver, deliver]
    generalize push r s = answer at same next
    generalize push' r t = answer' at same next
    obtain ⟨result, s'⟩ := answer
    obtain ⟨result', t'⟩ := answer'
    obtain rfl : result = result' := same
    cases result with
    | error e => exact ⟨rfl, rfl, next⟩
    | ok u => exact ih next

namespace Source

variable {stop : σ → Option Error} {stop' : τ → Option Error}
  {push : δ → Row → σ → Except Failure Unit × σ} {push' : ε → Row → τ → Except Failure Unit × τ}

theorem drive_alike (stops : ∀ s t, R s t → stop s = stop' t) {next : δ} {next' : ε}
    (answers : Answers R (push next) (push' next')) (q : Pipeline) {s : σ} {t : τ}
    (related : R s t) :
    Drive.Alike R (drive stop push (.pipe q next) s) (drive stop' push' (.pipe q next') t) := by
  have same := stops s t related
  rcases stopped : stop' t with _ | e
  · rw [stopped] at same
    rcases step : q.step? with _ | ⟨b, rest⟩
    · rw [drive_of_ends same (by rw [step?, step]), drive_of_ends stopped (by rw [step?, step])]
      exact ⟨rfl, rfl, rfl, related⟩
    · have shorter := Pipeline.remaining_step? q b rest step
      obtain ⟨result, tests, state⟩ := b.deliver_alike answers related
      rw [drive_of_step same (by rw [step?, step]), drive_of_step stopped (by rw [step?, step])]
      generalize b.deliver (push next) s = d at result tests state
      generalize b.deliver (push' next') t = d' at result tests state
      obtain ⟨r, n, s'⟩ := d
      obtain ⟨r', n', t'⟩ := d'
      obtain rfl : r = r' := result
      obtain rfl : n = n' := tests
      cases r with
      | error e => exact ⟨rfl, rfl, rfl, state⟩
      | ok u =>
        have later := drive_alike stops answers rest state
        exact ⟨later.result, congrArg (· + 1) later.steps, congrArg (n + ·) later.tests,
          later.state⟩
  · rw [stopped] at same
    rw [drive_of_stop same, drive_of_stop stopped]
    exact ⟨rfl, rfl, rfl, related⟩
termination_by q.remaining
decreasing_by omega

end Source

end QueryFlow
