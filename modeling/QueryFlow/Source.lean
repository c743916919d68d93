import QueryFlow.Pipeline.Compile

namespace QueryFlow

/-- A source over consumers of type `δ`. The branches of a union may feed different consumers. -/
inductive Source (δ : Type)
  | pipe (pipeline : Pipeline) (next : δ)
  | union (branches : List (Source δ))

namespace Source

variable {δ : Type}

mutual

def step? : Source δ → Option (Burst × δ × Source δ)
  | pipe p next =>
    match p.step? with
    | none => none
    | some (b, p) => some (b, next, pipe p next)
  | union branches =>
    match stepFirst? branches with
    | none => none
    | some (b, next, branches) => some (b, next, union branches)

def stepFirst? : List (Source δ) → Option (Burst × δ × List (Source δ))
  | [] => none
  | s :: ss =>
    match s.step? with
    | none => stepFirst? ss
    | some (b, next, s) => some (b, next, s :: ss)

end

def driver : Source δ → String
  | pipe p _ => p.driver
  | union _ => "Union"

mutual

def remaining : Source δ → Nat
  | pipe p _ => p.remaining
  | union branches => remainingAll branches

def remainingAll : List (Source δ) → Nat
  | [] => 0
  | s :: ss => s.remaining + remainingAll ss

end

mutual

theorem remaining_of_step?_eq_none (s : Source δ) : s.step? = none → s.remaining = 0 := by
  intro h
  match s with
  | pipe p next =>
    rw [step?] at h
    split at h
    · rename_i hi
      exact Pipeline.remaining_of_step?_eq_none p hi
    · cases h
  | union branches =>
    rw [step?] at h
    split at h
    · rename_i hi
      exact remainingAll_of_stepFirst?_eq_none branches hi
    · cases h

theorem remainingAll_of_stepFirst?_eq_none (ss : List (Source δ)) :
    stepFirst? ss = none → remainingAll ss = 0 := by
  intro h
  match ss with
  | [] => rfl
  | s :: ss =>
    rw [stepFirst?] at h
    split at h
    · rename_i hi
      simp [remainingAll, remaining_of_step?_eq_none s hi, remainingAll_of_stepFirst?_eq_none ss h]
    · cases h

end

mutual

theorem remaining_step? (s : Source δ) :
    ∀ b next t, s.step? = some (b, next, t) → t.remaining + 1 = s.remaining := by
  intro b next t h
  match s with
  | pipe p next =>
    rw [step?] at h
    split at h
    · cases h
    · rename_i c q hi
      cases h
      simpa only [remaining] using Pipeline.remaining_step? p _ _ hi
  | union branches =>
    rw [step?] at h
    split at h
    · cases h
    · rename_i c next' branches' hi
      cases h
      simpa only [remaining] using remainingAll_stepFirst? branches _ _ _ hi

theorem remainingAll_stepFirst? (ss : List (Source δ)) :
    ∀ b next ts, stepFirst? ss = some (b, next, ts) → remainingAll ts + 1 = remainingAll ss := by
  intro b next ts h
  match ss with
  | [] => simp [stepFirst?] at h
  | s :: ss =>
    rw [stepFirst?] at h
    split at h
    · rename_i hi
      have := remainingAll_stepFirst? ss _ _ _ h
      simp only [remainingAll, remaining_of_step?_eq_none s hi]
      omega
    · rename_i c next' s' hi
      cases h
      have := remaining_step? s _ _ _ hi
      simp only [remainingAll]
      omega

end

structure Drive (σ : Type) where
  result : Except Failure Unit
  steps : Nat
  tests : Nat
  state : σ

/-- Steps a source to its end. Before each step the state is asked whether to stop; the first
failure ends the drive, and the step that fails or finds the end is counted. -/
def drive {σ : Type} (stop : σ → Option Error) (push : δ → Row → σ → Except Failure Unit × σ)
    (source : Source δ) (s : σ) : Drive σ :=
  match stop s with
  | some e => ⟨.error (.error e), 0, 0, s⟩
  | none =>
    match h : source.step? with
    | none => ⟨.ok (), 1, 0, s⟩
    | some (burst, next, rest) =>
      have := remaining_step? source _ _ _ h
      match burst.deliver (push next) s with
      | ⟨.error e, tests, s⟩ => ⟨.error e, 1, tests, s⟩
      | ⟨.ok (), tests, s⟩ =>
        let r := drive stop push rest s
        ⟨r.result, r.steps + 1, tests + r.tests, r.state⟩
  termination_by source.remaining
  decreasing_by omega

end Source

end QueryFlow
