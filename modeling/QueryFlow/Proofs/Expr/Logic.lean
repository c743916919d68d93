import Mathlib.Data.List.Forall2
import Mathlib.Order.BoundedOrder.Basic
import Mathlib.Order.MinMax
import QueryFlow.Expr
import QueryFlow.Proofs.Results

/-!
# Laws of the connectives

Conjunction, disjunction and negation of conditions, whatever the operands come to: an operand may
fail, or be no condition. Operands that are conditions make a conjunction their minimum and a
disjunction their maximum.
-/

namespace QueryFlow

inductive Truth
  | no
  | unknown
  | yes
  deriving DecidableEq

namespace Truth

def rank : Truth → Nat
  | no => 0
  | unknown => 1
  | yes => 2

theorem rank_injective : Function.Injective rank := by
  intro a b h
  cases a <;> cases b <;> first | rfl | cases h

instance : LinearOrder Truth := LinearOrder.lift' rank rank_injective

instance : BoundedOrder Truth where
  top := yes
  le_top t := by cases t <;> decide
  bot := no
  bot_le t := by cases t <;> decide

def value : Truth → Value
  | no => .bool false
  | unknown => .null
  | yes => .bool true

def complement : Truth → Truth
  | no => yes
  | unknown => unknown
  | yes => no

theorem value_injective {t u : Truth} (h : t.value = u.value) : t = u := by
  cases t <;> cases u <;> first | rfl | cases h

theorem complement_complement (t : Truth) : t.complement.complement = t := by
  cases t <;> rfl

theorem complement_min (t u : Truth) :
    (min t u).complement = max t.complement u.complement := by
  cases t <;> cases u <;> rfl

def least (ts : List Truth) : Truth := ts.foldr min ⊤

def greatest (ts : List Truth) : Truth := ts.foldr max ⊥

theorem le_least_iff {t : Truth} {ts : List Truth} : t ≤ least ts ↔ ∀ u ∈ ts, t ≤ u := by
  induction ts with
  | nil => exact ⟨fun _ => List.forall_mem_nil _, fun _ => le_top⟩
  | cons u ts ih =>
    rw [List.forall_mem_cons, ← ih]
    exact le_min_iff

theorem greatest_le_iff {t : Truth} {ts : List Truth} : greatest ts ≤ t ↔ ∀ u ∈ ts, u ≤ t := by
  induction ts with
  | nil => exact ⟨fun _ => List.forall_mem_nil _, fun _ => bot_le⟩
  | cons u ts ih =>
    rw [List.forall_mem_cons, ← ih]
    exact max_le_iff

variable {ts us : List Truth}

theorem least_congr (same : ∀ t, t ∈ ts ↔ t ∈ us) : least ts = least us :=
  eq_of_forall_le_iff fun t => by simp only [le_least_iff, same]

theorem greatest_congr (same : ∀ t, t ∈ ts ↔ t ∈ us) : greatest ts = greatest us :=
  eq_of_forall_ge_iff fun t => by simp only [greatest_le_iff, same]

theorem complement_least (ts : List Truth) :
    (least ts).complement = greatest (ts.map complement) := by
  induction ts with
  | nil => rfl
  | cons t ts ih =>
    calc (least (t :: ts)).complement
        = max t.complement (least ts).complement := complement_min t (least ts)
      _ = greatest ((t :: ts).map complement) := by rw [ih]; rfl

end Truth

def Value.negated (v : Value) : Except EvalError Value := do
  match ← v.truth with
  | some b => return .bool !b
  | none => return .null

theorem Value.negated_value (t : Truth) : t.value.negated = .ok t.complement.value := by
  cases t <;> rfl

theorem Value.eq_of_negated {v : Value} {t : Truth} (h : v.negated = .ok t.value) :
    v = t.complement.value := by
  cases v <;> cases t <;> simp_all [negated, truth, Truth.value, Truth.complement]

namespace Expr

variable {row : Row}

theorem eval_not (e : Expr) : (Expr.not e).eval row = e.eval row >>= Value.negated := by
  rw [eval]
  rfl

theorem eval_and (es : List Expr) : (Expr.and es).eval row = evalUntil row false false es := by
  rw [eval]

theorem eval_or (es : List Expr) : (Expr.or es).eval row = evalUntil row true false es := by
  rw [eval]

def resume (row : Row) (decisive sawNull : Bool) (es : List Expr) (v : Value) :
    Except EvalError Value := do
  match ← v.truth with
  | some b => if b == decisive then return .bool decisive else evalUntil row decisive sawNull es
  | none => evalUntil row decisive true es

theorem evalUntil_cons (decisive sawNull : Bool) (e : Expr) (es : List Expr) :
    evalUntil row decisive sawNull (e :: es) =
      e.eval row >>= resume row decisive sawNull es := by
  rw [evalUntil]
  rfl

theorem resume_decisive (decisive sawNull : Bool) (es : List Expr) :
    resume row decisive sawNull es (.bool decisive) = .ok (.bool decisive) := by
  cases decisive <;> rfl

theorem resume_other (decisive sawNull : Bool) (es : List Expr) :
    resume row decisive sawNull es (.bool !decisive) = evalUntil row decisive sawNull es := by
  cases decisive <;> rfl

/-! ## De Morgan's laws -/

theorem evalUntil_map_not (decisive sawNull : Bool) (es : List Expr) :
    evalUntil row (!decisive) sawNull (es.map .not) =
      evalUntil row decisive sawNull es >>= Value.negated := by
  induction es generalizing sawNull with
  | nil => cases sawNull <;> cases decisive <;> rfl
  | cons e es ih =>
    rw [List.map_cons, evalUntil_cons, evalUntil_cons, eval_not]
    cases e.eval row with
    | error => rfl
    | ok v =>
      rw [ok_bind, ok_bind]
      cases v with
      | bool b =>
        have negated : (Value.bool b).negated = .ok (.bool !b) := rfl
        rw [negated, ok_bind]
        rcases Bool.eq_or_eq_not b decisive with rfl | rfl
        · rw [resume_decisive, resume_decisive, ok_bind, negated]
        · rw [resume_other, resume_other, ih]
      | null => exact ih true
      | _ => rfl

theorem eval_not_and (es : List Expr) :
    (Expr.not (.and es)).eval row = (Expr.or (es.map .not)).eval row := by
  rw [eval_not, eval_and, eval_or]
  exact (evalUntil_map_not false false es).symm

theorem eval_not_or (es : List Expr) :
    (Expr.not (.or es)).eval row = (Expr.and (es.map .not)).eval row := by
  rw [eval_not, eval_and, eval_or]
  exact (evalUntil_map_not true false es).symm

/-! ## Nested connectives -/

/-- Operands of a connective within the same connective may stand in its place. The flag `inner` is
what the nested connective has seen so far. -/
theorem evalUntil_append (decisive sawNull inner : Bool) (es rest : List Expr) :
    evalUntil row decisive (sawNull || inner) (es ++ rest) =
      evalUntil row decisive inner es >>= resume row decisive sawNull rest := by
  induction es generalizing inner with
  | nil => cases inner <;> cases sawNull <;> cases decisive <;> rfl
  | cons e es ih =>
    rw [List.cons_append, evalUntil_cons, evalUntil_cons]
    cases e.eval row with
    | error => rfl
    | ok v =>
      rw [ok_bind, ok_bind]
      cases v with
      | bool b =>
        rcases Bool.eq_or_eq_not b decisive with rfl | rfl
        · rw [resume_decisive, resume_decisive, ok_bind, resume_decisive]
        · rw [resume_other, resume_other, ih]
      | null =>
        have seen := ih true
        rw [Bool.or_true] at seen
        exact seen
      | _ => rfl

theorem evalUntil_append_congr {decisive : Bool} {xs ys : List Expr}
    (same : ∀ sawNull, evalUntil row decisive sawNull xs = evalUntil row decisive sawNull ys)
    (es : List Expr) :
    evalUntil row decisive false (es ++ xs) = evalUntil row decisive false (es ++ ys) := by
  have resumed : resume row decisive false xs = resume row decisive false ys := by
    funext v
    simp only [resume, same]
  have apart (zs : List Expr) : evalUntil row decisive false (es ++ zs) =
      evalUntil row decisive false es >>= resume row decisive false zs :=
    evalUntil_append decisive false false es zs
  rw [apart, apart, resumed]

theorem evalUntil_splice {decisive : Bool} {e : Expr} {inner : List Expr}
    (nested : e.eval row = evalUntil row decisive false inner) (before after : List Expr) :
    evalUntil row decisive false (before ++ [e] ++ after) =
      evalUntil row decisive false (before ++ inner ++ after) := by
  rw [List.append_assoc, List.append_assoc]
  refine evalUntil_append_congr (fun sawNull => ?_) before
  rw [List.singleton_append, evalUntil_cons, nested, ← evalUntil_append, Bool.or_false]

/-! ## Operands that are conditions -/

def ComeTo (row : Row) : List Expr → List Truth → Prop :=
  List.Forall₂ fun e t => e.eval row = .ok t.value

theorem evalUntil_eq_least {es : List Expr} {ts : List Truth} (come : ComeTo row es ts)
    (sawNull : Bool) :
    evalUntil row false sawNull es =
      .ok (min (if sawNull then Truth.unknown else ⊤) (Truth.least ts)).value := by
  induction come generalizing sawNull with
  | nil => cases sawNull <;> rfl
  | @cons e t es ts value _ ih =>
    rw [evalUntil_cons, value, ok_bind]
    have tail : Truth.least (t :: ts) = min t (Truth.least ts) := rfl
    rw [tail]
    generalize Truth.least ts = least at ih
    cases t with
    | no => cases sawNull <;> cases least <;> rfl
    | unknown =>
      refine (ih true).trans ?_
      cases sawNull <;> cases least <;> rfl
    | yes =>
      refine (ih sawNull).trans ?_
      cases sawNull <;> cases least <;> rfl

theorem eval_and_of_come {es : List Expr} {ts : List Truth} (come : ComeTo row es ts) :
    (Expr.and es).eval row = .ok (Truth.least ts).value := by
  rw [eval_and, evalUntil_eq_least come false, if_neg Bool.false_ne_true, min_eq_right le_top]

theorem ComeTo.map_not {es : List Expr} {ts : List Truth} (come : ComeTo row es ts) :
    ComeTo row (es.map .not) (ts.map Truth.complement) := by
  refine List.forall₂_map_left_iff.2 (List.forall₂_map_right_iff.2 (come.imp fun e t value => ?_))
  rw [eval_not, value, ok_bind, Value.negated_value]

theorem eval_or_of_come {es : List Expr} {ts : List Truth} (come : ComeTo row es ts) :
    (Expr.or es).eval row = .ok (Truth.greatest ts).value := by
  -- The negation of the disjunction is a conjunction, and determines it.
  have negation : (Expr.or es).eval row >>= Value.negated =
      .ok (Truth.least (ts.map Truth.complement)).value := by
    rw [← eval_not, eval_not_or, eval_and_of_come come.map_not]
  obtain ⟨v, value, negated⟩ := bind_eq_ok.1 negation
  rw [value, Value.eq_of_negated negated, Truth.complement_least, List.map_map]
  have twice : Truth.complement ∘ Truth.complement = id := funext Truth.complement_complement
  rw [twice, List.map_id]

theorem exists_come {es : List Expr}
    (conditions : ∀ e ∈ es, ∃ t : Truth, e.eval row = .ok t.value) : ∃ ts, ComeTo row es ts := by
  induction es with
  | nil => exact ⟨[], .nil⟩
  | cons e es ih =>
    obtain ⟨⟨t, value⟩, rest⟩ := List.forall_mem_cons.1 conditions
    obtain ⟨ts, come⟩ := ih rest
    exact ⟨t :: ts, .cons value come⟩

theorem ComeTo.mem_iff {es : List Expr} {ts : List Truth} (come : ComeTo row es ts) (u : Truth) :
    u ∈ ts ↔ ∃ e ∈ es, e.eval row = .ok u.value := by
  induction come with
  | nil => simp
  | @cons e t es ts value _ ih =>
    have head : u = t ↔ e.eval row = .ok u.value := by
      rw [value, Except.ok.injEq]
      exact ⟨fun h => h ▸ rfl, fun h => (Truth.value_injective h).symm⟩
    rw [List.mem_cons, head, ih]
    simp only [List.mem_cons, exists_eq_or_imp]

theorem eval_of_same_members {es es' : List Expr}
    (conditions : ∀ e ∈ es, ∃ t : Truth, e.eval row = .ok t.value) (same : ∀ e, e ∈ es' ↔ e ∈ es) :
    (Expr.and es').eval row = (Expr.and es).eval row ∧
      (Expr.or es').eval row = (Expr.or es).eval row := by
  obtain ⟨ts, come⟩ := exists_come conditions
  obtain ⟨ts', come'⟩ := exists_come fun e mem => conditions e ((same e).1 mem)
  have values (t : Truth) : t ∈ ts' ↔ t ∈ ts := by
    rw [come'.mem_iff, come.mem_iff]
    simp only [same]
  rw [eval_and_of_come come', eval_and_of_come come, eval_or_of_come come', eval_or_of_come come,
    Truth.least_congr values, Truth.greatest_congr values]
  exact ⟨rfl, rfl⟩

theorem eval_connectives (row : Row) :
    (∀ es : List Expr,
      (Expr.not (.and es)).eval row = (Expr.or (es.map .not)).eval row ∧
        (Expr.not (.or es)).eval row = (Expr.and (es.map .not)).eval row) ∧
    (∀ before inner after : List Expr,
      (Expr.and (before ++ [.and inner] ++ after)).eval row =
          (Expr.and (before ++ inner ++ after)).eval row ∧
        (Expr.or (before ++ [.or inner] ++ after)).eval row =
          (Expr.or (before ++ inner ++ after)).eval row) ∧
    ∀ es : List Expr, (∀ e ∈ es, ∃ t : Truth, e.eval row = .ok t.value) →
      ∃ ts, ComeTo row es ts ∧
        (Expr.and es).eval row = .ok (Truth.least ts).value ∧
        (Expr.or es).eval row = .ok (Truth.greatest ts).value ∧
        ∀ es' : List Expr, (∀ e, e ∈ es' ↔ e ∈ es) →
          (Expr.and es').eval row = (Expr.and es).eval row ∧
            (Expr.or es').eval row = (Expr.or es).eval row := by
  refine ⟨fun es => ⟨eval_not_and es, eval_not_or es⟩, fun before inner after => ?_, ?_⟩
  · rw [eval_and, eval_and, eval_or, eval_or]
    exact ⟨evalUntil_splice (eval_and inner) before after,
      evalUntil_splice (eval_or inner) before after⟩
  · intro es conditions
    obtain ⟨ts, come⟩ := exists_come conditions
    exact ⟨ts, come, eval_and_of_come come, eval_or_of_come come,
      fun es' same => eval_of_same_members conditions same⟩

theorem eval_connectives_pending :
    let row : Row := [.int 2, .null]
    let pending : Expr := .compare .eq (.column 1) (.literal (.int 0))
    let holds : Expr := .compare .eq (.column 0) (.literal (.int 2))
    let number : Expr := .column 0
    let missing : Expr := .column 7
    (Expr.not (.and [pending, number, missing])).eval row = .error (.notBoolean (.int 2)) ∧
      (Expr.or [.not pending, .not number, .not missing]).eval row =
        .error (.notBoolean (.int 2)) ∧
      (Expr.and [pending, .and [holds, missing], number]).eval row =
        .error (.missingColumn 7 2) ∧
      (Expr.and [pending, holds, missing, number]).eval row = .error (.missingColumn 7 2) ∧
      (Expr.and [pending, holds]).eval row = .ok .null ∧
      (Expr.or [holds, pending, holds]).eval row = .ok (.bool true) ∧
      (Expr.or [holds, pending, holds]).eval row = (Expr.or [pending, holds]).eval row := by
  intro row pending holds number missing
  obtain ⟨deMorgan, nested, conditions⟩ := eval_connectives row
  have failing : (Expr.not (.and [pending, number, missing])).eval row =
      .error (.notBoolean (.int 2)) := rfl
  have flat : (Expr.and [pending, holds, missing, number]).eval row =
      .error (.missingColumn 7 2) := rfl
  have operands : ∀ e ∈ [pending, holds], ∃ t : Truth, e.eval row = .ok t.value := by
    simp only [List.forall_mem_cons]
    exact ⟨⟨.unknown, rfl⟩, ⟨.yes, rfl⟩, List.forall_mem_nil _⟩
  obtain ⟨-, -, -, -, reordered⟩ := conditions [pending, holds] operands
  obtain ⟨-, disjunctions⟩ := reordered [holds, pending, holds] (by simp [or_comm])
  refine ⟨failing, (deMorgan [pending, number, missing]).1.symm.trans failing,
    (nested [pending] [holds, missing] [number]).1.trans flat, flat, rfl, rfl, disjunctions⟩

end Expr

end QueryFlow
