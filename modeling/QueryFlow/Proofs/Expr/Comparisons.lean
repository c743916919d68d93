import Mathlib.Order.Defs.LinearOrder
import QueryFlow.Proofs.Expr.Logic

/-!
# Laws of comparisons

A comparison may be turned round, and its negation is a comparison. Where one fails, so does the
other.
-/

namespace QueryFlow

namespace Double

theorem compare?_swap (a b : Double) : b.compare? a = (a.compare? b).map Ordering.swap := by
  rw [compare?, compare?, Bool.or_comm]
  split
  · rfl
  · exact congrArg some Std.OrientedCmp.eq_swap

end Double

namespace Value

theorem compare?_swap (a b : Value) : b.compare? a = (a.compare? b).map Ordering.swap := by
  cases a <;> cases b <;> first
    | rfl
    | exact Double.compare?_swap _ _
    | exact congrArg some Std.OrientedCmp.eq_swap

end Value

namespace Comparison

def mirror : Comparison → Comparison
  | eq => eq
  | ne => ne
  | lt => gt
  | le => ge
  | gt => lt
  | ge => le

def opposite : Comparison → Comparison
  | eq => ne
  | ne => eq
  | lt => ge
  | le => gt
  | gt => le
  | ge => lt

theorem holds_mirror (op : Comparison) (o : Ordering) : op.mirror.holds o.swap = op.holds o := by
  cases op <;> cases o <;> rfl

theorem holds_opposite (op : Comparison) (o : Ordering) : op.opposite.holds o = !op.holds o := by
  cases op <;> cases o <;> rfl

end Comparison

/-- Evaluations that give the same truth value, or both fail. -/
inductive Agree : Except EvalError Value → Except EvalError Value → Prop
  | value (t : Truth) : Agree (.ok t.value) (.ok t.value)
  | failure (e e' : EvalError) : Agree (.error e) (.error e')

theorem Agree.bool (b : Bool) : Agree (.ok (.bool b)) (.ok (.bool b)) := by
  cases b
  · exact .value .no
  · exact .value .yes

namespace Comparison

theorem apply_mirror (op : Comparison) (l r : Value) :
    Agree (op.mirror.apply r l) (op.apply l r) := by
  rw [apply, apply, Bool.or_comm]
  split
  · exact .value .unknown
  · rw [l.compare?_swap r]
    cases l.compare? r with
    | none => exact .failure _ _
    | some o =>
      simp only [Option.map_some, holds_mirror]
      exact .bool _

theorem apply_opposite (op : Comparison) (l r : Value) :
    Agree (op.apply l r >>= Value.negated) (op.opposite.apply l r) := by
  rw [apply, apply]
  split
  · exact .value .unknown
  · cases l.compare? r with
    | none => exact .failure _ _
    | some o =>
      simp only [holds_opposite]
      exact .bool _

end Comparison

namespace Expr

variable {row : Row}

theorem eval_compare {l r : Expr} {x y : Value} (left : l.eval row = .ok x)
    (right : r.eval row = .ok y) (op : Comparison) :
    (Expr.compare op l r).eval row = op.apply x y := by
  rw [eval, left, right, ok_bind, ok_bind]

theorem eval_compare_mirror_opposite {l r : Expr} {x y : Value} (left : l.eval row = .ok x)
    (right : r.eval row = .ok y) (op : Comparison) :
    Agree ((Expr.compare op.mirror r l).eval row) ((Expr.compare op l r).eval row) ∧
      Agree ((Expr.not (.compare op l r)).eval row)
        ((Expr.compare op.opposite l r).eval row) := by
  rw [eval_not, eval_compare left right, eval_compare left right, eval_compare right left]
  exact ⟨op.apply_mirror x y, op.apply_opposite x y⟩

theorem eval_compare_mirror_opposite_nan :
    let nan : Value := .float (.notANumber false)
    let half : Value := .float ⟨0x3fe0000000000000⟩
    let less : Expr := .compare .lt (.column 0) (.column 1)
    let greater : Expr := .compare .gt (.column 1) (.column 0)
    let atLeast : Expr := .compare .ge (.column 0) (.column 1)
    less.eval [.int 0, half] = .ok (.bool true) ∧ greater.eval [.int 0, half] = .ok (.bool true) ∧
      atLeast.eval [.int 0, half] = .ok (.bool false) ∧
      less.eval [.int 0, nan] = .error (.incomparable (.int 0) .lt nan) ∧
      greater.eval [.int 0, nan] = .error (.incomparable nan .gt (.int 0)) ∧
      Agree (greater.eval [.int 0, half]) (less.eval [.int 0, half]) ∧
      Agree ((Expr.not less).eval [.int 0, nan]) (atLeast.eval [.int 0, nan]) := by
  intro nan half less greater atLeast
  have first (r : Value) : (Expr.column 0).eval [.int 0, r] = .ok (.int 0) := rfl
  have second (r : Value) : (Expr.column 1).eval [.int 0, r] = .ok r := rfl
  exact ⟨rfl, rfl, rfl, rfl, rfl, (eval_compare_mirror_opposite (first half) (second half) .lt).1,
    (eval_compare_mirror_opposite (first nan) (second nan) .lt).2⟩

end Expr

end QueryFlow
