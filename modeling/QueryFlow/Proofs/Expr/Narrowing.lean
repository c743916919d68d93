import QueryFlow.Proofs.Expr.Soundness

/-!
# Narrower schemas

An expression that has a type over the rows of a schema has one over the rows of every schema that
the first accepts. It may lose nullability, and nothing else changes.
-/

namespace QueryFlow

theorem Schema.exists_of_accepts {wide narrow : Schema} {index : Nat} {c : Column}
    (accepts : wide.accepts narrow = true) (column : wide.column? index = some c) :
    ∃ d, narrow.column? index = some d ∧ c.accepts d = true := by
  obtain ⟨cs⟩ := wide
  obtain ⟨ds⟩ := narrow
  rw [accepts_iff] at accepts
  simp only [column?] at accepts column ⊢
  induction accepts generalizing index with
  | nil => simp at column
  | @cons c' d cs ds h _ ih =>
    cases index with
    | zero =>
      obtain rfl : c' = c := by simpa using column
      exact ⟨d, rfl, h⟩
    | succ index => exact ih column

namespace ExprType

/-- `Narrows t u`: the type `t` is `u`, or `u` without `NULL`. -/
structure Narrows (t u : ExprType) : Prop where
  dataType : t.dataType = u.dataType
  nullable : t.nullable = true → u.nullable = true

variable {t u : ExprType}

theorem Narrows.refl (t : ExprType) : t.Narrows t := ⟨rfl, id⟩

theorem narrows_boolean {a b : Bool} (h : a = true → b = true) : (boolean a).Narrows (boolean b) :=
  ⟨rfl, h⟩

theorem Narrows.isBoolean (h : t.Narrows u) (boolean : u.IsBoolean) : t.IsBoolean := by
  rw [IsBoolean, h.dataType]
  exact boolean

theorem comparison_eq_ok {op : Comparison} {l r : ExprType} :
    comparison op l r = .ok t ↔
      (∀ a b, l.dataType = some a → r.dataType = some b → a.comparable b = true) ∧
        boolean (l.nullable || r.nullable) = t := by
  obtain ⟨_ | a, x⟩ := l <;> obtain ⟨_ | b, y⟩ := r <;>
    simp [comparison, ite_eq_iff]

end ExprType

open ExprType

namespace Expr

variable {wide narrow : Schema}

mutual

theorem resolve_narrows (accepts : wide.accepts narrow = true) (e : Expr) :
    ∀ u, e.resolve wide = .ok u → ∃ t, e.resolve narrow = .ok t ∧ t.Narrows u := by
  intro u resolved
  match e with
  | column index =>
    rw [resolve] at resolved
    split at resolved
    · rename_i c column
      cases resolved
      obtain ⟨d, found, accepted⟩ := Schema.exists_of_accepts accepts column
      obtain ⟨types, nulls⟩ := Column.accepts_iff.1 accepted
      rw [resolve, found]
      exact ⟨_, rfl, congrArg some types.symm, nulls⟩
    · cases resolved
  | literal v => exact ⟨u, resolved, .refl u⟩
  | compare op left right =>
    simp only [resolve, bind_eq_ok] at resolved ⊢
    obtain ⟨tl, hl, tr, hr, compared⟩ := resolved
    obtain ⟨comparable, rfl⟩ := comparison_eq_ok.1 compared
    obtain ⟨l, resolvedl, narrowsl⟩ := resolve_narrows accepts left tl hl
    obtain ⟨r, resolvedr, narrowsr⟩ := resolve_narrows accepts right tr hr
    refine ⟨_, ⟨l, resolvedl, r, resolvedr, comparison_eq_ok.2 ⟨?_, rfl⟩⟩, narrows_boolean ?_⟩
    · rw [narrowsl.dataType, narrowsr.dataType]
      exact comparable
    · rw [Bool.or_eq_true, Bool.or_eq_true]
      exact Or.imp narrowsl.nullable narrowsr.nullable
  | and operands | or operands =>
    simp only [resolve, map_eq_ok] at resolved ⊢
    obtain ⟨b, operandsResolved, rfl⟩ := resolved
    obtain ⟨a, narrowed, nulls⟩ := resolveOperands_narrows accepts operands b operandsResolved
    exact ⟨_, ⟨a, narrowed, rfl⟩, narrows_boolean nulls⟩
  | not operand =>
    simp only [resolve, bind_eq_ok, pure_eq_ok, asBoolean_eq_ok] at resolved ⊢
    obtain ⟨u, hu, _, ⟨boolean, rfl⟩, rfl⟩ := resolved
    obtain ⟨t, narrowed, narrows⟩ := resolve_narrows accepts operand u hu
    exact ⟨_, ⟨t, narrowed, t, ⟨narrows.isBoolean boolean, rfl⟩, rfl⟩,
      narrows_boolean narrows.nullable⟩
  | isNull operand =>
    simp only [resolve, bind_eq_ok, pure_eq_ok] at resolved ⊢
    obtain ⟨u, hu, rfl⟩ := resolved
    obtain ⟨t, narrowed, -⟩ := resolve_narrows accepts operand u hu
    exact ⟨_, ⟨t, narrowed, rfl⟩, .refl _⟩

theorem resolveOperands_narrows (accepts : wide.accepts narrow = true) (es : List Expr) :
    ∀ b, resolveOperands wide es = .ok b →
      ∃ a, resolveOperands narrow es = .ok a ∧ (a = true → b = true) := by
  intro b resolved
  match es with
  | [] => exact ⟨b, resolved, id⟩
  | e :: es =>
    simp only [resolveOperands, bind_eq_ok, pure_eq_ok, asBoolean_eq_ok] at resolved ⊢
    obtain ⟨u, hu, _, ⟨boolean, rfl⟩, rest, hrest, rfl⟩ := resolved
    obtain ⟨t, narrowed, narrows⟩ := resolve_narrows accepts e u hu
    obtain ⟨a, narrowedRest, nulls⟩ := resolveOperands_narrows accepts es rest hrest
    refine ⟨_, ⟨t, narrowed, t, ⟨narrows.isBoolean boolean, rfl⟩, a, narrowedRest, rfl⟩, ?_⟩
    rw [Bool.or_eq_true, Bool.or_eq_true]
    exact Or.imp narrows.nullable nulls

end

theorem checkPredicate_of_accepts {e : Expr} (accepts : wide.accepts narrow = true)
    (checked : e.checkPredicate wide = .ok ()) : e.checkPredicate narrow = .ok () := by
  obtain ⟨u, resolved, boolean⟩ := checkPredicate_eq_ok.1 checked
  obtain ⟨t, narrowed, narrows⟩ := resolve_narrows accepts e u resolved
  exact checkPredicate_eq_ok.2 ⟨t, narrowed, narrows.isBoolean boolean⟩

end Expr

namespace Field

variable {wide narrow : Schema} (accepts : wide.accepts narrow = true)

include accepts in
theorem column_of_accepts {f : Field} {c : Column} (derived : f.column wide = .ok c) :
    ∃ d, f.column narrow = .ok d ∧ c.accepts d = true := by
  obtain ⟨u, type, resolved, typed, rfl⟩ := column_eq_ok.1 derived
  obtain ⟨t, narrowed, narrows⟩ := f.expr.resolve_narrows accepts u resolved
  have same : t.dataType = some type := narrows.dataType.trans typed
  exact ⟨_, column_eq_ok.2 ⟨t, type, narrowed, same, rfl⟩,
    Column.accepts_iff.2 ⟨rfl, narrows.nullable⟩⟩

include accepts in
theorem columns_of_accepts {fields : List Field} {columns : List Column}
    (derived : fields.mapM (fun f => f.column wide) = .ok columns) :
    ∃ narrowed, fields.mapM (fun f => f.column narrow) = .ok narrowed ∧
      (Schema.mk columns).accepts ⟨narrowed⟩ = true := by
  induction fields generalizing columns with
  | nil =>
    cases derived
    exact ⟨[], rfl, rfl⟩
  | cons f fields ih =>
    simp only [List.mapM_cons, bind_eq_ok, pure_eq_ok] at derived ⊢
    obtain ⟨c, column, columns, rest, rfl⟩ := derived
    obtain ⟨d, column, accepted⟩ := column_of_accepts accepts column
    obtain ⟨ds, derived, restAccepted⟩ := ih rest
    refine ⟨_, ⟨d, column, ds, derived, rfl⟩, ?_⟩
    exact Schema.accepts_iff.2 (.cons accepted (Schema.accepts_iff.1 restAccepted))

end Field

end QueryFlow
