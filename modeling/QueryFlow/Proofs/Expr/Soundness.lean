import QueryFlow.Expr.Typing
import QueryFlow.Proofs.Double
import QueryFlow.Proofs.Results
import QueryFlow.Proofs.Schema

/-!
# Soundness of expression types

An expression that has a type gives a value of the type on every row of its schema, unless it
compares with a value that is not a number. Such a value comes from the row or from a literal:
evaluation makes none.
-/

namespace QueryFlow

def Value.isNaN : Value → Bool
  | .float d => d.isNaN
  | _ => false

def Row.Numeric (r : Row) : Prop := ∀ v ∈ r, v.isNaN = false

theorem Value.isNaN_of_compare?_eq_none {l r : Value} {a b : DataType} (hl : l.dataType? = some a)
    (hr : r.dataType? = some b) (comparable : a.comparable b = true) (h : l.compare? r = none) :
    l.isNaN = true ∨ r.isNaN = true := by
  have ints (n : Int64) := Double.isNaN_ofInt n.toInt
  cases l <;> cases hl <;> cases r <;> cases hr <;> first
    | exact absurd comparable (by decide)
    | cases h
    | simpa [compare?, isNaN, Double.compare?, ints, or_iff_not_imp_left] using h

namespace ExprType

def admits (t : ExprType) (v : Value) : Bool :=
  match v.dataType? with
  | none => t.nullable
  | some d => t.dataType == some d

theorem admits_iff {t : ExprType} {v : Value} :
    t.admits v = true ↔
      (v = .null ∧ t.nullable = true) ∨ (v ≠ .null ∧ t.dataType = v.dataType?) := by
  cases v <;> simp [admits, Value.dataType?]

theorem boolean_admits_bool (nullable b : Bool) : (boolean nullable).admits (.bool b) = true := rfl

theorem boolean_admits_null : (boolean true).admits .null = true := rfl

def IsBoolean (t : ExprType) : Prop := t.dataType = none ∨ t.dataType = some .bool

theorem asBoolean_eq_ok {t u : ExprType} {context : String} :
    t.asBoolean context = .ok u ↔ t.IsBoolean ∧ t = u := by
  obtain ⟨_ | ⟨⟨⟩⟩, nullable⟩ := t <;> simp [asBoolean, IsBoolean]

theorem truth_of_admits {t : ExprType} {v : Value} (boolean : t.IsBoolean)
    (admits : t.admits v = true) :
    (v.truth = .ok none ∧ v = .null ∧ t.nullable = true) ∨ ∃ b, v.truth = .ok (some b) := by
  rcases admits_iff.1 admits with ⟨rfl, nullable⟩ | ⟨valued, type⟩
  · exact .inl ⟨rfl, rfl, nullable⟩
  · refine .inr ?_
    rcases boolean with untyped | bool
    · cases v <;> simp_all [Value.dataType?]
    · cases v <;> simp_all [Value.dataType?, Value.truth]

end ExprType

namespace Expr

mutual

def literals : Expr → List Value
  | column _ => []
  | literal v => [v]
  | compare _ left right => literals left ++ literals right
  | and operands | or operands => literalsAll operands
  | not operand | isNull operand => literals operand

def literalsAll : List Expr → List Value
  | [] => []
  | e :: es => literals e ++ literalsAll es

end

def Numeric (e : Expr) : Prop := ∀ v ∈ e.literals, v.isNaN = false

/-- What a well-typed expression may come to. The proposition `nan` says that the values it meets
are not all numbers. -/
inductive Sound (nan : Prop) (t : ExprType) : Except EvalError Value → Prop
  | value {v} : t.admits v = true → (v.isNaN = true → nan) → Sound nan t (.ok v)
  | incomparable {l op r} : nan → Sound nan t (.error (.incomparable l op r))

variable {nan : Prop} {t : ExprType} {x : Except EvalError Value}

theorem Sound.truth (h : Sound nan t x) (boolean : t.IsBoolean) :
    (∃ v b?, x = .ok v ∧ v.truth = .ok b? ∧ (b? = none → t.nullable = true)) ∨
      ∃ l op r, x = .error (.incomparable l op r) ∧ nan := by
  cases h with
  | @value v admits _ =>
    refine .inl ?_
    rcases ExprType.truth_of_admits boolean admits with ⟨none, -, nullable⟩ | ⟨b, some⟩
    · exact ⟨v, _, rfl, none, fun _ => nullable⟩
    · exact ⟨v, _, rfl, some, nofun⟩
  | incomparable h => exact .inr ⟨_, _, _, rfl, h⟩

theorem Sound.widen {a b : Bool} (h : Sound nan (.boolean a) x) (wider : a = true → b = true) :
    Sound nan (.boolean b) x := by
  cases h with
  | @value v admits number =>
    refine .value ?_ number
    rcases ExprType.admits_iff.1 admits with ⟨rfl, nullable⟩ | valued
    · exact ExprType.admits_iff.2 (.inl ⟨rfl, wider nullable⟩)
    · exact ExprType.admits_iff.2 (.inr valued)
  | incomparable h => exact .incomparable h

theorem sound_apply {op : Comparison} {tl tr : ExprType} {l r : Value}
    (compared : ExprType.comparison op tl tr = .ok t) (hl : tl.admits l = true)
    (hr : tr.admits r = true) (nanl : l.isNaN = true → nan) (nanr : r.isNaN = true → nan) :
    Sound nan t (op.apply l r) := by
  have type : t = .boolean (tl.nullable || tr.nullable) := by
    rw [ExprType.comparison] at compared
    split at compared
    · split at compared
      · exact (Except.ok.inj compared).symm
      · cases compared
    · exact (Except.ok.inj compared).symm
  rw [Comparison.apply]
  rcases ExprType.admits_iff.1 hl with ⟨rfl, nullable⟩ | ⟨vl, typel⟩
  · rw [Value.isNull, Bool.true_or, if_pos rfl]
    rw [nullable, Bool.true_or] at type
    exact .value (type ▸ ExprType.boolean_admits_null) nofun
  rcases ExprType.admits_iff.1 hr with ⟨rfl, nullable⟩ | ⟨vr, typer⟩
  · rw [Value.isNull.eq_1, Bool.or_true, if_pos rfl]
    rw [nullable, Bool.or_true] at type
    exact .value (type ▸ ExprType.boolean_admits_null) nofun
  have valued : ¬(l.isNull || r.isNull) = true := by
    cases l <;> cases r <;> simp_all [Value.isNull]
  rw [if_neg valued]
  cases h : l.compare? r with
  | some o => exact .value (type ▸ ExprType.boolean_admits_bool _ _) nofun
  | none =>
    obtain ⟨a, ha⟩ : ∃ a, l.dataType? = some a := by
      cases l <;> simp_all [Value.dataType?]
    obtain ⟨b, hb⟩ : ∃ b, r.dataType? = some b := by
      cases r <;> simp_all [Value.dataType?]
    have comparable : a.comparable b = true := by
      by_contra other
      simp [ExprType.comparison, typel, typer, ha, hb, other] at compared
    rcases Value.isNaN_of_compare?_eq_none ha hb comparable h with left | right
    · exact .incomparable (nanl left)
    · exact .incomparable (nanr right)

variable {schema : Schema} {row : Row}

mutual

theorem sound_eval (admitted : schema.admits row = true)
    (inRow : ∀ v ∈ row, v.isNaN = true → nan) (e : Expr) :
    ∀ t, e.resolve schema = .ok t → (∀ v ∈ e.literals, v.isNaN = true → nan) →
      Sound nan t (e.eval row) := by
  intro t resolved inExpr
  match e with
  | column index =>
    rw [resolve] at resolved
    split at resolved
    · rename_i c column
      cases resolved
      obtain ⟨v, found, admits⟩ := Schema.exists_of_admits admitted column
      rw [eval, found]
      refine .value ?_ (inRow v (List.mem_of_getElem? found))
      rcases Column.admits_iff.1 admits with ⟨null, nullable⟩ | type
      · simp [ExprType.admits, null, nullable]
      · simp [ExprType.admits, type]
    · cases resolved
  | literal v =>
    cases resolved
    refine .value ?_ (inExpr v (List.mem_singleton.2 rfl))
    cases v <;> rfl
  | compare op left right =>
    simp only [resolve, bind_eq_ok] at resolved
    obtain ⟨tl, hl, tr, hr, compared⟩ := resolved
    simp only [literals, List.mem_append] at inExpr
    have evalLeft := sound_eval admitted inRow left tl hl fun v mem => inExpr v (.inl mem)
    have evalRight := sound_eval admitted inRow right tr hr fun v mem => inExpr v (.inr mem)
    rw [eval]
    cases hx : left.eval row <;> rw [hx] at evalLeft
    · cases evalLeft with
      | incomparable h => exact .incomparable h
    cases hy : right.eval row <;> rw [hy] at evalRight
    · cases evalRight with
      | incomparable h => exact .incomparable h
    cases evalLeft with
    | value admitsl nanl =>
      cases evalRight with
      | value admitsr nanr => exact sound_apply compared admitsl admitsr nanl nanr
  | and operands | or operands =>
    simp only [resolve, map_eq_ok] at resolved
    obtain ⟨nullable, operandsResolved, rfl⟩ := resolved
    have := sound_evalUntil admitted inRow operands
    exact this _ false nullable operandsResolved inExpr
  | not operand =>
    simp only [resolve, bind_eq_ok, pure_eq_ok, ExprType.asBoolean_eq_ok] at resolved
    obtain ⟨u, hu, _, ⟨boolean, rfl⟩, rfl⟩ := resolved
    rw [eval]
    rcases (sound_eval admitted inRow operand u hu inExpr).truth boolean with
      ⟨v, b?, value, truth, nullable⟩ | ⟨l, op, r, failed, h⟩
    · rw [value, ok_bind, truth, ok_bind]
      cases b? with
      | some b => exact .value rfl nofun
      | none => exact .value (nullable rfl) nofun
    · rw [failed]
      exact .incomparable h
  | isNull operand =>
    simp only [resolve, bind_eq_ok, pure_eq_ok] at resolved
    obtain ⟨u, hu, rfl⟩ := resolved
    rw [eval]
    have operandSound := sound_eval admitted inRow operand u hu inExpr
    cases hx : operand.eval row <;> rw [hx] at operandSound
    · cases operandSound with
      | incomparable h => exact .incomparable h
    · exact .value rfl nofun

theorem sound_evalUntil (admitted : schema.admits row = true)
    (inRow : ∀ v ∈ row, v.isNaN = true → nan) (es : List Expr) :
    ∀ decisive sawNull nullable, resolveOperands schema es = .ok nullable →
      (∀ v ∈ literalsAll es, v.isNaN = true → nan) →
      Sound nan (.boolean (sawNull || nullable)) (evalUntil row decisive sawNull es) := by
  intro decisive sawNull nullable resolved inExprs
  match es with
  | [] =>
    cases resolved
    cases sawNull <;> exact .value rfl nofun
  | e :: es =>
    simp only [resolveOperands, bind_eq_ok, pure_eq_ok, ExprType.asBoolean_eq_ok] at resolved
    obtain ⟨u, hu, _, ⟨boolean, rfl⟩, rest, hrest, rfl⟩ := resolved
    simp only [literalsAll, List.mem_append] at inExprs
    have later := sound_evalUntil admitted inRow es
    rw [evalUntil]
    rcases (sound_eval admitted inRow e u hu fun v mem => inExprs v (.inl mem)).truth boolean with
      ⟨v, b?, value, truth, null⟩ | ⟨l, op, r, failed, h⟩
    · rw [value, ok_bind, truth, ok_bind]
      cases b? with
      | some b =>
        simp only
        split
        · exact .value rfl nofun
        · exact (later decisive sawNull rest hrest fun v mem => inExprs v (.inr mem)).widen
            fun h => by rcases Bool.or_eq_true_iff.1 h with h | h <;> simp [h]
      | none =>
        -- The rest may be `NULL` now even if its own type says otherwise, and so may the operand.
        exact (later decisive true rest hrest fun v mem => inExprs v (.inr mem)).widen
          fun _ => by simp [null]
    · rw [failed]
      exact .incomparable h

end

/-! ## Predicates and fields -/

theorem checkPredicate_eq_ok {e : Expr} :
    e.checkPredicate schema = .ok () ↔ ∃ t, e.resolve schema = .ok t ∧ t.IsBoolean := by
  simp only [checkPredicate, bind_eq_ok, ExprType.asBoolean_eq_ok, pure_eq_ok]
  exact ⟨fun ⟨t, resolved, _, ⟨boolean, _⟩, _⟩ => ⟨t, resolved, boolean⟩,
    fun ⟨t, resolved, boolean⟩ => ⟨t, resolved, t, ⟨boolean, rfl⟩, trivial⟩⟩

theorem sound_selects {e : Expr} (checked : e.checkPredicate schema = .ok ())
    (admitted : schema.admits row = true) (inRow : ∀ v ∈ row, v.isNaN = true → nan)
    (inExpr : ∀ v ∈ e.literals, v.isNaN = true → nan) :
    (∃ b, e.selects row = .ok b) ∨
      ∃ l op r, e.selects row = .error (.incomparable l op r) ∧ nan := by
  obtain ⟨t, resolved, boolean⟩ := checkPredicate_eq_ok.1 checked
  rw [selects]
  rcases (sound_eval admitted inRow e t resolved inExpr).truth boolean with
    ⟨v, b?, value, truth, -⟩ | ⟨l, op, r, failed, h⟩
  · rw [value, ok_bind, truth]
    exact .inl ⟨_, rfl⟩
  · rw [failed]
    exact .inr ⟨l, op, r, rfl, h⟩

/-! ## The values of a typed expression -/

/-- What is not a number occurs in the row or among the constants of the expression. -/
def MeetsNaN (e : Expr) (row : Row) : Prop := ∃ v, (v ∈ row ∨ v ∈ e.literals) ∧ v.isNaN = true

theorem eval_typed (admitted : schema.admits row = true) (e : Expr) :
    (∀ t, e.resolve schema = .ok t →
      (∃ v, e.eval row = .ok v ∧ (v = .null → t.nullable = true) ∧
          (v ≠ .null → v.dataType? = t.dataType) ∧ (t.dataType = none → v = .null)) ∨
        ∃ l op r, e.eval row = .error (.incomparable l op r) ∧ e.MeetsNaN row) ∧
    (e.checkPredicate schema = .ok () →
      (∃ b, e.selects row = .ok b) ∨
        ∃ l op r, e.selects row = .error (.incomparable l op r) ∧ e.MeetsNaN row) := by
  have inRow : ∀ v ∈ row, v.isNaN = true → e.MeetsNaN row := fun v mem nan => ⟨v, .inl mem, nan⟩
  have inExpr : ∀ v ∈ e.literals, v.isNaN = true → e.MeetsNaN row :=
    fun v mem nan => ⟨v, .inr mem, nan⟩
  refine ⟨fun t resolved => ?_, fun checked => sound_selects checked admitted inRow inExpr⟩
  have sound := sound_eval admitted inRow e t resolved inExpr
  generalize e.eval row = x at sound ⊢
  cases sound with
  | @value v admits _ =>
    refine .inl ⟨v, rfl, ?_⟩
    rcases ExprType.admits_iff.1 admits with ⟨rfl, nullable⟩ | ⟨valued, type⟩
    · exact ⟨fun _ => nullable, fun valued => absurd rfl valued, fun _ => rfl⟩
    · refine ⟨fun null => absurd null valued, fun _ => type.symm, fun untyped => ?_⟩
      -- Only `NULL` has no type.
      rw [untyped] at type
      cases v with
      | null => rfl
      | _ => cases type
  | incomparable h => exact .inr ⟨_, _, _, rfl, h⟩

theorem eval_typed_nan :
    let schema : Schema := ⟨[⟨"n", .int, true⟩, ⟨"d", .float, false⟩]⟩
    let e : Expr := .or [.compare .lt (.column 0) (.column 1), .isNull (.literal (.int 0))]
    let nan : Value := .float (.notANumber false)
    let one : Value := .float ⟨0x3ff0000000000000⟩
    (schema.admits [.null, one] = true ∧ e.eval [.null, one] = .ok .null ∧
      ∃ t, e.resolve schema = .ok t ∧ t.nullable = true) ∧
      schema.admits [.int 2, nan] = true ∧ e.checkPredicate schema = .ok () ∧
        e.selects [.int 2, nan] = .error (.incomparable (.int 2) .lt nan) ∧
        e.MeetsNaN [.int 2, nan] := by
  intro schema e nan one
  have admitted : schema.admits [.null, one] = true := rfl
  have admittedNaN : schema.admits [.int 2, nan] = true := rfl
  have unknown := (eval_typed admitted e).1 _ rfl
  have failing := (eval_typed admittedNaN e).2 rfl
  refine ⟨⟨admitted, rfl, _, rfl, ?_⟩, admittedNaN, rfl, rfl, ?_⟩
  · obtain ⟨_, ⟨⟩, nullable, -⟩ | ⟨_, _, _, failed, -⟩ := unknown
    · exact nullable rfl
    · cases failed
  · obtain ⟨_, ⟨⟩⟩ | ⟨_, _, _, -, met⟩ := failing
    exact met

end Expr

namespace Field

variable {nan : Prop} {schema : Schema} {row : Row}

theorem column_eq_ok {f : Field} {c : Column} :
    f.column schema = .ok c ↔
      ∃ t d, f.expr.resolve schema = .ok t ∧ t.dataType = some d ∧ ⟨f.name, d, t.nullable⟩ = c := by
  rw [column, bind_eq_ok]
  refine exists_congr fun t => ?_
  cases t.dataType <;> simp [throw, throwThe, MonadExceptOf.throw]

theorem admits_of_column {f : Field} {c : Column} {v : Value} {t : ExprType}
    (column : f.column schema = .ok c) (resolved : f.expr.resolve schema = .ok t)
    (admits : t.admits v = true) : c.admits v = true := by
  obtain ⟨u, d, resolved', typed, rfl⟩ := column_eq_ok.1 column
  obtain rfl : t = u := Except.ok.inj (resolved.symm.trans resolved')
  rcases ExprType.admits_iff.1 admits with ⟨rfl, nullable⟩ | ⟨-, type⟩
  · exact Column.admits_iff.2 (.inl ⟨rfl, nullable⟩)
  · exact Column.admits_iff.2 (.inr (type.symm.trans typed))

theorem sound_evalAll {fields : List Field} {columns : List Column}
    (derived : fields.mapM (fun f => f.column schema) = .ok columns)
    (admitted : schema.admits row = true) (inRow : ∀ v ∈ row, v.isNaN = true → nan)
    (inFields : ∀ f ∈ fields, ∀ v ∈ f.expr.literals, v.isNaN = true → nan) :
    (∃ out, evalAll fields row = .ok out ∧ (Schema.mk columns).admits out = true ∧
        ∀ v ∈ out, v.isNaN = true → nan) ∨
      ∃ l op r, evalAll fields row = .error (.incomparable l op r) ∧ nan := by
  induction fields generalizing columns with
  | nil =>
    cases derived
    exact .inl ⟨[], rfl, rfl, List.forall_mem_nil _⟩
  | cons f fields ih =>
    simp only [List.mapM_cons, bind_eq_ok, pure_eq_ok] at derived
    obtain ⟨c, column, columns, rest, rfl⟩ := derived
    obtain ⟨inField, inRest⟩ := List.forall_mem_cons.1 inFields
    obtain ⟨t, d, resolved, -⟩ := column_eq_ok.1 column
    have value := Expr.sound_eval admitted inRow f.expr t resolved inField
    rw [evalAll, List.mapM_cons]
    cases hv : f.expr.eval row <;> rw [hv] at value
    · cases value with
      | incomparable h => exact .inr ⟨_, _, _, rfl, h⟩
    cases value with
    | value admits number =>
      rcases ih rest inRest with ⟨out, evaluated, fits, numbers⟩ | ⟨l, op, r, failed, h⟩
      · rw [ok_bind, ← evalAll, evaluated]
        refine .inl ⟨_, rfl, ?_, List.forall_mem_cons.2 ⟨number, numbers⟩⟩
        exact Schema.admits_iff.2
          (.cons (admits_of_column column resolved admits) (Schema.admits_iff.1 fits))
      · rw [ok_bind, ← evalAll, failed]
        exact .inr ⟨l, op, r, rfl, h⟩

end Field

end QueryFlow
