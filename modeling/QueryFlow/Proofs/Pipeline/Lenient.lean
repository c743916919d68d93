import Mathlib.Data.List.Flatten
import QueryFlow.Proofs.Pipeline.StepCount

/-!
# Steps after failures

A source may be stepped on after a step that failed. The lenient rows of a plan are those that it
has when every row that fails is left out. `offered_sublist_lenient`: whatever fails and whatever
the consumer refuses, the rows that it is offered are a subsequence of the lenient rows.
-/

namespace QueryFlow

def Expr.holds (predicate : Expr) (r : Row) : Bool :=
  match predicate.eval r with
  | .ok (.bool b) => b
  | _ => false

def Expr.matched : Option Expr → Row → Bool
  | none, _ => true
  | some c, r => c.holds r

def Field.values? (fields : List Field) (r : Row) : Option Row :=
  fields.mapM fun f => (f.expr.eval r).toOption

def Item.rows (items : List Item) : List Row :=
  items.filterMap fun
    | .ok r => some r
    | .error _ => none

def Row.pairs (condition : Option Expr) (left right : List Row) : List Row :=
  left.flatMap fun l => (right.map (l ++ ·)).filter (Expr.matched condition)

namespace Plan

mutual

/-- The rows of a plan when what fails is left out, row by row. -/
def lenient : Plan → List Row
  | values _ tuples _ => tuples
  | scan table =>
    match table.contents with
    | .ok items => Item.rows items
    | .error _ => []
  | filter predicate input => (lenient input).filter predicate.holds
  | project _ fields input => (lenient input).filterMap (Field.values? fields)
  | union _ _ inputs => lenientAll inputs
  | join condition left right => Row.pairs condition (lenient left) (lenient right)

def lenientAll : List Plan → List Row
  | [] => []
  | p :: ps => lenient p ++ lenientAll ps

end

end Plan

theorem Expr.holds_eq_true {predicate : Expr} {r : Row} :
    predicate.holds r = true ↔ predicate.selects r = .ok true := by
  rw [selects_eq_ok_true, holds]
  rcases predicate.eval r with e | v
  · exact ⟨nofun, nofun⟩
  · cases v with
    | bool b => simp
    | null | int | float | string | bytes => exact ⟨nofun, nofun⟩

theorem Expr.holds_eq (predicate : Expr) (r : Row) :
    predicate.holds r = match predicate.selects r with | .ok b => b | .error _ => false := by
  rw [Bool.eq_iff_iff, holds_eq_true]
  rcases predicate.selects r with e | ⟨⟩ | ⟨⟩ <;> simp

theorem Field.values?_eq (fields : List Field) (r : Row) :
    values? fields r = (evalAll fields r).toOption := by
  induction fields with
  | nil => rfl
  | cons f fs ih =>
    have whole : evalAll (f :: fs) r =
        f.expr.eval r >>= fun v => evalAll fs r >>= fun vs => pure (v :: vs) := List.mapM_cons
    rw [values?, List.mapM_cons, ← values?, ih, whole]
    rcases f.expr.eval r with e | v
    · rfl
    · rcases evalAll fs r with e | vs <;> rfl

theorem Row.pairs_append (condition : Option Expr) (ls ms right : List Row) :
    pairs condition (ls ++ ms) right = pairs condition ls right ++ pairs condition ms right :=
  List.flatMap_append

theorem Row.pairs_sublist {condition : Option Expr} {ls ms rs ts : List Row} (left : ls.Sublist ms)
    (right : rs.Sublist ts) : (pairs condition ls rs).Sublist (pairs condition ms ts) :=
  (left.flatMap _).trans (List.Sublist.flatMap_right ms fun _ _ => (right.map _).filter _)

/-! ## What a step gives -/

namespace Burst

theorem rows_append_sublist (b c : Burst) : (b.append c).rows.Sublist (b.rows ++ c.rows) := by
  induction b with
  | quiet => exact .refl _
  | failed e => exact List.nil_sublist _
  | passed _ _ _ ih => exact ih
  | row r _ ih => exact ih.cons_cons r

theorem rows_bind_sublist (f : Row → Burst) (b : Burst) :
    (b.bind f).rows.Sublist (b.rows.flatMap fun r => (f r).rows) := by
  induction b with
  | quiet | failed _ => exact .refl _
  | passed _ _ _ ih => exact ih
  | row r rest ih => exact (rows_append_sublist _ _).trans (ih.append_left _)

end Burst

namespace Pipeline

theorem rows_keep (schema : Schema) (predicate : Expr) (r : Row) :
    (keep schema predicate r).rows = (Option.guard predicate.holds r).toList := by
  rw [keep, Burst.rows, Option.guard, Expr.holds_eq]
  rcases predicate.selects r with e | ⟨⟩ | ⟨⟩ <;> rfl

theorem rows_compute (schema : Schema) (fields : List Field) (r : Row) :
    (compute schema fields r).rows = (Field.values? fields r).toList := by
  rw [compute, Burst.rows, Field.values?_eq]
  rcases Field.evalAll fields r with e | out <;> rfl

theorem rows_pair_sublist (condition : Option Expr) (left : Row) (right : List Row) :
    (pair condition left right).rows.Sublist (Row.pairs condition [left] right) := by
  simp only [Row.pairs, List.flatMap_singleton]
  induction right with
  | nil => exact .refl _
  | cons r rs ih =>
    rw [List.map_cons]
    cases condition with
    | none => exact ih.cons_cons _
    | some c =>
      rw [pair, List.filter_cons, Expr.matched, Expr.holds_eq]
      rcases c.selects (left ++ r) with e | ⟨⟩ | ⟨⟩
      · exact List.nil_sublist _
      · exact ih
      · exact ih.cons_cons _

theorem rows_bind_keep (schema : Schema) (predicate : Expr) (b : Burst) :
    (b.bind (keep schema predicate)).rows.Sublist (b.rows.filter predicate.holds) := by
  have kept := b.rows_bind_sublist (keep schema predicate)
  simp only [rows_keep] at kept
  rwa [← List.filterMap_eq_flatMap_toList, List.filterMap_eq_filter] at kept

theorem rows_bind_compute (schema : Schema) (fields : List Field) (b : Burst) :
    (b.bind (compute schema fields)).rows.Sublist (b.rows.filterMap (Field.values? fields)) := by
  have computed := b.rows_bind_sublist (compute schema fields)
  simp only [rows_compute] at computed
  rwa [← List.filterMap_eq_flatMap_toList] at computed

theorem rows_bind_store (schema : Schema) (b : Burst) : (b.bind (store schema)).rows = [] := by
  have none : (b.rows.flatMap fun r => (store schema r).rows) = [] :=
    List.flatMap_eq_nil_iff.2 fun _ _ => rfl
  exact List.sublist_nil.1 (none ▸ b.rows_bind_sublist (store schema))

theorem rows_bind_probeWith (schema : Schema) (condition : Option Expr) (right : List Row)
    (b : Burst) :
    (b.bind (probeWith schema condition right)).rows.Sublist
      (Row.pairs condition b.rows right) := by
  refine (b.rows_bind_sublist _).trans (List.Sublist.flatMap_right _ fun l _ => ?_)
  have paired := rows_pair_sublist condition l right
  rwa [Row.pairs, List.flatMap_singleton] at paired

mutual

def lenient : Pipeline → List Row
  | values pending => pending
  | scan pending => Item.rows pending
  | filter _ predicate input => (lenient input).filter predicate.holds
  | project _ fields input => (lenient input).filterMap (Field.values? fields)
  | union branches => lenientAll branches
  | build _ _ condition collected right left =>
    Row.pairs condition (lenient left) (collected.toList ++ lenient right)
  | probe _ condition collected left => Row.pairs condition (lenient left) collected.toList

def lenientAll : List Pipeline → List Row
  | [] => []
  | p :: ps => lenient p ++ lenientAll ps

end

theorem lenientAll_append (ps qs : List Pipeline) :
    lenientAll (ps ++ qs) = lenientAll ps ++ lenientAll qs := by
  induction ps with
  | nil => rfl
  | cons p ps ih => rw [List.cons_append, lenientAll, lenientAll, ih, List.append_assoc]

/-- What a step gives and what is still to come after it came before, in this order. -/
theorem Steps.lenient {p q : Pipeline} {b : Burst} (h : Steps p b q) :
    (b.rows ++ q.lenient).Sublist p.lenient := by
  induction h with
  | values | item | fault => exact .refl _
  | @filter _ predicate _ b _ _ ih =>
    refine ((rows_bind_keep _ predicate b).append_right _).trans ?_
    rw [Pipeline.lenient, ← List.filter_append]
    exact ih.filter _
  | @project _ fields _ b _ _ ih =>
    refine ((rows_bind_compute _ fields b).append_right _).trans ?_
    rw [Pipeline.lenient, ← List.filterMap_append]
    exact ih.filterMap _
  | @union done p b q rest _ _ ih =>
    rw [Pipeline.lenient, Pipeline.lenient, lenientAll_append, lenientAll, lenientAll,
      ← List.append_assoc]
    exact (ih.append_right _).trans (List.sublist_append_right _ _)
  | @collect _ _ condition collected right left b right' _ ih =>
    rw [rows_bind_store, List.nil_append, Pipeline.lenient, Pipeline.lenient]
    refine Row.pairs_sublist (.refl _) ?_
    rw [Array.toList_append, List.append_assoc]
    exact ih.append_left _
  | @turn _ _ condition collected right left _ =>
    rw [Burst.rows, List.nil_append, Pipeline.lenient, Pipeline.lenient]
    exact Row.pairs_sublist (.refl _) (List.sublist_append_left _ _)
  | @probe _ condition collected left b left' _ ih =>
    refine ((rows_bind_probeWith _ condition _ b).append_right _).trans ?_
    rw [Pipeline.lenient, Pipeline.lenient, ← Row.pairs_append]
    exact Row.pairs_sublist ih (.refl _)

end Pipeline

theorem lenientAll_eq {ps : List Plan} {qs : List Pipeline}
    (h : List.Forall₂ (fun p q => Pipeline.lenient q = p.lenient) ps qs) :
    Pipeline.lenientAll qs = Plan.lenientAll ps := by
  induction h with
  | nil => rfl
  | cons first _ ih => rw [Pipeline.lenientAll, Plan.lenientAll, first, ih]

theorem Plan.Compiled.lenient {consumer : Schema} {p : Plan} {q : Pipeline}
    (h : Compiled consumer p q) : q.lenient = p.lenient := by
  induction h with
  | values => rfl
  | scan _ opened => simp only [Plan.lenient, opened, Pipeline.lenient]
  | filter _ _ ih | project _ _ ih => rw [Plan.lenient, Pipeline.lenient, ih]
  | union _ length _ ih =>
    rw [Plan.lenient, Pipeline.lenient]
    exact lenientAll_eq (List.forall₂_iff_zip.2 ⟨length, fun mem => ih _ _ mem⟩)
  | join _ _ _ ihr ihl => rw [Plan.lenient, Pipeline.lenient, ihr, ihl, List.nil_append]

/-! ## What the consumer is offered -/

def Offer.row? : Offer → Option Row
  | consumer r => some r
  | inlet .. => none

def Offer.rows (offers : List Offer) : List Row := offers.filterMap row?

theorem Burst.rows_offers_sublist {σ : Type} (push : Row → σ → Except Failure Unit × σ) (b : Burst)
    (s : σ) : (Offer.rows (b.offers push s)).Sublist b.rows := by
  induction b generalizing s with
  | quiet | failed _ => exact .refl _
  | passed i r rest ih => exact ih s
  | row r rest ih =>
    refine List.Sublist.cons_cons r ?_
    rcases push r s with ⟨e | ⟨⟩, s'⟩
    · exact List.nil_sublist _
    · exact ih s'

namespace Source

variable {δ σ : Type} (push : δ → Row → σ → Except Failure Unit × σ) (count : Nat → σ → σ)

def offered (n : Nat) (source : Source δ) (s : σ) : List Row :=
  (List.range n).flatMap fun i => Offer.rows (source.callAfter push count i s).offers

theorem offered_succ (n : Nat) (source : Source δ) (s : σ) :
    source.offered push count (n + 1) s =
      Offer.rows (source.call push count s).offers ++
        (source.call push count s).source.offered push count n
          (source.call push count s).state := by
  rw [offered, List.range_succ_eq_map, List.flatMap_cons, List.flatMap_map]
  rfl

theorem offered_of_ends {source : Source δ} (ended : source.remaining = 0) (n : Nat) (s : σ) :
    source.offered push count n s = [] := by
  refine List.flatMap_eq_nil_iff.2 fun i _ => ?_
  have least : source.remaining ≤ i := ended ▸ Nat.zero_le i
  rw [(callAfter_of_le push count least s).2]
  rfl

theorem offered_pipe_sublist (n : Nat) (q : Pipeline) (next : δ) (s : σ) :
    ((pipe q next).offered push count n s).Sublist q.lenient := by
  induction n generalizing q s with
  | zero => exact List.nil_sublist _
  | succ n ih =>
    cases step : q.step? with
    | none =>
      have ended : (pipe q next).remaining = 0 := Pipeline.remaining_of_step?_eq_none q step
      rw [offered_of_ends push count ended]
      exact List.nil_sublist _
    | some front =>
      obtain ⟨b, q'⟩ := front
      have first := b.rows_offers_sublist (push next) s
      have stepped := (Pipeline.steps_of_step? q b q' step).lenient
      rw [offered_succ]
      simp only [call, step?, step]
      exact (first.append (ih q' _)).trans stepped

end Source

theorem offered_sublist_lenient {plan : Plan} {consumer : Schema} {q : Pipeline}
    (compiled : plan.compile consumer = .ok q) {δ σ : Type}
    (push : δ → Row → σ → Except Failure Unit × σ) (count : Nat → σ → σ) (next : δ) (s : σ)
    (n : Nat) : ((Source.pipe q next).offered push count n s).Sublist plan.lenient := by
  rw [← (Plan.compile_eq_ok_iff.1 compiled).lenient]
  exact Source.offered_pipe_sublist push count n q next s

theorem offered_sublist_lenient_join :
    let ints : Schema := ⟨[⟨"n", .int, false⟩]⟩
    let doubles : Schema := ⟨[⟨"d", .float, false⟩]⟩
    let five : Value := .float ⟨0x4014000000000000⟩
    let seven : Value := .float ⟨0x401c000000000000⟩
    let nan : Value := .float (.notANumber false)
    let table : Table := ⟨"t", ints, .ok [.error .cancelled, .ok [.int 2]]⟩
    let left : Plan := .union ints true [.values ints [[.int 1]] .physical, .scan table]
    let right : Plan := .values doubles [[five], [nan], [seven]] .physical
    let plan : Plan := .join (some (.compare .lt (.column 0) (.column 1))) left right
    let push (_ : Unit) (_ : Row) (refuses : Bool) : Except Failure Unit × Bool :=
      (if refuses then .error (.error .cancelled) else .ok (), false)
    ∃ q, plan.compile plan.schema = .ok q ∧
      let offered := (Source.pipe q ()).offered push (fun _ s => s) 9 true
      offered = [[.int 1, five], [.int 2, five]] ∧
        plan.lenient = [[.int 1, five], [.int 1, seven], [.int 2, five], [.int 2, seven]] ∧
        offered.Sublist plan.lenient := by
  intro ints doubles five seven nan table left right plan push
  obtain ⟨q, compiled⟩ : ∃ q, plan.compile plan.schema = .ok q := ⟨_, rfl⟩
  have sublist := offered_sublist_lenient compiled push (fun _ s => s) () true 9
  refine ⟨q, compiled, ?_, by decide, sublist⟩
  cases compiled
  decide

end QueryFlow
