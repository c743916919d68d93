import QueryFlow.Burst
import QueryFlow.Plan

/-!
# Streams

What a plan denotes, without steps, sinks or buffers: a finite list of rows, optionally ended by an
error. The stream of a plan is defined by recursion on the tree.
-/

namespace QueryFlow

structure Stream where
  rows : List Row
  ending : Option Error
  deriving DecidableEq

namespace Stream

def nil : Stream := ⟨[], none⟩

def single (r : Row) : Stream := ⟨[r], none⟩

def failed (e : Error) : Stream := ⟨[], some e⟩

def append (s t : Stream) : Stream :=
  match s.ending with
  | none => ⟨s.rows ++ t.rows, t.ending⟩
  | some e => ⟨s.rows, some e⟩

def flatMapRows (f : Row → Stream) (ending : Option Error) : List Row → Stream
  | [] => ⟨[], ending⟩
  | r :: rs => (f r).append (flatMapRows f ending rs)

def flatMap (f : Row → Stream) (s : Stream) : Stream := flatMapRows f s.ending s.rows

def ofItems : List Item → Stream
  | [] => nil
  | .ok r :: items => (single r).append (ofItems items)
  | .error e :: _ => failed e

def selected (predicate : Expr) (r : Row) : Stream :=
  match predicate.eval r with
  | .ok (.bool true) => single r
  | .ok (.bool false) | .ok .null => nil
  | .ok v => failed (.eval (.notBoolean v))
  | .error e => failed (.eval e)

def computed (fields : List Field) (r : Row) : Stream :=
  match fields.mapM fun f => f.expr.eval r with
  | .ok out => single out
  | .error e => failed (.eval e)

def matching : Option Expr → Row → Stream
  | none, r => single r
  | some c, r => selected c r

def paired (condition : Option Expr) (left : Row) (right : List Row) : Stream :=
  flatMapRows (fun r => matching condition (left ++ r)) none right

/-- A join takes the whole right stream before it takes a left row. -/
def joined (condition : Option Expr) (left right : Stream) : Stream :=
  match right.ending with
  | some e => failed e
  | none => left.flatMap fun l => paired condition l right.rows

/-- What becomes of a consumer that is offered the rows of a stream in order. The first refusal is
the result; a stream without refusal ends as it says. -/
def deliverRows {σ : Type} (push : Row → σ → Except Failure Unit × σ) (ending : Option Error) :
    List Row → σ → Except Failure Unit × σ
  | [], s => (match ending with | none => .ok () | some e => .error (.error e), s)
  | r :: rs, s =>
    match push r s with
    | (.ok (), s) => deliverRows push ending rs s
    | (.error e, s) => (.error e, s)

def deliver {σ : Type} (push : Row → σ → Except Failure Unit × σ) (t : Stream) (s : σ) :
    Except Failure Unit × σ :=
  deliverRows push t.ending t.rows s

end Stream

namespace Plan

mutual

/-- The rows of a plan in order, and the error that ends them if one does. -/
def stream : Plan → Stream
  | values _ tuples _ => ⟨tuples, none⟩
  | scan table =>
    match table.contents with
    | .ok items => .ofItems items
    | .error e => .failed e
  | filter predicate input => (stream input).flatMap (Stream.selected predicate)
  | project _ fields input => (stream input).flatMap (Stream.computed fields)
  | union _ _ inputs => streamAll inputs
  | join condition left right => (stream left).joined condition (stream right)

def streamAll : List Plan → Stream
  | [] => .nil
  | p :: ps => (stream p).append (streamAll ps)

end

end Plan

namespace Stream

@[simp] theorem nil_append (t : Stream) : nil.append t = t := rfl

@[simp] theorem append_nil (s : Stream) : s.append nil = s := by
  obtain ⟨rows, ending⟩ := s
  cases ending <;> simp [append, nil]

theorem append_assoc (s t u : Stream) : (s.append t).append u = s.append (t.append u) := by
  obtain ⟨rows, ending⟩ := s
  obtain ⟨rows', ending'⟩ := t
  cases ending <;> cases ending' <;> simp [append]

theorem ending_append (s t : Stream) : (s.append t).ending = s.ending.or t.ending := by
  obtain ⟨rows, _ | e⟩ := s <;> rfl

theorem selected_eq (predicate : Expr) (r : Row) :
    selected predicate r =
      match predicate.selects r with
      | .ok true => single r
      | .ok false => nil
      | .error e => failed (.eval e) := by
  unfold selected Expr.selects
  cases predicate.eval r with
  | error e => rfl
  | ok v =>
    match v with
    | .bool true | .bool false | .null | .int _ | .float _ | .string _ | .bytes _ => rfl

theorem computed_eq (fields : List Field) (r : Row) :
    computed fields r =
      match Field.evalAll fields r with
      | .ok out => single out
      | .error e => failed (.eval e) := rfl

theorem single_append (r : Row) (t : Stream) : (single r).append t = ⟨r :: t.rows, t.ending⟩ := rfl

theorem flatMapRows_append (f : Row → Stream) (ending : Option Error) (rs ts : List Row) :
    flatMapRows f ending (rs ++ ts) = (flatMapRows f none rs).append (flatMapRows f ending ts) := by
  induction rs with
  | nil => rfl
  | cons r rs ih => simp only [List.cons_append, flatMapRows, ih, append_assoc]

theorem flatMapRows_some_append (f : Row → Stream) (e : Error) (rs : List Row) (t : Stream) :
    (flatMapRows f (some e) rs).append t = flatMapRows f (some e) rs := by
  induction rs with
  | nil => rfl
  | cons r rs ih => rw [flatMapRows, append_assoc, ih]

theorem flatMap_append (f : Row → Stream) (s t : Stream) :
    (s.append t).flatMap f = (s.flatMap f).append (t.flatMap f) := by
  obtain ⟨rows, ending⟩ := s
  cases ending with
  | none => exact flatMapRows_append f t.ending rows t.rows
  | some e => exact (flatMapRows_some_append f e rows _).symm

@[simp] theorem flatMap_nil (f : Row → Stream) : nil.flatMap f = nil := rfl

@[simp] theorem flatMap_single (f : Row → Stream) (r : Row) : (single r).flatMap f = f r :=
  append_nil (f r)

theorem deliver_single {σ : Type} (push : Row → σ → Except Failure Unit × σ) (r : Row) (s : σ) :
    (single r).deliver push s = push r s := by
  simp only [deliver, single, deliverRows]
  rcases push r s with ⟨⟨⟩ | ⟨⟩, s'⟩ <;> rfl

theorem deliverRows_append {σ : Type} (push : Row → σ → Except Failure Unit × σ)
    (ending : Option Error) (rs ts : List Row) (s : σ) :
    deliverRows push ending (rs ++ ts) s =
      match deliverRows push none rs s with
      | (.ok (), s) => deliverRows push ending ts s
      | (.error e, s) => (.error e, s) := by
  induction rs generalizing s with
  | nil => rfl
  | cons r rs ih =>
    rw [List.cons_append, deliverRows, deliverRows]
    rcases push r s with ⟨⟨⟩ | ⟨⟩, s'⟩
    · rfl
    · exact ih s'

theorem deliverRows_some {σ : Type} (push : Row → σ → Except Failure Unit × σ) (e : Error)
    (rs : List Row) (s : σ) : (deliverRows push (some e) rs s).1 ≠ .ok () := by
  induction rs generalizing s with
  | nil => exact nofun
  | cons r rs ih =>
    rw [deliverRows]
    rcases push r s with ⟨⟨⟩ | ⟨⟩, s'⟩
    · exact nofun
    · exact ih s'

theorem deliver_append {σ : Type} (push : Row → σ → Except Failure Unit × σ) (t u : Stream)
    (s : σ) :
    (t.append u).deliver push s =
      match t.deliver push s with
      | (.ok (), s) => u.deliver push s
      | (.error e, s) => (.error e, s) := by
  obtain ⟨rows, ending⟩ := t
  cases ending with
  | none => exact deliverRows_append push u.ending rows u.rows s
  | some e =>
    have failing := deliverRows_some push e rows s
    simp only [deliver, append]
    rcases h : deliverRows push (some e) rows s with ⟨⟨⟩ | ⟨⟩, s'⟩
    · rfl
    · exact absurd (congrArg Prod.fst h) failing

end Stream

end QueryFlow
