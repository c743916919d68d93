import QueryFlow.Proofs.Engine.Sinks
import QueryFlow.Proofs.Stream.Refinement

namespace QueryFlow.Engine

/-- `g.Keeps sink i`: what is pushed to `sink` ends up in buffer `i`, which keeps every row. -/
structure Keeps (g : Engine) (sink : SinkId) (i : Nat) : Prop where
  route : g.route sink = .buffer i
  holds : i < g.buffers.size
  policy : (g.buffer i).policy = .keep

def keepRows (i : Nat) (rows : List Row) (g : Engine) : Engine :=
  rows.foldl (fun g r => g.changeBuffer i (Buffer.keep r)) g

theorem push_of_keeps {g : Engine} {sink : SinkId} {i : Nat} (keeps : g.Keeps sink i) (r : Row) :
    push sink r g = (.ok (), g.changeBuffer i (Buffer.keep r)) := by
  have policy : ((g.changeBuffer i (Buffer.keep r)).buffer i).policy = .keep := by
    rw [buffer_changeBuffer, if_pos ⟨rfl, keeps.holds⟩]
    exact keeps.policy
  simp [push, keeps.route, Buffer.refusal?, keeps.policy, Buffer.cancels, policy]

theorem Keeps.changeBuffer {g : Engine} {sink : SinkId} {i j : Nat} (keeps : g.Keeps sink i)
    {f : Buffer → Buffer} (stays : ∀ b, (f b).policy = b.policy) :
    (g.changeBuffer j f).Keeps sink i where
  route := by
    have same : (g.changeBuffer j f).lazySinks = g.lazySinks := rfl
    rw [route_congr same]
    exact keeps.route
  holds := Nat.lt_of_lt_of_eq keeps.holds Array.size_modify.symm
  policy := by
    rw [buffer_changeBuffer]
    split
    · exact (stays _).trans keeps.policy
    · exact keeps.policy

theorem Keeps.flags {g : Engine} {sink : SinkId} {i : Nat} (keeps : g.Keeps sink i)
    (cancelled : Bool) (profile : Profile) :
    Keeps { g with cancelled := cancelled, profile := profile } sink i where
  route := by
    have same : (Engine.mk g.buffers g.lazySinks cancelled profile).lazySinks = g.lazySinks := rfl
    rw [route_congr same]
    exact keeps.route
  holds := keeps.holds
  policy := keeps.policy

theorem Keeps.keepRows {g : Engine} {sink : SinkId} {i : Nat} (keeps : g.Keeps sink i)
    (rows : List Row) : (keepRows i rows g).Keeps sink i := by
  induction rows generalizing g with
  | nil => exact keeps
  | cons r rows ih => exact ih (keeps.changeBuffer fun _ => rfl)

theorem rows_keepRows {g : Engine} {i : Nat} (holds : i < g.buffers.size) (rows : List Row) :
    ((keepRows i rows g).buffer i).rows.toList = (g.buffer i).rows.toList ++ rows := by
  induction rows generalizing g with
  | nil => exact (List.append_nil _).symm
  | cons r rows ih =>
    have kept : ((g.changeBuffer i (Buffer.keep r)).buffer i).rows =
        (g.buffer i).rows.push r := by
      rw [buffer_changeBuffer, if_pos ⟨rfl, holds⟩]
      rfl
    unfold Engine.keepRows
    rw [List.foldl_cons, ← Engine.keepRows, ih (Nat.lt_of_lt_of_eq holds Array.size_modify.symm),
      kept, Array.toList_push, List.append_assoc]
    rfl

theorem deliver_of_keeps {g : Engine} {sink : SinkId} {i : Nat} (keeps : g.Keeps sink i)
    (t : Stream) :
    t.deliver (push sink) g =
      (match t.ending with
        | none => .ok ()
        | some e => .error (.error e),
      keepRows i t.rows g) := by
  obtain ⟨rows, ending⟩ := t
  unfold Stream.deliver
  induction rows generalizing g with
  | nil => rfl
  | cons r rows ih =>
    rw [Stream.deliverRows, push_of_keeps keeps]
    exact ih (keeps.changeBuffer fun _ => rfl)

theorem deliver_burst_of_keeps {g : Engine} {sink : SinkId} {i : Nat} (keeps : g.Keeps sink i)
    (b : Burst) :
    (b.deliver (push sink) g).result =
        (match b.stream.ending with | none => .ok () | some e => .error (.error e)) ∧
      (b.deliver (push sink) g).state = keepRows i b.rows g := by
  have delivered := Burst.deliver_stream (push sink) b g
  rw [deliver_of_keeps keeps, ← Burst.rows_eq_stream] at delivered
  exact ⟨congrArg Prod.fst delivered, congrArg Prod.snd delivered⟩

end QueryFlow.Engine
