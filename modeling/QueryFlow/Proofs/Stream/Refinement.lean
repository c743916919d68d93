import QueryFlow.Engine.Execution
import QueryFlow.Proofs.Pipeline.Compiled
import QueryFlow.Proofs.Pipeline.Steps
import QueryFlow.Proofs.Stream

/-!
# Pipelines refine streams

A pipeline that is part way through has a stream too: what is still to come. Each step gives the
front of it, so that a drive delivers the stream of the plan, whatever the consumer refuses.
-/

namespace QueryFlow

namespace Burst

def stream : Burst → Stream
  | quiet => .nil
  | failed e => .failed e
  | passed _ _ rest => rest.stream
  | row r rest => (Stream.single r).append rest.stream

theorem rows_eq_stream (b : Burst) : b.rows = b.stream.rows := by
  induction b with
  | quiet | failed _ => rfl
  | passed _ _ _ ih => exact ih
  | row r _ ih => simp [rows, stream, ih, Stream.single_append]

theorem stream_append (b c : Burst) : (b.append c).stream = b.stream.append c.stream := by
  induction b with
  | quiet | failed _ => rfl
  | passed _ _ _ ih => exact ih
  | row r _ ih => simp [append, stream, ih, Stream.append_assoc]

theorem stream_bind (f : Row → Burst) (b : Burst) :
    (b.bind f).stream = b.stream.flatMap fun r => (f r).stream := by
  induction b with
  | quiet | failed _ => rfl
  | passed _ _ _ ih => exact ih
  | row r _ ih =>
    simp only [bind, stream, stream_append, ih, Stream.flatMap_append, Stream.flatMap_single]

theorem deliver_stream {σ : Type} (push : Row → σ → Except Failure Unit × σ) (b : Burst) (s : σ) :
    ((b.deliver push s).result, (b.deliver push s).state) = b.stream.deliver push s := by
  induction b generalizing s with
  | quiet | failed _ => rfl
  | passed _ _ _ ih => exact ih s
  | row r rest ih =>
    rw [stream, Stream.deliver_append, Stream.deliver_single, deliver]
    rcases push r s with ⟨⟨⟩ | ⟨⟩, s'⟩
    · rfl
    · exact ih s'

theorem ending_of_delivered {σ : Type} {push : Row → σ → Except Failure Unit × σ} {b : Burst}
    {s : σ} (delivered : (b.deliver push s).result = .ok ()) : b.stream.ending = none := by
  rcases ending : b.stream.ending with _ | e
  · rfl
  · have failing := Stream.deliverRows_some push e b.stream.rows s
    have same := congrArg Prod.fst (deliver_stream push b s)
    rw [delivered, Stream.deliver, ending] at same
    exact absurd same.symm failing

end Burst

namespace Pipeline

mutual

def stream : Pipeline → Stream
  | values pending => ⟨pending, none⟩
  | scan pending => .ofItems pending
  | filter _ predicate input => (stream input).flatMap (Stream.selected predicate)
  | project _ fields input => (stream input).flatMap (Stream.computed fields)
  | union branches => streamAll branches
  | build _ _ condition collected right left =>
    (stream left).joined condition ⟨collected.toList ++ (stream right).rows, (stream right).ending⟩
  | probe _ condition collected left =>
    (stream left).flatMap fun l => Stream.paired condition l collected.toList

def streamAll : List Pipeline → Stream
  | [] => .nil
  | p :: ps => (stream p).append (streamAll ps)

end

theorem stream_keep (schema : Schema) (predicate : Expr) (r : Row) :
    (keep schema predicate r).stream = Stream.selected predicate r := by
  rw [keep, Burst.stream, Stream.selected_eq]
  rcases predicate.selects r with e | ⟨⟩ | ⟨⟩ <;> rfl

theorem stream_compute (schema : Schema) (fields : List Field) (r : Row) :
    (compute schema fields r).stream = Stream.computed fields r := by
  rw [compute, Burst.stream, Stream.computed_eq]
  rcases Field.evalAll fields r with e | out <;> rfl

theorem stream_pair (condition : Option Expr) (left : Row) (right : List Row) :
    (pair condition left right).stream = Stream.paired condition left right := by
  induction right with
  | nil => rfl
  | cons r rs ih =>
    rw [Stream.paired, Stream.flatMapRows, ← Stream.paired, ← ih]
    cases condition with
    | none => rfl
    | some c =>
      rw [pair, Stream.matching, Stream.selected_eq]
      rcases c.selects (left ++ r) with e | ⟨⟩ | ⟨⟩ <;> rfl

theorem stream_probeWith (schema : Schema) (condition : Option Expr) (right : List Row)
    (left : Row) :
    (probeWith schema condition right left).stream = Stream.paired condition left right :=
  stream_pair condition left right

theorem stream_bind_store (schema : Schema) (b : Burst) :
    (b.bind (store schema)).stream = ⟨[], b.stream.ending⟩ := by
  induction b with
  | quiet | failed _ => rfl
  | passed _ _ _ ih => exact ih
  | row r _ ih =>
    rw [Burst.bind, Burst.stream_append, ih]
    rfl

theorem streamAll_of_nil {ps : List Pipeline} (h : ∀ p ∈ ps, p.stream = .nil) :
    streamAll ps = .nil := by
  induction ps with
  | nil => rfl
  | cons p ps ih =>
    obtain ⟨hp, hps⟩ := List.forall_mem_cons.1 h
    rw [streamAll, hp, ih hps, Stream.nil_append]

theorem streamAll_append (ps qs : List Pipeline) :
    streamAll (ps ++ qs) = (streamAll ps).append (streamAll qs) := by
  induction ps with
  | nil => rfl
  | cons p ps ih => rw [List.cons_append, streamAll, streamAll, ih, Stream.append_assoc]

theorem Ends.stream {p : Pipeline} (h : Ends p) : p.stream = .nil := by
  induction h with
  | values | scan => rfl
  | filter _ ih | project _ ih | probe _ ih => simp only [Pipeline.stream, ih, Stream.flatMap_nil]
  | union _ ih => rw [Pipeline.stream, streamAll_of_nil ih]

/-- What a step gives is the front of what was to come. -/
theorem Steps.stream {p q : Pipeline} {b : Burst} (h : Steps p b q) :
    p.stream = b.stream.append q.stream := by
  induction h with
  | values | item | fault => rfl
  | filter _ ih =>
    simp only [Pipeline.stream, ih, Burst.stream_bind, stream_keep, Stream.flatMap_append]
  | project _ ih =>
    simp only [Pipeline.stream, ih, Burst.stream_bind, stream_compute, Stream.flatMap_append]
  | union ended _ ih =>
    simp only [Pipeline.stream, streamAll_append, streamAll, ih, Stream.append_assoc,
      streamAll_of_nil fun p hp => (ended p hp).stream, Stream.nil_append]
  | @collect _ _ condition collected right left b right' _ ih =>
    simp only [Pipeline.stream, ih, stream_bind_store, Burst.rows_eq_stream]
    obtain ⟨rows, ending⟩ := b.stream
    cases ending with
    | none => simp [Stream.append]
    -- Both sides are the error alone: no left row has been taken yet.
    | some e => rfl
  | turn ended =>
    simp only [Pipeline.stream, ended.stream, Burst.stream, Stream.nil_append]
    simp [Stream.joined, Stream.nil]
  | probe _ ih =>
    simp only [Pipeline.stream, ih, Burst.stream_bind, stream_probeWith, Stream.flatMap_append]

end Pipeline

theorem streamAll_eq {ps : List Plan} {qs : List Pipeline}
    (h : List.Forall₂ (fun p q => Pipeline.stream q = p.stream) ps qs) :
    Pipeline.streamAll qs = Plan.streamAll ps := by
  induction h with
  | nil => rfl
  | cons hp _ ih => rw [Pipeline.streamAll, Plan.streamAll, hp, ih]

theorem Plan.Compiled.stream {consumer : Schema} {p : Plan} {q : Pipeline}
    (h : Compiled consumer p q) : q.stream = p.stream := by
  induction h with
  | values => rfl
  | scan _ opened => simp only [Plan.stream, opened, Pipeline.stream]
  | filter _ _ ih | project _ _ ih => rw [Plan.stream, Pipeline.stream, ih]
  | union _ length _ ih =>
    rw [Plan.stream, Pipeline.stream]
    exact streamAll_eq (List.forall₂_iff_zip.2 ⟨length, fun h => ih _ _ h⟩)
  | join _ _ _ ihr ihl => simp [Plan.stream, Pipeline.stream, ihr, ihl]

namespace Source

variable {δ σ : Type} {stop : σ → Option Error} {push : δ → Row → σ → Except Failure Unit × σ}

theorem drive_of_ends {source : Source δ} {s : σ} (free : stop s = none)
    (ends : source.step? = none) : source.drive stop push s = ⟨.ok (), 1, 0, s⟩ := by
  unfold drive
  simp only [free]
  split
  · rfl
  · simp_all

theorem drive_of_step {source rest : Source δ} {b : Burst} {next : δ} {s : σ} (free : stop s = none)
    (step : source.step? = some (b, next, rest)) :
    source.drive stop push s =
      match b.deliver (push next) s with
      | ⟨.error e, tests, s⟩ => ⟨.error e, 1, tests, s⟩
      | ⟨.ok (), tests, s⟩ =>
        let r := drive stop push rest s
        ⟨r.result, r.steps + 1, tests + r.tests, r.state⟩ := by
  conv_lhs => unfold drive
  simp only [free]
  split
  · simp_all
  · rename_i h
    obtain ⟨rfl, rfl, rfl⟩ : _ = b ∧ _ = next ∧ _ = rest := by simpa using h.symm.trans step
    rfl

theorem drive_pipe (free : ∀ s, stop s = none) (p : Pipeline) (next : δ) (s : σ) :
    ((drive stop push (.pipe p next) s).result, (drive stop push (.pipe p next) s).state) =
      p.stream.deliver (push next) s := by
  induction p using Pipeline.step_induction generalizing s with
  | ends p ends =>
    rw [drive_of_ends (free s) (by rw [step?, ends.step?]), ends.stream]
    rfl
  | steps p b q steps ih =>
    rw [drive_of_step (free s) (by rw [step?, steps.step?]), steps.stream, Stream.deliver_append,
      ← Burst.deliver_stream]
    rcases b.deliver (push next) s with ⟨⟨⟩ | ⟨⟩, tests, s'⟩
    · rfl
    · exact ih s'

end Source

end QueryFlow
