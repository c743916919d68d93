import QueryFlow.Engine.Execution
import QueryFlow.Proofs.Engine.Sinks

/-!
# Counters

The profile of an engine records what is done and decides nothing.
-/

namespace QueryFlow.Engine

theorem route_counters (g : Engine) (p : Profile) (sink : SinkId) :
    { g with profile := p }.route sink = g.route sink := by
  have same : { g with profile := p }.lazySinks = g.lazySinks := rfl
  exact route_congr same sink

theorem buffer_counters (g : Engine) (p : Profile) (i : Nat) :
    { g with profile := p }.buffer i = g.buffer i := rfl

theorem changeBuffer_counters (g : Engine) (p : Profile) (i : Nat) (f : Buffer → Buffer) :
    { g with profile := p }.changeBuffer i f = { g.changeBuffer i f with profile := p } := rfl

theorem push_counters (g : Engine) (p : Profile) (sink : SinkId) (r : Row) :
    push sink r { g with profile := p } =
      ((push sink r g).1, { (push sink r g).2 with profile := p }) := by
  simp only [push, route_counters, buffer_counters, changeBuffer_counters]
  rcases g.route sink with i | _ | _
  · simp only
    rcases (g.buffer i).refusal? with _ | e
    · by_cases h : ((g.changeBuffer i (Buffer.keep r)).buffer i).cancels = true <;> simp [h]
    · rfl
  · rfl
  · rfl

theorem finish_counters (g : Engine) (p : Profile) (sink : SinkId) :
    finish sink { g with profile := p } =
      ((finish sink g).1, { (finish sink g).2 with profile := p }) := by
  rw [finish, finish, route_counters]
  rcases g.route sink with i | _ | _ <;> rfl

end QueryFlow.Engine
