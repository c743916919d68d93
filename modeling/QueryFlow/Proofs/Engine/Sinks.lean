import QueryFlow.Engine
import QueryFlow.Proofs.Results
import QueryFlow.Proofs.Schema

namespace QueryFlow

theorem LazySink.bind_eq_ok {l k : LazySink} {target : SinkId} {schema : Schema} :
    l.bind target schema = .ok k ↔
      l.target = none ∧ schema.accepts l.schema = true ∧ { l with target := some target } = k := by
  obtain ⟨declared, _ | other⟩ := l
  · simp only [bind, isBound, Option.isSome, Bool.false_eq_true, if_false, check_eq_ok,
      Schema.checkAccepts_eq_ok, pure_eq_ok, true_and]
  · constructor
    · intro h
      cases h
    · intro h
      cases h.1

namespace Engine

theorem buffer_newBuffer (g : Engine) (schema : Schema) (policy : Policy) (i : Nat) :
    (g.newBuffer schema policy).2.buffer i =
      if i = g.buffers.size then .empty schema policy else g.buffer i := by
  simp only [newBuffer, buffer, Array.getD_eq_getD_getElem?, Array.getElem?_push]
  by_cases h : i = g.buffers.size <;> simp [h]

theorem lazySink_newLazySink (g : Engine) (schema : Schema) (i : Nat) :
    (g.newLazySink schema).2.lazySink i =
      if i = g.lazySinks.size then .unbound schema else g.lazySink i := by
  simp only [newLazySink, lazySink, Array.getD_eq_getD_getElem?, Array.getElem?_push]
  by_cases h : i = g.lazySinks.size <;> simp [h]

theorem buffer_newLazySink (g : Engine) (schema : Schema) (i : Nat) :
    (g.newLazySink schema).2.buffer i = g.buffer i := rfl

theorem buffer_changeBuffer (g : Engine) (i j : Nat) (f : Buffer → Buffer) :
    (g.changeBuffer i f).buffer j =
      if i = j ∧ i < g.buffers.size then f (g.buffer j) else g.buffer j := by
  simp only [changeBuffer, buffer, Array.getD_eq_getD_getElem?, Array.getElem?_modify]
  by_cases same : i = j
  · subst same
    by_cases h : i < g.buffers.size <;> simp [h]
  · simp [same]

theorem lazySink_setLazySink (g : Engine) (i j : Nat) (l : LazySink) :
    (g.setLazySink i l).lazySink j =
      if i = j ∧ i < g.lazySinks.size then l else g.lazySink j := by
  simp only [setLazySink, lazySink, Array.getD_eq_getD_getElem?, Array.getElem?_setIfInBounds]
  by_cases same : i = j
  · subst same
    by_cases h : i < g.lazySinks.size <;> simp [h]
  · simp [same]

theorem buffer_setLazySink (g : Engine) (i j : Nat) (l : LazySink) :
    (g.setLazySink i l).buffer j = g.buffer j := rfl

theorem routeWithin_congr {g h : Engine} (same : h.lazySinks = g.lazySinks) (hops : Nat)
    (sink : SinkId) : h.routeWithin hops sink = g.routeWithin hops sink := by
  induction hops generalizing sink with
  | zero => cases sink <;> rfl
  | succ hops ih =>
    cases sink with
    | buffer i => rfl
    | lazySink i =>
      have slot : h.lazySink i = g.lazySink i := by unfold lazySink; rw [same]
      rw [routeWithin, routeWithin, slot]
      cases (g.lazySink i).target with
      | none => rfl
      | some target => exact ih target

theorem route_congr {g h : Engine} (same : h.lazySinks = g.lazySinks) (sink : SinkId) :
    h.route sink = g.route sink := by
  rw [route, route, same, routeWithin_congr same]

def Holds (g : Engine) : SinkId → Prop
  | .buffer i => i < g.buffers.size
  | .lazySink i => i < g.lazySinks.size

/-- `SameSinks g h`: the engines `g` and `h` differ at most in what their buffers keep, in the flag
and in the counters. -/
structure SameSinks (g h : Engine) : Prop where
  lazySinks : h.lazySinks = g.lazySinks
  size : h.buffers.size = g.buffers.size
  schema : ∀ i, (h.buffer i).schema = (g.buffer i).schema

namespace SameSinks

variable {g h k : Engine}

theorem refl (g : Engine) : SameSinks g g := ⟨rfl, rfl, fun _ => rfl⟩

theorem trans (gh : SameSinks g h) (hk : SameSinks h k) : SameSinks g k where
  lazySinks := hk.lazySinks.trans gh.lazySinks
  size := hk.size.trans gh.size
  schema i := (hk.schema i).trans (gh.schema i)

theorem lazySink (same : SameSinks g h) (i : Nat) : h.lazySink i = g.lazySink i := by
  rw [Engine.lazySink, same.lazySinks, Engine.lazySink]

theorem schema_eq (same : SameSinks g h) (sink : SinkId) : h.schema sink = g.schema sink := by
  cases sink with
  | buffer i => exact same.schema i
  | lazySink i => rw [Engine.schema, Engine.schema, same.lazySink]

theorem holds (same : SameSinks g h) {sink : SinkId} : h.Holds sink ↔ g.Holds sink := by
  cases sink with
  | buffer i => rw [Holds, Holds, same.size]
  | lazySink i => rw [Holds, Holds, same.lazySinks]

theorem flags (g : Engine) (cancelled : Bool) (profile : Profile) :
    SameSinks g { g with cancelled := cancelled, profile := profile } := ⟨rfl, rfl, fun _ => rfl⟩

theorem changeBuffer (g : Engine) (i : Nat) {f : Buffer → Buffer}
    (keeps : ∀ b, (f b).schema = b.schema) : SameSinks g (g.changeBuffer i f) where
  lazySinks := rfl
  size := Array.size_modify
  schema j := by
    rw [buffer_changeBuffer]
    split
    · exact keeps _
    · rfl

end SameSinks

theorem sameSinks_push (g : Engine) (sink : SinkId) (r : Row) : SameSinks g (push sink r g).2 := by
  unfold push
  rcases g.route sink with i | _ | _
  · simp only
    split
    · exact .refl g
    · have kept := SameSinks.changeBuffer g i (f := Buffer.keep r) fun _ => rfl
      simp only
      split
      · exact kept.trans (.flags _ true _)
      · exact kept
  · exact .refl g
  · exact .refl g

theorem sameSinks_finish (g : Engine) (sink : SinkId) : SameSinks g (finish sink g).2 := by
  unfold finish
  rcases g.route sink with i | _ | _
  · apply SameSinks.changeBuffer
    intro b
    unfold Buffer.finish
    cases b.policy <;> rfl
  · exact .refl g
  · exact .refl g

theorem sameSinks_takeRows (g : Engine) (buffer : Nat) : SameSinks g (g.takeRows buffer).2 :=
  .changeBuffer g buffer fun _ => rfl

theorem bind_cases (g : Engine) (i : Nat) (target : SinkId) :
    (∃ e, bind i target g = (.error e, g)) ∨
      ((g.lazySink i).target = none ∧
        (g.schema target).accepts (g.lazySink i).schema = true ∧
        bind i target g =
          (.ok (), g.setLazySink i { g.lazySink i with target := some target })) := by
  rcases bound : (g.lazySink i).bind target (g.schema target) with e | l
  · exact .inl ⟨e, by rw [bind, bound]⟩
  · obtain ⟨unbound, accepts, rfl⟩ := LazySink.bind_eq_ok.1 bound
    exact .inr ⟨unbound, accepts, by rw [bind, bound]⟩

end Engine

end QueryFlow
