import QueryFlow.Proofs.Engine.Histories
import QueryFlow.Proofs.Engine.Structural

/-!
# Lazy sinks are bound once

A lazy sink takes the first target that accepts its rows and keeps it, whatever else is done with
the engine. Until then it refuses everything and nothing changes; from then on, what is pushed to it
is pushed to the target, also by sources that were compiled before.
-/

namespace QueryFlow

def Use.fits (g : Engine) (i : Nat) : Use → Option SinkId
  | bind j target =>
    if j = i ∧ (g.schema target).accepts (g.lazySink i).schema = true then some target else none
  | _ => none

def Use.binds (g : Engine) (i : Nat) : Use → Option SinkId
  | bind j target => if j = i ∧ (g.bind j target).1.isOk = true then some target else none
  | _ => none

namespace Engine

/-- The first target that fits, of all that are offered to the lazy sink `i`. -/
def firstFit (i : Nat) : List Use → Engine → Option SinkId
  | [], _ => none
  | use :: uses, g => (use.fits g i).or (firstFit i uses (use.perform g))

def boundTo (i : Nat) : List Use → Engine → List SinkId
  | [], _ => []
  | use :: uses, g => (use.binds g i).toList ++ boundTo i uses (use.perform g)

variable {g h k : Engine} {i : Nat} {target : SinkId}

/-! ## One bind -/

theorem bind_of_bound (bound : (g.lazySink i).target = some target) (other : SinkId) :
    g.bind i other = (.error (.alreadyBound "lazy sink"), g) := by
  have refused (schema : Schema) :
      (g.lazySink i).bind other schema = .error (.alreadyBound "lazy sink") := by
    rw [LazySink.bind, LazySink.isBound, bound]
    rfl
  rw [Engine.bind, refused]

theorem bind_of_rejected (unbound : (g.lazySink i).target = none)
    (rejects : (g.schema target).accepts (g.lazySink i).schema = false) :
    g.bind i target =
      (.error (.schemaMismatch "late bind" (g.schema target).display (g.lazySink i).schema.display),
        g) := by
  have refused : (g.lazySink i).bind target (g.schema target) = .error (.schemaMismatch "late bind"
      (g.schema target).display (g.lazySink i).schema.display) := by
    rw [LazySink.bind, LazySink.isBound, unbound, Schema.checkAccepts, rejects]
    rfl
  rw [Engine.bind, refused]

theorem bind_of_accepted (unbound : (g.lazySink i).target = none)
    (accepts : (g.schema target).accepts (g.lazySink i).schema = true) :
    g.bind i target = (.ok (), g.setLazySink i { g.lazySink i with target := some target }) := by
  rw [Engine.bind, LazySink.bind_eq_ok.2 ⟨unbound, accepts, rfl⟩]

/-! ## The slot -/

/-- `g.SlotStays i h`: the lazy sink `i` exists in `h` and is what it was in `g`. -/
structure SlotStays (g : Engine) (i : Nat) (h : Engine) : Prop where
  holds : i < h.lazySinks.size
  same : h.lazySink i = g.lazySink i

namespace SlotStays

theorem of_sameSinks (stays : g.SlotStays i h) (same : SameSinks h k) : g.SlotStays i k :=
  ⟨Nat.lt_of_lt_of_eq stays.holds (congrArg Array.size same.lazySinks).symm,
    (same.lazySink i).trans stays.same⟩

theorem kept (g : Engine) (i : Nat) : Kept (g.SlotStays i) where
  push h sink r stays := stays.of_sameSinks (sameSinks_push h sink r)
  finish h sink stays := stays.of_sameSinks (sameSinks_finish h sink)
  flags h cancelled profile stays := stays.of_sameSinks (.flags h cancelled profile)

theorem newLazySink (holds : i < g.lazySinks.size) (schema : Schema) :
    g.SlotStays i (g.newLazySink schema).2 where
  holds := Nat.lt_of_lt_of_eq (Nat.lt_succ_of_lt holds) (Array.size_push _).symm
  same := by rw [lazySink_newLazySink, if_neg (Nat.ne_of_lt holds)]

theorem setLazySink (stays : g.SlotStays i h) {j : Nat} (other : j ≠ i) (l : LazySink) :
    g.SlotStays i (h.setLazySink j l) where
  holds := Nat.lt_of_lt_of_eq stays.holds Array.size_setIfInBounds.symm
  same := by rw [lazySink_setLazySink, if_neg fun both => other both.1, stays.same]

theorem attached (holds : i < g.lazySinks.size) (schema : Schema) :
    g.SlotStays i (g.attached schema) := by
  have later := newLazySink (g := (g.newBuffer schema .keep).2) holds schema
  have fresh : g.SlotStays i (g.extended schema) := ⟨later.holds, later.same⟩
  exact fresh.setLazySink (Nat.ne_of_gt holds) _

theorem execute (holds : i < g.lazySinks.size) (options : RunOptions) (plan : Plan) :
    g.SlotStays i (g.execute options plan).2 := by
  have ran := (kept g i).run options ⟨plan, g.lazySinks.size⟩ (attached holds plan.schema)
  rw [execute_run]
  generalize (g.attached plan.schema).run options ⟨plan, g.lazySinks.size⟩ = run at ran ⊢
  rcases run with ⟨e | steps, h⟩
  · exact ran
  · exact ran.of_sameSinks (sameSinks_takeRows h _)

theorem perform (holds : i < g.lazySinks.size) {use : Use}
    (other : ∀ target, use ≠ .bind i target) : g.SlotStays i (use.perform g) := by
  have start : g.SlotStays i g := ⟨holds, rfl⟩
  cases use with
  | newBuffer schema policy => exact ⟨holds, rfl⟩
  | newLazySink schema => exact newLazySink holds schema
  | bind j target =>
    rcases bind_cases g j target with ⟨e, refused⟩ | ⟨-, -, bound⟩
    · exact (congrArg (fun r => g.SlotStays i r.2) refused).mpr start
    · have apart : j ≠ i := by
        rintro rfl
        exact other target rfl
      exact (congrArg (fun r => g.SlotStays i r.2) bound).mpr (start.setLazySink apart _)
  | push sink r => exact (kept g i).push g sink r start
  | finish sink => exact (kept g i).finish g sink start
  | takeRows buffer => exact start.of_sameSinks (sameSinks_takeRows g buffer)
  | setCancelled cancelled => exact (kept g i).flags g cancelled g.profile start
  | step source => exact (kept g i).step source start
  | prepare plan => exact (kept g i).compilePlan plan _ (newLazySink holds plan.schema)
  | drivePrepared options p => exact (kept g i).drivePrepared options p start
  | run options entry => exact (kept g i).run options entry start
  | execute options plan => exact execute holds options plan

end SlotStays

variable (holds : i < g.lazySinks.size) (unbound : (g.lazySink i).target = none)

include holds unbound in
theorem lazySink_perform (use : Use) :
    i < (use.perform g).lazySinks.size ∧
      (use.perform g).lazySink i = { g.lazySink i with target := use.fits g i } := by
  have empty : { g.lazySink i with target := none } = g.lazySink i := by rw [← unbound]
  by_cases offers : ∃ target, use = .bind i target
  · obtain ⟨target, rfl⟩ := offers
    have size := (size_bind g i target).symm
    refine ⟨Nat.lt_of_lt_of_eq holds size, ?_⟩
    rw [Use.perform, Use.fits]
    rcases accepts : (g.schema target).accepts (g.lazySink i).schema with _ | _
    · rw [bind_of_rejected unbound accepts, if_neg fun both => nomatch both.2]
      exact empty.symm
    · rw [bind_of_accepted unbound accepts, lazySink_setLazySink, if_pos ⟨rfl, holds⟩,
        if_pos ⟨rfl, rfl⟩]
  · have stays := SlotStays.perform holds fun target same => offers ⟨target, same⟩
    refine ⟨stays.holds, stays.same.trans ?_⟩
    have none : use.fits g i = none := by
      cases use with
      | bind j target =>
        refine if_neg fun both => offers ⟨target, ?_⟩
        rw [both.1]
      | _ => rfl
    rw [none, empty]

include holds unbound in
theorem lazySink_afterUses (uses : List Use) :
    (g.afterUses uses).lazySink i = { g.lazySink i with target := firstFit i uses g } := by
  induction uses generalizing g with
  | nil =>
    rw [firstFit, ← unbound]
    rfl
  | cons use uses ih =>
    obtain ⟨holds', slot⟩ := lazySink_perform holds unbound use
    show ((use.perform g).afterUses uses).lazySink i = _
    rcases fits : use.fits g i with _ | target
    · rw [fits] at slot
      rw [ih holds' (by rw [slot]), slot, firstFit, fits]
      rfl
    · have bound : ((use.perform g).lazySink i).isBound = true := by
        rw [slot, fits]
        rfl
      rw [(Extends.afterUses uses (use.perform g)).lazySink i bound, slot, firstFit, fits]
      rfl

theorem binds_of_bound (bound : (g.lazySink i).target = some target) (use : Use) :
    use.binds g i = none := by
  cases use with
  | bind j other =>
    refine if_neg ?_
    rintro ⟨rfl, accepted⟩
    rw [bind_of_bound bound] at accepted
    cases accepted
  | _ => rfl

theorem binds_of_unbound (unbound : (g.lazySink i).target = none) (use : Use) :
    use.binds g i = use.fits g i := by
  cases use with
  | bind j target =>
    rw [Use.binds, Use.fits]
    by_cases same : j = i
    · subst same
      rcases accepts : (g.schema target).accepts (g.lazySink j).schema with _ | _
      · rw [bind_of_rejected unbound accepts]
        simp [Except.isOk, Except.toBool]
      · rw [bind_of_accepted unbound accepts]
        simp [Except.isOk, Except.toBool]
    · rw [if_neg fun both => same both.1, if_neg fun both => same both.1]
  | _ => rfl

theorem boundTo_of_bound (bound : (g.lazySink i).target = some target) (uses : List Use) :
    boundTo i uses g = [] := by
  induction uses generalizing g with
  | nil => rfl
  | cons use uses ih =>
    have later : (use.perform g).lazySink i = g.lazySink i :=
      (Extends.perform g use).lazySink i (by rw [LazySink.isBound, bound]; rfl)
    rw [boundTo, binds_of_bound bound, ih (by rw [later, bound])]
    rfl

include holds unbound in
theorem boundTo_eq (uses : List Use) : boundTo i uses g = (firstFit i uses g).toList := by
  induction uses generalizing g with
  | nil => rfl
  | cons use uses ih =>
    obtain ⟨holds', slot⟩ := lazySink_perform holds unbound use
    rw [boundTo, firstFit, binds_of_unbound unbound]
    rcases fits : use.fits g i with _ | target
    · rw [fits] at slot
      rw [ih holds' (by rw [slot])]
      rfl
    · have bound : ((use.perform g).lazySink i).target = some target := by rw [slot, fits]
      rw [boundTo_of_bound bound]
      rfl

/-! ## What a bound lazy sink does -/

theorem route_of_bound (bound : (g.lazySink i).target = some target) :
    g.route (.lazySink i) = g.route target := by
  by_cases ends : g.Ends target
  · obtain ⟨b, chain, final⟩ := ends
    rw [route_of_leads chain final, route_of_leads (.hop bound chain) final]
  · have never : ¬ g.Ends (.lazySink i) := by
      rintro ⟨b, chain, final⟩
      cases chain with
      | refl => cases final.symm.trans bound
      | hop bound' chain =>
        cases bound.symm.trans bound'
        exact ends ⟨b, chain, final⟩
    rw [route_eq_endless_iff.2 ends, route_eq_endless_iff.2 never]

theorem push_of_bound (bound : (g.lazySink i).target = some target) (r : Row) :
    push (.lazySink i) r g = push target r g := by
  rw [push, route_of_bound bound, push]

theorem finish_of_bound (bound : (g.lazySink i).target = some target) :
    finish (.lazySink i) g = finish target g := by
  rw [finish, route_of_bound bound, finish]

theorem answers_of_bound :
    Answers (fun h k => h = k ∧ (h.lazySink i).target = some target) (push (.lazySink i))
      (push target) := by
  rintro r h _ ⟨rfl, bound⟩
  rw [push_of_bound bound]
  refine ⟨rfl, rfl, ?_⟩
  rw [(sameSinks_push h target r).lazySink, bound]

theorem drive_of_bound (bound : (g.lazySink i).target = some target) (options : RunOptions)
    (q : Pipeline) :
    g.drive options (.pipe q (.lazySink i)) (.lazySink i) =
      g.drive options (.pipe q target) target := by
  have stops : ∀ h k : Engine, h = k ∧ (h.lazySink i).target = some target →
      options.stop h = options.stop k := by
    rintro h _ ⟨rfl, -⟩
    rfl
  have alike := Source.drive_alike stops answers_of_bound q ⟨rfl, bound⟩
  unfold drive
  generalize Source.drive options.stop push (.pipe q (.lazySink i)) g = d at alike ⊢
  generalize Source.drive options.stop push (.pipe q target) g = e at alike ⊢
  obtain ⟨result, steps, tests, state⟩ := d
  obtain ⟨_, _, _, _⟩ := e
  obtain ⟨rfl, rfl, rfl, rfl, bound⟩ := alike
  have counted : (((state.countFilters tests).countDrive steps).lazySink i).target = some target :=
    bound
  cases result with
  | error e => rfl
  | ok u => simp only [finish_of_bound counted]

theorem step_of_bound (bound : (g.lazySink i).target = some target) (q : Pipeline) :
    ∃ result rest h, g.step (.pipe q (.lazySink i)) = (result, .pipe rest (.lazySink i), h) ∧
      g.step (.pipe q target) = (result, .pipe rest target, h) := by
  simp only [Engine.step, Source.step?]
  rcases q.step? with _ | ⟨b, rest⟩
  · exact ⟨.ok .done, q, g, rfl, rfl⟩
  · obtain ⟨result, tests, state, -⟩ := b.deliver_alike answers_of_bound ⟨rfl, bound⟩
    simp only [result, tests, state]
    exact ⟨_, rest, _, rfl, rfl⟩

theorem route_of_empty (unbound : (g.lazySink i).target = none) :
    g.route (.lazySink i) = .unbound := by
  rw [route, routeWithin, unbound]

theorem compilePlan_of_schema (same : (h.lazySink i).schema = (g.lazySink i).schema) (plan : Plan) :
    (h.compilePlan plan (.lazySink i)).1 = (g.compilePlan plan (.lazySink i)).1 := by
  unfold compilePlan
  rcases plan.convention.checkPhysical plan.operator with e | ⟨⟩
  · rfl
  · simp only [schema, same]

theorem binds_once {g : Engine} {i : Nat} (holds : i < g.lazySinks.size)
    (unbound : (g.lazySink i).target = none) (uses : List Use) :
    let h := g.afterUses uses
    h.lazySink i = { g.lazySink i with target := firstFit i uses g } ∧
    boundTo i uses g = (firstFit i uses g).toList ∧
    (∀ plan, (h.compilePlan plan (.lazySink i)).1 = (g.compilePlan plan (.lazySink i)).1) ∧
    (firstFit i uses g = none →
      (∀ target, (h.schema target).accepts (g.lazySink i).schema = false →
        h.bind i target =
          (.error (.schemaMismatch "late bind" (h.schema target).display
            (g.lazySink i).schema.display), h)) ∧
      (∀ r, h.push (.lazySink i) r = (.error (.error (.unbound "lazy sink")), h)) ∧
      h.finish (.lazySink i) = (.error (.error (.unbound "lazy sink")), h)) ∧
    ∀ target, firstFit i uses g = some target →
      (∀ other, h.bind i other = (.error (.alreadyBound "lazy sink"), h)) ∧
      (∀ r, h.push (.lazySink i) r = h.push target r) ∧
      h.finish (.lazySink i) = h.finish target ∧
      ∀ q,
        (∃ result rest k, h.step (.pipe q (.lazySink i)) = (result, .pipe rest (.lazySink i), k) ∧
          h.step (.pipe q target) = (result, .pipe rest target, k)) ∧
        ∀ options, h.drive options (.pipe q (.lazySink i)) (.lazySink i) =
          h.drive options (.pipe q target) target := by
  intro h
  have slot : h.lazySink i = { g.lazySink i with target := firstFit i uses g } :=
    lazySink_afterUses holds unbound uses
  have declared : (h.lazySink i).schema = (g.lazySink i).schema := by rw [slot]
  refine ⟨slot, boundTo_eq holds unbound uses, compilePlan_of_schema declared, ?_, ?_⟩
  · intro none
    have empty : (h.lazySink i).target = Option.none := (congrArg LazySink.target slot).trans none
    have route := route_of_empty empty
    refine ⟨fun target rejects => ?_, push_of_unbound route, finish_of_unbound route⟩
    rw [← declared] at rejects ⊢
    exact bind_of_rejected empty rejects
  · intro target found
    have bound : (h.lazySink i).target = some target := (congrArg LazySink.target slot).trans found
    exact ⟨bind_of_bound bound, push_of_bound bound, finish_of_bound bound, fun q =>
      ⟨step_of_bound bound q, fun options => drive_of_bound bound options q⟩⟩

theorem binds_once_second :
    let ints : Schema := ⟨[⟨"n", .int, false⟩]⟩
    let strings : Schema := ⟨[⟨"s", .string, false⟩]⟩
    let g : Engine :=
      ⟨#[.empty strings .keep, .empty ints .keep, .empty ints .keep], #[.unbound ints], false,
        ⟨0, 0, 0, 0⟩⟩
    let early : List Use :=
      [.push (.lazySink 0) [.int 1], .bind 0 (.buffer 0), .finish (.lazySink 0)]
    let late : List Use := [.bind 0 (.buffer 1), .bind 0 (.buffer 2), .push (.lazySink 0) [.int 2]]
    let h := g.afterUses (early ++ late)
    (g.afterUses early).push (.lazySink 0) [.int 1] =
        (.error (.error (.unbound "lazy sink")), g.afterUses early) ∧
      boundTo 0 (early ++ late) g = [.buffer 1] ∧
      h.bind 0 (.buffer 0) = (.error (.alreadyBound "lazy sink"), h) ∧
      h.push (.lazySink 0) [.int 3] = h.push (.buffer 1) [.int 3] ∧
      (h.buffer 1).rows = #[[.int 2]] ∧ (h.buffer 2).rows = #[] := by
  intro ints strings g early late h
  obtain ⟨-, -, -, before, -⟩ := binds_once (g := g) (i := 0) Nat.one_pos rfl early
  obtain ⟨-, targets, -, -, after⟩ := binds_once (g := g) (i := 0) Nat.one_pos rfl (early ++ late)
  have refused : firstFit 0 early g = none := by decide
  have found : firstFit 0 (early ++ late) g = some (.buffer 1) := by decide
  rw [found] at targets
  obtain ⟨taken, pushed, -, -⟩ := after (.buffer 1) found
  exact ⟨(before refused).2.1 _, targets, taken _, pushed _, by decide, by decide⟩

end Engine

end QueryFlow
