import QueryFlow.Proofs.Document.Parts
import QueryFlow.Proofs.Document.Spelling

/-!
# Members of objects

What the readers of an object look at: which members of a name there are, whether every literal has
a value, and how deep the object is nested. None of it depends on the order of the members.
-/

namespace QueryFlow

theorem mapM_congr {α β : Type} {f g : α → Option β} {as : List α} (same : ∀ a ∈ as, f a = g a) :
    as.mapM f = as.mapM g := by
  induction as with
  | nil => rfl
  | cons a as ih =>
    obtain ⟨first, rest⟩ := List.forall_mem_cons.1 same
    rw [List.mapM_cons, List.mapM_cons, first, ih rest]

theorem mapM_replace {α β : Type} {f : α → Option β} {before after : List α} {a a' : α}
    (same : f a = f a') : (before ++ a :: after).mapM f = (before ++ a' :: after).mapM f := by
  rw [List.mapM_append, List.mapM_append, List.mapM_cons, List.mapM_cons, same]

theorem forall₂_of_mapM {α β : Type} {f : α → Option β} {as : List α} {bs : List β}
    (h : as.mapM f = some bs) : List.Forall₂ (fun a b => f a = some b) as bs := by
  induction as generalizing bs with
  | nil =>
    cases h
    exact .nil
  | cons a as ih =>
    simp only [List.mapM_cons, Option.bind_eq_bind, Option.bind_eq_some_iff, Option.pure_def,
      Option.some.injEq] at h
    obtain ⟨b, first, bs, rest, rfl⟩ := h
    exact .cons first (ih rest)

namespace Json

variable {ms ms' before after : Members} {name : String} {key : Option String} {k k' : Json}
  {n : Nat}

/-! ## Members by name -/

theorem Members.Distinct.eq_of_mem (distinct : ms.Distinct) (mem : (some name, k) ∈ ms)
    (mem' : (some name, k') ∈ ms) : k = k' := by
  have key {i : Json} {ms : Members} (mem : (some name, i) ∈ ms) : name ∈ ms.filterMap Prod.fst :=
    List.mem_filterMap.2 ⟨_, mem, rfl⟩
  induction ms with
  | nil => cases mem
  | cons m ms ih =>
    obtain ⟨_ | other, i⟩ := m
    · exact ih distinct (List.mem_of_ne_of_mem (by simp) mem) (List.mem_of_ne_of_mem (by simp) mem')
    · obtain ⟨absent, distinct⟩ := List.nodup_cons.1 distinct
      rcases List.mem_cons.1 mem with ⟨⟨⟩⟩ | later <;>
        rcases List.mem_cons.1 mem' with ⟨⟨⟩⟩ | later'
      · rfl
      · exact absurd (key later') absent
      · exact absurd (key later) absent
      · exact ih distinct later later'

theorem member?_congr (same : ms.filter (fun m => m.1 == some name) =
    ms'.filter fun m => m.1 == some name) : member? name ms = member? name ms' := by
  rw [member?, member?, same]

theorem member?_perm (perm : ms.Perm ms') : member? name ms = member? name ms' := by
  have named := perm.filter fun m => m.1 == some name
  unfold member?
  generalize ms.filter (fun m => m.1 == some name) = ns at named
  generalize ms'.filter (fun m => m.1 == some name) = ns' at named
  match ns, ns' with
  | [], ns' => rw [named.nil_eq]
  | [m], ns' => rw [List.perm_singleton.1 named.symm]
  | _ :: _ :: _, [] => exact absurd named.length_eq (Nat.succ_ne_zero _)
  | _ :: _ :: _, [_] => exact absurd (Nat.succ.inj named.length_eq) (Nat.succ_ne_zero _)
  | _ :: _ :: _, _ :: _ :: _ => rfl

theorem filter_cons_of_ne (other : key ≠ some name) :
    ((key, k) :: ms).filter (fun m => m.1 == some name) = ms.filter fun m => m.1 == some name :=
  List.filter_cons_of_neg (by simpa using other)

theorem member?_cons_of_ne (other : key ≠ some name) :
    member? name ((key, k) :: ms) = member? name ms :=
  member?_congr (filter_cons_of_ne other)

theorem member?_of_absent (absent : ∀ m ∈ ms, m.1 ≠ some name) : member? name ms = some none := by
  rw [member?, List.filter_eq_nil_iff.2 fun m mem => by simpa using absent m mem]

theorem member?_cons_of_absent (absent : ∀ m ∈ ms, m.1 ≠ some name) :
    member? name ((some name, k) :: ms) = some (some k) := by
  rw [member?, List.filter_cons_of_pos (by simp),
    List.filter_eq_nil_iff.2 fun m mem => by simpa using absent m mem]

theorem member?_replace_of_ne (other : key ≠ some name) :
    member? name (before ++ (key, k) :: after) = member? name (before ++ (key, k') :: after) := by
  refine member?_congr ?_
  rw [List.filter_append, List.filter_append, filter_cons_of_ne other, filter_cons_of_ne other]

theorem member?_replace :
    (member? name (before ++ (some name, k) :: after) = none ∧
      member? name (before ++ (some name, k') :: after) = none) ∨
    member? name (before ++ (some name, k) :: after) = some (some k) ∧
      member? name (before ++ (some name, k') :: after) = some (some k') := by
  have kept (i : Json) : (before ++ (some name, i) :: after).filter (fun m => m.1 == some name) =
      before.filter (fun m => m.1 == some name) ++
        (some name, i) :: after.filter fun m => m.1 == some name := by
    rw [List.filter_append, List.filter_cons_of_pos (by simp)]
  unfold member?
  rw [kept, kept]
  generalize before.filter (fun m => m.1 == some name) = ns
  generalize after.filter (fun m => m.1 == some name) = ns'
  match ns, ns' with
  | [], [] => exact .inr ⟨rfl, rfl⟩
  | [], _ :: _ => exact .inl ⟨rfl, rfl⟩
  | [_], _ => exact .inl ⟨rfl, rfl⟩
  | _ :: _ :: _, _ => exact .inl ⟨rfl, rfl⟩

theorem member?_eq_of_mem {o : Option Json}
    (found : member? name (before ++ (some name, k) :: after) = some o) : o = some k := by
  rcases @member?_replace before after name k k with ⟨missed, -⟩ | ⟨once, -⟩
  · cases missed.symm.trans found
  · exact Option.some.inj (found.symm.trans once)

theorem member?_filter_of_ne {other : String} (different : other ≠ name) :
    member? name (ms.filter fun m => m.1 != some other) = member? name ms := by
  refine member?_congr ?_
  rw [List.filter_filter]
  refine List.filter_congr fun m mem => ?_
  by_cases named : m.1 = some name
  · simp [named, Ne.symm different]
  · simp [named]

theorem fields?_object {names : List String} :
    (object ms).fields? names =
      if ms.all fun m => m.1.isSome then names.mapM fun name => member? name ms else none := rfl

theorem members_of_fields? {names : List String} {os : List (Option Json)}
    (h : (object ms).fields? names = some os) :
    List.Forall₂ (fun name o => member? name ms = some o) names os := by
  rw [fields?_object] at h
  split at h
  · exact forall₂_of_mapM h
  · cases h

theorem fields?_filter_of_ne {other : String} {names : List String} (different : other ∉ names) :
    (object (ms.filter fun m => m.1 != some other)).fields? names = (object ms).fields? names := by
  have keys : ((ms.filter fun m => m.1 != some other).all fun m => m.1.isSome) =
      ms.all fun m => m.1.isSome := by
    rw [List.all_filter]
    refine List.all_congr rfl fun m => ?_
    obtain ⟨_ | key, k⟩ := m
    · rfl
    · simp
  rw [fields?_object, fields?_object, keys, mapM_congr fun name mem => member?_filter_of_ne ?_]
  rintro rfl
  exact different mem

/-! ## Literals -/

theorem soundMembers_eq_all (ms : Members) :
    soundMembers ms = ms.all fun m => m.1.isSome && m.2.sound := by
  induction ms with
  | nil => rfl
  | cons m ms ih =>
    obtain ⟨key, j⟩ := m
    rw [soundMembers, ih, List.all_cons]

theorem soundItems_eq_all (js : List Json) : soundItems js = js.all sound := by
  induction js with
  | nil => rfl
  | cons j js ih => rw [soundItems, ih, List.all_cons]

/-! ## Nesting -/

theorem fits_iff {j : Json} (pos : 0 < j.depth)
    (least : ∀ d, 0 < d → (∀ k ∈ j.parts, k.depth < d) → j.depth ≤ d) :
    j.Fits n ↔ n < nestingLimit ∧ ∀ k ∈ j.parts, k.Fits (n + 1) := by
  unfold Fits
  constructor
  · intro fits
    refine ⟨by omega, fun k part => ?_⟩
    have inside := depth_lt_of_mem_parts part
    omega
  · rintro ⟨room, all⟩
    have shallow : j.depth ≤ nestingLimit - n := by
      refine least _ (by omega) fun k part => ?_
      have inside := all k part
      omega
    omega

theorem fits_object : (object ms).Fits n ↔ n < nestingLimit ∧ ∀ m ∈ ms, m.2.Fits (n + 1) := by
  have nested : 0 < (object ms).depth := Nat.succ_pos _
  refine (fits_iff nested fun d pos all => ?_).trans (and_congr_right fun _ => ?_)
  · exact depth_object_le pos fun m mem => all m.2 (List.mem_map_of_mem mem)
  · exact List.forall_mem_map

theorem fits_array {js : List Json} :
    (array js).Fits n ↔ n < nestingLimit ∧ ∀ j ∈ js, j.Fits (n + 1) := by
  have nested : 0 < (array js).depth := Nat.succ_pos _
  exact fits_iff nested fun _ => depth_array_le

end Json

end QueryFlow
