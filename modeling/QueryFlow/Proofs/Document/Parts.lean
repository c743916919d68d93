import QueryFlow.Document.Reader

namespace QueryFlow

theorem exists_of_mem_mapM {α β : Type} {f : α → Option β} {as : List α} {bs : List β}
    (h : as.mapM f = some bs) : ∀ b ∈ bs, ∃ a ∈ as, f a = some b := by
  induction as generalizing bs with
  | nil =>
    cases h
    exact List.forall_mem_nil _
  | cons a as ih =>
    simp only [List.mapM_cons, Option.bind_eq_bind, Option.bind_eq_some_iff, Option.pure_def,
      Option.some.injEq] at h
    obtain ⟨b, first, bs, rest, rfl⟩ := h
    intro c mem
    rcases List.mem_cons.1 mem with rfl | later
    · exact ⟨a, List.mem_cons_self, first⟩
    · obtain ⟨a', place, found⟩ := ih rest c later
      exact ⟨a', List.mem_cons_of_mem _ place, found⟩

namespace Json

def parts : Json → List Json
  | array items => items
  | object members => members.map Prod.snd
  | _ => []

variable {j k : Json} {o : Option Json}

theorem mem_parts_of_member? {name : String} {members : List (Option String × Json)}
    (h : member? name members = some o) (value : k ∈ o) : k ∈ (object members).parts := by
  unfold member? at h
  split at h
  · cases h
    cases value
  · rename_i m found
    cases h
    cases value
    have mem : m ∈ members.filter fun m => m.1 == some name := by
      rw [found]
      exact List.mem_cons_self
    exact List.mem_map_of_mem (List.mem_filter.1 mem).1
  · cases h

theorem mem_parts_of_fields? {names : List String} {fs : List (Option Json)}
    (h : j.fields? names = some fs) : ∀ o ∈ fs, ∀ k ∈ o, k ∈ j.parts := by
  intro o mem k value
  unfold fields? at h
  split at h
  · split at h
    · obtain ⟨name, -, found⟩ := exists_of_mem_mapM h o mem
      exact mem_parts_of_member? found value
    · cases h
  · split at h
    · cases h
      rcases List.mem_append.1 mem with given | missing
      · obtain ⟨i, place, rfl⟩ := List.mem_map.1 given
        cases value
        exact place
      · cases List.eq_of_mem_replicate missing
        cases value
    · cases h
  · cases h

theorem mem_parts_of_list? {α : Type} {f : Json → Option α} {xs : List α}
    (h : j.list? f = some xs) : ∀ x ∈ xs, ∃ k ∈ j.parts, f k = some x := by
  unfold list? at h
  split at h
  · exact exists_of_mem_mapM h
  · cases h

/-! ## Nesting -/

theorem depth_lt_of_mem_parts (mem : k ∈ j.parts) : k.depth < j.depth := by
  cases j with
  | array items =>
    simp only [parts] at mem
    rw [depth, Nat.lt_succ_iff]
    induction items with
    | nil => cases mem
    | cons i is ih =>
      rcases List.mem_cons.1 mem with rfl | later
      · exact Nat.le_max_left _ _
      · exact Nat.le_trans (ih later) (Nat.le_max_right _ _)
  | object members =>
    simp only [parts] at mem
    rw [depth, Nat.lt_succ_iff]
    induction members with
    | nil => cases mem
    | cons m ms ih =>
      rcases List.mem_cons.1 mem with rfl | later
      · exact Nat.le_max_left _ _
      · exact Nat.le_trans (ih later) (Nat.le_max_right _ _)
  | null | bool b | number n | text s => cases mem

theorem depth_pos_of_fields? {names : List String} {fs : List (Option Json)}
    (h : j.fields? names = some fs) : 0 < j.depth := by
  cases j with
  | array items => exact Nat.succ_pos _
  | object members => exact Nat.succ_pos _
  | null | bool b | number n | text s => cases h

theorem depth_pos_of_list? {α : Type} {f : Json → Option α} {xs : List α}
    (h : j.list? f = some xs) : 0 < j.depth := by
  cases j with
  | array items => exact Nat.succ_pos _
  | object members | null | bool b | number n | text s => cases h

theorem depth_array_le {items : List Json} {n : Nat} (pos : 0 < n)
    (all : ∀ j ∈ items, j.depth < n) : (array items).depth ≤ n := by
  induction items with
  | nil => exact pos
  | cons j js ih =>
    obtain ⟨first, rest⟩ := List.forall_mem_cons.1 all
    have tail : depthItems js + 1 ≤ n := ih rest
    rw [depth, depthItems]
    omega

theorem depth_object_le {members : List (Option String × Json)} {n : Nat} (pos : 0 < n)
    (all : ∀ m ∈ members, m.2.depth < n) : (object members).depth ≤ n := by
  induction members with
  | nil => exact pos
  | cons m ms ih =>
    obtain ⟨key, j⟩ := m
    obtain ⟨first, rest⟩ := List.forall_mem_cons.1 all
    have tail : depthMembers ms + 1 ≤ n := ih rest
    have head : j.depth < n := first
    rw [depth, depthMembers]
    omega

theorem depth_ofMembers_le {ms : List (String × Json)} {n : Nat} (pos : 0 < n)
    (all : ∀ m ∈ ms, m.2.depth < n) : (ofMembers ms).depth ≤ n := by
  refine depth_object_le pos fun m mem => ?_
  obtain ⟨m, place, rfl⟩ := List.mem_map.1 mem
  exact all m place

theorem depth_map_le {α : Type} {write : α → Json} {n : Nat} (each : ∀ x, (write x).depth ≤ n)
    (xs : List α) : (array (xs.map write)).depth ≤ n + 1 := by
  refine depth_array_le (Nat.succ_pos n) fun k mem => ?_
  obtain ⟨x, -, rfl⟩ := List.mem_map.1 mem
  exact Nat.lt_succ_of_le (each x)

end Json

theorem Node.parts_tagged? {j op body : Json} (h : tagged? j = some (op, body)) :
    (∀ k ∈ body.parts, k ∈ j.parts) ∧ 0 < j.depth := by
  unfold tagged? at h
  split at h
  · simp only [Option.bind_eq_bind, Option.bind_eq_some_iff] at h
    obtain ⟨o, -, h⟩ := h
    split at h
    · cases h
      refine ⟨fun k mem => ?_, Nat.succ_pos _⟩
      obtain ⟨m, place, rfl⟩ := List.mem_map.1 mem
      exact List.mem_map_of_mem (List.mem_filter.1 place).1
    · cases h
  · cases h
    exact ⟨fun k mem => List.mem_cons_of_mem _ mem, Nat.succ_pos _⟩
  · cases h

end QueryFlow
