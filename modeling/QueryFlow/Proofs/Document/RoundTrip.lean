import QueryFlow.Proofs.Document.Numeric
import QueryFlow.Proofs.Document.Rewriting

/-!
# Documents read back

`parse_render`: whatever form a document is read from, its canonical text is read as the same
document, and so is written as itself.
-/

namespace QueryFlow

namespace Json

theorem soundItems_eq_true {items : List Json} (all : ∀ j ∈ items, j.sound = true) :
    soundItems items = true := by
  induction items with
  | nil => rfl
  | cons j js ih =>
    obtain ⟨first, rest⟩ := List.forall_mem_cons.1 all
    rw [soundItems, first, ih rest]
    rfl

theorem soundMembers_eq_true {members : List (Option String × Json)}
    (keys : ∀ m ∈ members, ∃ key, m.1 = some key) (all : ∀ m ∈ members, m.2.sound = true) :
    soundMembers members = true := by
  induction members with
  | nil => rfl
  | cons m ms ih =>
    obtain ⟨key, j⟩ := m
    obtain ⟨⟨text, named⟩, later⟩ := List.forall_mem_cons.1 keys
    obtain ⟨first, rest⟩ := List.forall_mem_cons.1 all
    cases named
    rw [soundMembers, first, ih later rest]
    rfl

theorem sound_of_written {j : Json} (written : j.Written) : j.sound = true := by
  induction written with
  | null | bool | number _ | text => rfl
  | array _ ih => exact soundItems_eq_true ih
  | object keys _ ih => exact soundMembers_eq_true keys ih

end Json

/-! ## Tables -/

theorem TableSpec.rewrites {j : Json} {t : TableSpec} (h : ofJson? j = some t)
    (back : ∀ v ∈ t.rows.flatten, v.ReadsBack) : Rewrites ofJson? j t t.toJson := by
  obtain ⟨fs, fields, h⟩ := Option.bind_eq_some_iff.1 h
  have part := Json.mem_parts_of_fields? fields
  have pos := Json.depth_pos_of_fields? fields
  have inside : ∀ o ∈ fs, ∀ k ∈ o, k.depth < j.depth :=
    fun o mem k value => Json.depth_lt_of_mem_parts (part o mem k value)
  split at h
  · simp only [List.forall_mem_cons] at inside
    obtain ⟨columns, rows, -⟩ := inside
    simp only [Option.bind_eq_bind, Option.bind_eq_some_iff, Option.pure_def,
      Option.some.injEq] at h
    obtain ⟨cs, readColumns, rs, readRows, rfl⟩ := h
    have newColumns := Column.rewrites_list readColumns
    have enclosed := Json.depth_pos_of_list? readColumns
    have deep : 1 < j.depth := Nat.lt_of_le_of_lt enclosed (columns _ rfl)
    obtain ⟨rereadRows, newRows⟩ := Node.rewrites_rows deep readRows rows back
    refine .members ?_ pos ?_
    · show (do
        return TableSpec.mk (← Column.listOfJson? .direct (Column.listToJson cs))
          (← Row.listOfJson? .direct (Row.listToJson rs))) = _
      rw [newColumns.reads, rereadRows]
      rfl
    · simp only [List.forall_mem_cons]
      exact ⟨newColumns.fitting (columns _ rfl), newRows, List.forall_mem_nil _⟩
  · cases h

namespace Document

def InOrder (tables : List (String × TableSpec)) : Prop := tables.Pairwise fun t u => t.1 < u.1

theorem inOrder_putTable {name : String} {t : TableSpec} {tables : List (String × TableSpec)}
    (ordered : InOrder tables) : InOrder (putTable name t tables) := by
  induction tables with
  | nil => exact List.pairwise_singleton _ _
  | cons first rest ih =>
    obtain ⟨other, u⟩ := first
    obtain ⟨least, later⟩ := List.pairwise_cons.1 ordered
    rw [putTable]
    split
    · rename_i before
      refine List.pairwise_cons.2 ⟨List.forall_mem_cons.2 ⟨before, ?_⟩, ordered⟩
      exact fun v mem => String.lt_trans before (least v mem)
    split
    · rename_i same
      subst same
      exact List.pairwise_cons.2 ⟨least, later⟩
    · rename_i behind different
      refine List.pairwise_cons.2 ⟨fun v mem => ?_, ih later⟩
      rcases mem_of_mem_putTable v mem with rfl | old
      · by_contra ahead
        exact different (String.le_antisymm (String.not_lt.1 ahead) (String.not_lt.1 behind))
      · exact least v old

theorem putTable_of_last {name : String} {t : TableSpec} {tables : List (String × TableSpec)}
    (last : ∀ u ∈ tables, u.1 < name) : putTable name t tables = tables ++ [(name, t)] := by
  induction tables with
  | nil => rfl
  | cons first rest ih =>
    obtain ⟨other, u⟩ := first
    obtain ⟨before, later⟩ := List.forall_mem_cons.1 last
    have different : name ≠ other := by
      rintro rfl
      exact String.lt_irrefl _ before
    rw [putTable, if_neg (String.lt_asymm before), if_neg different, ih later]
    rfl

theorem tablesOfJson?_eq_some {j : Json} {tables : List (String × TableSpec)}
    (h : tablesOfJson? j = some tables) :
    0 < j.depth ∧ InOrder tables ∧
      ∀ t ∈ tables, ∃ k ∈ j.parts, TableSpec.ofJson? k = some t.2 := by
  unfold tablesOfJson? at h
  split at h
  · rename_i members
    refine ⟨Nat.succ_pos _, ?_⟩
    refine foldlM_preserves (P := fun ts => InOrder ts ∧
      ∀ t ∈ ts, ∃ k ∈ (Json.object members).parts, TableSpec.ofJson? k = some t.2) ?_
      (fun m mem => mem) ⟨List.Pairwise.nil, List.forall_mem_nil _⟩ h
    rintro ts m us ⟨ordered, all⟩ mem step
    simp only [Option.bind_eq_bind, Option.bind_eq_some_iff, Option.pure_def,
      Option.some.injEq] at step
    obtain ⟨name, -, t, read, rfl⟩ := step
    refine ⟨inOrder_putTable ordered, fun u place => ?_⟩
    rcases mem_of_mem_putTable u place with rfl | old
    · exact ⟨m.2, List.mem_map_of_mem mem, read⟩
    · exact all u old
  · cases h

theorem tablesOfJson?_toJson {tables : List (String × TableSpec)} (ordered : InOrder tables)
    (reads : ∀ t ∈ tables, TableSpec.ofJson? t.2.toJson = some t.2) :
    tablesOfJson? (.ofMembers (tables.map fun t => (t.1, t.2.toJson))) = some tables := by
  have more (before rest : List (String × TableSpec)) (ordered : InOrder (before ++ rest))
      (reads : ∀ t ∈ rest, TableSpec.ofJson? t.2.toJson = some t.2) :
      (rest.map fun t => (some t.1, t.2.toJson)).foldlM (fun tables m => do
        return putTable (← m.1) (← TableSpec.ofJson? m.2) tables) before =
          some (before ++ rest) := by
    induction rest generalizing before with
    | nil => rw [List.append_nil]; rfl
    | cons t ts ih =>
      obtain ⟨first, later⟩ := List.forall_mem_cons.1 reads
      have last : ∀ u ∈ before, u.1 < t.1 :=
        fun u mem => (List.pairwise_append.1 ordered).2.2 u mem t List.mem_cons_self
      have grown : before ++ t :: ts = before ++ [t] ++ ts := by simp
      rw [grown] at ordered ⊢
      rw [← ih (before ++ [t]) ordered later, List.map_cons, List.foldlM_cons]
      simp only [first, Option.bind_eq_bind, Option.bind_some, Option.pure_def,
        putTable_of_last last]
  have whole := more [] tables ordered reads
  simp only [tablesOfJson?, Json.ofMembers, List.map_map]
  exact whole

theorem rewrites_tables {j : Json} {tables : List (String × TableSpec)}
    (h : tablesOfJson? j = some tables)
    (back : ∀ t ∈ tables, ∀ v ∈ t.2.rows.flatten, v.ReadsBack) :
    Rewrites tablesOfJson? j tables (.ofMembers (tables.map fun t => (t.1, t.2.toJson))) := by
  obtain ⟨pos, ordered, all⟩ := tablesOfJson?_eq_some h
  have again : ∀ t ∈ tables, ∃ k ∈ j.parts, Rewrites TableSpec.ofJson? k t.2 t.2.toJson := by
    intro t mem
    obtain ⟨k, part, read⟩ := all t mem
    exact ⟨k, part, TableSpec.rewrites read (back t mem)⟩
  refine .members ?_ pos fun m mem => ?_
  · refine tablesOfJson?_toJson ordered fun t mem => ?_
    obtain ⟨k, -, again⟩ := again t mem
    exact again.reads
  · obtain ⟨t, place, rfl⟩ := List.mem_map.1 mem
    obtain ⟨k, part, again⟩ := again t place
    exact again.fitting (Json.depth_lt_of_mem_parts part)

end Document

/-! ## Nesting -/

theorem Value.depth_toJson_le (v : Value) : v.toJson.depth ≤ 2 := by
  have constant : ∀ k ∈ v.constantToJson?, k.depth ≤ 1 := by
    rintro k shape
    cases v with
    | null => cases shape
    | float d =>
      cases shape
      split <;> exact Nat.zero_le _
    | bytes bs =>
      cases shape
      exact Json.depth_map_le (fun _ => Nat.le_refl 0) bs
    | bool b | int n | string s =>
      cases shape
      exact Nat.zero_le _
  refine Json.depth_ofMembers_le Nat.two_pos (List.forall_mem_cons.2 ⟨Nat.two_pos, ?_⟩)
  intro m mem
  obtain ⟨k, found, rfl⟩ := Option.map_eq_some_iff.1 (Option.mem_toList.1 mem)
  exact Nat.lt_succ_of_le (constant k found)

theorem Column.depth_listToJson_le (columns : List Column) : (listToJson columns).depth ≤ 2 :=
  Json.depth_map_le (fun _ => Nat.le_refl 1) columns

theorem Row.depth_listToJson_le (rows : List Row) : (listToJson rows).depth ≤ 4 :=
  Json.depth_map_le (Json.depth_map_le Value.depth_toJson_le) rows

theorem TableSpec.depth_toJson_le (t : TableSpec) : t.toJson.depth ≤ 5 := by
  have columns := Column.depth_listToJson_le t.columns
  have rows := Row.depth_listToJson_le t.rows
  refine Json.depth_ofMembers_le (by decide) ?_
  simp only [List.forall_mem_cons]
  exact ⟨by omega, by omega, List.forall_mem_nil _⟩

/-! ## Documents -/

namespace Document

def constants (d : Document) : List Value :=
  d.tables.flatMap (fun t => t.2.rows.flatten) ++ d.plan.constants

theorem rewrites_plan {j : Json} {n : Node} (h : planOfJson? j = some n)
    (back : ∀ v ∈ n.constants, v.ReadsBack) :
    planOfJson? n.toJson = some n ∧ Fitting nestingLimit n.toJson := by
  unfold planOfJson? at h
  split at h
  · rename_i bounds
    obtain ⟨-, shallow⟩ := bounds
    have again := Node.rewrites h back
    have fits := again.fitting shallow
    refine ⟨?_, fits⟩
    rw [planOfJson?, if_pos ⟨Json.sound_of_written fits.written, fits.depth⟩]
    exact again.reads
  · cases h

theorem rewrites_optional {o : Option Json} {tables : List (String × TableSpec)}
    (h : o.elim (some []) tablesOfJson? = some tables)
    (back : ∀ v ∈ tables.flatMap (fun t : String × TableSpec => t.2.rows.flatten), v.ReadsBack) :
    let written := Json.ofMembers (tables.map fun t => (t.1, t.2.toJson))
    tablesOfJson? written = some tables ∧ Fitting nestingLimit written := by
  have depth : (Json.ofMembers (tables.map fun t => (t.1, t.2.toJson))).depth ≤ 6 := by
    refine Json.depth_ofMembers_le (by decide) fun m mem => ?_
    obtain ⟨t, -, rfl⟩ := List.mem_map.1 mem
    exact Nat.lt_succ_of_le t.2.depth_toJson_le
  have shallow := Nat.lt_of_le_of_lt depth (show 6 < nestingLimit by decide)
  cases o with
  | none =>
    cases h
    exact ⟨rfl, shallow, .object (List.forall_mem_nil _) (List.forall_mem_nil _)⟩
  | some k =>
    have again := rewrites_tables h fun t mem v const =>
      back v (List.mem_flatMap.2 ⟨t, mem, const⟩)
    exact ⟨again.reads, shallow, again.written⟩

theorem rewrites {j : Json} {d : Document} (h : ofJson? j = some d)
    (back : ∀ v ∈ d.constants, v.ReadsBack) :
    ofJson? d.toJson = some d ∧ d.toJson.depth ≤ nestingLimit ∧ d.toJson.Written := by
  obtain ⟨fs, fields, h⟩ := Option.bind_eq_some_iff.1 h
  split at h
  · rename_i tables plan
    simp only [Option.bind_eq_bind, Option.bind_eq_some_iff, Option.pure_def,
      Option.some.injEq] at h
    obtain ⟨ts, readTables, n, readPlan, rfl⟩ := h
    obtain ⟨backTables, backPlan⟩ := List.forall_mem_append.1 back
    obtain ⟨rereadTables, newTables⟩ := rewrites_optional readTables backTables
    obtain ⟨rereadPlan, newPlan⟩ := rewrites_plan readPlan backPlan
    refine ⟨?_, Fitting.members (by decide) ?_⟩
    · show (do
        return Document.mk
          (← tablesOfJson? (.ofMembers (ts.map fun t : String × TableSpec => (t.1, t.2.toJson))))
          (← planOfJson? n.toJson)) = _
      rw [rereadTables, rereadPlan]
      rfl
    · simp only [List.forall_mem_cons]
      exact ⟨newTables, newPlan, List.forall_mem_nil _⟩
  · cases h

theorem parse_render {text : String} {d : Document} (parsed : parse text = .ok d)
    (codec : ∀ x, .float x ∈ d.constants → x.ReadsBack) :
    parse d.render = .ok d ∧ (parse d.render).map render = .ok d.render ∧
      Json.parse? d.render = some d.toJson ∧ d.toJson.depth ≤ nestingLimit := by
  have back : ∀ v ∈ d.constants, v.ReadsBack := by
    rintro v mem x rfl
    exact codec x mem
  unfold parse at parsed
  split at parsed
  · rename_i e read
    cases parsed
    obtain ⟨j, -, read⟩ := Option.bind_eq_some_iff.1 read
    obtain ⟨reread, depth, written⟩ := rewrites read back
    have scanned : Json.parse? d.render = some d.toJson := Json.parse?_compact written
    have again : parse d.render = .ok d := by
      rw [parse, scanned, Option.bind_eq_bind, Option.bind_some, reread]
    exact ⟨again, by rw [again]; rfl, scanned, depth⟩
  · cases parsed

theorem parse_render_filter :
    let text := "\x7b\"plan\":[\"filter\",\x7b\"cmp\":[\"le\",\x7b\"column\":0\x7d," ++
      "\x7b\"literal\":[\"Float\",5e-1]\x7d]\x7d,\x7b\"table\":\"u\",\"op\":\"scan\"\x7d]," ++
      "\"tables\":\x7b\"u\":\x7b\"note\":0,\"columns\":[[\"\\u0078\",\"Float\"]]," ++
      "\"rows\":[[[\"Float\",-0]]]\x7d\x7d\x7d"
    let canonical := "\x7b\"tables\":\x7b\"u\":\x7b\"columns\":" ++
      "[\x7b\"name\":\"x\",\"data_type\":\"Float\",\"nullable\":true\x7d]," ++
      "\"rows\":[[\x7b\"t\":\"Float\",\"v\":-0.0\x7d]]\x7d\x7d,\"plan\":\x7b\"op\":\"filter\"," ++
      "\"predicate\":\x7b\"cmp\":\x7b\"op\":\"le\",\"left\":\x7b\"column\":0\x7d," ++
      "\"right\":\x7b\"literal\":\x7b\"t\":\"Float\",\"v\":0.5\x7d\x7d\x7d\x7d," ++
      "\"input\":\x7b\"op\":\"scan\",\"table\":\"u\"\x7d\x7d\x7d"
    ∃ d, parse text = .ok d ∧ (∀ x, .float x ∈ d.constants → x.ReadsBack) ∧
      d.render = canonical ∧ parse canonical = .ok d := by
  intro text canonical
  have evaluated : (parse text).toOption.map (fun d => (d.render, d.constants)) =
      some (canonical, [.float ⟨0x8000000000000000⟩, .float ⟨0x3fe0000000000000⟩]) := by
    decide +kernel
  rcases parsed : parse text with e | d
  · rw [parsed] at evaluated
    cases evaluated
  rw [parsed] at evaluated
  simp only [Except.toOption, Option.map_some, Option.some.injEq, Prod.mk.injEq] at evaluated
  obtain ⟨rendered, constants⟩ := evaluated
  have codec : ∀ x, .float x ∈ d.constants → x.ReadsBack := by
    intro x mem
    rw [constants] at mem
    simp only [List.mem_cons, Value.float.injEq, List.not_mem_nil, or_false] at mem
    rcases mem with rfl | rfl <;> decide +kernel
  have again := (parse_render parsed codec).1
  rw [rendered] at again
  exact ⟨d, rfl, codec, rendered, again⟩

end Document

end QueryFlow
