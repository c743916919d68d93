import QueryFlow.Proofs.Json.Numerals

/-!
# Trees read back

A tree that has a value everywhere is what its text is parsed to: the scanner finds the tokens of
its parts, and the parser puts them together again.
-/

namespace QueryFlow.Json

/-- Trees in which every literal has a value and its text reads back as that. -/
inductive Written : Json → Prop
  | null : Written .null
  | bool {b} : Written (.bool b)
  | number {n} : Token.scan (numberChars n) = some [.number (some n)] → Written (.number (some n))
  | text {s} : Written (.text (some s))
  | array {items} : (∀ j ∈ items, Written j) → Written (.array items)
  | object {members} : (∀ m ∈ members, ∃ key, m.1 = some key) →
      (∀ m ∈ members, Written m.2) → Written (.object members)

mutual

def tokens : Json → List Token
  | null => [.null]
  | bool b => [.bool b]
  | number n => [.number n]
  | text s => [.text s]
  | array items => .openArray :: itemTokens items ++ [.closeArray]
  | object members => .openObject :: memberTokens members ++ [.closeObject]

def itemTokens : List Json → List Token
  | [] => []
  | [j] => tokens j
  | j :: js => tokens j ++ .comma :: itemTokens js

def memberTokens : List (Option String × Json) → List Token
  | [] => []
  | [(key, j)] => .text key :: .colon :: tokens j
  | (key, j) :: ms => .text key :: .colon :: tokens j ++ .comma :: memberTokens ms

end

/-! ## Scanning -/

theorem scan_mark {c : Char} {t : Token} (mark : Scanner.step ⟨.gap, []⟩ c = some ⟨.gap, [t]⟩)
    (rest : List Char) : Token.scan (c :: rest) = (Token.scan rest).map (t :: ·) := by
  have scanned : [c].foldlM Scanner.step ⟨.gap, []⟩ = some ⟨.gap, [t].reverse⟩ := by
    rw [List.foldlM_cons, mark]
    rfl
  exact scan_of_gap scanned rest

theorem delimited_cons {c : Char} (mark : c = ',' ∨ c = ':' ∨ c = ']' ∨ c = '\x7d')
    (cs : List Char) : Delimited (c :: cs) := by
  rintro _ ⟨⟩
  exact mark

theorem scan_between {cs ds : List Char} {us vs : List Token} {c : Char} {t : Token}
    (first : Token.scan cs = some us) (second : Token.scan ds = some vs)
    (delimiter : c = ',' ∨ c = ':' ∨ c = ']' ∨ c = '\x7d')
    (mark : Scanner.step ⟨.gap, []⟩ c = some ⟨.gap, [t]⟩) :
    Token.scan (cs ++ c :: ds) = some (us ++ t :: vs) := by
  rw [scan_append first (delimited_cons delimiter ds), scan_mark mark, second]
  rfl

theorem scan_items {items : List Json} (all : ∀ j ∈ items, Token.scan j.chars = some j.tokens) :
    Token.scan (itemChars items) = some (itemTokens items) := by
  induction items with
  | nil => rfl
  | cons j js ih =>
    obtain ⟨first, rest⟩ := List.forall_mem_cons.1 all
    cases js with
    | nil => exact first
    | cons k ks => exact scan_between first (ih rest) (.inl rfl) rfl

theorem scan_member {key : Option String} {j : Json} (text : ∃ s, key = some s)
    (value : Token.scan j.chars = some j.tokens) :
    Token.scan (keyChars key ++ ':' :: j.chars) = some (.text key :: .colon :: j.tokens) := by
  obtain ⟨s, rfl⟩ := text
  exact scan_between (scan_quote s) value (.inr (.inl rfl)) rfl

theorem scan_members {members : List (Option String × Json)}
    (texts : ∀ m ∈ members, ∃ key, m.1 = some key)
    (values : ∀ m ∈ members, Token.scan m.2.chars = some m.2.tokens) :
    Token.scan (memberChars members) = some (memberTokens members) := by
  induction members with
  | nil => rfl
  | cons m ms ih =>
    obtain ⟨key, j⟩ := m
    obtain ⟨text, texts⟩ := List.forall_mem_cons.1 texts
    obtain ⟨value, values⟩ := List.forall_mem_cons.1 values
    have first := scan_member text value
    cases ms with
    | nil => exact first
    | cons m ms =>
      have whole := scan_between first (ih texts values) (.inl rfl) rfl
      simpa [memberChars, memberTokens] using whole

theorem scan_chars {j : Json} (written : j.Written) : Token.scan j.chars = some j.tokens := by
  induction written with
  | null => rfl
  | @bool b => cases b <;> rfl
  | number back => exact back
  | text => exact scan_quote _
  | @array items _ ih =>
    have closed : Token.scan [']'] = some [.closeArray] := rfl
    have inside := scan_append (scan_items ih) (delimited_cons (.inr (.inr (.inl rfl))) [])
    rw [closed] at inside
    rw [chars, List.cons_append, scan_mark rfl, inside]
    rfl
  | @object members texts _ ih =>
    have closed : Token.scan ['\x7d'] = some [.closeObject] := rfl
    have inside := scan_append (scan_members texts ih) (delimited_cons (.inr (.inr (.inr rfl))) [])
    rw [closed] at inside
    rw [chars, List.cons_append, scan_mark rfl, inside]
    rfl

/-! ## Parsing -/

namespace Parser

def run (p : Parser) (ts : List Token) : Option Parser := ts.foldlM step p

theorem run_cons (p : Parser) (t : Token) (ts : List Token) :
    p.run (t :: ts) = p.step t >>= fun q => q.run ts := by
  rw [run, List.foldlM_cons]
  rfl

end Parser

/-- Where a value is expected, the parser makes this tree of its tokens. -/
def Parses (j : Json) : Prop :=
  ∀ frames rest, Parser.run ⟨frames, .value⟩ (j.tokens ++ rest) =
    Parser.deliver j frames >>= fun p => p.run rest

theorem run_items {items : List Json} (nonempty : items ≠ []) (all : ∀ j ∈ items, j.Parses)
    (before : List Json) (up : List Frame) (rest : List Token) :
    Parser.run ⟨.array before :: up, .value⟩ (itemTokens items ++ .closeArray :: rest) =
      Parser.deliver (.array (before.reverse ++ items)) up >>= fun p => p.run rest := by
  induction items generalizing before with
  | nil => exact absurd rfl nonempty
  | cons j js ih =>
    obtain ⟨first, later⟩ := List.forall_mem_cons.1 all
    have grown : (j :: before).reverse ++ js = before.reverse ++ j :: js := by simp
    cases js with
    | nil =>
      rw [itemTokens, first, ← grown, List.append_nil]
      rfl
    | cons k ks =>
      have next := ih (List.cons_ne_nil k ks) later (j :: before)
      rw [grown] at next
      rw [itemTokens, List.append_assoc, first]
      · exact next
      · exact List.cons_ne_nil k ks

theorem run_first (j : Json) (frames : List Frame) (rest : List Token) :
    Parser.run ⟨frames, .firstItem⟩ (j.tokens ++ rest) =
      Parser.run ⟨frames, .value⟩ (j.tokens ++ rest) := by
  cases j <;> rfl

theorem parses_array {items : List Json} (all : ∀ j ∈ items, j.Parses) :
    (array items).Parses := by
  intro frames rest
  cases items with
  | nil => rfl
  | cons j js =>
    have inside := run_items (List.cons_ne_nil j js) all [] frames rest
    have first : Parser.run ⟨.array [] :: frames, .firstItem⟩
        (itemTokens (j :: js) ++ .closeArray :: rest) =
          Parser.run ⟨.array [] :: frames, .value⟩
            (itemTokens (j :: js) ++ .closeArray :: rest) := by
      cases js with
      | nil => exact run_first j _ _
      | cons k ks =>
        rw [itemTokens, List.append_assoc]
        · exact run_first j _ _
        · exact List.cons_ne_nil k ks
    rw [← first] at inside
    rw [tokens, List.cons_append, List.cons_append, List.append_assoc, Parser.run_cons]
    exact inside

theorem run_members {members : List (Option String × Json)} (nonempty : members ≠ [])
    (all : ∀ m ∈ members, m.2.Parses) {expect : Expect}
    (before : List (Option String × Json)) (up : List Frame) (rest : List Token)
    (key : expect = .firstKey ∨ expect = .key) :
    Parser.run ⟨.object before :: up, expect⟩ (memberTokens members ++ .closeObject :: rest) =
      Parser.deliver (.object (before.reverse ++ members)) up >>= fun p => p.run rest := by
  induction members generalizing before expect with
  | nil => exact absurd rfl nonempty
  | cons m ms ih =>
    obtain ⟨name, j⟩ := m
    obtain ⟨first, later⟩ := List.forall_mem_cons.1 all
    have grown : ((name, j) :: before).reverse ++ ms = before.reverse ++ (name, j) :: ms := by simp
    have opened (ts : List Token) :
        Parser.run ⟨.object before :: up, expect⟩ (.text name :: .colon :: ts) =
          Parser.run ⟨.member before name :: up, .value⟩ ts := by
      rcases key with rfl | rfl <;> rfl
    cases ms with
    | nil =>
      rw [memberTokens, List.cons_append, List.cons_append, opened, first, ← grown,
        List.append_nil]
      rfl
    | cons m ms =>
      have next := ih (List.cons_ne_nil m ms) later ((name, j) :: before) (.inr rfl)
      rw [grown] at next
      rw [memberTokens, List.cons_append, List.cons_append, List.cons_append, List.cons_append,
        opened, List.append_assoc, first]
      · exact next
      · exact List.cons_ne_nil m ms

theorem parses_object {members : List (Option String × Json)} (all : ∀ m ∈ members, m.2.Parses) :
    (object members).Parses := by
  intro frames rest
  cases members with
  | nil => rfl
  | cons m ms =>
    have inside := run_members (List.cons_ne_nil m ms) all [] frames rest (.inl rfl)
    rw [tokens, List.cons_append, List.cons_append, List.append_assoc, Parser.run_cons]
    exact inside

theorem parses {j : Json} (written : j.Written) : j.Parses := by
  induction written with
  | array _ ih => exact parses_array ih
  | object _ _ ih => exact parses_object ih
  | null | bool | number | text => exact fun _ _ => rfl

theorem parse?_compact {j : Json} (written : j.Written) : parse? j.compact = some j := by
  have whole := parses written [] []
  rw [List.append_nil] at whole
  rw [parse?_compact_eq, scan_chars written]
  show (Parser.run ⟨[], .value⟩ j.tokens >>= _) = _
  rw [whole]
  rfl

end QueryFlow.Json
