import QueryFlow.Json.Parser
import QueryFlow.Json.Printer

/-!
# Scanning written text

What scans on its own gives the same tokens where a delimiter follows it. So the tokens of a written
tree are those of its parts, in order.
-/

namespace QueryFlow.Json

/-- Nothing follows, or a character that ends the word or number before it. -/
def Delimited (cs : List Char) : Prop :=
  ∀ c ∈ cs.head?, c = ',' ∨ c = ':' ∨ c = ']' ∨ c = '\x7d'

namespace Scanner

def after (earlier : List Token) (s : Scanner) : Scanner := ⟨s.mode, s.tokens ++ earlier⟩

/-- The tokens of a text that the scanner is part way through, those it has included. -/
def rest? (s : Scanner) (cs : List Char) : Option (List Token) := do
  let t ← cs.foldlM step s
  let tokens ← t.close?
  return tokens.reverse

variable (earlier : List Token)

theorem start_append (tokens : List Token) (c : Char) :
    start (tokens ++ earlier) c = (start tokens c).map (after earlier) := by
  simp only [start, apply_ite (Option.map (after earlier))]
  rfl

theorem close?_after (s : Scanner) :
    (s.after earlier).close? = s.close?.map (· ++ earlier) := by
  obtain ⟨mode, tokens⟩ := s
  cases mode with
  | gap | text read | escape read | unit read left value => rfl
  | word read =>
    show (word? read.reverse).map _ = ((word? read.reverse).map _).map _
    cases word? read.reverse <;> rfl
  | number read =>
    show (literal? read.reverse).map _ = ((literal? read.reverse).map _).map _
    cases literal? read.reverse <;> rfl

theorem step_after (s : Scanner) (c : Char) :
    (s.after earlier).step c = (s.step c).map (after earlier) := by
  have closed : ((s.after earlier).close? >>= fun tokens => start tokens c) =
      (s.close? >>= fun tokens => start tokens c).map (after earlier) := by
    rw [close?_after]
    cases s.close? with
    | none => rfl
    | some tokens => exact start_append earlier tokens c
  obtain ⟨mode, tokens⟩ := s
  cases mode with
  | gap => exact start_append earlier tokens c
  | word read | number read =>
    simp only [step, after] at closed ⊢
    split
    · rfl
    · exact closed
  | text read =>
    simp only [step, after]
    repeat' split
    all_goals rfl
  | escape read =>
    simp only [step, after]
    split
    · rfl
    · cases escaped? c <;> rfl
  | unit read left value =>
    simp only [step, after]
    cases Text.hexValue? c with
    | none => rfl
    | some d =>
      simp only [Option.map_some]
      split <;> rfl

theorem rest?_after (s : Scanner) (cs : List Char) :
    (s.after earlier).rest? cs = (s.rest? cs).map (earlier.reverse ++ ·) := by
  induction cs generalizing s with
  | nil =>
    simp only [rest?, List.foldlM_nil, Option.pure_def, Option.bind_eq_bind, Option.bind_some,
      close?_after]
    cases s.close? <;> simp
  | cons c cs ih =>
    simp only [rest?, List.foldlM_cons, step_after] at ih ⊢
    cases s.step c with
    | none => rfl
    | some t => exact ih t

theorem rest?_append {s t : Scanner} {cs : List Char} (scanned : cs.foldlM step s = some t)
    (rest : List Char) : s.rest? (cs ++ rest) = t.rest? rest := by
  simp only [rest?, List.foldlM_append, scanned, Option.bind_eq_bind, Option.bind_some]

theorem rest?_of_delimited {s : Scanner} {tokens : List Token} (closed : s.close? = some tokens)
    {cs : List Char} (delimited : Delimited cs) : s.rest? cs = rest? ⟨.gap, tokens⟩ cs := by
  cases cs with
  | nil =>
    simp only [rest?, List.foldlM_nil, Option.pure_def, Option.bind_eq_bind, Option.bind_some,
      closed]
    rfl
  | cons c cs =>
    have first : s.step c = step ⟨.gap, tokens⟩ c := by
      obtain ⟨mode, before⟩ := s
      cases mode with
      | gap =>
        cases closed
        rfl
      | word read =>
        have other : c.isLower = false := by
          rcases delimited c rfl with rfl | rfl | rfl | rfl <;> rfl
        simp only [step, other, closed]
        rfl
      | number read =>
        have other : isNumberChar c = false := by
          rcases delimited c rfl with rfl | rfl | rfl | rfl <;> rfl
        simp only [step, other, closed]
        rfl
      | text read | escape read | unit read left value => cases closed
    simp only [rest?, List.foldlM_cons, first]

end Scanner

theorem scan_eq_rest? (cs : List Char) : Token.scan cs = Scanner.rest? ⟨.gap, []⟩ cs := rfl

theorem scan_of_gap {cs : List Char} {tokens : List Token}
    (scanned : cs.foldlM Scanner.step ⟨.gap, []⟩ = some ⟨.gap, tokens.reverse⟩)
    (rest : List Char) : Token.scan (cs ++ rest) = (Token.scan rest).map (tokens ++ ·) := by
  have later := Scanner.rest?_after tokens.reverse ⟨.gap, []⟩ rest
  rw [List.reverse_reverse] at later
  rw [scan_eq_rest?, Scanner.rest?_append scanned]
  exact later

theorem scan_append {cs rest : List Char} {tokens : List Token}
    (scanned : Token.scan cs = some tokens) (delimited : Delimited rest) :
    Token.scan (cs ++ rest) = (Token.scan rest).map (tokens ++ ·) := by
  simp only [Token.scan, Option.bind_eq_bind, Option.bind_eq_some_iff, Option.pure_def,
    Option.some.injEq] at scanned
  obtain ⟨s, folded, read, closed, rfl⟩ := scanned
  rw [scan_eq_rest?, Scanner.rest?_append folded, Scanner.rest?_of_delimited closed delimited]
  exact Scanner.rest?_after read ⟨.gap, []⟩ rest

/-! ## Texts -/

theorem hexDigits_control : ∀ n < 0x20,
    List.replicate (4 - (Text.hexDigits n).length) '0' ++ Text.hexDigits n =
      ['0', '0', (n / 16).digitChar, (n % 16).digitChar] := by decide

theorem hexValue?_digitChar : ∀ d < 16, Text.hexValue? d.digitChar = some d := by decide

theorem scan_control {n : Nat} (small : n < 0x20) (read : List Piece) (tokens : List Token) :
    (List.replicate (4 - (Text.hexDigits n).length) '0' ++ Text.hexDigits n).foldlM Scanner.step
        ⟨.unit read 4 0, tokens⟩ = some ⟨.text (.unit n :: read), tokens⟩ := by
  have zero : Text.hexValue? '0' = some 0 := rfl
  have high := hexValue?_digitChar (n / 16) (by omega)
  have low := hexValue?_digitChar (n % 16) (by omega)
  have value : n / 16 * 16 + n % 16 = n := by omega
  rw [hexDigits_control n small]
  simp [Scanner.step, zero, high, low, value]

theorem chars?_unit {n : Nat} (small : n < 0x20) (pieces : List Piece) :
    Piece.chars? (.unit n :: pieces) = (Piece.chars? pieces).map (Char.ofNat n :: ·) := by
  have high : highSurrogate n = false := by simp [highSurrogate]; omega
  have low : lowSurrogate n = false := by simp [lowSurrogate]; omega
  cases pieces with
  | nil => simp [Piece.chars?, high, low]
  | cons piece pieces => cases piece <;> simp [Piece.chars?, high, low]

theorem scan_quoteChar (c : Char) : ∃ piece,
    (∀ read tokens, (quoteChar c).foldlM Scanner.step ⟨.text read, tokens⟩ =
      some ⟨.text (piece :: read), tokens⟩) ∧
    ∀ pieces, Piece.chars? (piece :: pieces) = (Piece.chars? pieces).map (c :: ·) := by
  unfold quoteChar
  split
  case h_8 quote backslash _ _ _ _ _ =>
    split
    · rename_i small
      refine ⟨.unit c.toNat, fun read tokens => ?_, fun pieces => ?_⟩
      · exact scan_control small read tokens
      · rw [chars?_unit small, Char.ofNat_toNat]
    · rename_i large
      refine ⟨.char c, fun read tokens => ?_, fun _ => rfl⟩
      rw [List.foldlM_cons, Scanner.step]
      dsimp only
      rw [if_neg quote, if_neg backslash, if_neg large]
      rfl
  all_goals exact ⟨.char _, fun _ _ => rfl, fun _ => rfl⟩

theorem scan_quoted (cs : List Char) (read : List Piece) (tokens : List Token) : ∃ pieces,
    (cs.flatMap quoteChar).foldlM Scanner.step ⟨.text read, tokens⟩ =
      some ⟨.text (pieces.reverse ++ read), tokens⟩ ∧ Piece.chars? pieces = some cs := by
  induction cs generalizing read with
  | nil => exact ⟨[], rfl, rfl⟩
  | cons c cs ih =>
    obtain ⟨piece, first, stands⟩ := scan_quoteChar c
    obtain ⟨pieces, rest, chars⟩ := ih (piece :: read)
    refine ⟨piece :: pieces, ?_, by rw [stands, chars]; rfl⟩
    rw [List.flatMap_cons, List.foldlM_append, first]
    simpa using rest

theorem scan_quote (s : String) : Token.scan (quote s) = some [.text (some s)] := by
  obtain ⟨pieces, scanned, chars⟩ := scan_quoted s.toList [] []
  rw [List.append_nil] at scanned
  have opened : Scanner.step ⟨.gap, []⟩ '"' = some ⟨.text [], []⟩ := rfl
  simp only [Token.scan, quote, List.cons_append, List.foldlM_cons, List.foldlM_append, opened,
    Option.bind_eq_bind, Option.bind_some, scanned]
  simp [Scanner.step, Scanner.close?, chars]

/-! ## Numbers -/

theorem scan_number {c : Char} {cs : List Char} (first : c = '-' ∨ c.isDigit = true)
    (rest : ∀ d ∈ cs, Scanner.isNumberChar d = true) :
    Token.scan (c :: cs) = (literal? (c :: cs)).map fun l => [.number l.number?] := by
  have started : Scanner.step ⟨.gap, []⟩ c = some ⟨.number [c], []⟩ := by
    rcases first with rfl | digit
    · rfl
    · have other (d : Char) (mark : d.isDigit = false) : c ≠ d := by
        rintro rfl
        cases mark.symm.trans digit
      simp [Scanner.step, Scanner.start, Scanner.isSpace, digit, other]
  have read (ds : List Char) : cs.foldlM Scanner.step ⟨.number ds, []⟩ =
      some ⟨.number (cs.reverse ++ ds), []⟩ := by
    induction cs generalizing ds with
    | nil => rfl
    | cons d cs ih =>
      obtain ⟨number, rest⟩ := List.forall_mem_cons.1 rest
      rw [List.foldlM_cons, Scanner.step]
      simp only [number, if_true, Option.bind_eq_bind, Option.bind_some]
      rw [ih rest, List.reverse_cons, List.append_assoc]
      rfl
  have whole : (cs.reverse ++ [c]).reverse = c :: cs := by simp
  rw [Token.scan, List.foldlM_cons, started]
  simp only [Option.bind_eq_bind, Option.bind_some, read, Scanner.close?, whole]
  cases literal? (c :: cs) <;> rfl

end QueryFlow.Json
