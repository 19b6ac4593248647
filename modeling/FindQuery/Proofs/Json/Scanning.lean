import FindQuery.Json.Printer
import FindQuery.Json.Token

namespace FindQuery.Json

namespace Scanner

def after (before : List Token) (scanner : Scanner) : Scanner := ⟨scanner.mode, scanner.tokens ++ before⟩

theorem flush?_after (before : List Token) (scanner : Scanner) :
    (scanner.after before).flush? = scanner.flush?.map (· ++ before) := by
  obtain ⟨mode, tokens⟩ := scanner
  cases mode <;> simp [after, flush?]
  · cases wordToken? _ <;> simp
  · cases Numeral.ofChars? _ <;> simp

theorem begin?_append (before tokens : List Token) (c : Char) :
    begin? (tokens ++ before) c = (begin? tokens c).map (after before) := by
  simp only [begin?, apply_ite (Option.map (after before)), Option.map_some, Option.map_none, after,
    List.cons_append]

theorem flushed_begin?_after (before : List Token) (flushed : Option (List Token)) (c : Char) :
    (flushed.map (· ++ before)).bind (begin? · c) = (flushed.bind (begin? · c)).map (after before) := by
  cases flushed with
  | none => rfl
  | some tokens => exact begin?_append before tokens c

theorem step?_after (before : List Token) (scanner : Scanner) (c : Char) :
    (scanner.after before).step? c = (scanner.step? c).map (after before) := by
  have flushed := flush?_after before scanner
  obtain ⟨mode, tokens⟩ := scanner
  cases mode <;> simp only [after, step?] at flushed ⊢
  case between => exact begin?_append before tokens c
  case word | numeral =>
    rw [flushed, flushed_begin?_after]
    split <;> simp [after]
  case text =>
    simp only [apply_ite (Option.map (after before)), Option.map_some, Option.map_none, after, List.cons_append]
  case escape =>
    split
    · simp [after]
    · cases escaped? c <;> simp [after]
  case unit =>
    cases Text.hexDigit? c with
    | none => rfl
    | some digit => simp only [Option.map_some]; split <;> simp [after]

theorem run?_after (before : List Token) (scanner : Scanner) (text : List Char) :
    (scanner.after before).run? text = (scanner.run? text).map (after before) := by
  induction text generalizing scanner with
  | nil => rfl
  | cons c rest ih =>
    simp only [run?, List.foldlM_cons, step?_after] at ih ⊢
    cases scanner.step? c with
    | none => rfl
    | some next => exact ih next

theorem run?_append (scanner : Scanner) (text rest : List Char) :
    scanner.run? (text ++ rest) = (scanner.run? text).bind (run? · rest) := by
  simp only [run?, List.foldlM_append]
  rfl

theorem run?_cons (scanner : Scanner) (c : Char) (rest : List Char) :
    scanner.run? (c :: rest) = (scanner.step? c).bind (run? · rest) := by
  simp only [run?, List.foldlM_cons]
  rfl

/-- A character that is a token by itself, wherever a word or a number could end. -/
structure Marks (c : Char) (token : Token) : Prop where
  begins : begin? [] c = some ⟨.between, [token]⟩
  not_in_word : isWordChar c = false
  not_in_numeral : isNumeralChar c = false

theorem marks_comma : Marks ',' .comma := ⟨rfl, rfl, rfl⟩
theorem marks_colon : Marks ':' .colon := ⟨rfl, rfl, rfl⟩
theorem marks_openArray : Marks '[' .openArray := ⟨rfl, rfl, rfl⟩
theorem marks_closeArray : Marks ']' .closeArray := ⟨rfl, rfl, rfl⟩
theorem marks_openObject : Marks '\x7b' .openObject := ⟨rfl, rfl, rfl⟩
theorem marks_closeObject : Marks '\x7d' .closeObject := ⟨rfl, rfl, rfl⟩

theorem Marks.begin? {c : Char} {token : Token} (marks : Marks c token) (tokens : List Token) :
    begin? tokens c = some ⟨.between, token :: tokens⟩ := by
  have appended := begin?_append tokens [] c
  simpa [marks.begins, after] using appended

theorem Marks.step? {c : Char} {token : Token} (marks : Marks c token) {scanner : Scanner}
    {tokens : List Token} (flushed : scanner.flush? = some tokens) :
    scanner.step? c = some ⟨.between, token :: tokens⟩ := by
  obtain ⟨mode, found⟩ := scanner
  cases mode <;> simp only [flush?, reduceCtorEq] at flushed
  case between =>
    cases flushed
    exact marks.begin? tokens
  case word letters =>
    simp only [Scanner.step?, marks.not_in_word, Bool.false_eq_true, ite_false, flush?, flushed, Option.bind_some]
    exact marks.begin? tokens
  case numeral chars =>
    simp only [Scanner.step?, marks.not_in_numeral, Bool.false_eq_true, ite_false, flush?, flushed,
      Option.bind_some]
    exact marks.begin? tokens

theorem run?_of_scan? {text : List Char} {tokens : List Token} (scanned : scan? text = some tokens)
    (before : List Token) :
    ∃ scanner, run? ⟨.between, before⟩ text = some scanner ∧ scanner.flush? = some (tokens.reverse ++ before) := by
  simp only [scan?, Option.map_eq_some_iff, Option.bind_eq_some_iff] at scanned
  obtain ⟨found, ⟨scanner, ran, flushed⟩, rfl⟩ := scanned
  refine ⟨scanner.after before, ?_, ?_⟩
  · have ranAfter := run?_after before start text
    rw [ran] at ranAfter
    exact ranAfter
  · rw [flush?_after, flushed, List.reverse_reverse]
    rfl

end Scanner

open Scanner

theorem scan?_nil : scan? [] = some [] := rfl

theorem scan?_append_mark {text : List Char} {tokens : List Token} (scanned : scan? text = some tokens)
    {c : Char} {token : Token} (marks : Marks c token) (rest : List Char) :
    scan? (text ++ c :: rest) = (scan? rest).map (tokens ++ token :: ·) := by
  obtain ⟨scanner, ran, flushed⟩ := run?_of_scan? scanned []
  have behind : (⟨.between, token :: (tokens.reverse ++ [])⟩ : Scanner) =
      after (token :: tokens.reverse) start := by simp [after, start]
  simp only [scan?, run?_append, run?_cons]
  change (((run? ⟨.between, []⟩ text).bind fun scanner => (scanner.step? c).bind (run? · rest)).bind flush?).map _ = _
  rw [ran, Option.bind_some, marks.step? flushed, Option.bind_some, behind, run?_after]
  cases start.run? rest with
  | none => rfl
  | some last =>
    simp only [Option.map_some, Option.bind_some, flush?_after]
    cases last.flush? <;> simp

theorem scan?_mark {c : Char} {token : Token} (marks : Marks c token) (rest : List Char) :
    scan? (c :: rest) = (scan? rest).map (token :: ·) :=
  scan?_append_mark scan?_nil marks rest

end FindQuery.Json
