import FindQuery.Proofs.Json.Building
import FindQuery.Proofs.Json.Scanning
import FindQuery.Proofs.Number.Written

namespace FindQuery.Json

def printedPiece (c : Char) : Piece :=
  if c.toNat < 0x20 ∧ c ∉ ['\x08', '\x0c', '\n', '\r', '\t'] then .unit c.toNat else .char c

def printedText (text : String) : List Piece := text.toList.map printedPiece

namespace Scanner

theorem hexDigit?_digitChar : ∀ n < 16, Text.hexDigit? (Nat.digitChar n) = some n := by decide

theorem run?_control (pieces : List Piece) (tokens : List Token) {n : Nat} (small : n < 0x20) :
    run? ⟨.text pieces, tokens⟩ ['\\', 'u', '0', '0', Nat.digitChar (n / 16), Nat.digitChar (n % 16)] =
      some ⟨.text (.unit n :: pieces), tokens⟩ := by
  have high := hexDigit?_digitChar (n / 16) (by omega)
  have low := hexDigit?_digitChar (n % 16) (by omega)
  have zero : Text.hexDigit? '0' = some 0 := rfl
  have value : (0 * 16 + n / 16) * 16 + n % 16 = n := by omega
  simp [run?, step?, high, low, zero] at value ⊢
  omega

theorem run?_quotedChar (pieces : List Piece) (tokens : List Token) (c : Char) :
    run? ⟨.text pieces, tokens⟩ (quotedChar c) = some ⟨.text (printedPiece c :: pieces), tokens⟩ := by
  unfold quotedChar
  by_cases lettered : c ∈ ['"', '\\', '\x08', '\x0c', '\n', '\r', '\t']
  · simp only [List.mem_cons, List.not_mem_nil, or_false] at lettered
    rcases lettered with rfl | rfl | rfl | rfl | rfl | rfl | rfl <;> rfl
  · simp only [List.mem_cons, List.not_mem_nil, or_false, not_or] at lettered
    obtain ⟨quote, backslash, backspace, feed, newline, carriage, tab⟩ := lettered
    simp only [quote, backslash, backspace, feed, newline, carriage, tab, ite_false]
    by_cases control : c.toNat < 0x20
    · rw [if_pos control, run?_control pieces tokens control]
      simp [printedPiece, control, backspace, feed, newline, carriage, tab]
    · rw [if_neg control]
      simp [run?, step?, printedPiece, quote, backslash, control]

theorem run?_quotedChars (chars : List Char) (pieces : List Piece) (tokens : List Token) :
    run? ⟨.text pieces, tokens⟩ (chars.flatMap quotedChar) =
      some ⟨.text ((chars.map printedPiece).reverse ++ pieces), tokens⟩ := by
  induction chars generalizing pieces with
  | nil => rfl
  | cons c rest ih =>
    rw [List.flatMap_cons, run?_append, run?_quotedChar, Option.bind_some, ih]
    simp

end Scanner

open Scanner

theorem scan?_quoted (text : String) : scan? (quoted text) = some [.text (printedText text)] := by
  have inside : start.run? (quoted text) =
      (run? ⟨.text [], []⟩ (text.toList.flatMap quotedChar)).bind (run? · ['"']) :=
    run?_append ⟨.text [], []⟩ (text.toList.flatMap quotedChar) ['"']
  rw [scan?, inside, run?_quotedChars]
  simp [run?, step?, flush?, printedText]

theorem decode?_unit {unit : Nat} (small : unit < 0x20) (rest : List Piece) :
    decode? (.unit unit :: rest) = (decode? rest).map (Char.ofNat unit :: ·) := by
  have high : isHighSurrogate unit = false := by simp [isHighSurrogate]; omega
  have low : isLowSurrogate unit = false := by simp [isLowSurrogate]; omega
  cases rest with
  | nil => simp [decode?, high, low]
  | cons piece rest => cases piece <;> simp [decode?, high, low]

theorem decode?_printed (chars : List Char) : decode? (chars.map printedPiece) = some chars := by
  induction chars with
  | nil => rfl
  | cons c rest ih =>
    rw [List.map_cons, printedPiece]
    split
    · next control => rw [decode?_unit control.1, ih, Option.map_some, Char.ofNat_toNat]
    · rw [decode?, ih, Option.map_some]

theorem decodeText?_printedText (text : String) : decodeText? (printedText text) = some text := by
  rw [decodeText?, printedText, decode?_printed, Option.map_some, String.ofList_toList]

theorem begin?_digit {c : Char} (digit : c.isDigit = true) : begin? [] c = some ⟨.numeral [c], []⟩ := by
  have other (mark : Char) (no : mark.isDigit = false) : c ≠ mark := by
    rintro rfl
    rw [no] at digit
    cases digit
  simp [begin?, isSpace, digit, other ' ' rfl, other '\t' rfl, other '\n' rfl, other '\r' rfl, other '[' rfl,
    other ']' rfl, other '\x7b' rfl, other '\x7d' rfl, other ',' rfl, other ':' rfl, other '"' rfl]

def NumeralChars (text : List Char) : Prop := ∀ c ∈ text, isNumeralChar c = true

theorem NumeralChars.cons {c : Char} {text : List Char} (numeral : isNumeralChar c = true)
    (others : NumeralChars text) : NumeralChars (c :: text) :=
  List.forall_mem_cons.mpr ⟨numeral, others⟩

theorem numeralChars_of_all_isDigit {text : List Char} (digits : text.all Char.isDigit = true) :
    NumeralChars text := by
  intro c member
  simp [isNumeralChar, List.all_eq_true.mp digits c member]

theorem numeralChars_of_digits {text : List Char} (others : NumeralChars (text.dropWhile Char.isDigit)) :
    NumeralChars text := by
  intro c member
  rw [← List.takeWhile_append_dropWhile (p := Char.isDigit) (l := text), List.mem_append] at member
  rcases member with member | member
  · exact numeralChars_of_all_isDigit List.all_takeWhile c member
  · exact others c member

theorem numeralChars_of_proper {α : Type} {digits : List Char} {value : Option α} {result : α}
    (read : (if digits.isEmpty || !digits.all Char.isDigit then none else value) = some result) :
    NumeralChars digits := by
  split at read
  · cases read
  · next proper =>
    simp only [Bool.or_eq_true, Bool.not_eq_true', not_or, Bool.not_eq_false] at proper
    exact numeralChars_of_all_isDigit proper.2

theorem numeralChars_of_exponentPart? {text : List Char} {exponent : Option Int}
    (read : Numeral.exponentPart? text = some exponent) : NumeralChars text := by
  cases text with
  | nil => simp [NumeralChars]
  | cons mark rest =>
    simp only [Numeral.exponentPart?] at read
    split at read
    · next marks =>
      have first : isNumeralChar mark = true := by rcases marks with rfl | rfl <;> rfl
      refine NumeralChars.cons first ?_
      split at read
      · exact NumeralChars.cons rfl (numeralChars_of_proper read)
      · exact NumeralChars.cons rfl (numeralChars_of_proper read)
      · exact numeralChars_of_proper read
    · cases read

theorem numeralChars_of_fractionPart? {text : List Char} {parts : List Char × Option Int}
    (read : Numeral.fractionPart? text = some parts) : NumeralChars text := by
  unfold Numeral.fractionPart? at read
  split at read
  · dsimp only at read
    split at read
    · cases read
    · obtain ⟨exponent, read, _⟩ := Option.map_eq_some_iff.mp read
      exact NumeralChars.cons rfl (numeralChars_of_digits (numeralChars_of_exponentPart? read))
  · obtain ⟨exponent, read, _⟩ := Option.map_eq_some_iff.mp read
    exact numeralChars_of_exponentPart? read

theorem numeralChars_of_unsigned? {negative : Bool} {text : List Char} {written : Numeral}
    (read : Numeral.unsigned? negative text = some written) : NumeralChars text := by
  unfold Numeral.unsigned? at read
  dsimp only at read
  split at read
  · obtain ⟨parts, read, _⟩ := Option.map_eq_some_iff.mp read
    exact numeralChars_of_digits (numeralChars_of_fractionPart? read)
  · cases read

theorem isDigit_of_unsigned? {negative : Bool} {c : Char} {rest : List Char} {written : Numeral}
    (read : Numeral.unsigned? negative (c :: rest) = some written) : c.isDigit = true := by
  by_cases digit : c.isDigit = true
  · exact digit
  · simp [Numeral.unsigned?, digit, Numeral.wholeIsProper] at read

theorem exists_cons_of_ofChars? {text : List Char} {written : Numeral}
    (read : Numeral.ofChars? text = some written) :
    ∃ c rest, text = c :: rest ∧ (c = '-' ∨ c.isDigit = true) ∧ NumeralChars rest := by
  unfold Numeral.ofChars? at read
  split at read
  · exact ⟨_, _, rfl, .inl rfl, numeralChars_of_unsigned? read⟩
  · cases text with
    | nil => cases read
    | cons c rest =>
      exact ⟨c, rest, rfl, .inr (isDigit_of_unsigned? read),
        (List.forall_mem_cons.mp (numeralChars_of_unsigned? read)).2⟩

theorem run?_numeral {text : List Char} (numeral : NumeralChars text) (before : List Char) :
    run? ⟨.numeral before, []⟩ text = some ⟨.numeral (text.reverse ++ before), []⟩ := by
  induction text generalizing before with
  | nil => rfl
  | cons c rest ih =>
    obtain ⟨first, others⟩ := List.forall_mem_cons.mp numeral
    have stepped : Scanner.step? ⟨.numeral before, []⟩ c = some ⟨.numeral (c :: before), []⟩ := by
      simp [Scanner.step?, first]
    rw [run?_cons, stepped, Option.bind_some, ih others]
    simp

theorem scan?_numeral {text : List Char} {written : Numeral} (read : Numeral.ofChars? text = some written) :
    scan? text = some [.numeral written] := by
  obtain ⟨c, rest, rfl, begins, numeral⟩ := exists_cons_of_ofChars? read
  have begun : start.step? c = some ⟨.numeral [c], []⟩ := by
    rcases begins with rfl | digit
    · rfl
    · exact begin?_digit digit
  rw [scan?, run?_cons, begun, Option.bind_some, run?_numeral numeral, Option.bind_some]
  simp [flush?, read]

mutual

def tree : Json → Tree
  | .null => .null
  | .bool value => .bool value
  | .number value => .numeral value.numeral
  | .string value => .text (printedText value)
  | .array items => .array (itemTrees items)
  | .object fields => .object (memberTrees fields)

def itemTrees : List Json → List Tree
  | [] => []
  | item :: rest => item.tree :: itemTrees rest

def memberTrees : List (String × Json) → List (List Piece × Tree)
  | [] => []
  | (key, value) :: rest => (printedText key, value.tree) :: memberTrees rest

end

mutual

theorem scan?_chars : ∀ value : Json, scan? value.chars = some value.tree.tokens
  | .null => rfl
  | .bool true => rfl
  | .bool false => rfl
  | .number value => scan?_numeral value.ofChars?_chars
  | .string value => scan?_quoted value
  | .array items => by
    rw [chars, List.cons_append, scan?_mark marks_openArray,
      scan?_append_mark (scan?_itemsChars items) marks_closeArray, scan?_nil]
    rfl
  | .object fields => by
    rw [chars, List.cons_append, scan?_mark marks_openObject,
      scan?_append_mark (scan?_fieldsChars fields) marks_closeObject, scan?_nil]
    rfl

theorem scan?_itemsChars : ∀ items : List Json,
    scan? (itemsChars items) = some (Tree.itemsTokens (itemTrees items))
  | [] => rfl
  | [item] => scan?_chars item
  | item :: next :: rest => by
    rw [itemsChars, scan?_append_mark (scan?_chars item) marks_comma, scan?_itemsChars (next :: rest)]
    · rfl
    · simp

theorem scan?_fieldsChars : ∀ fields : List (String × Json),
    scan? (fieldsChars fields) = some (Tree.membersTokens (memberTrees fields))
  | [] => rfl
  | [(key, value)] => by
    rw [fieldsChars, scan?_append_mark (scan?_quoted key) marks_colon, scan?_chars value]
    rfl
  | (key, value) :: next :: rest => by
    rw [fieldsChars, List.append_assoc, List.cons_append, scan?_append_mark (scan?_quoted key) marks_colon,
      scan?_append_mark (scan?_chars value) marks_comma, scan?_fieldsChars (next :: rest)]
    · rfl
    · simp

end

theorem ofText?_chars (value : Json) : Tree.ofText? value.chars = some value.tree := by
  rw [Tree.ofText?, scan?_chars, Option.bind_some, Tree.ofTokens?_tokens]

end FindQuery.Json
