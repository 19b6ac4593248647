namespace FindQuery.Text

def blankRanges : List (Nat × Nat) :=
  [(0x9, 0xD), (0x20, 0x20), (0x85, 0x85), (0xA0, 0xA0), (0x1680, 0x1680), (0x2000, 0x200A),
   (0x2028, 0x2029), (0x202F, 0x202F), (0x205F, 0x205F), (0x3000, 0x3000)]

def isBlank (c : Char) : Bool := blankRanges.any fun range => range.1 ≤ c.toNat && c.toNat ≤ range.2

/-- The maximal runs of characters that are not blank, after a run that has been read already. The run
is held in reverse. -/
def wordsFrom (run : List Char) : List Char → List (List Char)
  | [] => if run.isEmpty then [] else [run.reverse]
  | c :: rest =>
    if isBlank c then
      if run.isEmpty then wordsFrom [] rest else run.reverse :: wordsFrom [] rest
    else wordsFrom (c :: run) rest

def words (text : List Char) : List (List Char) := wordsFrom [] text

/-- The characters beyond ASCII whose capital form is ASCII. -/
def asciiCapitals : List (Char × List Char) :=
  [('ı', ['I']), ('ſ', ['S']), ('ß', ['S', 'S']), ('ﬀ', ['F', 'F']), ('ﬁ', ['F', 'I']),
   ('ﬂ', ['F', 'L']), ('ﬃ', ['F', 'F', 'I']), ('ﬄ', ['F', 'F', 'L']), ('ﬅ', ['S', 'T']),
   ('ﬆ', ['S', 'T'])]

def capitals (c : Char) : List Char := ((asciiCapitals.find? (·.1 = c)).map Prod.snd).getD [c.toUpper]

def upper (text : List Char) : List Char := text.flatMap capitals

theorem upper_append (a b : List Char) : upper (a ++ b) = upper a ++ upper b := by
  simp [upper]

theorem capitals_of_ascii {c : Char} (h : c.toNat < 0x80) : capitals c = [c.toUpper] := by
  have missing : asciiCapitals.find? (·.1 = c) = none := by
    refine List.find?_eq_none.2 fun entry mem => ?_
    have beyond : ∀ entry ∈ asciiCapitals, 0x80 ≤ entry.1.toNat := by decide
    have far := beyond entry mem
    simp only [decide_eq_true_eq]
    rintro rfl
    omega
  simp only [capitals, missing, Option.map_none, Option.getD_none]

end FindQuery.Text
