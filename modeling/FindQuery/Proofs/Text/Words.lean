import FindQuery.Text.Words

namespace FindQuery.Text

def Solid (word : List Char) : Prop := word ≠ [] ∧ ∀ c ∈ word, isBlank c = false

/-- The words that a text is made of, in their order. White space may stand before each of them and at the end, and
where one word follows another it has to. -/
inductive Spaced : List (List Char) → List Char → Prop
  | blank {gap : List Char} (white : ∀ c ∈ gap, isBlank c = true) : Spaced [] gap
  | word {gap word rest : List Char} {others : List (List Char)} (white : ∀ c ∈ gap, isBlank c = true)
    (solid : Solid word) (apart : ∀ c ∈ rest.head?, isBlank c = true) (after : Spaced others rest) :
    Spaced (word :: others) (gap ++ word ++ rest)

namespace Spaced

variable {parts : List (List Char)} {text : List Char}

theorem nil : Spaced [] [] := .blank (List.forall_mem_nil _)

theorem start {word rest : List Char} {others : List (List Char)} (solid : Solid word)
    (apart : ∀ c ∈ rest.head?, isBlank c = true) (after : Spaced others rest) :
    Spaced (word :: others) (word ++ rest) := .word (List.forall_mem_nil _) solid apart after

theorem solid (spaced : Spaced parts text) : ∀ part ∈ parts, Solid part := by
  induction spaced with
  | blank => exact List.forall_mem_nil _
  | word _ solid _ _ ih => exact List.forall_mem_cons.mpr ⟨solid, ih⟩

theorem mem_text (spaced : Spaced parts text) : ∀ part ∈ parts, ∀ c ∈ part, c ∈ text := by
  induction spaced with
  | blank => exact List.forall_mem_nil _
  | word _ _ _ _ ih =>
    refine List.forall_mem_cons.mpr ⟨fun c member => ?_, fun part inside c member => ?_⟩
    · exact List.mem_append_left _ (List.mem_append_right _ member)
    · exact List.mem_append_right _ (ih part inside c member)

theorem append_left (spaced : Spaced parts text) {gap : List Char} (white : ∀ c ∈ gap, isBlank c = true) :
    Spaced parts (gap ++ text) := by
  cases spaced with
  | blank whole => exact .blank (List.forall_mem_append.mpr ⟨white, whole⟩)
  | word before solid apart after =>
    rw [List.append_assoc, ← List.append_assoc, ← List.append_assoc]
    exact .word (List.forall_mem_append.mpr ⟨white, before⟩) solid apart after

theorem cons_blank (spaced : Spaced parts text) {c : Char} (white : isBlank c = true) : Spaced parts (c :: text) := by
  have gap : ∀ d ∈ [c], isBlank d = true := by simpa using white
  exact spaced.append_left gap

end Spaced

theorem wordsFrom_append {part : List Char} (inside : ∀ c ∈ part, isBlank c = false) (run rest : List Char) :
    wordsFrom run (part ++ rest) = wordsFrom (part.reverse ++ run) rest := by
  induction part generalizing run with
  | nil => rfl
  | cons c part ih =>
    obtain ⟨first, others⟩ := List.forall_mem_cons.mp inside
    rw [List.cons_append, wordsFrom, if_neg (by simp [first]), ih others, List.reverse_cons, List.append_assoc,
      List.singleton_append]

theorem wordsFrom_of_apart {run rest : List Char} (begun : run ≠ []) (apart : ∀ c ∈ rest.head?, isBlank c = true) :
    wordsFrom run rest = run.reverse :: words rest := by
  cases rest with
  | nil => simp [wordsFrom, words, begun]
  | cons c rest =>
    have white : isBlank c = true := apart c rfl
    simp [wordsFrom, words, white, begun]

theorem words_append_of_blank {gap : List Char} (white : ∀ c ∈ gap, isBlank c = true) (rest : List Char) :
    words (gap ++ rest) = words rest := by
  induction gap with
  | nil => rfl
  | cons c gap ih =>
    obtain ⟨first, others⟩ := List.forall_mem_cons.mp white
    rw [List.cons_append, words, wordsFrom, if_pos first, if_pos List.isEmpty_nil]
    exact ih others

theorem words_append_of_solid {word rest : List Char} (solid : Solid word)
    (apart : ∀ c ∈ rest.head?, isBlank c = true) : words (word ++ rest) = word :: words rest := by
  obtain ⟨some, inside⟩ := solid
  rw [words, wordsFrom_append inside, List.append_nil, wordsFrom_of_apart (by simpa using some) apart,
    List.reverse_reverse]

theorem words_of_spaced {parts : List (List Char)} {text : List Char} (spaced : Spaced parts text) :
    words text = parts := by
  induction spaced with
  | @blank gap white =>
    have alone := words_append_of_blank white []
    rw [List.append_nil] at alone
    exact alone
  | word white solid apart _ ih =>
    rw [List.append_assoc, words_append_of_blank white, words_append_of_solid solid apart, ih]

theorem solid_reverse {run : List Char} (begun : ¬ run.isEmpty = true) (inside : ∀ c ∈ run, isBlank c = false) :
    Solid run.reverse :=
  ⟨by simpa using begun, fun c member => inside c (List.mem_reverse.mp member)⟩

theorem spaced_wordsFrom {run : List Char} (inside : ∀ c ∈ run, isBlank c = false) (text : List Char) :
    Spaced (wordsFrom run text) (run.reverse ++ text) := by
  fun_induction wordsFrom run text with
  | case1 run empty =>
    rw [List.isEmpty_iff.mp empty]
    exact .nil
  | case2 run begun => exact .start (solid_reverse begun inside) (by simp) .nil
  | case3 run c rest white empty ih =>
    rw [List.isEmpty_iff.mp empty]
    exact (ih (List.forall_mem_nil _)).cons_blank white
  | case4 run c rest white begun ih =>
    have after : Spaced (wordsFrom [] rest) (c :: rest) := (ih (List.forall_mem_nil _)).cons_blank white
    exact .start (solid_reverse begun inside) (by simpa using white) after
  | case5 run c rest other ih =>
    have more := ih (List.forall_mem_cons.mpr ⟨by simpa using other, inside⟩)
    rw [List.reverse_cons, List.append_assoc] at more
    exact more

theorem spaced_words (text : List Char) : Spaced (words text) text := spaced_wordsFrom (List.forall_mem_nil _) text

theorem words_eq_iff {text : List Char} {parts : List (List Char)} : words text = parts ↔ Spaced parts text := by
  constructor
  · rintro rfl
    exact spaced_words text
  · exact words_of_spaced

theorem spaced_intercalate {parts : List (List Char)} (solid : ∀ part ∈ parts, Solid part) :
    Spaced parts ([' '].intercalate parts) := by
  have space : isBlank ' ' = true := by decide
  induction parts with
  | nil => exact .nil
  | cons part parts ih =>
    obtain ⟨first, others⟩ := List.forall_mem_cons.mp solid
    cases parts with
    | nil =>
      have alone : Spaced [part] (part ++ []) := .start first (by simp) .nil
      simpa using alone
    | cons next parts =>
      rw [List.intercalate_cons_cons, List.append_assoc]
      exact .start first (by simpa using space) ((ih others).cons_blank space)

end FindQuery.Text
