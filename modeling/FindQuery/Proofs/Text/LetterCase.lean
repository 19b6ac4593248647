import Mathlib
import FindQuery.Proofs.Text.Words
import FindQuery.Text.Words

namespace FindQuery.Text

def lower (text : List Char) : List Char := text.map Char.toLower

def Recased (text other : List Char) : Prop := lower text = lower other

/-- The same words up to the case of ASCII letters, with any white space around and between them. -/
def Respelled (text other : String) : Prop :=
  ∃ parts others, Spaced parts text.toList ∧ Spaced others other.toList ∧ List.Forall₂ Recased parts others

def HasAsciiWords (text : String) : Prop := ∀ c ∈ text.toList, c.toNat < 0x80 ∨ isBlank c = true

theorem ascii_forall {Q : Char → Prop} (each : ∀ n < 0x80, Q (Char.ofNat n)) {c : Char} (ascii : c.toNat < 0x80) :
    Q c := by
  have own := each c.toNat ascii
  rwa [Char.ofNat_toNat] at own

theorem ascii_of_isAlpha {c : Char} (letter : c.isAlpha = true) : c.toNat < 0x80 := by
  simp only [Char.isAlpha, Char.isUpper, Char.isLower, Bool.or_eq_true, Bool.and_eq_true, decide_eq_true_eq,
    UInt32.le_iff_toNat_le] at letter
  rcases letter with capital | small
  · exact Nat.lt_of_le_of_lt capital.2 (by decide)
  · exact Nat.lt_of_le_of_lt small.2 (by decide)

theorem toLower_of_not_ascii {c : Char} (other : ¬ c.toNat < 0x80) : c.toLower = c :=
  Char.toLower_eq_of_not_isUpper fun capital => other (ascii_of_isAlpha (by simp [Char.isAlpha, capital]))

theorem toUpper_of_not_ascii {c : Char} (other : ¬ c.toNat < 0x80) : c.toUpper = c :=
  Char.toUpper_eq_of_not_isLower fun small => other (ascii_of_isAlpha (by simp [Char.isAlpha, small]))

theorem capitals_toLower (c : Char) : capitals c.toLower = capitals c := by
  by_cases ascii : c.toNat < 0x80
  · exact ascii_forall (Q := fun d => capitals d.toLower = capitals d) (by decide) ascii
  · rw [toLower_of_not_ascii ascii]

theorem isBlank_toUpper (c : Char) : isBlank c.toUpper = isBlank c := by
  by_cases ascii : c.toNat < 0x80
  · exact ascii_forall (Q := fun d => isBlank d.toUpper = isBlank d) (by decide) ascii
  · rw [toUpper_of_not_ascii ascii]

theorem upper_lower (text : List Char) : upper (lower text) = upper text := by
  simp only [upper, lower, List.flatMap_map, capitals_toLower]

theorem lower_upper {text : List Char} (ascii : ∀ c ∈ text, c.toNat < 0x80) : lower (upper text) = lower text := by
  induction text with
  | nil => rfl
  | cons c rest ih =>
    obtain ⟨first, others⟩ := List.forall_mem_cons.mp ascii
    have more := ih others
    simp only [upper, lower, List.flatMap_cons, List.map_append, List.map_cons] at more ⊢
    rw [capitals_of_ascii first, List.map_singleton, Char.toLower_toUpper_eq_toLower, more, List.singleton_append]

theorem solid_capitals {c : Char} (visible : isBlank c = false) : Solid (capitals c) := by
  have listed : ∀ entry ∈ asciiCapitals, entry.2 ≠ [] ∧ (entry.2.all fun d => !isBlank d) = true := by decide
  cases found : asciiCapitals.find? (·.1 = c) with
  | none => simp [capitals, found, Solid, isBlank_toUpper, visible]
  | some entry =>
    obtain ⟨some, inside⟩ := listed entry (List.mem_of_find?_eq_some found)
    simp only [capitals, found, Option.map_some, Option.getD_some]
    exact ⟨some, by simpa using inside⟩

theorem Solid.upper {word : List Char} (solid : Solid word) : Solid (upper word) := by
  obtain ⟨some, inside⟩ := solid
  constructor
  · obtain ⟨c, rest, rfl⟩ := List.exists_cons_of_ne_nil some
    have first := (solid_capitals (inside c List.mem_cons_self)).1
    simp [Text.upper, first]
  · intro c member
    obtain ⟨d, own, image⟩ := List.mem_flatMap.mp member
    exact (solid_capitals (inside d own)).2 c image

theorem upper_intercalate (parts : List (List Char)) :
    upper ([' '].intercalate parts) = [' '].intercalate (parts.map upper) := by
  have space : upper [' '] = [' '] := by decide
  induction parts with
  | nil => rfl
  | cons part parts ih =>
    cases parts with
    | nil => simp only [List.map_cons, List.map_nil, List.intercalate_singleton]
    | cons next parts =>
      rw [List.intercalate_cons_cons, upper_append, upper_append, space, ih]
      simp only [List.map_cons, List.intercalate_cons_cons]

theorem forall₂_recased_iff {parts others : List (List Char)} :
    List.Forall₂ Recased parts others ↔ parts.map lower = others.map lower := by
  rw [← List.forall₂_eq_eq_eq, List.forall₂_map_left_iff, List.forall₂_map_right_iff]
  rfl

theorem respelled_iff {text other : String} :
    Respelled text other ↔ (words text.toList).map lower = (words other.toList).map lower := by
  rw [← forall₂_recased_iff]
  constructor
  · rintro ⟨parts, others, spaced, otherSpaced, recased⟩
    rwa [words_eq_iff.mpr spaced, words_eq_iff.mpr otherSpaced]
  · intro recased
    exact ⟨_, _, spaced_words _, spaced_words _, recased⟩

theorem Respelled.upper_words {text other : String} (respelled : Respelled text other) :
    (words text.toList).map upper = (words other.toList).map upper := by
  have each (parts : List (List Char)) : (parts.map lower).map upper = parts.map upper := by
    simp only [List.map_map, Function.comp_def, upper_lower]
  rw [← each, respelled_iff.mp respelled, each]

theorem HasAsciiWords.lower_upper_words {text : String} (ascii : HasAsciiWords text) :
    ((words text.toList).map upper).map lower = (words text.toList).map lower := by
  have spaced := spaced_words text.toList
  rw [List.map_map]
  refine List.map_congr_left fun part member => lower_upper fun c inside => ?_
  have visible : isBlank c = false := (spaced.solid part member).2 c inside
  exact (ascii c (spaced.mem_text part member c inside)).resolve_right (by simp [visible])

/-- Beyond ASCII there are small letters with the capitals of others, such as the long s and the dotless i. -/
theorem respelled_iff_of_ascii {text other : String} (ascii : HasAsciiWords text) (otherAscii : HasAsciiWords other) :
    Respelled text other ↔ (words text.toList).map upper = (words other.toList).map upper := by
  refine ⟨Respelled.upper_words, fun same => respelled_iff.mpr ?_⟩
  rw [← ascii.lower_upper_words, same, otherAscii.lower_upper_words]

end FindQuery.Text
