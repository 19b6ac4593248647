import FindQuery.Number.Numeral
import FindQuery.Number.Printer
import FindQuery.Proofs.Number.Shortest

namespace FindQuery

def AllDigits (text : List Char) : Prop := ∀ c ∈ text, c.isDigit = true

theorem AllDigits.append {a b : List Char} (ha : AllDigits a) (hb : AllDigits b) : AllDigits (a ++ b) := by
  intro c member
  rcases List.mem_append.mp member with member | member
  · exact ha c member
  · exact hb c member

theorem AllDigits.of_subset {a b : List Char} (hb : AllDigits b) (subset : a ⊆ b) : AllDigits a :=
  fun c member => hb c (subset member)

theorem allDigits_toDigits (n : Nat) : AllDigits (Nat.toDigits 10 n) :=
  fun _ member => Nat.isDigit_of_mem_toDigits (by decide) (by decide) member

theorem allDigits_zeros (count : Nat) : AllDigits (zeros count) := by
  intro c member
  rw [List.eq_of_mem_replicate member]
  rfl

theorem allDigits_zero : AllDigits ['0'] := allDigits_zeros 1

theorem head?_toDigits_ne_zero {n : Nat} (nonzero : n ≠ 0) : (Nat.toDigits 10 n).head? ≠ some '0' := by
  induction n using Nat.strongRecOn with
  | ind n ih =>
    rw [Nat.toDigits_eq_if (by decide)]
    split
    · next small =>
      have cases : n = 1 ∨ n = 2 ∨ n = 3 ∨ n = 4 ∨ n = 5 ∨ n = 6 ∨ n = 7 ∨ n = 8 ∨ n = 9 := by omega
      rcases cases with rfl | rfl | rfl | rfl | rfl | rfl | rfl | rfl | rfl <;> decide
    · next large =>
      have leading := ih (n / 10) (by omega) (by omega)
      obtain ⟨first, others, split⟩ := List.exists_cons_of_ne_nil (Nat.toDigits_ne_nil (n := n / 10) (b := 10))
      rw [split] at leading ⊢
      exact leading

namespace Numeral

theorem natValue_toDigits (n : Nat) : natValue (digitValues (Nat.toDigits 10 n)) = n := by
  have value := Nat.ofDigitChars_ten_toDigits (n := n)
  rw [Nat.ofDigitChars_eq_foldl] at value
  simp only [natValue, digitValues, List.foldl_map, digitValue]
  simpa only [Nat.mul_comm] using value

theorem takeWhile_digits {digits rest : List Char} (all : AllDigits digits)
    (stop : ∀ c ∈ rest.head?, c.isDigit = false) : (digits ++ rest).takeWhile Char.isDigit = digits := by
  rw [List.takeWhile_append_of_pos all]
  cases rest with
  | nil => simp
  | cons c rest => simp [stop c rfl]

theorem dropWhile_digits {digits rest : List Char} (all : AllDigits digits)
    (stop : ∀ c ∈ rest.head?, c.isDigit = false) : (digits ++ rest).dropWhile Char.isDigit = rest := by
  rw [List.dropWhile_append_of_pos all]
  cases rest with
  | nil => simp
  | cons c rest => simp [stop c rfl]

theorem wholeIsProper_of_head? {whole : List Char} (nonempty : whole ≠ []) (head : whole.head? ≠ some '0') :
    wholeIsProper whole = true := by
  cases whole with
  | nil => exact absurd rfl nonempty
  | cons first rest =>
    have other : first ≠ '0' := by simpa using head
    unfold wholeIsProper
    split <;> simp_all

theorem wholeIsProper_toDigits (n : Nat) : wholeIsProper (Nat.toDigits 10 n) = true := by
  by_cases zero : n = 0
  · subst zero
    rfl
  · exact wholeIsProper_of_head? Nat.toDigits_ne_nil (head?_toDigits_ne_zero zero)

theorem unsigned?_append (negative : Bool) {whole : List Char} (rest : List Char) (all : AllDigits whole)
    (proper : wholeIsProper whole = true) (stop : ∀ c ∈ rest.head?, c.isDigit = false) :
    unsigned? negative (whole ++ rest) = (fractionPart? rest).map fun (fraction, exponent) =>
      ⟨negative, digitValues whole, digitValues fraction, exponent⟩ := by
  simp only [unsigned?, takeWhile_digits all stop, dropWhile_digits all stop, proper, ite_true]

theorem fractionPart?_point {digits : List Char} (rest : List Char) (all : AllDigits digits)
    (nonempty : digits ≠ []) (stop : ∀ c ∈ rest.head?, c.isDigit = false) :
    fractionPart? ('.' :: digits ++ rest) = (exponentPart? rest).map (digits, ·) := by
  have found : digits.isEmpty = false := by simpa using nonempty
  simp only [fractionPart?, List.cons_append, takeWhile_digits all stop, dropWhile_digits all stop, found,
    Bool.false_eq_true, ite_false]

def ofInt (value : Int) : Numeral := ⟨value < 0, digitValues (Nat.toDigits 10 value.natAbs), [], none⟩

theorem unsigned?_toDigits (negative : Bool) (n : Nat) :
    unsigned? negative (Nat.toDigits 10 n) = some ⟨negative, digitValues (Nat.toDigits 10 n), [], none⟩ := by
  have read := unsigned?_append negative [] (allDigits_toDigits n) (wholeIsProper_toDigits n) (by simp)
  simpa [fractionPart?, exponentPart?, digitValues] using read

theorem ofChars?_unsigned {text : List Char} (unsigned : text.head? ≠ some '-') :
    ofChars? text = unsigned? false text := by
  cases text with
  | nil => rfl
  | cons c rest =>
    unfold ofChars?
    split
    · next same =>
      cases same
      exact absurd rfl unsigned
    · rfl

theorem head?_ne_minus {text rest : List Char} (all : AllDigits text) (nonempty : text ≠ []) :
    (text ++ rest).head? ≠ some '-' := by
  cases text with
  | nil => exact absurd rfl nonempty
  | cons c text =>
    intro minus
    cases minus
    exact absurd (all '-' (by simp)) (by decide)

structure IsMagnitude (text : List Char) : Prop where
  read : ∀ negative, (unsigned? negative text).isSome = true
  unsigned : text.head? ≠ some '-'

theorem isMagnitude_append {whole : List Char} (rest : List Char) (all : AllDigits whole)
    (proper : wholeIsProper whole = true) (stop : ∀ c ∈ rest.head?, c.isDigit = false)
    (fraction : (fractionPart? rest).isSome = true) : IsMagnitude (whole ++ rest) where
  read negative := by rw [unsigned?_append negative rest all proper stop, Option.isSome_map]; exact fraction
  unsigned := head?_ne_minus all (by rintro rfl; cases proper)

theorem isSome_fractionPart?_point {digits : List Char} (all : AllDigits digits) (nonempty : digits ≠ []) :
    (fractionPart? ('.' :: digits)).isSome = true := by
  have read := fractionPart?_point [] all nonempty (by simp)
  rw [List.append_nil] at read
  rw [read]
  rfl

theorem isMagnitude_plainText {n : Nat} (nonzero : n ≠ 0) (exponent : Int) :
    IsMagnitude (plainText (Nat.toDigits 10 n) exponent) := by
  have digits := allDigits_toDigits n
  have length : 0 < (Nat.toDigits 10 n).length := Nat.length_toDigits_pos
  have leading := head?_toDigits_ne_zero nonzero
  unfold plainText
  dsimp only
  split
  · next large =>
    rw [List.append_assoc, ← List.append_assoc]
    refine isMagnitude_append _ (digits.append (allDigits_zeros _)) ?_ (by simp) (by decide)
    obtain ⟨first, others, split⟩ := List.exists_cons_of_ne_nil (Nat.toDigits_ne_nil (n := n) (b := 10))
    rw [split] at leading ⊢
    exact wholeIsProper_of_head? (by simp) leading
  · split
    · next inside =>
      have cut : ((Nat.toDigits 10 n).length + exponent).toNat < (Nat.toDigits 10 n).length := by omega
      have positive : 0 < ((Nat.toDigits 10 n).length + exponent).toNat := by omega
      generalize ((Nat.toDigits 10 n).length + exponent).toNat = point at cut positive ⊢
      refine isMagnitude_append _ (digits.of_subset (List.take_subset _ _)) ?_ (by simp) ?_
      · refine wholeIsProper_of_head? ?_ ?_
        · intro empty
          have lengths := congrArg List.length empty
          simp only [List.length_take, List.length_nil] at lengths
          omega
        · rw [List.head?_take]
          split
          · simp
          · exact leading
      · refine isSome_fractionPart?_point (digits.of_subset (List.drop_subset _ _)) ?_
        intro empty
        have lengths := congrArg List.length empty
        simp only [List.length_drop, List.length_nil] at lengths
        omega
    · refine isMagnitude_append ('.' :: (zeros _ ++ Nat.toDigits 10 n)) allDigits_zero rfl (by simp) ?_
      exact isSome_fractionPart?_point ((allDigits_zeros _).append digits) (by simp [Nat.toDigits_ne_nil])

theorem isSome_exponentPart? (magnitude : Int) {sign : Char} (signs : sign = '-' ∨ sign = '+') :
    (exponentPart? ('e' :: sign :: Nat.toDigits 10 magnitude.natAbs)).isSome = true := by
  have found : (Nat.toDigits 10 magnitude.natAbs).isEmpty = false := by simp [Nat.toDigits_ne_nil]
  have all : (Nat.toDigits 10 magnitude.natAbs).all Char.isDigit = true :=
    List.all_eq_true.mpr (allDigits_toDigits _)
  rcases signs with rfl | rfl <;> simp [exponentPart?, found, all]

theorem isMagnitude_scientificText (n : Nat) (magnitude : Int) :
    IsMagnitude (scientificText (Nat.toDigits 10 n) magnitude) := by
  have digits := allDigits_toDigits n
  have signs : (if magnitude < 0 then '-' else '+') = '-' ∨ (if magnitude < 0 then '-' else '+') = '+' := by
    split <;> simp
  have exponent := isSome_exponentPart? magnitude signs
  obtain ⟨first, others, split⟩ := List.exists_cons_of_ne_nil (Nat.toDigits_ne_nil (n := n) (b := 10))
  rw [split] at digits
  have single : AllDigits [first] := digits.of_subset (by simp)
  have proper : wholeIsProper [first] = true := by
    unfold wholeIsProper
    split <;> simp_all
  simp only [scientificText, split]
  cases others with
  | nil => exact isMagnitude_append _ single proper (by simp) (by simpa [fractionPart?] using exponent)
  | cons second others =>
    have fraction : AllDigits (second :: others) := digits.of_subset (by simp)
    have read := fractionPart?_point ('e' :: (if magnitude < 0 then '-' else '+') :: Nat.toDigits 10 magnitude.natAbs)
      fraction (by simp) (by simp)
    refine isMagnitude_append ('.' :: (second :: others ++ _)) single proper (by simp) ?_
    exact read ▸ (Option.isSome_map.trans exponent)

end Numeral

open Numeral

theorem isMagnitude_toDigits (n : Nat) : IsMagnitude (Nat.toDigits 10 n) := by
  have read := isMagnitude_append [] (allDigits_toDigits n) (wholeIsProper_toDigits n) (by simp) rfl
  rwa [List.append_nil] at read

theorem Binary64.isMagnitude_magnitudeText (x : Binary64) : IsMagnitude x.magnitudeText := by
  unfold magnitudeText
  split
  · exact isMagnitude_append ['.', '0'] allDigits_zero rfl (by simp) (by decide)
  · next nonzero =>
    dsimp only
    split
    · exact isMagnitude_plainText (Shortest.ofBinary64_digits_ne_zero (by simpa using nonzero)) _
    · exact isMagnitude_scientificText _ _

theorem isSome_ofChars? {text : List Char} (magnitude : IsMagnitude text) (negative : Bool) :
    (ofChars? (if negative then '-' :: text else text)).isSome = true := by
  cases negative with
  | true => exact magnitude.read true
  | false =>
    rw [if_neg (by simp), ofChars?_unsigned magnitude.unsigned]
    exact magnitude.read false

namespace Number

/-- A number is printed as a magnitude, behind a minus sign where it is below zero. -/
theorem exists_chars_eq (value : Number) :
    ∃ (negative : Bool) (text : List Char),
      IsMagnitude text ∧ value.chars = if negative then '-' :: text else text := by
  cases value with
  | integer value inRange =>
    exact ⟨decide (value < 0), _, isMagnitude_toDigits value.natAbs, by simp [chars]⟩
  | real x => exact ⟨x.negative, _, x.isMagnitude_magnitudeText, rfl⟩

theorem isSome_ofChars?_chars (value : Number) : (ofChars? value.chars).isSome = true := by
  obtain ⟨negative, text, magnitude, printed⟩ := value.exists_chars_eq
  rw [printed]
  exact isSome_ofChars? magnitude negative

def numeral (value : Number) : Numeral := (ofChars? value.chars).get value.isSome_ofChars?_chars

theorem ofChars?_chars (value : Number) : ofChars? value.chars = some value.numeral :=
  (Option.some_get value.isSome_ofChars?_chars).symm

theorem numeral_integer (value : Int) (inRange : leastInteger ≤ value ∧ value < integerLimit) :
    (integer value inRange).numeral = Numeral.ofInt value := by
  have read := ofChars?_chars (integer value inRange)
  have magnitude := isMagnitude_toDigits value.natAbs
  by_cases negative : value < 0
  · rw [chars, if_pos negative] at read
    simp only [ofChars?, unsigned?_toDigits, Option.some.injEq] at read
    rw [← read, Numeral.ofInt, decide_eq_true negative]
  · rw [chars, if_neg negative, ofChars?_unsigned magnitude.unsigned] at read
    simp only [unsigned?_toDigits, Option.some.injEq] at read
    rw [← read, Numeral.ofInt, decide_eq_false negative]

theorem integer?_inRange {value : Int} (inRange : leastInteger ≤ value ∧ value < integerLimit) :
    integer? value = some (integer value inRange) :=
  dif_pos inRange

theorem number?_ofInt (value : Int) (inRange : leastInteger ≤ value ∧ value < integerLimit) :
    (Numeral.ofInt value).number? = some (integer value inRange) := by
  have whole : (Numeral.ofInt value).isWhole = true := rfl
  have digits : natValue (Numeral.ofInt value).whole = value.natAbs := natValue_toDigits value.natAbs
  rw [Numeral.number?, if_pos whole, digits]
  by_cases negative : value < 0
  · have magnitude : -(value.natAbs : Int) = value := by omega
    have nonzero : ¬ (value.natAbs : Int) = 0 := by omega
    have sign : (Numeral.ofInt value).negative = true := decide_eq_true negative
    rw [if_pos sign, if_neg nonzero, magnitude, integer?_inRange inRange]
    exact Option.orElse_some
  · have magnitude : (value.natAbs : Int) = value := by omega
    have sign : ¬ (Numeral.ofInt value).negative = true := by simpa [Numeral.ofInt] using negative
    rw [if_neg sign, magnitude, integer?_inRange inRange]
    exact Option.orElse_some

theorem number?_numeral_integer (value : Int) (inRange : leastInteger ≤ value ∧ value < integerLimit) :
    (integer value inRange).numeral.number? = some (integer value inRange) := by
  rw [numeral_integer, number?_ofInt value inRange]

end Number

end FindQuery
