import Mathlib.Data.List.DropRight
import FindQuery.Http.Url
import FindQuery.Proofs.Text.Percent

namespace FindQuery.Http

open Text.Percent (Segment decode? encode decode?_encode encode_injective segment_encode)

theorem trimSlashes_eq_rdropWhile (url : List Char) : trimSlashes url = url.rdropWhile (· = '/') := rfl

theorem trimSlashes_append_slashes (url : List Char) (count : Nat) :
    trimSlashes (url ++ List.replicate count '/') = trimSlashes url := by
  induction count with
  | zero => rw [List.replicate_zero, List.append_nil]
  | succ count ih =>
    rw [List.replicate_succ', ← List.append_assoc, trimSlashes_eq_rdropWhile]
    rw [List.rdropWhile_concat_pos _ _ _ (by simp)]
    exact ih

theorem exists_eq_trimSlashes_append (url : List Char) :
    ∃ count, url = trimSlashes url ++ List.replicate count '/' := by
  have slashes : url.rtakeWhile (· = '/') = List.replicate (url.rtakeWhile (· = '/')).length '/' := by
    refine List.eq_replicate_iff.mpr ⟨rfl, fun c member => ?_⟩
    simpa using List.mem_rtakeWhile_imp member
  have parts : trimSlashes url ++ url.rtakeWhile (· = '/') = url := List.rdropWhile_append_rtakeWhile
  rw [slashes] at parts
  exact ⟨_, parts.symm⟩

theorem getLast?_trimSlashes (url : List Char) : (trimSlashes url).getLast? ≠ some '/' := by
  intro last
  have some : trimSlashes url ≠ [] := by
    intro none
    rw [none] at last
    cases last
  rw [List.getLast?_eq_some_getLast some, Option.some.injEq] at last
  exact List.rdropWhile_last_not _ _ some (decide_eq_true last)

theorem toList_findUrl (options : ConnectOptions) (database : String) :
    (findUrl options database).toList =
      options.baseUrl.toList ++ '/' :: encode database ++ '/' :: findEndpoint.toList := by
  simp [findUrl]

theorem slash_not_mem_encode (database : String) : '/' ∉ encode database :=
  fun member => ((segment_encode database).ne_delimiter '/' member).1 rfl

theorem each_ne_slash {part : List Char} (whole : '/' ∉ part) : ∀ c ∈ part, decide (c ≠ '/') = true := by
  intro c member
  refine decide_eq_true ?_
  rintro rfl
  exact whole member

theorem rtakeWhile_append_slash {front part : List Char} (whole : '/' ∉ part) :
    (front ++ '/' :: part).rtakeWhile (· ≠ '/') = part := by
  have backwards : (front ++ '/' :: part).reverse = part.reverse ++ '/' :: front.reverse := by simp
  have inside := each_ne_slash (mt List.mem_reverse.mp whole)
  rw [List.rtakeWhile, backwards, List.takeWhile_append_of_pos inside]
  simp

theorem eq_of_append_slash {front part otherFront otherPart : List Char} (whole : '/' ∉ part)
    (otherWhole : '/' ∉ otherPart) (same : front ++ '/' :: part = otherFront ++ '/' :: otherPart) :
    front = otherFront ∧ part = otherPart := by
  have parts : part = otherPart := by
    rw [← rtakeWhile_append_slash whole, same, rtakeWhile_append_slash otherWhole]
  subst parts
  exact ⟨List.append_cancel_right same, rfl⟩

theorem findUrl_eq_iff {options others : ConnectOptions} {database other : String} :
    findUrl options database = findUrl others other ↔ options.baseUrl = others.baseUrl ∧ database = other := by
  constructor
  · intro same
    have chars := congrArg String.toList same
    rw [toList_findUrl, toList_findUrl] at chars
    obtain ⟨base, segment⟩ := eq_of_append_slash (slash_not_mem_encode database) (slash_not_mem_encode other)
      (List.append_cancel_right chars)
    exact ⟨String.toList_injective base, encode_injective segment⟩
  · rintro ⟨base, rfl⟩
    rw [findUrl, findUrl, base]

/-- Whatever the base and however many slashes end it, the URL is the base without them, a segment of unreserved
characters and escapes that stands for the bytes of the name, and the endpoint. No other name has this URL. -/
theorem database_encoded (base database : String) :
    ∃ stem segment : List Char,
      (∃ count, base.toList = stem ++ List.replicate count '/') ∧ stem.getLast? ≠ some '/' ∧
      Segment segment ∧ (∀ c ∈ segment, c ≠ '/' ∧ c ≠ '?' ∧ c ≠ '#') ∧
      decode? segment = some (Text.utf8 database) ∧
      (∀ count, findUrl (.ofUrl (base ++ String.ofList (List.replicate count '/'))) database =
        String.ofList (stem ++ '/' :: segment ++ "/_find".toList)) ∧
      ∀ (options : ConnectOptions) (other : String),
        findUrl options other = String.ofList (stem ++ '/' :: segment ++ "/_find".toList) ↔
          options.baseUrl = String.ofList stem ∧ other = database := by
  have trimmed (count : Nat) :
      (ConnectOptions.ofUrl (base ++ String.ofList (List.replicate count '/'))).baseUrl =
        String.ofList (trimSlashes base.toList) := by
    rw [ConnectOptions.ofUrl, String.toList_append, String.toList_ofList, trimSlashes_append_slashes]
  have url (count : Nat) : findUrl (.ofUrl (base ++ String.ofList (List.replicate count '/'))) database =
      String.ofList (trimSlashes base.toList ++ '/' :: encode database ++ "/_find".toList) := by
    apply String.toList_injective
    rw [toList_findUrl, trimmed, String.toList_ofList, String.toList_ofList]
    rfl
  have segment := segment_encode database
  refine ⟨trimSlashes base.toList, encode database, exists_eq_trimSlashes_append base.toList,
    getLast?_trimSlashes base.toList, segment, segment.ne_delimiter, decode?_encode database, url, ?_⟩
  intro options other
  rw [← url 0, findUrl_eq_iff, trimmed]

theorem database_encoded_escaped :
    findUrl (.ofUrl ("http://localhost:5984/" ++ String.ofList (List.replicate 2 '/'))) "50%/é" =
        "http://localhost:5984/50%25%2F%C3%A9/_find" ∧
      ∀ options, findUrl options "50%25%2F%C3%A9" ≠ "http://localhost:5984/50%25%2F%C3%A9/_find" := by
  obtain ⟨stem, segment, _, _, _, _, _, url, only⟩ := database_encoded "http://localhost:5984/" "50%/é"
  have written : findUrl (.ofUrl ("http://localhost:5984/" ++ String.ofList (List.replicate 2 '/'))) "50%/é" =
      "http://localhost:5984/50%25%2F%C3%A9/_find" := by decide
  refine ⟨written, fun options same => ?_⟩
  rw [← written, url 2] at same
  exact absurd ((only options _).mp same).2 (by decide)

end FindQuery.Http
