import FindQuery.Proofs.Http.Path

namespace FindQuery.Http

open Text.Percent (encode encode_injective)

abbrev Plain (part : List Char) : Prop := '/' ∉ part ∧ '?' ∉ part ∧ '#' ∉ part

/-- A base URL in its parts: it has no query and no fragment, and its path has no dot segments. -/
structure BaseUrl where
  scheme : List Char
  authority : List Char
  path : List (List Char)
  scheme_plain : ':' ∉ scheme ∧ Plain scheme := by decide
  authority_ne_nil : authority ≠ [] := by decide
  authority_plain : Plain authority := by decide
  path_plain : ∀ part ∈ path, Plain part := by decide
  path_ordinary : ∀ part ∈ path, part ≠ ['.'] ∧ part ≠ ['.', '.'] := by decide

theorem trimSlashes_of_getLast? {url : List Char} (last : url.getLast? ≠ some '/') : trimSlashes url = url := by
  refine List.rdropWhile_eq_self_iff.mpr fun some slash => last ?_
  rw [List.getLast?_eq_some_getLast some, of_decide_eq_true slash]

theorem trimSlashes_joinSegments {front : List Char} (last : front.getLast? ≠ some '/') {path : List (List Char)}
    (whole : Whole path) :
    trimSlashes (front ++ joinSegments path) = front ++ joinSegments (path.rdropWhile List.isEmpty) := by
  induction path using List.reverseRecOn with
  | nil =>
    rw [List.rdropWhile_nil, joinSegments, List.flatMap_nil, List.append_nil]
    exact trimSlashes_of_getLast? last
  | append_singleton path part ih =>
    have partWhole : '/' ∉ part := whole part (by simp)
    have pathWhole : Whole path := fun other member => whole other (List.mem_append_left _ member)
    rw [joinSegments_concat, ← List.append_assoc]
    -- A slash at the end is a last segment without characters.
    cases part with
    | nil =>
      rw [List.rdropWhile_concat_pos _ _ _ List.isEmpty_nil, ← ih pathWhole]
      exact trimSlashes_append_slashes _ 1
    | cons c rest =>
      rw [List.rdropWhile_concat_neg _ _ _ (by simp), joinSegments_concat, ← List.append_assoc]
      refine trimSlashes_of_getLast? fun slash => partWhole ?_
      rw [List.getLast?_append_cons, List.getLast?_cons_cons] at slash
      exact List.mem_of_getLast? slash

namespace BaseUrl

variable (base : BaseUrl)

def origin : List Char := base.scheme ++ ':' :: '/' :: '/' :: base.authority

def text : String := String.ofList (base.origin ++ joinSegments base.path)

def kept : List (List Char) := base.path.rdropWhile List.isEmpty

theorem kept_subset : base.kept ⊆ base.path := (List.rdropWhile_prefix _ _).subset

theorem whole_path : Whole base.path := fun part member => (base.path_plain part member).1

theorem whole_kept : Whole base.kept := fun part member => base.whole_path part (base.kept_subset member)

theorem getLast?_origin : base.origin.getLast? ≠ some '/' := by
  intro last
  rw [origin, List.append_cons, List.append_cons, List.append_cons] at last
  rw [List.getLast?_append_of_ne_nil _ base.authority_ne_nil] at last
  exact base.authority_plain.1 (List.mem_of_getLast? last)

theorem baseUrl_ofUrl_text :
    (ConnectOptions.ofUrl base.text).baseUrl = String.ofList (base.origin ++ joinSegments base.kept) := by
  rw [ConnectOptions.ofUrl, text, String.toList_ofList, trimSlashes_joinSegments base.getLast?_origin base.whole_path]
  rfl

theorem afterHost_origin (rest : List Char) : afterHost (base.origin ++ '/' :: rest) = '/' :: rest := by
  have scheme (chars : List Char) (plain : ':' ∉ chars) (others : List Char) :
      afterHost (chars ++ ':' :: '/' :: '/' :: others) = others.dropWhile (· ≠ '/') := by
    induction chars with
    | nil => rfl
    | cons c chars ih =>
      rw [List.mem_cons, not_or] at plain
      rw [List.cons_append, afterHost, ih plain.2]
      rintro _ rfl
      exact absurd rfl plain.1
  have grouped : base.origin ++ '/' :: rest =
      base.scheme ++ ':' :: '/' :: '/' :: (base.authority ++ '/' :: rest) := by simp [origin]
  rw [grouped, scheme _ base.scheme_plain.1,
    List.dropWhile_append_of_pos (each_ne_slash base.authority_plain.1)]
  simp

def endpoint : List Char := findEndpoint.toList

def segmentsUnder (database : String) : List (List Char) := base.kept ++ [encode database, endpoint]

def segmentsReached (database : String) : List (List Char) :=
  if database = "." then base.kept ++ [endpoint]
  else if database = ".." then base.kept.dropLast ++ [endpoint]
  else base.segmentsUnder database

theorem whole_segmentsUnder (database : String) : Whole (base.segmentsUnder database) := by
  refine List.forall_mem_append.mpr ⟨base.whole_kept, ?_⟩
  exact List.forall_mem_cons.mpr ⟨slash_not_mem_encode database, List.forall_mem_singleton.mpr (by decide)⟩

theorem whole_segmentsReached (database : String) : Whole (base.segmentsReached database) := by
  have last : ∀ part ∈ [endpoint], '/' ∉ part := List.forall_mem_singleton.mpr (by decide)
  unfold segmentsReached
  split
  · exact List.forall_mem_append.mpr ⟨base.whole_kept, last⟩
  · split
    · have parent : Whole base.kept.dropLast := fun part member => base.whole_kept part (List.dropLast_subset _ member)
      exact List.forall_mem_append.mpr ⟨parent, last⟩
    · exact base.whole_segmentsUnder database

theorem resolveFrom_segmentsUnder (database : String) :
    resolveFrom [] (base.segmentsUnder database) = base.segmentsReached database := by
  have ordinary : ∀ part ∈ base.kept, part ≠ ['.'] ∧ part ≠ ['.', '.'] :=
    fun part member => base.path_ordinary part (base.kept_subset member)
  rw [segmentsUnder, resolveFrom_append ordinary, List.append_nil, segmentsReached]
  split
  · next dot =>
    subst dot
    have written : encode "." = ['.'] := by decide
    simp [written, resolveFrom, endpoint, findEndpoint]
  · next notDot =>
    split
    · next dots =>
      subst dots
      have written : encode ".." = ['.', '.'] := by decide
      simp [written, resolveFrom, endpoint, findEndpoint]
    · next notDots =>
      have one : encode database ≠ ['.'] := fun same => notDot (encode_injective same)
      have two : encode database ≠ ['.', '.'] := fun same => notDots (encode_injective same)
      have last : ∀ part ∈ [encode database, endpoint], part ≠ ['.'] ∧ part ≠ ['.', '.'] :=
        List.forall_mem_cons.mpr ⟨⟨one, two⟩, List.forall_mem_singleton.mpr (by decide)⟩
      have kept := resolveFrom_append last base.kept.reverse []
      simpa [resolveFrom, segmentsUnder] using kept

theorem afterHost_findUrl (database : String) :
    afterHost (findUrl (.ofUrl base.text) database).toList = joinSegments (base.segmentsUnder database) := by
  have path : joinSegments (base.segmentsUnder database) =
      joinSegments base.kept ++ '/' :: (encode database ++ '/' :: endpoint) := by
    simp [segmentsUnder, joinSegments]
  have url : (findUrl (.ofUrl base.text) database).toList =
      base.origin ++ joinSegments (base.segmentsUnder database) := by
    rw [toList_findUrl, baseUrl_ofUrl_text, String.toList_ofList, path]
    simp [endpoint]
  have absolute : ∃ rest, joinSegments (base.segmentsUnder database) = '/' :: rest := by
    unfold segmentsUnder
    cases base.kept with
    | nil => exact ⟨_, rfl⟩
    | cons part parts => exact ⟨_, rfl⟩
  obtain ⟨rest, absolute⟩ := absolute
  rw [url, absolute, afterHost_origin]

theorem requestPath_findUrl (database : String) :
    requestPath (findUrl (.ofUrl base.text) database) =
      String.ofList (joinSegments (base.segmentsReached database)) := by
  rw [requestPath, afterHost_findUrl, removeDotSegments, segments_joinSegments (base.whole_segmentsUnder database),
    List.drop_one, List.tail_cons, resolveFrom_segmentsUnder]

theorem segmentsReached_eq_under_iff {database other : String} :
    base.segmentsReached other = base.segmentsUnder database ↔ other = database ∧ database ≠ "." ∧ database ≠ ".." := by
  -- A path of fewer segments cannot be that of a database.
  have shorter : base.kept.dropLast.length ≤ base.kept.length := by simp
  have longer {parts : List (List Char)} (bound : parts.length ≤ base.kept.length) :
      parts ++ [endpoint] ≠ base.segmentsUnder database := by
    intro same
    have lengths := congrArg List.length same
    simp only [segmentsUnder, List.length_append, List.length_cons, List.length_nil] at lengths
    omega
  unfold segmentsReached
  split
  · next dot =>
    refine iff_of_false (longer le_rfl) ?_
    rintro ⟨rfl, notDot, _⟩
    exact notDot dot
  · next notDot =>
    split
    · next dots =>
      refine iff_of_false (longer shorter) ?_
      rintro ⟨rfl, _, notDots⟩
      exact notDots dots
    · next notDots =>
      constructor
      · intro same
        obtain ⟨written, _⟩ := List.cons.inj (List.append_cancel_left same)
        obtain rfl := encode_injective written
        exact ⟨rfl, notDot, notDots⟩
      · rintro ⟨rfl, _⟩
        rfl

end BaseUrl

theorem joinSegments_injective {parts others : List (List Char)} (whole : Whole parts) (othersWhole : Whole others)
    (same : joinSegments parts = joinSegments others) : parts = others := by
  have divided := segments_joinSegments whole
  rw [same, segments_joinSegments othersWhole] at divided
  exact (List.cons.inj divided).2.symm

/-- A request is sent to the path that the standard removal of dot segments leaves. It is at the segment of
the database, directly under the path of the base, exactly if the name of the database is no dot segment; and
then no other name leads there. One dot leads to the endpoint of the base itself, and two to that of its parent. -/
theorem request_under_base_iff (base : BaseUrl) (database : String) :
    (∀ name, requestPath (findUrl (.ofUrl base.text) name) =
      String.ofList (reduceDots (joinSegments (base.kept ++ [encode name, findEndpoint.toList])) [])) ∧
    (∀ other, requestPath (findUrl (.ofUrl base.text) other) =
        String.ofList (joinSegments (base.kept ++ [encode database, findEndpoint.toList])) ↔
      other = database ∧ database ≠ "." ∧ database ≠ "..") ∧
    requestPath (findUrl (.ofUrl base.text) ".") =
      String.ofList (joinSegments (base.kept ++ [findEndpoint.toList])) ∧
    requestPath (findUrl (.ofUrl base.text) "..") =
      String.ofList (joinSegments (base.kept.dropLast ++ [findEndpoint.toList])) := by
  refine ⟨?_, ?_, base.requestPath_findUrl ".", base.requestPath_findUrl ".."⟩
  · intro name
    rw [requestPath_eq_reduceDots, base.afterHost_findUrl]
    rfl
  · intro other
    rw [base.requestPath_findUrl, String.ofList_inj]
    refine Iff.trans ⟨fun same => ?_, fun same => congrArg joinSegments same⟩ base.segmentsReached_eq_under_iff
    exact joinSegments_injective (base.whole_segmentsReached other) (base.whole_segmentsUnder database) same

def filmsBase : BaseUrl where
  scheme := "http".toList
  authority := "localhost:5984".toList
  path := ["films".toList, []]

theorem request_under_base_iff_slashed :
    requestPath (findUrl (.ofUrl filmsBase.text) "my/db") = "/films/my%2Fdb/_find" ∧
      ∀ other, requestPath (findUrl (.ofUrl filmsBase.text) other) = "/films/my%2Fdb/_find" ↔ other = "my/db" := by
  obtain ⟨_, under, _, _⟩ := request_under_base_iff filmsBase "my/db"
  have path : String.ofList (joinSegments (filmsBase.kept ++ [encode "my/db", findEndpoint.toList])) =
      "/films/my%2Fdb/_find" := by decide
  rw [path] at under
  have ordinary : "my/db" ≠ "." ∧ "my/db" ≠ ".." := by decide
  exact ⟨(under "my/db").mpr ⟨rfl, ordinary⟩, fun other => (under other).trans (and_iff_left ordinary)⟩

/-- A name of two dots takes the request out of the base. -/
theorem dots_leave_base :
    filmsBase.text = "http://localhost:5984/films/" ∧
      findUrl (.ofUrl filmsBase.text) ".." = "http://localhost:5984/films/../_find" ∧
      requestPath (findUrl (.ofUrl filmsBase.text) "..") = "/_find" ∧
      requestPath (findUrl (.ofUrl filmsBase.text) "..") ≠
        String.ofList (joinSegments (filmsBase.kept ++ [encode "..", findEndpoint.toList])) := by
  decide

end FindQuery.Http
