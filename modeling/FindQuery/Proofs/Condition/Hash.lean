import FindQuery.Proofs.Condition.Accepted
import FindQuery.Proofs.Condition.Shorthand

namespace FindQuery

namespace HashValue

def write (selector : Selector) (pair : String × HashValue) : Selector :=
  match pair.2 with
  | .literal value | .native value => selector.insert pair.1 value
  | .list values => selector.extend (membership .isIn pair.1 values)

theorem write_eq_insert (selector : Selector) (pair : String × HashValue) :
    write selector pair = selector.insert pair.1 pair.2.compile := by
  obtain ⟨key, value⟩ := pair
  cases value <;> rfl

theorem write_eq_extend (selector : Selector) (pair : String × HashValue) :
    write selector pair = selector.extend (.single pair.1 pair.2.compile) := by
  rw [write_eq_insert]
  rfl

/-- One pair of a hash as a condition of its own. A list is a membership there, and so its key is a column. -/
def explicit (pair : String × HashValue) : Condition :=
  match pair.2 with
  | .list values => .isIn pair.1 values
  | value => .hash [(pair.1, value)]

def HasColumn (pair : String × HashValue) : Prop := ∀ values, pair.2 = .list values → pair.1 ≠ ""

end HashValue

open HashValue (write explicit HasColumn)

theorem compileHash_eq_foldl (pairs : List (String × HashValue)) : compileHash pairs = pairs.foldl write .empty := by
  induction pairs using List.reverseRecOn with
  | nil => rfl
  | append_singleton pairs pair ih =>
    rw [List.foldl_append, List.foldl_cons, List.foldl_nil, ← ih, HashValue.write_eq_insert, compileHash,
      List.map_append]
    exact Selector.ext (Fields.ofList_concat _ (pair.1, pair.2.compile))

theorem keys_map_compile (pairs : List (String × HashValue)) :
    Fields.keys (pairs.map fun pair => (pair.1, pair.2.compile)) = pairs.map Prod.fst := by
  simp [Fields.keys, Function.comp_def]

theorem keys_compileHash (pairs : List (String × HashValue)) :
    (compileHash pairs).keys = (pairs.map Prod.fst).eraseDups := by
  rw [← keys_map_compile]
  exact Fields.keys_ofList _

theorem get?_compileHash {before after : List (String × HashValue)} {key : String} {value : HashValue}
    (last : key ∉ after.map Prod.fst) :
    (compileHash (before ++ (key, value) :: after)).get? key = some value.compile := by
  have fresh : key ∉ Fields.keys (after.map fun pair => (pair.1, pair.2.compile)) := by
    rwa [keys_map_compile]
  simp only [compileHash, List.map_append, List.map_cons]
  exact Fields.get?_ofList_of_last fresh

theorem entries_compileHash {pairs : List (String × HashValue)} (distinct : (pairs.map Prod.fst).Nodup) :
    (compileHash pairs).entries = pairs.map fun pair => (pair.1, pair.2.compile) := by
  apply Fields.ofList_of_nodup
  rwa [keys_map_compile]

/-- A hash is always compiled. Its keys are those of the pairs, each where it comes first, and the last pair of a key
decides what stands there, whatever kinds the others have. So distinct pairs without lists stay as they are. -/
theorem last_pair_compiled (accepts : String → Bool) (pairs : List (String × HashValue)) :
    ∃ fragment, (Condition.hash pairs).compileWith accepts = .ok fragment ∧
      fragment = pairs.foldl write .empty ∧
      fragment.keys = (pairs.map Prod.fst).eraseDups ∧
      (∀ before key value after, pairs = before ++ (key, value) :: after → key ∉ after.map Prod.fst →
        fragment.get? key = some
          (match value with
          | .literal written | .native written => written
          | .list values => .object [("$in", .array values)])) ∧
      ((pairs.map Prod.fst).Nodup → (∀ pair ∈ pairs, ∀ values, pair.2 ≠ .list values) →
        fragment.entries = pairs.map fun pair => (pair.1, pair.2.toJson)) := by
  refine ⟨compileHash pairs, rfl, compileHash_eq_foldl pairs, keys_compileHash pairs, ?_, ?_⟩
  · rintro before key value after rfl last
    rw [get?_compileHash last]
    cases value <;> rfl
  · intro distinct listless
    rw [entries_compileHash distinct]
    apply List.map_congr_left
    rintro ⟨key, value⟩ member
    cases value with
    | list values => exact absurd rfl (listless _ member values)
    | literal value | native value => rfl

def repeatedPairs : List (String × HashValue) :=
  [("tag", .literal .null), ("seen", .list []), ("tag", .list [.string "b"]),
    ("seen", .native (.object [("$gt", .null)]))]

theorem last_pair_compiled_repeated :
    ∃ fragment, (Condition.hash repeatedPairs).compile = .ok fragment ∧ fragment.keys = ["tag", "seen"] ∧
      fragment.get? "tag" = some (.object [("$in", .array [.string "b"])]) ∧
      fragment.get? "seen" = some (.object [("$gt", .null)]) := by
  obtain ⟨fragment, compiled, _, keys, last, _⟩ := last_pair_compiled Pattern.accepts repeatedPairs
  have distinct : (repeatedPairs.map Prod.fst).eraseDups = ["tag", "seen"] := by decide
  have tag := last (repeatedPairs.take 2) "tag" (.list [.string "b"]) (repeatedPairs.drop 3) rfl (by decide)
  have seen := last (repeatedPairs.take 3) "seen" (.native (.object [("$gt", .null)])) [] rfl (by decide)
  exact ⟨fragment, compiled, keys.trans distinct, tag, seen⟩

/-- Compiles the pairs of a hash one by one, and merges the fragments from left to right. -/
def compileMerged (accepts : String → Bool) (pairs : List (String × HashValue)) : Except Error Selector :=
  (pairs.mapM fun pair => (explicit pair).compileWith accepts).map (List.foldl Selector.extend .empty)

section

variable {accepts : String → Bool}

theorem compileWith_isIn_eq_ok_iff {column : String} {values : List Json} {fragment : Selector} :
    (Condition.isIn column values).compileWith accepts = .ok fragment ↔
      column ≠ "" ∧ membership .isIn column values = fragment := by
  have compiled : (Condition.isIn column values).compileWith accepts =
      Operator.isIn.compileMembership (.text column) (.value (.array values)) := rfl
  rw [compiled, Operator.compileMembership_eq_ok_iff]
  constructor
  · rintro ⟨name, value, ⟨same, named⟩ | ⟨same, _⟩, written, rfl⟩
    · cases same
      cases written
      exact ⟨named, rfl⟩
    · cases same
  · rintro ⟨named, rfl⟩
    exact ⟨column, .array values, .inl ⟨rfl, named⟩, rfl, rfl⟩

theorem compileWith_explicit_eq_ok_iff {pair : String × HashValue} {fragment : Selector} :
    (explicit pair).compileWith accepts = .ok fragment ↔
      HasColumn pair ∧ .single pair.1 pair.2.compile = fragment := by
  obtain ⟨key, value⟩ := pair
  cases value with
  | list values =>
    have column : HasColumn (key, .list values) ↔ key ≠ "" := by simp [HasColumn]
    rw [column]
    exact compileWith_isIn_eq_ok_iff
  | literal value | native value =>
    constructor
    · intro compiled
      exact ⟨fun values list => (by cases list), Except.ok.inj compiled⟩
    · rintro ⟨_, rfl⟩
      rfl

theorem foldl_extend_single (pairs : List (String × HashValue)) :
    (pairs.map fun pair => Selector.single pair.1 pair.2.compile).foldl Selector.extend .empty =
      compileHash pairs := by
  have routes : write = fun selector pair => selector.extend (.single pair.1 pair.2.compile) := by
    funext selector pair
    exact HashValue.write_eq_extend selector pair
  rw [List.foldl_map, compileHash_eq_foldl, routes]

theorem compileMerged_eq_ok_iff {pairs : List (String × HashValue)} {fragment : Selector} :
    compileMerged accepts pairs = .ok fragment ↔
      (∀ pair ∈ pairs, HasColumn pair) ∧ fragment = compileHash pairs := by
  -- A pair is compiled just if its list has a column, and then into what the hash has under its key.
  simp only [compileMerged, map_eq_ok_iff, mapM_eq_ok_iff, compileWith_explicit_eq_ok_iff, List.forall₂_and_left,
    ← List.forall₂_map_left_iff, List.forall₂_eq_eq_eq]
  constructor
  · rintro ⟨fragments, ⟨columns, rfl⟩, rfl⟩
    exact ⟨columns, foldl_extend_single pairs⟩
  · rintro ⟨columns, rfl⟩
    exact ⟨_, ⟨columns, rfl⟩, foldl_extend_single pairs⟩

theorem hash_eq_merged_iff_hasColumn {pairs : List (String × HashValue)} :
    (Condition.hash pairs).compileWith accepts = compileMerged accepts pairs ↔ ∀ pair ∈ pairs, HasColumn pair := by
  rw [Condition.compileWith, eq_comm, compileMerged_eq_ok_iff]
  exact and_iff_left rfl

theorem ofPairs_list {column : String} (plain : Token.isNative column = false) (values : List Json) :
    Condition.ofPairs [(column, .array values)] = .hash [(column, .list values)] := by
  simp [Condition.ofPairs, HashValue.classify, plain]

end

/-- A list under a name means the same as a membership in it, and a hash the same as its pairs, written so and merged,
just if no list is under the empty name. No operator takes that for a column, but a hash does not look. -/
theorem hash_eq_merged_iff (accepts : String → Bool) :
    (∀ column values, Token.isNative column = false →
      Condition.ofJson (.object [(column, .array values)]) = .ok (.ofPairs [(column, .array values)]) ∧
      Condition.ofJson (.array [.string "IN", .string column, .array values]) = .ok (.isIn column values) ∧
      ((Condition.ofPairs [(column, .array values)]).compileWith accepts =
        (Condition.isIn column values).compileWith accepts ↔ column ≠ "")) ∧
    ∀ pairs, (Condition.hash pairs).compileWith accepts = compileMerged accepts pairs ↔
      ∀ pair ∈ pairs, ∀ values, pair.2 = .list values → pair.1 ≠ "" := by
  refine ⟨fun column values plain => ⟨rfl, rfl, ?_⟩, fun pairs => hash_eq_merged_iff_hasColumn⟩
  rw [ofPairs_list plain, Condition.compileWith, eq_comm, compileWith_isIn_eq_ok_iff]
  exact and_iff_left rfl

theorem hash_eq_merged_iff_repeated :
    Token.isNative "tag" = false ∧
      (Condition.ofPairs [("tag", .array [.string "b"])]).compile = (Condition.isIn "tag" [.string "b"]).compile ∧
      (Condition.hash repeatedPairs).compile = compileMerged Pattern.accepts repeatedPairs := by
  have plain : Token.isNative "tag" = false := by decide
  obtain ⟨single, merged⟩ := hash_eq_merged_iff Pattern.accepts
  obtain ⟨_, _, agree⟩ := single "tag" [.string "b"] plain
  refine ⟨plain, agree.mpr (by decide), (merged repeatedPairs).mpr ?_⟩
  intro pair member values _
  simp only [repeatedPairs, List.mem_cons, List.not_mem_nil, or_false] at member
  rcases member with rfl | rfl | rfl | rfl <;> decide

theorem namelessList_ne_membership :
    Token.isNative "" = false ∧
      (Condition.ofPairs [("", .array [.null])]).compile = .ok (.single "" (.object [("$in", .array [.null])])) ∧
      (Condition.isIn "" [.null]).compile = .error (.malformedCondition (.columnNotNamed .isIn (.text ""))) ∧
      (Condition.ofPairs [("", .array [.null])]).compile ≠ (Condition.isIn "" [.null]).compile := by
  refine ⟨by decide, rfl, rfl, ?_⟩
  intro same
  cases same

end FindQuery
