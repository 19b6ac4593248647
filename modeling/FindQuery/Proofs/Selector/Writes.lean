import Mathlib.Data.Finset.Card
import FindQuery.Proofs.Json.Equality

namespace FindQuery

theorem eraseDups_append_eraseDups (names others : List String) :
    (names ++ others.eraseDups).eraseDups = (names ++ others).eraseDups := by
  induction others using List.reverseRecOn with
  | nil => rfl
  | append_singleton others name ih =>
    rw [eraseDups_concat, ← List.append_assoc, eraseDups_concat]
    split
    · next there => rw [if_pos (List.mem_append_right _ there), ih]
    · next fresh =>
      rw [← List.append_assoc, eraseDups_concat, ih]
      simp only [List.mem_append, List.mem_eraseDups]

theorem pairwise_idxOf_eraseDups (names : List String) :
    names.eraseDups.Pairwise fun first later => names.idxOf first < names.idxOf later := by
  induction names using List.reverseRecOn with
  | nil => simp
  | append_singleton names name ih =>
    have kept : names.eraseDups.Pairwise fun first later =>
        (names ++ [name]).idxOf first < (names ++ [name]).idxOf later := by
      refine ih.imp_of_mem fun {first later} firstMember laterMember before => ?_
      rw [List.mem_eraseDups] at firstMember laterMember
      rwa [List.idxOf_append_of_mem firstMember, List.idxOf_append_of_mem laterMember]
    rw [eraseDups_concat]
    split
    · exact kept
    · next fresh =>
      -- A name that is new stands behind all that have been kept.
      refine List.pairwise_append.mpr ⟨kept, List.pairwise_singleton _ _, fun first firstMember later laterMember => ?_⟩
      rw [List.mem_eraseDups] at firstMember
      rw [List.mem_singleton] at laterMember
      subst laterMember
      rw [List.idxOf_append_of_mem firstMember, List.idxOf_append_of_notMem fresh]
      have bound := List.idxOf_lt_length_of_mem firstMember
      omega

namespace Fields

theorem extend_append (fields writes others : Fields) :
    extend fields (writes ++ others) = extend (extend fields writes) others := List.foldl_append

theorem eq_of_get? {fields others : Fields} (distinct : (keys fields).Nodup) (sameKeys : keys fields = keys others)
    (found : ∀ key, get? key fields = get? key others) : fields = others := by
  have otherDistinct : (keys others).Nodup := sameKeys ▸ distinct
  apply List.ext_getElem
  · simpa [keys] using congrArg List.length sameKeys
  · intro place inside otherInside
    have key : fields[place].1 = others[place].1 := by
      have name := List.getElem_of_eq sameKeys (by simpa [keys] using inside)
      simpa [keys] using name
    have value : get? fields[place].1 fields = some fields[place].2 :=
      (mem_iff_get? distinct _ _).mp (List.getElem_mem inside)
    have otherValue : get? others[place].1 others = some others[place].2 :=
      (mem_iff_get? otherDistinct _ _).mp (List.getElem_mem otherInside)
    rw [found, key, otherValue, Option.some.injEq] at value
    exact Prod.ext key value.symm

theorem ofList_append_ofList (writes others : Fields) :
    ofList (writes ++ ofList others) = ofList (writes ++ others) := by
  refine eq_of_get? (nodup_keys_ofList _) ?_ fun key => ?_
  · have appended (fields others : Fields) : keys (fields ++ others) = keys fields ++ keys others := List.map_append
    rw [keys_ofList, keys_ofList, appended, appended, keys_ofList]
    exact eraseDups_append_eraseDups (keys writes) (keys others)
  · have last : (ofList others).reverse.lookup key = others.reverse.lookup key := by
      rw [← get?_ofList, ofList_of_nodup (nodup_keys_ofList others), get?_ofList]
    simp only [get?_ofList, List.reverse_append, List.lookup_append, last]

end Fields

namespace Selector

inductive Write where
  | insert (key : String) (value : Json)
  | extend (other : Selector)

def Write.entries : Write → Fields
  | .insert key value => [(key, value)]
  | .extend other => other.entries

def Write.apply (selector : Selector) : Write → Selector
  | .insert key value => (selector.getThenInsert key value).2
  | .extend other => selector.extend other

def run (writes : List Write) : Selector := writes.foldl Write.apply .empty

def written (writes : List Write) : Fields := writes.flatMap Write.entries

theorem entries_apply (selector : Selector) (write : Write) :
    (write.apply selector).entries = Fields.extend selector.entries write.entries := by
  cases write with
  | insert key value =>
    rw [Write.apply, getThenInsert_eq]
    rfl
  | extend other => rfl

theorem run_concat (writes : List Write) (write : Write) : run (writes ++ [write]) = write.apply (run writes) :=
  List.foldl_append

theorem entries_run (writes : List Write) : (run writes).entries = Fields.ofList (written writes) := by
  induction writes using List.reverseRecOn with
  | nil => rfl
  | append_singleton writes write ih =>
    have more : written (writes ++ [write]) = written writes ++ write.entries := by simp [written]
    rw [run_concat, entries_apply, ih, more]
    exact (Fields.extend_append [] _ _).symm

theorem keys_run (writes : List Write) : (run writes).keys = (Fields.keys (written writes)).eraseDups := by
  rw [keys, entries_run, Fields.keys_ofList]

theorem get?_run (writes : List Write) (key : String) :
    (run writes).get? key = (written writes).reverse.lookup key := by
  rw [get?, entries_run, Fields.get?_ofList]

theorem size_run (writes : List Write) : (run writes).size = (Fields.keys (written writes)).toFinset.card := by
  have names : (run writes).keys.toFinset = (Fields.keys (written writes)).toFinset := by
    ext name
    rw [List.mem_toFinset, List.mem_toFinset, keys_run, List.mem_eraseDups]
  have distinct : (run writes).keys.Nodup := (run writes).nodup_keys
  rw [← names, List.toFinset_card_of_nodup distinct, size, keys, Fields.keys, List.length_map]

theorem entries_extend (a b : Selector) : (a.extend b).entries = Fields.ofList (a.entries ++ b.entries) := by
  have grouped : Fields.ofList (a.entries ++ b.entries) = (Fields.ofList a.entries).extend b.entries :=
    Fields.extend_append [] _ _
  rw [grouped, ofList_entries]
  rfl

theorem extend_assoc (a b c : Selector) : (a.extend b).extend c = a.extend (b.extend c) := by
  apply ext
  have grouped : Fields.extend (Fields.ofList (a.entries ++ b.entries)) c.entries =
      Fields.ofList (a.entries ++ b.entries ++ c.entries) := (Fields.extend_append [] _ _).symm
  rw [entries_extend a (b.extend c), entries_extend b c, Fields.ofList_append_ofList, ← List.append_assoc, ← grouped,
    ← entries_extend a b]
  rfl

theorem get?_extend (a b : Selector) (key : String) : (a.extend b).get? key = (b.get? key).or (a.get? key) := by
  have last : b.entries.reverse.lookup key = b.get? key := by
    rw [← Fields.get?_ofList, ofList_entries]
    rfl
  rw [← last]
  exact Fields.get?_extend a.entries b.entries key

theorem wellFormed_of_get? {a : Selector} (formed : a.toJson.WellFormed) {key : String} {value : Json}
    (found : a.get? key = some value) : value.WellFormed :=
  Json.wellFormedFields_iff.mp formed.2 _ (mem_entries_iff.mpr found)

theorem equal_extend_comm_iff {a b : Selector} (formed : a.toJson.WellFormed) (otherFormed : b.toJson.WellFormed) :
    (a.extend b).Equal (b.extend a) ↔
      ∀ key value other, a.get? key = some value → b.get? key = some other → value.Equal other := by
  have under (key : String) : Fields.get? key (a.extend b).entries = (b.get? key).or (a.get? key) := get?_extend a b key
  have otherUnder (key : String) : Fields.get? key (b.extend a).entries = (a.get? key).or (b.get? key) :=
    get?_extend b a key
  rw [equal_iff_agree]
  constructor
  · intro agree key value other found otherFound
    have related := agree key
    rw [under, otherUnder, found, otherFound] at related
    cases related with
    | some equal =>
      exact Json.equal_symm (wellFormed_of_get? otherFormed otherFound) (wellFormed_of_get? formed found) equal
  · intro shared key
    rw [under, otherUnder]
    cases found : a.get? key with
    | none =>
      cases otherFound : b.get? key with
      | none => exact .none
      | some other => exact .some (Json.equal_refl (wellFormed_of_get? otherFormed otherFound))
    | some value =>
      cases otherFound : b.get? key with
      | none => exact .some (Json.equal_refl (wellFormed_of_get? formed found))
      | some other =>
        have equal := shared key value other found otherFound
        exact .some
          (Json.equal_symm (wellFormed_of_get? formed found) (wellFormed_of_get? otherFormed otherFound) equal)

/-- A run of writes leaves each key that was written, once and in the order of the first writes, with the value of the
last; and each insertion gives back the value of the last write before it. It does not matter how selectors are grouped
that are written one after the other. In which order two of them are written matters exactly for the keys that they do
not agree on. -/
theorem run_written (writes : List Write) :
    (run writes).keys.Nodup ∧
    (∀ key, key ∈ (run writes).keys ↔ key ∈ Fields.keys (written writes)) ∧
    (run writes).keys.Pairwise (fun first later =>
      (Fields.keys (written writes)).idxOf first < (Fields.keys (written writes)).idxOf later) ∧
    (∀ key, (run writes).get? key = (written writes).reverse.lookup key) ∧
    (∀ key value, (run writes).getThenInsert key value =
      ((written writes).reverse.lookup key, run (writes ++ [.insert key value]))) ∧
    (run writes).size = (Fields.keys (written writes)).toFinset.card ∧
    (∀ a b c : Selector, (a.extend b).extend c = a.extend (b.extend c)) ∧
    (∀ a : Selector, a.extend .empty = a ∧ empty.extend a = a) ∧
    ∀ a b : Selector, a.toJson.WellFormed → b.toJson.WellFormed →
      ((a.extend b).Equal (b.extend a) ↔
        ∀ key value other, a.get? key = some value → b.get? key = some other → value.Equal other) := by
  refine ⟨(run writes).nodup_keys, ?_, ?_, get?_run writes, ?_, size_run writes, extend_assoc, ?_,
    fun _ _ => equal_extend_comm_iff⟩
  · intro key
    rw [keys_run, List.mem_eraseDups]
  · rw [keys_run]
    exact pairwise_idxOf_eraseDups _
  · intro key value
    rw [run_concat, Write.apply, getThenInsert_eq, get?_run]
  · intro a
    exact ⟨rfl, ofFields_entries a⟩

def retitling : List Write :=
  [.insert "title" (.string "M"), .insert "year" (.ofUInt64 1931),
    .extend ⟨[("rank", .null), ("title", .string "N")], by decide⟩]

def boundedYear : Selector := ⟨[("year", .object [("$gte", .ofUInt64 1), ("$lte", .ofUInt64 9)])], by decide⟩

def turnedYear : Selector :=
  ⟨[("title", .string "M"), ("year", .object [("$lte", .ofUInt64 9), ("$gte", .ofUInt64 1)])], by decide⟩

theorem run_written_retitled :
    (run retitling).get? "title" = some (.string "N") ∧
      (run retitling).getThenInsert "rank" (.bool true) =
        (some .null, run (retitling ++ [.insert "rank" (.bool true)])) ∧
      (run retitling).size = 3 ∧
      boundedYear.toJson.WellFormed ∧ turnedYear.toJson.WellFormed ∧
      (boundedYear.extend turnedYear).Equal (turnedYear.extend boundedYear) := by
  obtain ⟨_, _, _, values, returned, size, _, _, commuted⟩ := run_written retitling
  have formed : boundedYear.toJson.WellFormed :=
    ⟨boundedYear.nodup_keys, ⟨by decide, trivial, trivial, trivial⟩, trivial⟩
  have turnedFormed : turnedYear.toJson.WellFormed :=
    ⟨turnedYear.nodup_keys, trivial, ⟨by decide, trivial, trivial, trivial⟩, trivial⟩
  refine ⟨values "title", returned "rank" _, size, formed, turnedFormed, ?_⟩
  refine (commuted boundedYear turnedYear formed turnedFormed).mpr fun key value other found otherFound => ?_
  have member := mem_entries_iff.mpr found
  rw [boundedYear, List.mem_singleton, Prod.mk.injEq] at member
  obtain ⟨rfl, rfl⟩ := member
  cases otherFound
  rfl

end Selector

end FindQuery
