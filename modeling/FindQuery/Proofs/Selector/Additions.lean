import FindQuery.Proofs.Selector.Evaluation
import FindQuery.Selector.Doc

namespace FindQuery

namespace Selector

variable {selector extra : Selector}

theorem hasKey_insert (selector : Selector) (key k : String) (value : Json) :
    (selector.insert key value).hasKey k = (k == key || selector.hasKey k) := by
  simp only [hasKey, Fields.hasKey_eq_isSome, insert, Fields.get?_insert]
  by_cases same : k = key
  · rw [if_pos same, beq_iff_eq.mpr same]
    rfl
  · rw [if_neg same, beq_eq_false_iff_ne.mpr same]
    rfl

theorem entries_addMissing (selector extra : Selector) :
    (selector.addMissing extra).entries =
      selector.entries ++ extra.entries.filter fun entry => !selector.hasKey entry.1 := by
  have each (entries : Fields) (distinct : (Fields.keys entries).Nodup) (selector : Selector) :
      (entries.foldl (fun selector entry =>
        if selector.hasKey entry.1 then selector else selector.insert entry.1 entry.2) selector).entries =
        selector.entries ++ entries.filter fun entry => !selector.hasKey entry.1 := by
    induction entries generalizing selector with
    | nil => exact (List.append_nil _).symm
    | cons entry rest ih =>
      obtain ⟨fresh, distinct⟩ := List.nodup_cons.mp distinct
      rw [List.foldl_cons, ih distinct, List.filter_cons]
      by_cases there : selector.hasKey entry.1 = true
      · simp [there]
      · have inserted : (selector.insert entry.1 entry.2).entries = selector.entries ++ [entry] :=
          Fields.insert_of_not_mem (by simpa [hasKey, Fields.hasKey] using there)
        -- No later entry has the key that has just been added.
        have later : (rest.filter fun other => !(selector.insert entry.1 entry.2).hasKey other.1) =
            rest.filter fun other => !selector.hasKey other.1 := by
          refine List.filter_congr fun other member => ?_
          have different : (other.1 == entry.1) = false :=
            beq_eq_false_iff_ne.mpr fun same => fresh (same ▸ List.mem_map_of_mem member)
          rw [hasKey_insert, different, Bool.false_or]
        rw [if_neg there, inserted, later, if_pos (by simpa using there), List.append_assoc, List.singleton_append]
  exact each extra.entries extra.nodup_keys selector

theorem hasKey_addMissing (selector extra : Selector) (key : String) :
    (selector.addMissing extra).hasKey key = (selector.hasKey key || extra.hasKey key) := by
  simp only [hasKey, Fields.hasKey_eq_isSome]
  have found := get?_addMissing selector extra key
  simp only [get?] at found
  rw [found, Option.isSome_or]

theorem addMissing_of_isEmpty (none : extra.isEmpty = true) : selector.addMissing extra = selector := by
  apply ext
  rw [entries_addMissing, List.isEmpty_iff.mp none, List.filter_nil, List.append_nil]

theorem addMissing_of_isEmpty_left (none : selector.isEmpty = true) : selector.addMissing extra = extra := by
  have entries : selector.entries = [] := List.isEmpty_iff.mp none
  apply ext
  simp [entries_addMissing, entries, hasKey, Fields.hasKey, Fields.keys]

theorem addMissing_self (selector : Selector) : selector.addMissing selector = selector := by
  apply ext
  rw [entries_addMissing, List.append_right_eq_self, List.filter_eq_nil_iff]
  intro entry member
  have there : selector.hasKey entry.1 = true := List.contains_iff_mem.mpr (List.mem_map_of_mem member)
  simp [there]

theorem addMissing_assoc (selector extra second : Selector) :
    (selector.addMissing extra).addMissing second = selector.addMissing (extra.addMissing second) := by
  apply ext
  simp only [entries_addMissing, hasKey_addMissing, List.filter_append, List.filter_filter, List.append_assoc,
    Bool.not_or]

theorem isEmpty_iff_get? : selector.isEmpty = true ↔ ∀ key, selector.get? key = none := by
  rw [isEmpty, List.isEmpty_iff]
  constructor
  · intro none key
    rw [get?, none]
    rfl
  · intro absent
    refine List.eq_nil_iff_forall_not_mem.mpr ?_
    rintro ⟨key, value⟩ member
    rw [mem_entries_iff, absent key] at member
    cases member

theorem isEmpty_addMissing :
    (selector.addMissing extra).isEmpty = true ↔ selector.isEmpty = true ∧ extra.isEmpty = true := by
  simp only [isEmpty_iff_get?, get?_addMissing, Option.or_eq_none_iff, forall_and]

end Selector

namespace SelectorDoc

theorem withConstraints_of_isEmpty {extra : Selector} (none : extra.isEmpty = true) (doc : SelectorDoc) :
    doc.withConstraints extra = doc := if_pos none

theorem withConstraints_structured (selector extra : Selector) :
    (SelectorDoc.structured selector).withConstraints extra = .structured (selector.addMissing extra) := by
  by_cases none : extra.isEmpty = true
  · rw [withConstraints_of_isEmpty none, Selector.addMissing_of_isEmpty none]
  · rw [withConstraints, if_neg none]

theorem withConstraints_text (source : String) {extra : Selector} (some : ¬ extra.isEmpty = true) :
    (SelectorDoc.text source).withConstraints extra = .text (conjunctionText source extra) := by
  rw [withConstraints, if_neg some]
  rfl

theorem withConstraints_other {value : Json} (bare : ∀ fields, value ≠ .object fields) {extra : Selector}
    (some : ¬ extra.isEmpty = true) :
    (SelectorDoc.other value).withConstraints extra =
      .structured (.single "$and" (.array [value, extra.toJson])) := by
  unfold SelectorDoc.withConstraints
  rw [if_neg some]
  cases value with
  | object fields => exact absurd rfl (bare fields)
  | _ => rfl

theorem constrains_other {value : Json} (bare : ∀ fields, value ≠ .object fields) (field : String) :
    (SelectorDoc.other value).constrains field = false := by
  cases value with
  | object fields => exact absurd rfl (bare fields)
  | _ => rfl

/-- A document that is an object with the entries of a selector, whichever form it is held in. -/
inductive IsObject (own : Selector) : SelectorDoc → Prop
  | structured : IsObject own (.structured own)
  | other : IsObject own (.other (.object own.entries))

namespace IsObject

variable {own extra : Selector} {doc : SelectorDoc}

theorem withConstraints_of_some (object : IsObject own doc) (some : ¬ extra.isEmpty = true) :
    doc.withConstraints extra = .structured (own.addMissing extra) := by
  cases object with
  | structured => exact withConstraints_structured own extra
  | other =>
    rw [SelectorDoc.withConstraints, if_neg some]
    exact congrArg (fun selector : Selector => SelectorDoc.structured (selector.addMissing extra))
      (Selector.ofFields_entries own)

theorem withConstraints (object : IsObject own doc) (extra : Selector) :
    IsObject (own.addMissing extra) (doc.withConstraints extra) := by
  by_cases none : extra.isEmpty = true
  · rw [withConstraints_of_isEmpty none, Selector.addMissing_of_isEmpty none]
    exact object
  · rw [object.withConstraints_of_some none]
    exact .structured

theorem constrains_eq (object : IsObject own doc) (key : String) : doc.constrains key = own.hasKey key := by
  cases object <;> rfl

theorem toJson_eq (object : IsObject own doc) : doc.toJson = .ok (.object own.entries) := by
  cases object <;> rfl

theorem withConstraints_withConstraints (object : IsObject own doc) (extra second : Selector) :
    (doc.withConstraints extra).withConstraints second = doc.withConstraints (extra.addMissing second) := by
  by_cases none : extra.isEmpty = true
  · rw [withConstraints_of_isEmpty none, Selector.addMissing_of_isEmpty_left none]
  · by_cases noMore : second.isEmpty = true
    · rw [withConstraints_of_isEmpty noMore, Selector.addMissing_of_isEmpty noMore]
    · have more : ¬ (extra.addMissing second).isEmpty = true := fun bare => none (Selector.isEmpty_addMissing.mp bare).1
      rw [(object.withConstraints extra).withConstraints_of_some noMore, object.withConstraints_of_some more,
        Selector.addMissing_assoc]

end IsObject

/-- Constraints only add. An object keeps its entries where they are, and the constraints on other fields follow, in
their own order; so it does not matter in which form it is held, whether some are added again, or whether all are added
in one go. Any other document becomes one side of a conjunction, a text as it is written. Without constraints every
document stays as it is. -/
theorem constraints_added (extra : Selector) :
    (∀ own : Selector, ∃ final : Selector,
      final.entries = own.entries ++ (extra.entries.filter fun entry => !own.hasKey entry.1) ∧
      ∀ doc, IsObject own doc →
        IsObject final (doc.withConstraints extra) ∧
        (doc.withConstraints extra).toJson = .ok (.object final.entries) ∧
        (∀ key, (doc.withConstraints extra).constrains key = true ↔
          doc.constrains key = true ∨ extra.hasKey key = true) ∧
        (doc.withConstraints extra).withConstraints extra = doc.withConstraints extra ∧
        ∀ second : Selector, ∃ both : Selector,
          both.entries = extra.entries ++ (second.entries.filter fun entry => !extra.hasKey entry.1) ∧
          (doc.withConstraints extra).withConstraints second = doc.withConstraints both) ∧
    (extra.isEmpty = false →
      (∀ source, (text source).withConstraints extra =
        .text ("\x7b\"$and\":[" ++ source ++ "," ++ extra.render ++ "]\x7d")) ∧
      ∀ value, (∀ fields, value ≠ .object fields) → ∃ pair : Selector,
        pair.entries = [("$and", .array [value, .object extra.entries])] ∧
        (other value).withConstraints extra = .structured pair) ∧
    (extra.isEmpty = true → ∀ doc : SelectorDoc, doc.withConstraints extra = doc) := by
  refine ⟨?_, ?_, withConstraints_of_isEmpty⟩
  · intro own
    refine ⟨own.addMissing extra, Selector.entries_addMissing own extra, fun doc object => ?_⟩
    have result := object.withConstraints extra
    refine ⟨result, result.toJson_eq, fun key => ?_, ?_, fun second => ?_⟩
    · rw [result.constrains_eq, object.constrains_eq, Selector.hasKey_addMissing, Bool.or_eq_true]
    · rw [object.withConstraints_withConstraints, Selector.addMissing_self]
    · exact ⟨extra.addMissing second, Selector.entries_addMissing extra second,
        object.withConstraints_withConstraints extra second⟩
  · intro some
    rw [← Bool.not_eq_true] at some
    exact ⟨fun source => withConstraints_text source some, fun value bare => ⟨_, rfl, withConstraints_other bare some⟩⟩

def titleAndRank : Selector := ⟨[("title", .object [("$gt", .null)]), ("rank", .object [("$gt", .null)])], by decide⟩

def datedFilm : Selector := ⟨[("year", .ofUInt64 1999), ("title", .string "M")], by decide⟩

theorem constraints_added_dated :
    IsObject datedFilm (.other (.object datedFilm.entries)) ∧ titleAndRank.isEmpty = false ∧
      (∀ fields, Json.array [] ≠ .object fields) ∧ Selector.empty.isEmpty = true ∧
      ((other (.object datedFilm.entries)).withConstraints titleAndRank).toJson =
        .ok (.object [("year", .ofUInt64 1999), ("title", .string "M"), ("rank", .object [("$gt", .null)])]) ∧
      ((other (.object datedFilm.entries)).withConstraints titleAndRank).withConstraints titleAndRank =
        (other (.object datedFilm.entries)).withConstraints titleAndRank ∧
      (text "[").withConstraints titleAndRank =
        .text ("\x7b\"$and\":[" ++ "[" ++ "," ++ titleAndRank.render ++ "]\x7d") ∧
      (∃ pair : Selector, pair.entries = [("$and", .array [.array [], .object titleAndRank.entries])] ∧
        (other (.array [])).withConstraints titleAndRank = .structured pair) ∧
      (text "[").withConstraints .empty = .text "[" := by
  obtain ⟨objects, others, _⟩ := constraints_added titleAndRank
  obtain ⟨final, entries, added⟩ := objects datedFilm
  obtain ⟨_, value, _, again, _⟩ := added (.other (.object datedFilm.entries)) .other
  have written : final.entries =
      [("year", .ofUInt64 1999), ("title", .string "M"), ("rank", .object [("$gt", .null)])] := entries.trans rfl
  obtain ⟨texts, bare⟩ := others rfl
  refine ⟨.other, rfl, by simp, rfl, ?_, again, texts "[", bare (.array []) (by simp), ?_⟩
  · rw [value, written]
  · exact (constraints_added .empty).2.2 rfl (.text "[")

end SelectorDoc

end FindQuery
