import FindQuery.Proofs.Json.Fields
import FindQuery.Selector.Basic

namespace FindQuery

namespace Selector

theorem mem_entries_iff {selector : Selector} {key : String} {value : Json} :
    (key, value) ∈ selector.entries ↔ selector.get? key = some value :=
  Fields.mem_iff_get? selector.nodup_keys key value

theorem ofList_entries (selector : Selector) : Fields.ofList selector.entries = selector.entries :=
  Fields.ofList_of_nodup selector.nodup_keys

theorem ofFields_entries (selector : Selector) : ofFields selector.entries = selector := ext (ofList_entries selector)

theorem get?_ofFields (writes : Fields) (key : String) :
    (ofFields writes).get? key = writes.reverse.lookup key := Fields.get?_ofList writes key

theorem get?_addMissing (selector extra : Selector) (key : String) :
    (selector.addMissing extra).get? key = (selector.get? key).or (extra.get? key) := by
  have each (entries : Fields) (selector : Selector) :
      (entries.foldl (fun selector entry =>
        if selector.hasKey entry.1 then selector else selector.insert entry.1 entry.2) selector).get? key =
        (selector.get? key).or (Fields.get? key entries) := by
    induction entries generalizing selector with
    | nil => exact (Option.or_none).symm
    | cons entry rest ih =>
      rw [List.foldl_cons, ih, Fields.get?]
      by_cases present : selector.hasKey entry.1 = true
      · rw [if_pos present]
        split
        · next same =>
          rw [same, hasKey, Fields.hasKey_eq_isSome] at present
          obtain ⟨value, found⟩ := Option.isSome_iff_exists.mp present
          rw [get?, found, Option.some_or, Option.some_or]
        · rfl
      · rw [if_neg present, get?_insert]
        rw [hasKey, Fields.hasKey_eq_isSome, Option.not_isSome_iff_eq_none] at present
        by_cases same : entry.1 = key
        · subst same
          rw [if_pos rfl, if_pos rfl, get?, present, Option.some_or, Option.none_or]
        · rw [if_neg same, if_neg (Ne.symm same)]
  exact each extra.entries selector

end Selector

/-- How a store takes what is no connective. -/
structure Evaluator where
  entry : String → Json → Json → Prop
  bare : Json → Json → Prop

namespace Evaluator

section

variable (evaluator : Evaluator) (doc : Json)

mutual

def Holds : Json → Prop
  | .object fields => FieldsHold fields
  | value => evaluator.bare value doc

def HoldsUnder (key : String) : Json → Prop
  | .array items =>
    if key = "$and" then AllHold items
    else if key = "$or" then AnyHolds items
    else evaluator.entry key (.array items) doc
  | value => evaluator.entry key value doc

def AllHold : List Json → Prop
  | [] => True
  | item :: rest => Holds item ∧ AllHold rest

def AnyHolds : List Json → Prop
  | [] => False
  | item :: rest => Holds item ∨ AnyHolds rest

def FieldsHold : List (String × Json) → Prop
  | [] => True
  | (key, value) :: rest => HoldsUnder key value ∧ FieldsHold rest

end

end

variable {evaluator : Evaluator} {doc : Json}

theorem allHold_iff {items : List Json} : evaluator.AllHold doc items ↔ ∀ item ∈ items, evaluator.Holds doc item := by
  induction items with
  | nil => simp [AllHold]
  | cons item rest ih => simp [AllHold, ih]

theorem anyHolds_iff {items : List Json} :
    evaluator.AnyHolds doc items ↔ ∃ item ∈ items, evaluator.Holds doc item := by
  induction items with
  | nil => simp [AnyHolds]
  | cons item rest ih => simp [AnyHolds, ih]

theorem fieldsHold_iff {fields : Fields} :
    evaluator.FieldsHold doc fields ↔ ∀ field ∈ fields, evaluator.HoldsUnder doc field.1 field.2 := by
  induction fields with
  | nil => simp [FieldsHold]
  | cons field rest ih => simp [FieldsHold, ih]

theorem holdsUnder_and {items : List Json} :
    evaluator.HoldsUnder doc "$and" (.array items) ↔ ∀ item ∈ items, evaluator.Holds doc item := by
  rw [HoldsUnder, if_pos rfl, allHold_iff]

theorem holdsUnder_or {items : List Json} :
    evaluator.HoldsUnder doc "$or" (.array items) ↔ ∃ item ∈ items, evaluator.Holds doc item := by
  rw [HoldsUnder, if_neg (by decide), if_pos rfl, anyHolds_iff]

theorem holdsUnder_object {key : String} {fields : Fields} :
    evaluator.HoldsUnder doc key (.object fields) ↔ evaluator.entry key (.object fields) doc := by
  rw [HoldsUnder]
  simp

end Evaluator

/-- A way to take selectors in which objects and `$and` are conjunctions. All else may be taken in any way. -/
structure Reading where
  Holds : Json → Json → Prop
  HoldsUnder : Json → String → Json → Prop
  object : ∀ doc fields, Holds doc (.object fields) ↔ ∀ field ∈ fields, HoldsUnder doc field.1 field.2
  conjunction : ∀ doc items, HoldsUnder doc "$and" (.array items) ↔ ∀ item ∈ items, Holds doc item

def Evaluator.reading (evaluator : Evaluator) : Reading where
  Holds := evaluator.Holds
  HoldsUnder := evaluator.HoldsUnder
  object _ _ := by rw [Holds, fieldsHold_iff]
  conjunction _ _ := holdsUnder_and

namespace Reading

variable (reading : Reading) {doc : Json}

theorem holds_empty : reading.Holds doc Selector.empty.toJson :=
  (reading.object doc []).mpr (List.forall_mem_nil _)

theorem holds_toJson_iff {selector : Selector} :
    reading.Holds doc selector.toJson ↔
      ∀ key value, selector.get? key = some value → reading.HoldsUnder doc key value := by
  rw [Selector.toJson, reading.object]
  constructor
  · intro each key value found
    exact each (key, value) (Selector.mem_entries_iff.mpr found)
  · intro each field member
    exact each field.1 field.2 (Selector.mem_entries_iff.mp member)

theorem holds_single {key : String} {value : Json} :
    reading.Holds doc (Selector.single key value).toJson ↔ reading.HoldsUnder doc key value :=
  (reading.object doc [(key, value)]).trans List.forall_mem_singleton

theorem holds_conjunction {first second : Json} :
    reading.Holds doc (Selector.single "$and" (.array [first, second])).toJson ↔
      reading.Holds doc first ∧ reading.Holds doc second := by
  rw [holds_single, reading.conjunction, List.forall_mem_cons, List.forall_mem_singleton]

theorem holds_addMissing {selector extra : Selector} :
    reading.Holds doc (selector.addMissing extra).toJson ↔
      reading.Holds doc selector.toJson ∧
        ∀ key value, selector.get? key = none → extra.get? key = some value → reading.HoldsUnder doc key value := by
  simp only [holds_toJson_iff, Selector.get?_addMissing]
  constructor
  · intro each
    refine ⟨fun key value found => each key value ?_, fun key value absent added => each key value ?_⟩
    · rw [found, Option.some_or]
    · rw [absent, Option.none_or, added]
  · rintro ⟨own, others⟩ key value found
    cases there : selector.get? key with
    | some old =>
      rw [there, Option.some_or, Option.some.injEq] at found
      subst found
      exact own key old there
    | none =>
      rw [there, Option.none_or] at found
      exact others key value there found

end Reading

namespace Evaluator

variable {evaluator : Evaluator} {doc : Json}

theorem holds_toJson_iff {selector : Selector} :
    evaluator.Holds doc selector.toJson ↔
      ∀ key value, selector.get? key = some value → evaluator.HoldsUnder doc key value :=
  evaluator.reading.holds_toJson_iff

theorem holds_empty : evaluator.Holds doc Selector.empty.toJson := trivial

theorem holds_single {key : String} {value : Json} :
    evaluator.Holds doc (Selector.single key value).toJson ↔ evaluator.HoldsUnder doc key value :=
  evaluator.reading.holds_single

theorem holds_conjunction {first second : Json} :
    evaluator.Holds doc (Selector.single "$and" (.array [first, second])).toJson ↔
      evaluator.Holds doc first ∧ evaluator.Holds doc second :=
  evaluator.reading.holds_conjunction

theorem holds_ofFields {writes : Fields} :
    evaluator.Holds doc (Selector.ofFields writes).toJson ↔
      ∀ key value, writes.reverse.lookup key = some value → evaluator.HoldsUnder doc key value := by
  simp only [holds_toJson_iff, Selector.get?_ofFields]

theorem holds_addMissing {selector extra : Selector} :
    evaluator.Holds doc (selector.addMissing extra).toJson ↔
      evaluator.Holds doc selector.toJson ∧
        ∀ key value, selector.get? key = none → extra.get? key = some value → evaluator.HoldsUnder doc key value :=
  evaluator.reading.holds_addMissing

end Evaluator

end FindQuery
