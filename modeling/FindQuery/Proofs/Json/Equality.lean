import Mathlib.Data.List.Forall2
import Mathlib.Data.List.Perm.Subperm
import FindQuery.Proofs.Json.RoundTrip
import FindQuery.Proofs.Json.WellFormed
import FindQuery.Proofs.Selector.Evaluation

namespace FindQuery

namespace Json

def Equal (a b : Json) : Prop := a.same b = true

theorem sameItems_iff {items others : List Json} :
    sameItems items others = true ↔ List.Forall₂ Equal items others := by
  induction items generalizing others with
  | nil => cases others <;> simp [sameItems]
  | cons item rest ih => cases others <;> simp [sameItems, ih, Equal]

theorem sameFields_iff {fields others : Fields} :
    sameFields fields others = true ↔
      ∀ field ∈ fields, ∃ found, Fields.get? field.1 others = some found ∧ field.2.Equal found := by
  induction fields with
  | nil => simp [sameFields]
  | cons field rest ih =>
    rw [sameFields, Bool.and_eq_true, ih, List.forall_mem_cons]
    refine and_congr_left fun _ => ?_
    cases Fields.get? field.1 others <;> simp [Equal]

inductive EqualParts : Json → Json → Prop
  | null : EqualParts null null
  | bool (value : Bool) : EqualParts (bool value) (bool value)
  | number {value other : Number} (same : value.same other = true) : EqualParts (number value) (number other)
  | string (value : String) : EqualParts (string value) (string value)
  | array {items others : List Json} (each : List.Forall₂ Equal items others) :
    EqualParts (array items) (array others)
  | object {fields others : Fields} (length : fields.length = others.length)
    (each : ∀ field ∈ fields, ∃ found, Fields.get? field.1 others = some found ∧ field.2.Equal found) :
    EqualParts (object fields) (object others)

theorem Equal.parts {a b : Json} (equal : a.Equal b) : EqualParts a b := by
  cases a <;> cases b <;> simp only [Equal, same, Bool.false_eq_true, beq_iff_eq, Bool.and_eq_true] at equal
  case null => exact .null
  case bool => exact equal ▸ .bool _
  case number => exact .number equal
  case string => exact equal ▸ .string _
  case array => exact .array (sameItems_iff.mp equal)
  case object => exact .object equal.1 (sameFields_iff.mp equal.2)

theorem EqualParts.equal {a b : Json} (parts : EqualParts a b) : a.Equal b := by
  cases parts with
  | null => rfl
  | bool value => exact beq_self_eq_true value
  | number same => exact same
  | string value => exact beq_self_eq_true value
  | array each => exact sameItems_iff.mpr each
  | object length each => exact Bool.and_eq_true_iff.mpr ⟨beq_iff_eq.mpr length, sameFields_iff.mpr each⟩

mutual

theorem equal_refl : ∀ {value : Json}, value.WellFormed → value.Equal value
  | .null, _ => EqualParts.null.equal
  | .bool value, _ => (EqualParts.bool value).equal
  | .number value, _ => (EqualParts.number value.same_refl).equal
  | .string value, _ => (EqualParts.string value).equal
  | .array _, formed => (EqualParts.array (items_equal_refl formed)).equal
  | .object _, formed => by
    refine (EqualParts.object rfl fun field member => ⟨field.2, ?_, fields_equal_refl formed.2 field member⟩).equal
    exact (Fields.mem_iff_get? formed.1 field.1 field.2).mp member

theorem items_equal_refl : ∀ {items : List Json}, WellFormedItems items → List.Forall₂ Equal items items
  | [], _ => .nil
  | _ :: _, formed => .cons (equal_refl formed.1) (items_equal_refl formed.2)

theorem fields_equal_refl : ∀ {fields : List (String × Json)}, WellFormedFields fields →
    ∀ field ∈ fields, field.2.Equal field.2
  | [], _, _, member => by cases member
  | (_, value) :: _, formed, field, member => by
    rcases List.mem_cons.mp member with rfl | member
    · exact equal_refl formed.1
    · exact fields_equal_refl formed.2 field member

end

end Json

namespace Fields

def Agree (fields others : Fields) : Prop := ∀ key, Option.Rel Json.Equal (get? key fields) (get? key others)

def EqualEntry (entry other : String × Json) : Prop := entry.1 = other.1 ∧ entry.2.Equal other.2

variable {fields others writes otherWrites : Fields}

theorem Agree.mem_keys_iff (agree : Agree fields others) {key : String} : key ∈ keys fields ↔ key ∈ keys others := by
  have related := agree key
  rw [Fields.mem_keys_iff, Fields.mem_keys_iff]
  generalize get? key fields = found, get? key others = other at related ⊢
  cases related <;> simp

theorem mem_keys_of_length_eq (distinct : (keys fields).Nodup) (length : fields.length = others.length)
    (each : ∀ field ∈ fields, ∃ found, get? field.1 others = some found ∧ field.2.Equal found) {key : String}
    (member : key ∈ keys others) : key ∈ keys fields := by
  have inside : keys fields ⊆ keys others := by
    intro key member
    obtain ⟨field, there, rfl⟩ := List.mem_map.mp member
    obtain ⟨found, under, _⟩ := each field there
    rw [Fields.mem_keys_iff, under, Option.isSome_some]
  have enough : (keys others).length ≤ (keys fields).length := by simp [keys, length]
  exact ((List.subperm_of_subset distinct inside).perm_of_length_le enough).mem_iff.mpr member

theorem equal_object_iff_agree (distinct : (keys fields).Nodup) (otherDistinct : (keys others).Nodup) :
    (Json.object fields).Equal (.object others) ↔ Agree fields others := by
  constructor
  · intro equal key
    cases equal.parts with
    | object length each =>
      cases found : get? key fields with
      | some value =>
        obtain ⟨other, under, equal⟩ := each (key, value) ((mem_iff_get? distinct key value).mpr found)
        rw [under]
        exact .some equal
      | none =>
        have absent : key ∉ keys others := by
          intro member
          have there : key ∈ keys fields := mem_keys_of_length_eq distinct length each member
          rw [Fields.mem_keys_iff, found] at there
          cases there
        rw [Fields.mem_keys_iff, Option.not_isSome_iff_eq_none] at absent
        rw [absent]
        exact .none
  · intro agree
    have perm : (keys fields).Perm (keys others) :=
      (List.perm_ext_iff_of_nodup distinct otherDistinct).mpr fun _ => agree.mem_keys_iff
    refine (Json.EqualParts.object (by simpa [keys] using perm.length_eq) fun field member => ?_).equal
    have under : get? field.1 fields = some field.2 := (mem_iff_get? distinct field.1 field.2).mp member
    have related := agree field.1
    rw [under] at related
    cases found : get? field.1 others with
    | none =>
      rw [found] at related
      cases related
    | some value =>
      rw [found] at related
      cases related with
      | some equal => exact ⟨value, rfl, equal⟩

theorem agree_symm (members : ∀ field ∈ fields, ∀ other, (∃ key, get? key others = some other) → field.2.Equal other →
    other.Equal field.2) (distinct : (keys fields).Nodup) (agree : Agree fields others) : Agree others fields := by
  intro key
  have related := agree key
  cases found : get? key fields with
  | none =>
    rw [found] at related
    cases under : get? key others with
    | none => exact .none
    | some other =>
      rw [under] at related
      cases related
  | some value =>
    rw [found] at related
    cases under : get? key others with
    | none =>
      rw [under] at related
      cases related
    | some other =>
      rw [under] at related
      cases related with
      | some equal =>
        exact .some (members (key, value) ((mem_iff_get? distinct key value).mpr found) other ⟨key, under⟩ equal)

theorem agree_nil : Agree [] [] := fun _ => .none

theorem Agree.insert {value other : Json} (agree : Agree fields others) (key : String) (equal : value.Equal other) :
    Agree (fields.insert key value) (others.insert key other) := by
  intro name
  rw [get?_insert, get?_insert]
  split
  · exact .some equal
  · exact agree name

theorem Agree.extend (agree : Agree fields others) (equal : List.Forall₂ EqualEntry writes otherWrites) :
    Agree (fields.extend writes) (others.extend otherWrites) := by
  induction equal generalizing fields others with
  | nil => exact agree
  | @cons write other _ _ first _ ih =>
    obtain ⟨key, value⟩ := write
    obtain ⟨rfl, equal⟩ := first
    exact ih (agree.insert other.1 equal)

theorem agree_ofList (equal : List.Forall₂ EqualEntry writes otherWrites) :
    Agree (ofList writes) (ofList otherWrites) := agree_nil.extend equal

theorem keys_eq_of_equalEntry (equal : List.Forall₂ EqualEntry fields others) : keys fields = keys others := by
  induction equal with
  | nil => rfl
  | cons first _ ih =>
    simp only [keys, List.map_cons] at ih ⊢
    rw [first.1, ih]

theorem equal_object_of_equalEntry (distinct : (keys fields).Nodup)
    (equal : List.Forall₂ EqualEntry fields others) : (Json.object fields).Equal (.object others) := by
  have otherDistinct : (keys others).Nodup := keys_eq_of_equalEntry equal ▸ distinct
  rw [equal_object_iff_agree distinct otherDistinct, ← ofList_of_nodup distinct, ← ofList_of_nodup otherDistinct]
  exact agree_ofList equal

end Fields

namespace Json

mutual

theorem equal_symm : ∀ {value other : Json}, value.WellFormed → other.WellFormed → value.Equal other →
    other.Equal value
  | .null, _, _, _, equal => by
    cases equal.parts
    exact EqualParts.null.equal
  | .bool value, _, _, _, equal => by
    cases equal.parts
    exact (EqualParts.bool value).equal
  | .number value, _, _, _, equal => by
    cases equal.parts with
    | number same =>
      rw [Number.same_comm] at same
      exact (EqualParts.number same).equal
  | .string value, _, _, _, equal => by
    cases equal.parts
    exact (EqualParts.string value).equal
  | .array _, _, formed, otherFormed, equal => by
    cases equal.parts with
    | array each => exact (EqualParts.array (items_equal_symm formed otherFormed each)).equal
  | .object fields, other, formed, otherFormed, equal => by
    obtain ⟨others, rfl⟩ : ∃ others, other = .object others := by
      cases equal.parts with
      | object => exact ⟨_, rfl⟩
    rw [Fields.equal_object_iff_agree formed.1 otherFormed.1] at equal
    rw [Fields.equal_object_iff_agree otherFormed.1 formed.1]
    refine Fields.agree_symm (fun field member other found => ?_) formed.1 equal
    obtain ⟨key, under⟩ := found
    have there := (Fields.mem_iff_get? otherFormed.1 key other).mpr under
    exact fields_equal_symm formed.2 field member other (wellFormedFields_iff.mp otherFormed.2 _ there)

theorem items_equal_symm : ∀ {items others : List Json}, WellFormedItems items → WellFormedItems others →
    List.Forall₂ Equal items others → List.Forall₂ Equal others items
  | [], _, _, _, each => by
    cases each
    exact .nil
  | _ :: _, _, formed, otherFormed, each => by
    cases each with
    | cons first rest =>
      exact .cons (equal_symm formed.1 otherFormed.1 first) (items_equal_symm formed.2 otherFormed.2 rest)

theorem fields_equal_symm : ∀ {fields : List (String × Json)}, WellFormedFields fields →
    ∀ field ∈ fields, ∀ other : Json, other.WellFormed → field.2.Equal other → other.Equal field.2
  | [], _, _, member, _, _, _ => by cases member
  | (_, value) :: _, formed, field, member, other, otherFormed, equal => by
    rcases List.mem_cons.mp member with rfl | member
    · exact equal_symm formed.1 otherFormed equal
    · exact fields_equal_symm formed.2 field member other otherFormed equal

end

end Json

namespace Selector

def Equal (a b : Selector) : Prop := a.same b = true

variable {a b : Selector}

theorem equal_iff_agree : a.Equal b ↔ Fields.Agree a.entries b.entries :=
  Fields.equal_object_iff_agree a.nodup_keys b.nodup_keys

theorem equal_single {key : String} {value other : Json} (equal : value.Equal other) :
    (single key value).Equal (single key other) :=
  equal_iff_agree.mpr (Fields.agree_nil.insert key equal)

end Selector

end FindQuery
