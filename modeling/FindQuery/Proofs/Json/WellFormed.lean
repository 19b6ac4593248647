import FindQuery.Json.Tree

namespace FindQuery.Json

theorem wellFormedItems_iff {items : List Json} : WellFormedItems items ↔ ∀ item ∈ items, item.WellFormed := by
  induction items with
  | nil => simp [WellFormedItems]
  | cons item rest ih => simp [WellFormedItems, ih]

theorem wellFormedFields_iff {fields : Fields} :
    WellFormedFields fields ↔ ∀ field ∈ fields, field.2.WellFormed := by
  induction fields with
  | nil => simp [WellFormedFields]
  | cons field rest ih => simp [WellFormedFields, ih]

theorem wellFormedFields_insert {key : String} {value : Json} {fields : Fields}
    (formed : WellFormedFields fields) (valueFormed : value.WellFormed) :
    WellFormedFields (fields.insert key value) := by
  induction fields with
  | nil => exact ⟨valueFormed, trivial⟩
  | cons field rest ih =>
    unfold Fields.insert
    split
    · exact ⟨valueFormed, formed.2⟩
    · exact ⟨formed.1, ih formed.2⟩

theorem wellFormedFields_extend {fields writes : Fields} (formed : WellFormedFields fields)
    (writesFormed : WellFormedFields writes) : WellFormedFields (fields.extend writes) := by
  induction writes generalizing fields with
  | nil => exact formed
  | cons write rest ih => exact ih (wellFormedFields_insert formed writesFormed.1) writesFormed.2

theorem wellFormed_ofList {writes : Fields} (formed : WellFormedFields writes) :
    (object (Fields.ofList writes)).WellFormed :=
  ⟨Fields.nodup_keys_ofList writes, wellFormedFields_extend trivial formed⟩

namespace Tree

mutual

theorem wellFormed_of_json? {levels : Nat} : ∀ {written : Tree} {value : Json},
    json? levels written = some value → value.WellFormed
  | .null, _, read => by
    cases read
    trivial
  | .bool _, _, read => by
    cases read
    trivial
  | .numeral _, _, read => by
    obtain ⟨number, _, rfl⟩ := Option.map_eq_some_iff.mp read
    trivial
  | .text _, _, read => by
    obtain ⟨text, _, rfl⟩ := Option.map_eq_some_iff.mp read
    trivial
  | .array items, _, read => by
    cases levels with
    | zero => cases read
    | succ levels =>
      obtain ⟨values, inner, rfl⟩ := Option.map_eq_some_iff.mp read
      exact wellFormedItems_of_items? inner
  | .object members, _, read => by
    cases levels with
    | zero => cases read
    | succ levels =>
      obtain ⟨writes, inner, rfl⟩ := Option.map_eq_some_iff.mp read
      exact wellFormed_ofList (wellFormedFields_of_members? inner)

theorem wellFormedItems_of_items? {levels : Nat} : ∀ {items : List Tree} {values : List Json},
    items? levels items = some values → WellFormedItems values
  | [], _, read => by
    cases read
    trivial
  | item :: rest, _, read => by
    obtain ⟨first, readFirst, read⟩ := Option.bind_eq_some_iff.mp read
    obtain ⟨others, readOthers, rfl⟩ := Option.map_eq_some_iff.mp read
    exact ⟨wellFormed_of_json? readFirst, wellFormedItems_of_items? readOthers⟩

theorem wellFormedFields_of_members? {levels : Nat} :
    ∀ {members : List (List Piece × Tree)} {writes : List (String × Json)},
      members? levels members = some writes → WellFormedFields writes
  | [], _, read => by
    cases read
    trivial
  | (key, value) :: rest, _, read => by
    obtain ⟨name, _, read⟩ := Option.bind_eq_some_iff.mp read
    obtain ⟨first, readFirst, read⟩ := Option.bind_eq_some_iff.mp read
    obtain ⟨others, readOthers, rfl⟩ := Option.map_eq_some_iff.mp read
    exact ⟨wellFormed_of_json? readFirst, wellFormedFields_of_members? readOthers⟩

end

end Tree

/-- A text denotes no object with repeated keys, even if it has some. -/
theorem wellFormed_of_parse? {text : String} {value : Json} (read : parse? text = some value) :
    value.WellFormed := by
  obtain ⟨written, _, read⟩ := Option.bind_eq_some_iff.mp read
  exact Tree.wellFormed_of_json? read

end FindQuery.Json
