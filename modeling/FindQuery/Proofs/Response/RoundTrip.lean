import Mathlib
import FindQuery.Proofs.Json.Depth
import FindQuery.Proofs.Json.RoundTrip
import FindQuery.Proofs.Json.WellFormed
import FindQuery.Response.Basic

namespace FindQuery

open Json

theorem exists_of_mem_mapM {α β : Type} {read : α → Option β} {items : List α} {results : List β} {result : β}
    (each : items.mapM read = some results) (member : result ∈ results) : ∃ item ∈ items, read item = some result := by
  induction items generalizing results with
  | nil =>
    cases each
    cases member
  | cons item rest ih =>
    rw [List.mapM_cons] at each
    obtain ⟨first, readFirst, each⟩ := Option.bind_eq_some_iff.mp each
    obtain ⟨others, readOthers, same⟩ := Option.bind_eq_some_iff.mp each
    cases same
    rcases List.mem_cons.mp member with rfl | later
    · exact ⟨item, List.mem_cons_self, readFirst⟩
    · obtain ⟨found, inside, readFound⟩ := ih readOthers later
      exact ⟨found, List.mem_cons_of_mem item inside, readFound⟩

namespace Slots

/-- What a text can give to the members of a record. -/
def Carried (slots : Slots) : Prop := ∀ value, some value ∈ slots → value.WellFormed ∧ value.depth ≤ memberLevels

theorem carried_of_members {names : List String} {members : List (String × Tree)} {slots : Slots}
    (read : names.mapM (slot? members) = some slots) : slots.Carried := by
  intro value member
  obtain ⟨name, _, read⟩ := exists_of_mem_mapM read member
  obtain ⟨found, _, read⟩ := Option.bind_eq_some_iff.mp read
  cases found with
  | none => cases read
  | some written =>
    obtain ⟨found, read, same⟩ := Option.map_eq_some_iff.mp read
    cases same
    exact ⟨Tree.wellFormed_of_json? read, Tree.value_depth_le read⟩

theorem carried_of_items {names : List String} {written : List Tree} {items : List Json} {slots : Slots}
    (read : Tree.items? memberLevels written = some items) (ordered : ofItems? names items = some slots) :
    slots.Carried := by
  intro value member
  unfold ofItems? at ordered
  split at ordered
  · cases ordered
    have inside : value ∈ items := by
      rcases List.mem_append.mp member with given | missing
      · obtain ⟨item, inside, same⟩ := List.mem_map.mp given
        cases same
        exact inside
      · cases List.eq_of_mem_replicate missing
    exact ⟨wellFormedItems_iff.mp (Tree.wellFormedItems_of_items? read) value inside,
      depthItems_le_iff.mp (Tree.depthItems_le read) value inside⟩
  · cases ordered

theorem carried_of_ofText? {names : List String} {text : String} {slots : Slots}
    (read : ofText? names text = some slots) : slots.Carried := by
  obtain ⟨written, _, read⟩ := Option.bind_eq_some_iff.mp read
  cases written with
  | object members =>
    obtain ⟨decoded, _, read⟩ := Option.bind_eq_some_iff.mp read
    exact carried_of_members read
  | array items =>
    obtain ⟨values, readItems, ordered⟩ := Option.bind_eq_some_iff.mp read
    exact carried_of_items readItems ordered
  | _ => cases read

theorem decodedMembers?_memberTrees (fields : Fields) :
    decodedMembers? (memberTrees fields) = some (fields.map fun field => (field.1, field.2.tree)) := by
  induction fields with
  | nil => rfl
  | cons field rest ih =>
    rw [decodedMembers?] at ih
    simp [decodedMembers?, memberTrees, decodeText?_printedText, ih]

theorem pick?_tree {fields : Fields} (distinct : (Fields.keys fields).Nodup) (name : String) :
    pick? name (fields.map fun field => (field.1, field.2.tree)) = some ((Fields.get? name fields).map Json.tree) := by
  induction fields with
  | nil => rfl
  | cons field rest ih =>
    obtain ⟨fresh, distinct⟩ := List.nodup_cons.mp distinct
    rw [Fields.get?]
    by_cases same : field.1 = name
    · -- The keys are distinct, so the member is the only one of its name.
      have others : (rest.map fun field => (field.1, field.2.tree)).filter (·.1 = name) = [] := by
        rw [List.filter_eq_nil_iff]
        intro other member
        obtain ⟨later, inside, rfl⟩ := List.mem_map.mp member
        have differs : later.1 ≠ name := by
          intro equal
          apply fresh
          rw [same, ← equal]
          exact List.mem_map_of_mem inside
        simpa using differs
      rw [if_pos same, pick?, List.map_cons, List.filter_cons_of_pos (by simpa using same), others]
      rfl
    · have skipped := ih distinct
      rw [pick?] at skipped ⊢
      rw [if_neg same, List.map_cons, List.filter_cons_of_neg (by simpa using same), skipped]

theorem ofText?_render {value : Json} (names : List String) (numbers : value.EachNumber Number.ReadsBack)
    (formed : value.WellFormed) (shallow : value.depth ≤ depthLimit) :
    ofText? names value.render = ofJson? names value := by
  rw [ofText?, Json.ofText?_render, Option.bind_some]
  cases value with
  | object fields =>
    have slot (name : String) :
        slot? (fields.map fun field => (field.1, field.2.tree)) name = some (Fields.get? name fields) := by
      rw [slot?, pick?_tree formed.1, Option.bind_some]
      cases found : Fields.get? name fields with
      | none => rfl
      | some inner =>
        have member := (Fields.mem_iff_get? formed.1 name inner).mpr found
        have read : inner.tree.json? memberLevels = some inner :=
          json?_tree (eachNumberFields_iff.mp numbers _ member) (wellFormedFields_iff.mp formed.2 _ member)
            (depthFields_le_iff.mp (Nat.le_of_succ_le_succ shallow) _ member)
        simp [read]
    have slots : slot? (fields.map fun field => (field.1, field.2.tree)) = fun name =>
        pure (Fields.get? name fields) := funext slot
    rw [tree, ofTree?, decodedMembers?_memberTrees, Option.bind_some, slots, List.mapM_pure]
    rfl
  | array items =>
    have read : Tree.items? memberLevels (itemTrees items) = some items :=
      items?_tree numbers formed (Nat.le_of_succ_le_succ shallow)
    rw [tree, ofTree?, read]
    rfl
  | _ => rfl

theorem carried_string (text : String) : (Json.string text).WellFormed ∧ (Json.string text).depth ≤ memberLevels :=
  ⟨trivial, Nat.zero_le memberLevels⟩

@[simp]
theorem optionalText?_map (text : Option String) : optionalText? (text.map Json.string) = some text := by
  cases text <;> rfl

@[simp]
theorem optionalValue_eq_some_iff {slot : Option Json} {value : Json} :
    optionalValue slot = some value ↔ slot = some value ∧ value ≠ .null := by
  unfold optionalValue
  split
  · simp [eq_comm]
  · next other =>
    rw [iff_self_and]
    rintro rfl rfl
    exact other rfl

theorem optionalValue_of_ne_null {slot : Option Json} (given : slot ≠ some .null) : optionalValue slot = slot := by
  cases slot with
  | none => rfl
  | some value => exact optionalValue_eq_some_iff.mpr ⟨rfl, fun null => given (congrArg some null)⟩

end Slots

namespace FindResponse

def slots (response : FindResponse) : Slots :=
  [some (.array response.docs), response.bookmark.map Json.string, response.warning.map Json.string,
    response.executionStats]

theorem docs?_eq_some_iff {slot : Option Json} {docs : List Json} :
    docs? slot = some docs ↔ slot = some (.array docs) ∨ slot = none ∧ docs = [] := by
  cases slot with
  | none => simp [docs?, eq_comm]
  | some value => cases value <;> simp [docs?]

theorem carried_slots {slots : Slots} {response : FindResponse} (carried : slots.Carried)
    (read : ofSlots? slots = some response) :
    response.slots.Carried ∧ response.executionStats ≠ some .null := by
  unfold ofSlots? at read
  split at read
  · next docsSlot bookmarkSlot warningSlot statsSlot =>
    obtain ⟨docs, readDocs, read⟩ := Option.bind_eq_some_iff.mp read
    obtain ⟨bookmark, _, read⟩ := Option.bind_eq_some_iff.mp read
    obtain ⟨warning, _, rfl⟩ := Option.map_eq_some_iff.mp read
    refine ⟨?_, fun null => (Slots.optionalValue_eq_some_iff.mp null).2 rfl⟩
    intro value member
    simp only [FindResponse.slots, List.mem_cons, List.not_mem_nil, or_false] at member
    -- Documents and statistics come from the text; the other two members are strings, whatever was read.
    rcases member with given | given | given | given
    · cases given
      rcases docs?_eq_some_iff.mp readDocs with rfl | ⟨_, rfl⟩
      · exact carried _ (by simp)
      · exact ⟨trivial, by decide⟩
    · obtain ⟨text, _, rfl⟩ := Option.map_eq_some_iff.mp given.symm
      exact Slots.carried_string text
    · obtain ⟨text, _, rfl⟩ := Option.map_eq_some_iff.mp given.symm
      exact Slots.carried_string text
    · obtain ⟨rfl, _⟩ := Slots.optionalValue_eq_some_iff.mp given.symm
      exact carried _ (by simp)
  · cases read

theorem slots_toJson (response : FindResponse) : Slots.ofJson? names response.toJson = some response.slots := by
  obtain ⟨docs, bookmark, warning, stats⟩ := response
  cases bookmark <;> cases warning <;> cases stats <;> rfl

theorem ofJson?_toJson {response : FindResponse} (given : response.executionStats ≠ some .null) :
    ofJson? response.toJson = some response := by
  rw [ofJson?, slots_toJson, Option.bind_some, slots, ofSlots?]
  simp [docs?, Slots.optionalValue_of_ne_null given]

theorem exists_fields_toJson (response : FindResponse) :
    ∃ fields, response.toJson = .object fields ∧ (Fields.keys fields).Nodup ∧
      ∀ field ∈ fields, some field.2 ∈ response.slots := by
  obtain ⟨docs, bookmark, warning, stats⟩ := response
  refine ⟨_, rfl, ?_, ?_⟩ <;>
    cases bookmark <;> cases warning <;> cases stats <;> simp [member, Fields.keys, slots]

theorem wellFormed_toJson {response : FindResponse} (carried : response.slots.Carried) :
    response.toJson.WellFormed := by
  obtain ⟨fields, same, distinct, written⟩ := response.exists_fields_toJson
  rw [same]
  exact ⟨distinct, wellFormedFields_iff.mpr fun field member => (carried field.2 (written field member)).1⟩

theorem depth_toJson_le {response : FindResponse} (carried : response.slots.Carried) :
    response.toJson.depth ≤ depthLimit := by
  obtain ⟨fields, same, _, written⟩ := response.exists_fields_toJson
  rw [same]
  exact Nat.succ_le_succ (depthFields_le_iff.mpr fun field member => (carried field.2 (written field member)).2)

/-- A response that has been read from a text is read back from the value that is written for it, and from the text if
each of its numbers is. So the text that is written for it does not change when it is read and written again. -/
theorem response_read_again {text : String} {response : FindResponse} (read : ofText? text = some response) :
    response.executionStats ≠ some .null ∧ ofJson? response.toJson = some response ∧
      (response.toJson.EachNumber Number.ReadsBack →
        ofText? response.render = some response ∧
          (ofText? response.render).map render = some response.render) := by
  obtain ⟨slots, readSlots, built⟩ := Option.bind_eq_some_iff.mp read
  obtain ⟨carried, given⟩ := carried_slots (Slots.carried_of_ofText? readSlots) built
  have again := ofJson?_toJson given
  refine ⟨given, again, fun numbers => ?_⟩
  have same : ofText? response.render = some response := by
    rw [ofText?, render, Slots.ofText?_render names numbers (wellFormed_toJson carried) (depth_toJson_le carried)]
    exact again
  exact ⟨same, congrArg (Option.map render) same⟩

def shuffledText : String :=
  "\x7b\"later\":1e999,\"execution_stats\":\x7b\"n\":1\x7d,\"warning\":null,\"docs\":[\x7b\"_id\":\"a\"\x7d,[]]\x7d"

def shuffledResponse : FindResponse where
  docs := [.object [("_id", .string "a")], .array []]
  bookmark := none
  warning := none
  executionStats := some (.object [("n", .number (.integer 1 (by decide)))])

def listedText : String := "[[null],null,\"slow\"]"

def listedResponse : FindResponse := ⟨[.null], none, some "slow", none⟩

theorem response_read_again_shuffled :
    ofText? shuffledText = some shuffledResponse ∧ ofText? listedText = some listedResponse ∧
      (shuffledResponse.executionStats ≠ some .null ∧ ofJson? shuffledResponse.toJson = some shuffledResponse ∧
        ofText? shuffledResponse.render = some shuffledResponse ∧
        (ofText? shuffledResponse.render).map render = some shuffledResponse.render) ∧
      listedResponse.executionStats ≠ some .null ∧ ofJson? listedResponse.toJson = some listedResponse ∧
      ofText? listedResponse.render = some listedResponse ∧
      (ofText? listedResponse.render).map render = some listedResponse.render := by
  have shuffled : ofText? shuffledText = some shuffledResponse := by cbv
  have listed : ofText? listedText = some listedResponse := by cbv
  have integer : (Number.integer 1 (by decide)).ReadsBack := Number.readsBack_of_isInteger trivial
  obtain ⟨given, ofValue, ofPrinted⟩ := response_read_again shuffled
  obtain ⟨listedGiven, listedOfValue, listedOfPrinted⟩ := response_read_again listed
  refine ⟨shuffled, listed, ⟨given, ofValue, ofPrinted ?_⟩, listedGiven, listedOfValue, listedOfPrinted ?_⟩
  · exact ⟨⟨⟨trivial, trivial⟩, trivial, trivial⟩, ⟨integer, trivial⟩, trivial⟩
  · exact ⟨⟨trivial, trivial⟩, trivial, trivial⟩

end FindResponse

end FindQuery
