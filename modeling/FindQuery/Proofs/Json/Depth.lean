import FindQuery.Json.Tree
import FindQuery.Proofs.Json.Fields

namespace FindQuery.Json

theorem depthItems_le_iff {items : List Json} {levels : Nat} :
    depthItems items ≤ levels ↔ ∀ item ∈ items, item.depth ≤ levels := by
  induction items with
  | nil => simp [depthItems]
  | cons item rest ih => rw [depthItems, Nat.max_le, ih, List.forall_mem_cons]

theorem depthFields_le_iff {fields : Fields} {levels : Nat} :
    depthFields fields ≤ levels ↔ ∀ field ∈ fields, field.2.depth ≤ levels := by
  induction fields with
  | nil => simp [depthFields]
  | cons field rest ih => rw [depthFields, Nat.max_le, ih, List.forall_mem_cons]

theorem depthFields_ofList_le {writes : Fields} {levels : Nat} (shallow : depthFields writes ≤ levels) :
    depthFields (Fields.ofList writes) ≤ levels := by
  apply depthFields_le_iff.mpr
  -- Of the writes to a key only one is left, and it is one of them.
  intro field member
  exact depthFields_le_iff.mp shallow field (Fields.mem_of_mem_ofList member)

namespace Tree

mutual

theorem value_depth_le {levels : Nat} : ∀ {written : Tree} {value : Json},
    json? levels written = some value → value.depth ≤ levels
  | .null, _, read => by
    cases read
    exact Nat.zero_le levels
  | .bool _, _, read => by
    cases read
    exact Nat.zero_le levels
  | .numeral _, _, read => by
    obtain ⟨number, _, rfl⟩ := Option.map_eq_some_iff.mp read
    exact Nat.zero_le levels
  | .text _, _, read => by
    obtain ⟨text, _, rfl⟩ := Option.map_eq_some_iff.mp read
    exact Nat.zero_le levels
  | .array items, _, read => by
    cases levels with
    | zero => cases read
    | succ levels =>
      obtain ⟨values, inner, rfl⟩ := Option.map_eq_some_iff.mp read
      exact Nat.succ_le_succ (depthItems_le inner)
  | .object members, _, read => by
    cases levels with
    | zero => cases read
    | succ levels =>
      obtain ⟨writes, inner, rfl⟩ := Option.map_eq_some_iff.mp read
      exact Nat.succ_le_succ (depthFields_ofList_le (depthFields_le inner))

theorem depthItems_le {levels : Nat} : ∀ {items : List Tree} {values : List Json},
    items? levels items = some values → depthItems values ≤ levels
  | [], _, read => by
    cases read
    exact Nat.zero_le levels
  | item :: rest, _, read => by
    obtain ⟨first, readFirst, read⟩ := Option.bind_eq_some_iff.mp read
    obtain ⟨others, readOthers, rfl⟩ := Option.map_eq_some_iff.mp read
    exact Nat.max_le.mpr ⟨value_depth_le readFirst, depthItems_le readOthers⟩

theorem depthFields_le {levels : Nat} : ∀ {members : List (List Piece × Tree)} {writes : List (String × Json)},
    members? levels members = some writes → depthFields writes ≤ levels
  | [], _, read => by
    cases read
    exact Nat.zero_le levels
  | (key, value) :: rest, _, read => by
    obtain ⟨name, _, read⟩ := Option.bind_eq_some_iff.mp read
    obtain ⟨first, readFirst, read⟩ := Option.bind_eq_some_iff.mp read
    obtain ⟨others, readOthers, rfl⟩ := Option.map_eq_some_iff.mp read
    exact Nat.max_le.mpr ⟨value_depth_le readFirst, depthFields_le readOthers⟩

end

end Tree

end FindQuery.Json
