import FindQuery.Proofs.Json.Fields
import FindQuery.Proofs.Json.Written

namespace FindQuery

namespace Json

namespace Tree

mutual

def depth : Tree → Nat
  | .array items => itemsDepth items + 1
  | .object members => membersDepth members + 1
  | _ => 0

def itemsDepth : List Tree → Nat
  | [] => 0
  | item :: rest => max item.depth (itemsDepth rest)

def membersDepth : List (List Piece × Tree) → Nat
  | [] => 0
  | (_, value) :: rest => max value.depth (membersDepth rest)

end

mutual

theorem json?_of_depth_le {levels enough : Nat} : ∀ {written : Tree} {value : Json},
    json? levels written = some value → written.depth ≤ enough → json? enough written = some value
  | .null, _, read, _ => read
  | .bool _, _, read, _ => read
  | .numeral _, _, read, _ => read
  | .text _, _, read, _ => read
  | .array items, value, read, fits => by
    cases levels with
    | zero => cases read
    | succ levels =>
      cases enough with
      | zero => cases fits
      | succ enough =>
        obtain ⟨values, inner, rfl⟩ := Option.map_eq_some_iff.mp read
        rw [json?, items?_of_depth_le inner (Nat.le_of_succ_le_succ fits), Option.map_some]
  | .object members, value, read, fits => by
    cases levels with
    | zero => cases read
    | succ levels =>
      cases enough with
      | zero => cases fits
      | succ enough =>
        obtain ⟨writes, inner, rfl⟩ := Option.map_eq_some_iff.mp read
        rw [json?, members?_of_depth_le inner (Nat.le_of_succ_le_succ fits), Option.map_some]

theorem items?_of_depth_le {levels enough : Nat} : ∀ {items : List Tree} {values : List Json},
    items? levels items = some values → itemsDepth items ≤ enough → items? enough items = some values
  | [], _, read, _ => read
  | item :: rest, values, read, fits => by
    obtain ⟨first, readFirst, read⟩ := Option.bind_eq_some_iff.mp read
    obtain ⟨others, readOthers, rfl⟩ := Option.map_eq_some_iff.mp read
    rw [items?, json?_of_depth_le readFirst (Nat.le_trans (Nat.le_max_left _ _) fits),
      items?_of_depth_le readOthers (Nat.le_trans (Nat.le_max_right _ _) fits)]
    rfl

theorem members?_of_depth_le {levels enough : Nat} :
    ∀ {members : List (List Piece × Tree)} {writes : List (String × Json)},
      members? levels members = some writes → membersDepth members ≤ enough →
        members? enough members = some writes
  | [], _, read, _ => read
  | (key, value) :: rest, writes, read, fits => by
    obtain ⟨name, readKey, read⟩ := Option.bind_eq_some_iff.mp read
    obtain ⟨first, readFirst, read⟩ := Option.bind_eq_some_iff.mp read
    obtain ⟨others, readOthers, rfl⟩ := Option.map_eq_some_iff.mp read
    rw [members?, readKey, Option.bind_some, json?_of_depth_le readFirst (Nat.le_trans (Nat.le_max_left _ _) fits),
      members?_of_depth_le readOthers (Nat.le_trans (Nat.le_max_right _ _) fits)]
    rfl

end

mutual

theorem depth_le_of_json? {levels : Nat} : ∀ {written : Tree} {value : Json},
    json? levels written = some value → written.depth ≤ levels
  | .null, _, _ => Nat.zero_le _
  | .bool _, _, _ => Nat.zero_le _
  | .numeral _, _, _ => Nat.zero_le _
  | .text _, _, _ => Nat.zero_le _
  | .array items, value, read => by
    cases levels with
    | zero => cases read
    | succ levels =>
      obtain ⟨values, read, _⟩ := Option.map_eq_some_iff.mp read
      exact Nat.succ_le_succ (itemsDepth_le_of_items? read)
  | .object members, value, read => by
    cases levels with
    | zero => cases read
    | succ levels =>
      obtain ⟨writes, read, _⟩ := Option.map_eq_some_iff.mp read
      exact Nat.succ_le_succ (membersDepth_le_of_members? read)

theorem itemsDepth_le_of_items? {levels : Nat} : ∀ {items : List Tree} {values : List Json},
    items? levels items = some values → itemsDepth items ≤ levels
  | [], _, _ => Nat.zero_le _
  | item :: rest, values, read => by
    obtain ⟨first, readFirst, read⟩ := Option.bind_eq_some_iff.mp read
    obtain ⟨others, readOthers, _⟩ := Option.map_eq_some_iff.mp read
    exact Nat.max_le.mpr ⟨depth_le_of_json? readFirst, itemsDepth_le_of_items? readOthers⟩

theorem membersDepth_le_of_members? {levels : Nat} :
    ∀ {members : List (List Piece × Tree)} {writes : List (String × Json)},
      members? levels members = some writes → membersDepth members ≤ levels
  | [], _, _ => Nat.zero_le _
  | (key, value) :: rest, writes, read => by
    obtain ⟨name, readKey, read⟩ := Option.bind_eq_some_iff.mp read
    obtain ⟨first, readFirst, read⟩ := Option.bind_eq_some_iff.mp read
    obtain ⟨others, readOthers, _⟩ := Option.map_eq_some_iff.mp read
    exact Nat.max_le.mpr ⟨depth_le_of_json? readFirst, membersDepth_le_of_members? readOthers⟩

end

theorem json?_of_le {levels more : Nat} {written : Tree} {value : Json}
    (read : json? levels written = some value) (le : levels ≤ more) : json? more written = some value :=
  json?_of_depth_le read (Nat.le_trans (depth_le_of_json? read) le)

end Tree

mutual

def EachNumber (property : Number → Prop) : Json → Prop
  | .number value => property value
  | .array items => EachNumberItems property items
  | .object fields => EachNumberFields property fields
  | _ => True

def EachNumberItems (property : Number → Prop) : List Json → Prop
  | [] => True
  | item :: rest => item.EachNumber property ∧ EachNumberItems property rest

def EachNumberFields (property : Number → Prop) : List (String × Json) → Prop
  | [] => True
  | (_, value) :: rest => value.EachNumber property ∧ EachNumberFields property rest

end

mutual

theorem EachNumber.imp {property weaker : Number → Prop} (implies : ∀ number, property number → weaker number) :
    ∀ {value : Json}, value.EachNumber property → value.EachNumber weaker
  | .null, _ => trivial
  | .bool _, _ => trivial
  | .number value, numbers => implies value numbers
  | .string _, _ => trivial
  | .array items, numbers => EachNumberItems.imp implies (show EachNumberItems property items from numbers)
  | .object fields, numbers => EachNumberFields.imp implies (show EachNumberFields property fields from numbers)

theorem EachNumberItems.imp {property weaker : Number → Prop}
    (implies : ∀ number, property number → weaker number) :
    ∀ {items : List Json}, EachNumberItems property items → EachNumberItems weaker items
  | [], _ => trivial
  | _ :: _, numbers => ⟨EachNumber.imp implies numbers.1, EachNumberItems.imp implies numbers.2⟩

theorem EachNumberFields.imp {property weaker : Number → Prop}
    (implies : ∀ number, property number → weaker number) :
    ∀ {fields : List (String × Json)}, EachNumberFields property fields → EachNumberFields weaker fields
  | [], _ => trivial
  | _ :: _, numbers => ⟨EachNumber.imp implies numbers.1, EachNumberFields.imp implies numbers.2⟩

end

theorem eachNumberFields_iff {property : Number → Prop} {fields : Fields} :
    EachNumberFields property fields ↔ ∀ field ∈ fields, field.2.EachNumber property := by
  induction fields with
  | nil => simp [EachNumberFields]
  | cons field rest ih => simp [EachNumberFields, ih]

end Json

/-- What is printed for the number is read as the number. -/
def Number.ReadsBack (value : Number) : Prop := value.numeral.number? = some value

def Number.IsInteger : Number → Prop
  | .integer .. => True
  | .real _ => False

theorem Number.readsBack_of_isInteger {value : Number} (integer : value.IsInteger) : value.ReadsBack := by
  cases value with
  | integer value inRange => exact number?_numeral_integer value inRange
  | real _ => cases integer

namespace Json

mutual

/-- A value that is not too deep is read back from its own structure, if each of its numbers is. -/
theorem json?_tree {levels : Nat} : ∀ {value : Json}, value.EachNumber Number.ReadsBack → value.WellFormed →
    value.depth ≤ levels → value.tree.json? levels = some value
  | .null, _, _, _ => rfl
  | .bool _, _, _, _ => rfl
  | .number _, numbers, _, _ => congrArg (Option.map Json.number) numbers
  | .string text, _, _, _ => congrArg (Option.map Json.string) (decodeText?_printedText text)
  | .array items, numbers, formed, fits => by
    cases levels with
    | zero => cases fits
    | succ levels => rw [tree, Tree.json?, items?_tree numbers formed (Nat.le_of_succ_le_succ fits), Option.map_some]
  | .object fields, numbers, formed, fits => by
    cases levels with
    | zero => cases fits
    | succ levels =>
      rw [tree, Tree.json?, members?_tree numbers formed.2 (Nat.le_of_succ_le_succ fits), Option.map_some,
        Fields.ofList_of_nodup formed.1]

theorem items?_tree {levels : Nat} : ∀ {items : List Json}, EachNumberItems Number.ReadsBack items →
    WellFormedItems items → depthItems items ≤ levels → Tree.items? levels (itemTrees items) = some items
  | [], _, _, _ => rfl
  | item :: rest, numbers, formed, fits => by
    obtain ⟨fitsFirst, fitsOthers⟩ := Nat.max_le.mp fits
    rw [itemTrees, Tree.items?, json?_tree numbers.1 formed.1 fitsFirst,
      items?_tree numbers.2 formed.2 fitsOthers]
    rfl

theorem members?_tree {levels : Nat} : ∀ {fields : List (String × Json)},
    EachNumberFields Number.ReadsBack fields → WellFormedFields fields → depthFields fields ≤ levels →
      Tree.members? levels (memberTrees fields) = some fields
  | [], _, _, _ => rfl
  | (key, value) :: rest, numbers, formed, fits => by
    obtain ⟨fitsFirst, fitsOthers⟩ := Nat.max_le.mp fits
    rw [memberTrees, Tree.members?, decodeText?_printedText, json?_tree numbers.1 formed.1 fitsFirst,
      members?_tree numbers.2 formed.2 fitsOthers]
    rfl

end

theorem toList_render (value : Json) : value.render.toList = value.chars := String.toList_ofList

theorem ofText?_render (value : Json) : Tree.ofText? value.render.toList = some value.tree := by
  rw [toList_render, ofText?_chars]

end Json

end FindQuery
