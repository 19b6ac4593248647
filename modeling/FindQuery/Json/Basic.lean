import FindQuery.Number.Basic

namespace FindQuery

inductive Json where
  | null
  | bool (value : Bool)
  | number (value : Number)
  | string (value : String)
  | array (items : List Json)
  | object (fields : List (String × Json))

abbrev Fields := List (String × Json)

namespace Fields

def keys (fields : Fields) : List String := fields.map Prod.fst

def get? (key : String) : Fields → Option Json
  | [] => none
  | (k, value) :: rest => if k = key then some value else get? key rest

def hasKey (fields : Fields) (key : String) : Bool := fields.keys.contains key

/-- Writes a value under a key. A key that is there keeps its place; a new one goes to the end. -/
def insert (key : String) (value : Json) : Fields → Fields
  | [] => [(key, value)]
  | (k, old) :: rest => if k = key then (k, value) :: rest else (k, old) :: insert key value rest

def getThenInsert (key : String) (value : Json) : Fields → Option Json × Fields
  | [] => (none, [(key, value)])
  | (k, old) :: rest =>
    if k = key then (some old, (k, value) :: rest)
    else
      let (found, written) := getThenInsert key value rest
      (found, (k, old) :: written)

def extend (fields other : Fields) : Fields :=
  other.foldl (fun fields field => fields.insert field.1 field.2) fields

def ofList (writes : List (String × Json)) : Fields := extend [] writes

theorem mem_keys_insert {key k : String} {value : Json} {fields : Fields} :
    k ∈ keys (insert key value fields) ↔ k = key ∨ k ∈ keys fields := by
  induction fields with
  | nil => simp [insert, keys]
  | cons field rest ih =>
    simp only [insert]
    split
    · next h => simp [keys, h]
    · next h => simp only [keys, List.map_cons, List.mem_cons] at ih ⊢; rw [ih]; exact or_left_comm

theorem get?_insert (key k : String) (value : Json) (fields : Fields) :
    get? k (insert key value fields) = if k = key then some value else get? k fields := by
  induction fields with
  | nil => simp [insert, get?, eq_comm]
  | cons field rest ih =>
    simp only [insert]
    split
    · next h =>
      subst h
      simp only [get?]
      split <;> simp_all [eq_comm]
    · next h =>
      simp only [get?, ih]
      split
      · next h' =>
        subst h'
        simp [h]
      · rfl

theorem getThenInsert_eq (key : String) (value : Json) (fields : Fields) :
    getThenInsert key value fields = (get? key fields, insert key value fields) := by
  induction fields with
  | nil => rfl
  | cons field rest ih =>
    simp only [getThenInsert, get?, insert]
    split
    · rfl
    · rw [ih]

theorem nodup_keys_insert {key : String} {value : Json} {fields : Fields} (h : (keys fields).Nodup) :
    (keys (insert key value fields)).Nodup := by
  induction fields with
  | nil => simp [insert, keys]
  | cons field rest ih =>
    simp only [insert]
    simp only [keys, List.map_cons, List.nodup_cons] at h ih ⊢
    split
    · simpa using h
    · next hne =>
      simp only [List.map_cons, List.nodup_cons]
      refine ⟨fun mem => ?_, ih h.2⟩
      rcases mem_keys_insert.1 mem with eq | mem
      · exact hne eq
      · exact h.1 mem

theorem nodup_keys_extend {fields other : Fields} (h : (keys fields).Nodup) :
    (keys (extend fields other)).Nodup := by
  induction other generalizing fields with
  | nil => exact h
  | cons field rest ih => exact ih (nodup_keys_insert h)

theorem nodup_keys_ofList (writes : List (String × Json)) : (keys (ofList writes)).Nodup :=
  nodup_keys_extend (by simp [keys])

end Fields

namespace Json

mutual

/-- Every object in the value has distinct keys. -/
def WellFormed : Json → Prop
  | .array items => WellFormedItems items
  | .object fields => (Fields.keys fields).Nodup ∧ WellFormedFields fields
  | _ => True

def WellFormedItems : List Json → Prop
  | [] => True
  | item :: rest => item.WellFormed ∧ WellFormedItems rest

def WellFormedFields : List (String × Json) → Prop
  | [] => True
  | (_, value) :: rest => value.WellFormed ∧ WellFormedFields rest

end

mutual

/-- Equality of values, whatever the order of the fields in objects. -/
def same : Json → Json → Bool
  | .null, .null => true
  | .bool a, .bool b => a == b
  | .number a, .number b => a.same b
  | .string a, .string b => a == b
  | .array a, .array b => sameItems a b
  | .object a, .object b => a.length == b.length && sameFields a b
  | _, _ => false

def sameItems : List Json → List Json → Bool
  | [], [] => true
  | a :: rest, b :: rest' => a.same b && sameItems rest rest'
  | _, _ => false

def sameFields : List (String × Json) → Fields → Bool
  | [], _ => true
  | (key, value) :: rest, other =>
    (match other.get? key with
      | some value' => value.same value'
      | none => false) && sameFields rest other

end

def get? (key : String) : Json → Option Json
  | .object fields => Fields.get? key fields
  | _ => none

def ofUInt64 (value : UInt64) : Json := .number (.ofUInt64 value)

mutual

def depth : Json → Nat
  | .array items => depthItems items + 1
  | .object fields => depthFields fields + 1
  | _ => 0

def depthItems : List Json → Nat
  | [] => 0
  | item :: rest => max item.depth (depthItems rest)

def depthFields : List (String × Json) → Nat
  | [] => 0
  | (_, value) :: rest => max value.depth (depthFields rest)

end

end Json

end FindQuery
