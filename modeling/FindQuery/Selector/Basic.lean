import FindQuery.Condition.Operator
import FindQuery.Json.Printer

namespace FindQuery

structure Selector where
  entries : Fields
  nodup_keys : (Fields.keys entries).Nodup := by decide

namespace Selector

def empty : Selector := ⟨[], by simp [Fields.keys]⟩

def keys (selector : Selector) : List String := Fields.keys selector.entries

def get? (selector : Selector) (key : String) : Option Json := Fields.get? key selector.entries

def hasKey (selector : Selector) (key : String) : Bool := Fields.hasKey selector.entries key

def isEmpty (selector : Selector) : Bool := selector.entries.isEmpty

def size (selector : Selector) : Nat := selector.entries.length

def insert (selector : Selector) (key : String) (value : Json) : Selector :=
  ⟨Fields.insert key value selector.entries, Fields.nodup_keys_insert selector.nodup_keys⟩

def getThenInsert (selector : Selector) (key : String) (value : Json) : Option Json × Selector :=
  match written : Fields.getThenInsert key value selector.entries with
  | (found, entries) =>
    (found, ⟨entries, by
      rw [Fields.getThenInsert_eq, Prod.mk.injEq] at written
      exact written.2 ▸ Fields.nodup_keys_insert selector.nodup_keys⟩)

def extend (selector other : Selector) : Selector :=
  ⟨Fields.extend selector.entries other.entries, Fields.nodup_keys_extend selector.nodup_keys⟩

def single (key : String) (value : Json) : Selector := empty.insert key value

def ofFields (fields : Fields) : Selector := ⟨Fields.ofList fields, Fields.nodup_keys_ofList fields⟩

def toJson (selector : Selector) : Json := .object selector.entries

def render (selector : Selector) : String := selector.toJson.render

def same (a b : Selector) : Bool := a.toJson.same b.toJson

/-- Adds the entries whose keys are not there yet. -/
def addMissing (selector extra : Selector) : Selector :=
  extra.entries.foldl
    (fun selector entry =>
      if selector.hasKey entry.1 then selector else selector.insert entry.1 entry.2)
    selector

@[ext]
theorem ext {a b : Selector} (h : a.entries = b.entries) : a = b := by
  cases a
  cases b
  cases h
  rfl

theorem get?_insert (selector : Selector) (key k : String) (value : Json) :
    (selector.insert key value).get? k = if k = key then some value else selector.get? k :=
  Fields.get?_insert key k value selector.entries

theorem getThenInsert_eq (selector : Selector) (key : String) (value : Json) :
    selector.getThenInsert key value = (selector.get? key, selector.insert key value) := by
  unfold getThenInsert
  split
  next found entries written =>
    rw [Fields.getThenInsert_eq, Prod.mk.injEq] at written
    obtain ⟨rfl, rfl⟩ := written
    rfl

end Selector

end FindQuery
