import FindQuery.Number.Binary64

namespace FindQuery

inductive Number where
  | integer (value : Int) (inRange : leastInteger ≤ value ∧ value < integerLimit)
  | real (value : Binary64)
  deriving DecidableEq

namespace Number

/-- Equal numbers of one kind. An integer is never equal to a binary64 number. -/
def same : Number → Number → Bool
  | .integer a _, .integer b _ => a = b
  | .real a, .real b => a.same b
  | _, _ => false

def integer? (value : Int) : Option Number :=
  if h : leastInteger ≤ value ∧ value < integerLimit then some (.integer value h) else none

def ofUInt64 (value : UInt64) : Number :=
  .integer value.toNat (by
    have bound := value.toNat_lt
    unfold leastInteger integerLimit
    omega)

theorem same_refl (a : Number) : a.same a = true := by
  cases a <;> simp [same, Binary64.same]

theorem same_comm (a b : Number) : a.same b = b.same a := by
  cases a <;> cases b <;> simp only [same]
  · simp only [eq_comm]
  · simp only [Binary64.same, eq_comm, Bool.and_comm]

end Number

end FindQuery
