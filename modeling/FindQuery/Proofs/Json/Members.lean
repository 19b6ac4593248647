import FindQuery.Proofs.Json.Building
import FindQuery.Proofs.Json.Fields

namespace FindQuery

namespace Json.Tree

inductive Builder.Filling : Builder → Prop
  | inside (own : Builder) (before : List (List Piece × Tree)) (key : List Piece) :
    Builder.Filling (own.under [.member before key])
  | key {members : List (List Piece × Tree)} (some : members ≠ []) : Builder.Filling ⟨[], .key members⟩
  | colon (members : List (List Piece × Tree)) (key : List Piece) : Builder.Filling ⟨[], .colon members key⟩
  | finished {members : List (List Piece × Tree)} (some : members ≠ []) :
    Builder.Filling ⟨[], .nothing (.object members)⟩

theorem Builder.Filling.step {builder next : Builder} {token : Token} (filling : builder.Filling)
    (stepped : step? builder token = some next) : next.Filling := by
  cases filling with
  | inside own before key =>
    by_cases finished : ∃ result, own.goal = .nothing result
    · -- The member is complete, so that the object goes on or ends.
      obtain ⟨result, goal⟩ := finished
      simp only [Builder.under, goal, complete] at stepped
      cases token <;> simp only [step?, reduceCtorEq, Option.some.injEq] at stepped <;> subst stepped
      case comma => exact .key (by simp)
      case closeObject => exact .finished (by simp)
    · rw [step?_under _ token fun result goal => finished ⟨result, goal⟩] at stepped
      obtain ⟨ownNext, _, rfl⟩ := Option.map_eq_some_iff.mp stepped
      exact .inside ownNext before key
  | key some =>
    cases token <;> simp only [step?, reduceCtorEq, Option.some.injEq] at stepped
    subst stepped
    exact .colon _ _
  | colon members key =>
    cases token <;> simp only [step?, reduceCtorEq, Option.some.injEq] at stepped
    subst stepped
    exact .inside ⟨[], .value⟩ members key
  | finished some => cases token <;> simp only [step?, reduceCtorEq] at stepped

theorem Builder.Filling.run {builder last : Builder} {tokens : List Token} (filling : builder.Filling)
    (ran : run? builder tokens = some last) : last.Filling := by
  induction tokens generalizing builder with
  | nil =>
    cases ran
    exact filling
  | cons token rest ih =>
    simp only [run?_cons, Option.bind_eq_some_iff] at ran
    obtain ⟨next, stepped, others⟩ := ran
    exact ih (filling.step stepped) others

theorem Builder.Filling.result {builder : Builder} {value : Tree} (filling : builder.Filling)
    (result : result? builder = some value) : ∃ members, members ≠ [] ∧ value = .object members := by
  cases filling with
  | inside own before key =>
    obtain ⟨stack, goal⟩ := own
    cases goal <;> simp [Builder.under, complete, result?] at result
  | finished some =>
    cases result
    exact ⟨_, some, rfl⟩
  | key | colon => cases result

theorem exists_members_of_ofTokens? {key : List Piece} {rest : List Token} {value : Tree}
    (built : ofTokens? (.openObject :: .text key :: .colon :: rest) = some value) :
    ∃ members, members ≠ [] ∧ value = .object members := by
  obtain ⟨last, ran, result⟩ := Option.bind_eq_some_iff.mp built
  have begun : Builder.Filling ⟨[.member [] key], .value⟩ := .inside ⟨[], .value⟩ [] key
  have inside : run? ⟨[.member [] key], .value⟩ rest = some last := ran
  exact (begun.run inside).result result

theorem members?_ne_nil {levels : Nat} {members : List (List Piece × Tree)} {writes : Fields} (some : members ≠ [])
    (read : members? levels members = .some writes) : writes ≠ [] := by
  cases members with
  | nil => exact absurd rfl some
  | cons member rest =>
    obtain ⟨key, value⟩ := member
    obtain ⟨name, _, read⟩ := Option.bind_eq_some_iff.mp read
    obtain ⟨first, _, read⟩ := Option.bind_eq_some_iff.mp read
    obtain ⟨others, _, rfl⟩ := Option.map_eq_some_iff.mp read
    simp

theorem json?_object_ne_empty {levels : Nat} {members : List (List Piece × Tree)} {value : Json}
    (some : members ≠ []) (read : json? levels (.object members) = .some value) : value ≠ .object [] := by
  cases levels with
  | zero => cases read
  | succ levels =>
    obtain ⟨writes, inner, rfl⟩ := Option.map_eq_some_iff.mp read
    simpa using Fields.ofList_ne_nil (members?_ne_nil some inner)

end Json.Tree

end FindQuery
