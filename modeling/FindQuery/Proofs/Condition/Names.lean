import FindQuery.Proofs.Condition.Shorthand
import FindQuery.Proofs.Text.LetterCase

namespace FindQuery.Operator

open Text (HasAsciiWords Respelled respelled_iff upper words)

theorem spelling_name (op : Operator) : spelling op.name = op.name.toList := by
  cases op <;> rfl

theorem hasAsciiWords_name (op : Operator) : HasAsciiWords op.name := by
  have ascii : (op.name.toList.all fun c => decide (c.toNat < 0x80)) = true := by cases op <;> rfl
  exact fun c member => .inl (by simpa using List.all_eq_true.mp ascii c member)

theorem words_spelling (name : String) : words (spelling name) = (words name.toList).map upper := by
  have solid : ∀ part ∈ (words name.toList).map upper, Text.Solid part := by
    intro part member
    obtain ⟨word, inside, rfl⟩ := List.mem_map.mp member
    exact ((Text.spaced_words name.toList).solid word inside).upper
  rw [spelling, Text.upper_intercalate]
  exact Text.words_eq_iff.mpr (Text.spaced_intercalate solid)

theorem spelling_eq_iff {name other : String} :
    spelling name = spelling other ↔ (words name.toList).map upper = (words other.toList).map upper := by
  constructor
  · intro same
    rw [← words_spelling, same, words_spelling]
  · intro same
    rw [spelling, Text.upper_intercalate, same, ← Text.upper_intercalate, spelling]

theorem ofName_of_spelling_eq {name other : String} (same : spelling name = spelling other) :
    (∃ op, ofName name = .ok op ∧ ofName other = .ok op) ∨
      (ofName name = .error (.malformedCondition (.unknownOperator name)) ∧
        ofName other = .error (.malformedCondition (.unknownOperator other))) := by
  unfold ofName
  rw [same]
  cases all.find? fun op => op.name.toList = spelling other with
  | none => exact .inr ⟨rfl, rfl⟩
  | some op => exact .inl ⟨op, rfl, rfl⟩

theorem ofName_eq_ok_iff {name : String} {op : Operator} :
    ofName name = .ok op ↔ spelling name = spelling op.name := by
  constructor
  · intro read
    unfold ofName at read
    split at read
    · next found =>
      cases read
      have spelled := List.find?_some found
      rw [spelling_name]
      exact (of_decide_eq_true spelled).symm
    · cases read
  · intro same
    rcases ofName_of_spelling_eq same with ⟨found, read, own⟩ | ⟨_, refused⟩
    · rw [ofName_name] at own
      cases own
      exact read
    · rw [ofName_name] at refused
      cases refused

/-- Two texts of the same words up to white space and the case of ASCII letters name the same operator, or neither of
them names any. So an operator goes by every such spelling of its name. A text that is ASCII but for white space names
it only so, and not where words are joined, repeated or divided. -/
theorem ofName_up_to_spelling :
    (∀ name other, Respelled name other →
      (∃ op, ofName name = .ok op ∧ ofName other = .ok op) ∨
        (ofName name = .error (.malformedCondition (.unknownOperator name)) ∧
          ofName other = .error (.malformedCondition (.unknownOperator other)))) ∧
    (∀ (op : Operator) (name : String), Respelled name op.name → ofName name = .ok op) ∧
    (∀ (op : Operator) (name : String), HasAsciiWords name → ofName name = .ok op → Respelled name op.name) ∧
    ∀ near ∈ ["NOTIN", "NOT NOT IN", "N OT IN"], ∀ name, Respelled name near →
      ofName name = .error (.malformedCondition (.unknownOperator name)) := by
  have alike {name other : String} (respelled : Respelled name other) : spelling name = spelling other :=
    spelling_eq_iff.mpr respelled.upper_words
  refine ⟨fun name other respelled => ofName_of_spelling_eq (alike respelled),
    fun op name respelled => ofName_eq_ok_iff.mpr (alike respelled), ?_, ?_⟩
  · intro op name ascii read
    have same := spelling_eq_iff.mp (ofName_eq_ok_iff.mp read)
    exact (Text.respelled_iff_of_ascii ascii op.hasAsciiWords_name).mpr same
  · intro near member name respelled
    have unnamed : ∀ near ∈ ["NOTIN", "NOT NOT IN", "N OT IN"], ∀ op ∈ all, spelling near ≠ spelling op.name := by
      decide
    rcases ofName_of_spelling_eq (alike respelled) with ⟨op, _, read⟩ | ⟨refused, _⟩
    · exact absurd (ofName_eq_ok_iff.mp read) (unnamed near member op op.mem_all)
    · exact refused

def spacedName : String := "\u2003noT\u00a0\tiN"

theorem ofName_up_to_spelling_spaced :
    Respelled spacedName "Not In\u3000" ∧ Respelled spacedName notIn.name ∧ HasAsciiWords spacedName ∧
      ofName spacedName = .ok .notIn ∧ ofName "Not In\u3000" = .ok .notIn ∧
      Respelled "n\u2003oT\niN" "N OT IN" ∧
      ofName "n\u2003oT\niN" = .error (.malformedCondition (.unknownOperator "n\u2003oT\niN")) := by
  obtain ⟨alike, spelled, only, unread⟩ := ofName_up_to_spelling
  have respelled : Respelled spacedName "Not In\u3000" := respelled_iff.mpr (by decide)
  have read : ofName spacedName = .ok .notIn := spelled .notIn spacedName (respelled_iff.mpr (by decide))
  have other : ofName "Not In\u3000" = .ok .notIn := by
    rcases alike _ _ respelled with ⟨op, same, other⟩ | ⟨refused, _⟩
    · rw [read] at same
      cases same
      exact other
    · rw [read] at refused
      cases refused
  have ascii : HasAsciiWords spacedName := by
    have each : (spacedName.toList.all fun c => decide (c.toNat < 0x80) || Text.isBlank c) = true := by decide
    exact fun c member => by simpa using List.all_eq_true.mp each c member
  have divided : Respelled "n\u2003oT\niN" "N OT IN" := respelled_iff.mpr (by decide)
  exact ⟨respelled, only .notIn spacedName ascii read, ascii, read, other, divided,
    unread "N OT IN" (by decide) _ divided⟩

end FindQuery.Operator
