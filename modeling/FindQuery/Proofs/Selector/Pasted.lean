import FindQuery.Proofs.Json.RoundTrip
import FindQuery.Selector.Doc

namespace FindQuery

namespace Json

def readWithin? (levels : Nat) (text : String) : Option Json := (Tree.ofText? text.toList).bind (Tree.json? levels)

/-- The text consists of tokens that close no container of others and separate nothing outside of their own. -/
def SelfContained (text : String) : Prop :=
  ∃ tokens, scan? text.toList = some tokens ∧ Token.levels? 0 tokens = some 0

theorem readWithin?_of_le {levels more : Nat} {text : String} {value : Json}
    (read : readWithin? levels text = some value) (le : levels ≤ more) : readWithin? more text = some value := by
  obtain ⟨written, structured, read⟩ := Option.bind_eq_some_iff.mp read
  rw [readWithin?, structured, Option.bind_some, Tree.json?_of_le read le]

theorem selfContained_of_readWithin? {levels : Nat} {text : String} {value : Json}
    (read : readWithin? levels text = some value) : SelfContained text := by
  obtain ⟨written, structured, _⟩ := Option.bind_eq_some_iff.mp read
  obtain ⟨tokens, scanned, built⟩ := Option.bind_eq_some_iff.mp structured
  exact ⟨tokens, scanned, Tree.levels?_of_ofTokens? built⟩

def conjoin (value : Json) (side : Fields) : Json :=
  if side.isEmpty then value else .object [("$and", .array [value, .object side])]

theorem conjoin_injective {value value' : Json} {side : Fields}
    (same : value.conjoin side = value'.conjoin side) : value = value' := by
  unfold conjoin at same
  split at same
  · exact same
  · simpa using same

theorem json?_pair {levels : Nat} {first second : Tree} {a b : Json} (key : String)
    (readFirst : first.json? levels = some a) (readSecond : second.json? levels = some b) :
    (Tree.pair (printedText key) first second).json? (levels + 2) = some (.object [(key, .array [a, b])]) := by
  simp only [Tree.pair, Tree.json?, Tree.members?, Tree.items?, decodeText?_printedText, readFirst, readSecond,
    Option.bind_some, Option.map_some]
  rfl

theorem exists_of_json?_pair {levels : Nat} {first second : Tree} {key : String} {whole : Json}
    (read : (Tree.pair (printedText key) first second).json? levels = some whole) :
    ∃ inner a b, inner + 2 = levels ∧ first.json? inner = some a ∧ second.json? inner = some b ∧
      whole = .object [(key, .array [a, b])] := by
  have deep := Tree.depth_le_of_json? read
  obtain ⟨inner, rfl⟩ : ∃ inner, levels = inner + 2 := by
    simp only [Tree.pair, Tree.depth, Tree.membersDepth, Tree.itemsDepth] at deep
    exact ⟨levels - 2, by omega⟩
  obtain ⟨a, readFirst⟩ : ∃ a, first.json? inner = some a := by
    refine Option.ne_none_iff_exists'.mp fun unread => ?_
    simp [Tree.pair, Tree.json?, Tree.members?, Tree.items?, unread] at read
  obtain ⟨b, readSecond⟩ : ∃ b, second.json? inner = some b := by
    refine Option.ne_none_iff_exists'.mp fun unread => ?_
    simp [Tree.pair, Tree.json?, Tree.members?, Tree.items?, unread] at read
  rw [json?_pair key readFirst readSecond, Option.some.injEq] at read
  exact ⟨inner, a, b, rfl, readFirst, readSecond, read.symm⟩

end Json

open Json

/-- The selector is read from its own text as it is. An empty one is never printed. -/
def Selector.ReadsBack (side : Selector) : Prop :=
  side.isEmpty = true ∨ parse? side.render = some side.toJson

namespace SelectorDoc

theorem toList_conjunctionText (source : String) (side : Selector) :
    (conjunctionText source side).toList =
      '\x7b' :: (quoted "$and" ++ ':' :: '[' :: (source.toList ++ ',' :: (side.toJson.chars ++ [']', '\x7d']))) := by
  have key : quoted "$and" = "\"".toList ++ Token.and.toList ++ ['"'] := rfl
  simp [conjunctionText, key, Selector.render, toList_render]

theorem scan?_conjunctionText {source : String} (side : Selector) {tokens : List Json.Token}
    (scanned : scan? source.toList = some tokens) :
    scan? (conjunctionText source side).toList =
      some (Tree.pairTokens (printedText "$and") tokens side.toJson.tree.tokens) := by
  rw [toList_conjunctionText, scan?_mark Scanner.marks_openObject,
    scan?_append_mark (scan?_quoted "$and") Scanner.marks_colon, scan?_mark Scanner.marks_openArray,
    scan?_append_mark scanned Scanner.marks_comma,
    scan?_append_mark (scan?_chars side.toJson) Scanner.marks_closeArray, scan?_mark Scanner.marks_closeObject,
    scan?_nil]
  rfl

theorem ofText?_conjunctionText {source : String} (side : Selector) {written : Tree}
    (structured : Tree.ofText? source.toList = some written) :
    Tree.ofText? (conjunctionText source side).toList =
      some (Tree.pair (printedText "$and") written side.toJson.tree) := by
  obtain ⟨tokens, scanned, built⟩ := Option.bind_eq_some_iff.mp structured
  rw [Tree.ofText?, scan?_conjunctionText side scanned, Option.bind_some]
  exact Tree.ofTokens?_pairTokens _ built (Tree.ofTokens?_tokens _)

theorem exists_ofText?_of_conjunctionText {source : String} {side : Selector} {whole : Tree}
    (contained : SelfContained source) (structured : Tree.ofText? (conjunctionText source side).toList = some whole) :
    ∃ written, Tree.ofText? source.toList = some written := by
  obtain ⟨tokens, scanned, counted⟩ := contained
  rw [Tree.ofText?, scan?_conjunctionText side scanned, Option.bind_some] at structured
  obtain ⟨last, ran, _⟩ := Option.bind_eq_some_iff.mp structured
  have inside : Tree.run? ⟨[.member [] (printedText "$and")], .itemOrClose⟩
      (tokens ++ .comma :: (side.toJson.tree.tokens ++ [.closeArray, .closeObject])) = some last := ran
  obtain ⟨written, built⟩ := Tree.exists_ofTokens?_of_run? counted inside
  exact ⟨written, by rw [Tree.ofText?, scanned, Option.bind_some, built]⟩

def conjoinText (source : String) (side : Selector) : String :=
  if side.isEmpty then source else conjunctionText source side

theorem selfContained_conjoinText {source : String} (contained : SelfContained source) (side : Selector) :
    SelfContained (conjoinText source side) := by
  unfold conjoinText
  split
  · exact contained
  · obtain ⟨tokens, scanned, counted⟩ := contained
    refine ⟨_, scan?_conjunctionText side scanned, ?_⟩
    have own := Json.Token.levels?_add 2 counted
    have other := Json.Token.levels?_add 2
      (Tree.levels?_of_ofTokens? (Tree.ofTokens?_tokens side.toJson.tree))
    rw [Nat.zero_add] at own other
    change Json.Token.levels? 2 (tokens ++ .comma :: (side.toJson.tree.tokens ++ [.closeArray, .closeObject])) = _
    rw [Json.Token.levels?_append, own, Option.bind_some, Json.Token.levels?_cons]
    change Json.Token.levels? 2 (side.toJson.tree.tokens ++ [.closeArray, .closeObject]) = _
    rw [Json.Token.levels?_append, other]
    rfl

theorem readWithin?_conjoinText {levels : Nat} {source : String} {side : Selector} {value : Json}
    (read : readWithin? levels source = some value)
    (reads : side.isEmpty = false → side.toJson.tree.json? levels = some side.toJson) :
    readWithin? (levels + 2) (conjoinText source side) = some (value.conjoin side.entries) := by
  unfold conjoinText conjoin Selector.isEmpty
  split
  · exact readWithin?_of_le read (Nat.le_add_right levels 2)
  · next nonempty =>
    obtain ⟨written, structured, read⟩ := Option.bind_eq_some_iff.mp read
    rw [readWithin?, ofText?_conjunctionText side structured, Option.bind_some,
      json?_pair "$and" read (reads (Bool.eq_false_iff.mpr nonempty)), Selector.toJson]

/-- A text that keeps to its own containers is read beside a selector only if it is a JSON text. What is read is
the conjunction of the two exactly if the selector reads back. -/
theorem exists_of_readWithin?_conjoinText {levels : Nat} {source : String} {side : Selector} {whole : Json}
    (contained : SelfContained source) (limited : levels ≤ depthLimit)
    (read : readWithin? levels (conjoinText source side) = some whole) :
    ∃ inner value, inner ≤ levels ∧ readWithin? inner source = some value ∧
      (whole = value.conjoin side.entries ↔ side.ReadsBack) := by
  unfold conjoinText Selector.isEmpty at read
  split at read
  · next empty =>
    exact ⟨levels, whole, Nat.le_refl _, read, by simp [conjoin, Selector.ReadsBack, Selector.isEmpty, empty]⟩
  · next nonempty =>
    obtain ⟨tree, structured, read⟩ := Option.bind_eq_some_iff.mp read
    obtain ⟨written, own⟩ := exists_ofText?_of_conjunctionText contained structured
    rw [ofText?_conjunctionText side own, Option.some.injEq] at structured
    subst structured
    obtain ⟨inner, value, sideValue, enough, readValue, readSide, rfl⟩ := exists_of_json?_pair read
    have whole : parse? side.render = some sideValue := by
      rw [parse?, Selector.render, ofText?_render, Option.bind_some, Tree.json?_of_le readSide (by omega)]
    refine ⟨inner, value, by omega, by rw [readWithin?, own, Option.bind_some, readValue], ?_⟩
    simp [conjoin, Selector.ReadsBack, Selector.isEmpty, Selector.toJson, nonempty, whole]

end SelectorDoc

end FindQuery
