import Mathlib
import FindQuery.Proofs.Condition.Accepted
import FindQuery.Proofs.Selector.Evaluation

namespace FindQuery

/-- What a store takes native entries, operators and selectors that are no objects for. -/
structure Store where
  native : String → Json → Json → Prop
  relation : String → Option Json → Json → Prop
  bare : Json → Json → Prop

def Json.isRelational : Json → Bool
  | .object fields => !fields.isEmpty && fields.all fun field => Token.isNative field.1
  | _ => false

theorem Operator.Demands.isRelational {op : Operator} {operands : List Operand} {name : String} {relations : Fields}
    (demands : op.Demands operands name relations) : (Json.object relations).isRelational = true := by
  cases demands <;> simp [Json.isRelational] <;> decide

namespace Store

section

variable (store : Store) (doc : Json)

def Equals (field : String) (value : Json) : Prop := ∃ found, doc.get? field = some found ∧ found.same value = true

def Related (field : String) (relations : Fields) : Prop :=
  ∀ relation ∈ relations, store.relation relation.1 (doc.get? field) relation.2

/-- What an object of operators asks of a field. Under a native name, it is up to the store. -/
def Asks (name : String) (relations : Fields) : Prop :=
  if Token.isNative name then store.native name (.object relations) doc else store.Related doc name relations

def Entry (key : String) (value : Json) : Prop :=
  if Token.isNative key then store.native key value doc
  else match value with
    | .object fields =>
      if (Json.object fields).isRelational then store.Related doc key fields else Equals doc key (.object fields)
    | value => Equals doc key value

end

def evaluator (store : Store) : Evaluator := ⟨fun key value doc => store.Entry doc key value, store.bare⟩

variable {store : Store} {doc : Json}

theorem asks_iff_related {name : String} {relations : Fields} (plain : Token.isNative name = false) :
    store.Asks doc name relations ↔ store.Related doc name relations := by
  rw [Asks, plain]
  rfl

theorem entry_relational {name : String} {relations : Fields} (relational : (Json.object relations).isRelational) :
    store.Entry doc name (.object relations) ↔ store.Asks doc name relations := by
  unfold Entry Asks
  split
  · rfl
  · simp only [relational, if_true]

theorem entry_equals {key : String} {value : Json} (plain : Token.isNative key = false)
    (literal : value.isRelational = false) : store.Entry doc key value ↔ Equals doc key value := by
  unfold Entry
  rw [plain]
  cases value <;> simp [literal]

end Store

namespace Evaluator

variable {evaluator : Evaluator} {doc : Json}

theorem holdsUnder_of_not_native {key : String} {value : Json} (plain : Token.isNative key = false) :
    evaluator.HoldsUnder doc key value ↔ evaluator.entry key value doc := by
  cases value with
  | array items =>
    have not_and : key ≠ "$and" := by
      rintro rfl
      revert plain
      decide
    have not_or : key ≠ "$or" := by
      rintro rfl
      revert plain
      decide
    rw [HoldsUnder, if_neg not_and, if_neg not_or]
  | _ =>
    rw [HoldsUnder]
    simp

end Evaluator

/-- What a hash says of one field. Under a native key, and where a literal has the form of operators, it is for the
store to say. -/
def HashValue.Holds (store : Store) (doc : Json) (key : String) : HashValue → Prop
  | .literal value =>
    if Token.isNative key ∨ value.isRelational then store.evaluator.HoldsUnder doc key value
    else Store.Equals doc key value
  | .list values => store.Asks doc key [("$in", .array values)]
  | .native value => store.evaluator.HoldsUnder doc key value

mutual

/-- What conditions say of a document, without compiling them. -/
inductive Condition.Holds (store : Store) (doc : Json) : Condition → Prop
  | empty : Condition.Holds store doc .empty
  | hash {pairs : List (String × HashValue)}
    (each : ∀ key value, pairs.reverse.lookup key = some value → value.Holds store doc key) :
    Condition.Holds store doc (.hash pairs)
  | and {operands : List Operand} (each : ∀ operand ∈ operands, Operand.Holds store doc operand) :
    Condition.Holds store doc (.operation .and operands)
  | or {operands : List Operand} {operand : Operand} (member : operand ∈ operands)
    (holds : Operand.Holds store doc operand) : Condition.Holds store doc (.operation .or operands)
  | field {op : Operator} {operands : List Operand} {name : String} {relations : Fields}
    (demands : op.Demands operands name relations) (holds : store.Asks doc name relations) :
    Condition.Holds store doc (.operation op operands)
  | raw {selector : RawSelector} {fields : Fields} (value : selector.value? = some (.object fields))
    (holds : store.evaluator.Holds doc (Selector.ofFields fields).toJson) :
    Condition.Holds store doc (.raw selector)

inductive Operand.Holds (store : Store) (doc : Json) : Operand → Prop
  | intro {operand : Operand} {condition : Condition} (means : operand.toCondition = .ok condition)
    (holds : Condition.Holds store doc condition) : Operand.Holds store doc operand

end

section

variable {store : Store} {doc : Json}

theorem Operand.holds_iff {operand : Operand} {condition : Condition} (means : operand.toCondition = .ok condition) :
    operand.Holds store doc ↔ condition.Holds store doc := by
  constructor
  · rintro ⟨same, holds⟩
    rw [means, Except.ok.injEq] at same
    subst same
    exact holds
  · exact fun holds => .intro means holds

theorem HashValue.holdsUnder_compile {key : String} {value : HashValue} :
    store.evaluator.HoldsUnder doc key value.compile ↔ value.Holds store doc key := by
  cases value with
  | native value => rfl
  | list values =>
    rw [compile, Evaluator.holdsUnder_object]
    have relational : (Json.object [("$in", .array values)]).isRelational = true := by
      simp only [Json.isRelational, List.isEmpty_cons, List.all_cons, List.all_nil]
      decide
    exact Store.entry_relational relational
  | literal value =>
    rw [compile, HashValue.Holds]
    split
    · rfl
    · next plain =>
      simp only [not_or, Bool.not_eq_true] at plain
      rw [Evaluator.holdsUnder_of_not_native plain.1]
      exact Store.entry_equals plain.1 plain.2

theorem lookup_map_reverse (pairs : List (String × HashValue)) (key : String) :
    (pairs.map fun pair => (pair.1, pair.2.compile)).reverse.lookup key =
      (pairs.reverse.lookup key).map HashValue.compile := by
  rw [← List.map_reverse]
  induction pairs.reverse with
  | nil => rfl
  | cons pair rest ih =>
    rw [List.map_cons, List.lookup_cons, List.lookup_cons, ih]
    cases key == pair.1 <;> rfl

theorem holds_compileHash_iff {pairs : List (String × HashValue)} :
    store.evaluator.Holds doc (compileHash pairs).toJson ↔ (Condition.hash pairs).Holds store doc := by
  rw [compileHash, Evaluator.holds_ofFields]
  simp only [lookup_map_reverse, Option.map_eq_some_iff]
  constructor
  · intro each
    apply Condition.Holds.hash
    intro key value last
    exact HashValue.holdsUnder_compile.mp (each key value.compile ⟨value, last, rfl⟩)
  · rintro (_ | each)
    rintro key _ ⟨value, last, rfl⟩
    exact HashValue.holdsUnder_compile.mpr (each key value last)

theorem holds_demands_iff {op : Operator} {operands : List Operand} {name : String} {relations : Fields}
    (demands : op.Demands operands name relations) :
    store.evaluator.Holds doc (Selector.single name (.object relations)).toJson ↔
      (Condition.operation op operands).Holds store doc := by
  have asked : store.evaluator.Holds doc (Selector.single name (.object relations)).toJson ↔
      store.Asks doc name relations := by
    rw [Evaluator.holds_single, Evaluator.holdsUnder_object]
    exact Store.entry_relational demands.isRelational
  rw [asked]
  constructor
  · exact .field demands
  · intro means
    cases means with
    | and each => cases demands
    | or member holds => cases demands
    | field again holds =>
      obtain ⟨rfl, rfl⟩ := demands.unique again
      exact holds

def Operand.Agrees (store : Store) (doc : Json) (operand : Operand) (fragment : Selector) : Prop :=
  store.evaluator.Holds doc fragment.toJson ↔ operand.Holds store doc

theorem forall_holds_iff {operands : List Operand} {fragments : List Selector}
    (agree : List.Forall₂ (Operand.Agrees store doc) operands fragments) :
    (∀ item ∈ fragments.map Selector.toJson, store.evaluator.Holds doc item) ↔
      ∀ operand ∈ operands, operand.Holds store doc := by
  induction agree with
  | nil => simp
  | cons first _ ih =>
    rw [List.map_cons, List.forall_mem_cons, List.forall_mem_cons]
    exact and_congr first ih

theorem exists_holds_iff {operands : List Operand} {fragments : List Selector}
    (agree : List.Forall₂ (Operand.Agrees store doc) operands fragments) :
    (∃ item ∈ fragments.map Selector.toJson, store.evaluator.Holds doc item) ↔
      ∃ operand ∈ operands, operand.Holds store doc := by
  induction agree with
  | nil => simp
  | cons first _ ih =>
    rw [List.map_cons, List.exists_mem_cons_iff, List.exists_mem_cons_iff]
    exact or_congr first ih

theorem holds_group_iff {op : Operator} {operands : List Operand} {fragments : List Selector}
    (connective : op.arity = none) (agree : List.Forall₂ (Operand.Agrees store doc) operands fragments) :
    store.evaluator.Holds doc (op.group fragments).toJson ↔ (Condition.operation op operands).Holds store doc := by
  rw [Operator.group, Evaluator.holds_single]
  cases op <;> simp only [Operator.arity, reduceCtorEq] at connective
  case and =>
    rw [Operator.token, Token.and, Evaluator.holdsUnder_and, forall_holds_iff agree]
    constructor
    · exact .and
    · intro means
      cases means with
      | and each => exact each
      | field demands _ => cases demands
  case or =>
    rw [Operator.token, Token.or, Evaluator.holdsUnder_or, exists_holds_iff agree]
    constructor
    · rintro ⟨operand, member, holds⟩
      exact .or member holds
    · intro means
      cases means with
      | or member holds => exact ⟨_, member, holds⟩
      | field demands _ => cases demands

theorem agree_of_means {operands : List Operand} {fragments : List Selector}
    (operandwise : List.Forall₂
      (Operand.Means fun condition fragment =>
        store.evaluator.Holds doc fragment.toJson ↔ condition.Holds store doc) operands fragments) :
    List.Forall₂ (Operand.Agrees store doc) operands fragments := by
  refine operandwise.imp ?_
  intro operand fragment means
  obtain ⟨condition, same, holds⟩ := means
  rw [Operand.Agrees, holds, Operand.holds_iff same]

/-- A condition that is compiled says what its fragment does. -/
theorem holds_compileWith_iff {accepts : String → Bool} {condition : Condition} {fragment : Selector}
    (compiled : condition.compileWith accepts = .ok fragment) :
    store.evaluator.Holds doc fragment.toJson ↔ condition.Holds store doc := by
  have steps : CompiledCases fun condition fragment =>
      store.evaluator.Holds doc fragment.toJson ↔ condition.Holds store doc :=
    { empty := iff_of_true Evaluator.holds_empty .empty
      hash := fun _ => holds_compileHash_iff
      group := fun connective operandwise => holds_group_iff connective (agree_of_means operandwise)
      fixed := holds_demands_iff
      raw := fun value => by
        constructor
        · exact .raw value
        · intro means
          cases means with
          | raw again holds =>
            rw [value, Option.some.injEq, Json.object.injEq] at again
            rwa [again] }
  exact steps.condition compiled

end

def lenientStore : Store := ⟨fun _ _ _ => False, fun _ _ _ => True, fun _ _ => False⟩

def mixedCondition : Condition :=
  .operation .or
    [.value (.array [.string "not between", .string "title", .string "a", .string "m"]),
      .condition (.hash [("seen", .literal (.bool true)), ("seen", .list [.null])])]

def mixedFragment : Selector :=
  .single "$or" (.array
    [.object [("title", .object [("$lt", .string "a"), ("$gt", .string "m")])],
      .object [("seen", .object [("$in", .array [.null])])]])

theorem holds_compileWith_iff_mixed :
    lenientStore.evaluator.Holds (.object []) mixedFragment.toJson ↔
      mixedCondition.Holds lenientStore (.object []) := by
  have compiled : mixedCondition.compileWith Pattern.accepts = .ok mixedFragment := by cbv
  exact holds_compileWith_iff compiled

/-- A literal in the form of operators is no equality, and neither is one under a native key. Relations to a native
name are no relations to a field. -/
theorem native_not_plain :
    ((Condition.hash [("a", .literal (.object [("$gt", .null)]))]).compile =
        .ok (.single "a" (.object [("$gt", .null)])) ∧
      lenientStore.evaluator.Holds (.object [("a", .null)]) (Selector.single "a" (.object [("$gt", .null)])).toJson ∧
      ¬ Store.Equals (.object [("a", .null)]) "a" (.object [("$gt", .null)])) ∧
    ((Condition.hash [("$or", .literal (.bool true))]).compile = .ok (.single "$or" (.bool true)) ∧
      ¬ lenientStore.evaluator.Holds (.object [("$or", .bool true)]) (Selector.single "$or" (.bool true)).toJson ∧
      Store.Equals (.object [("$or", .bool true)]) "$or" (.bool true)) ∧
    ((Condition.isIn "$or" [.null]).compile =
        .ok (.single "$or" (.object [("$in", .array [.null])])) ∧
      ¬ lenientStore.evaluator.Holds (.object [])
        (Selector.single "$or" (.object [("$in", .array [.null])])).toJson ∧
      lenientStore.Related (.object []) "$or" [("$in", .array [.null])]) := by
  have never (doc value : Json) : ¬ lenientStore.Entry doc "$or" value := by
    intro holds
    unfold Store.Entry at holds
    rw [if_pos (by decide)] at holds
    exact holds
  refine ⟨⟨rfl, ?_, ?_⟩, ⟨rfl, ?_, ?_⟩, ⟨rfl, ?_, ?_⟩⟩
  · rw [Evaluator.holds_single, Evaluator.holdsUnder_object]
    have related : lenientStore.Related (.object [("a", .null)]) "a" [("$gt", .null)] := fun _ _ => trivial
    have plain : Token.isNative "a" = false := by decide
    exact (Store.entry_relational rfl).mpr ((Store.asks_iff_related plain).mpr related)
  · rintro ⟨found, there, same⟩
    have null : found = .null := Option.some.inj there.symm
    subst null
    cases same
  · rw [Evaluator.holds_single]
    exact never (.object [("$or", .bool true)]) (.bool true)
  · exact ⟨.bool true, rfl, rfl⟩
  · rw [Evaluator.holds_single, Evaluator.holdsUnder_object]
    exact never (.object []) (.object [("$in", .array [.null])])
  · exact fun _ _ => trivial

end FindQuery
