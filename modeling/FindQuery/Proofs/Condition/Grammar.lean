import Mathlib
import FindQuery.Proofs.Condition.Faults
import FindQuery.Proofs.Condition.Shorthand

namespace FindQuery

namespace Json

def IsScalar : Json → Prop
  | .array _ | .object _ => False
  | _ => True

def keys : Json → List String
  | .object fields => Fields.keys fields
  | _ => []

mutual

def selectors : Json → List Json
  | .object fields => .object fields :: selectorsOfFields fields
  | value => [value]

def selectorsUnder (key : String) : Json → List Json
  | .array items => if Token.isNative key then selectorsOfItems items else []
  | _ => []

def selectorsOfItems : List Json → List Json
  | [] => []
  | item :: rest => item.selectors ++ selectorsOfItems rest

def selectorsOfFields : List (String × Json) → List Json
  | [] => []
  | (key, value) :: rest => selectorsUnder key value ++ selectorsOfFields rest

end

/-- What stands where the store reads an operator: the native keys of a selector, and the keys under its fields. -/
def operators : Json → List String
  | .object fields => fields.flatMap fun field => if Token.isNative field.1 then [field.1] else field.2.keys
  | _ => []

theorem mem_selectorsOfItems {part : Json} {items : List Json} :
    part ∈ selectorsOfItems items ↔ ∃ item ∈ items, part ∈ item.selectors := by
  induction items with
  | nil => simp [selectorsOfItems]
  | cons item rest ih => simp [selectorsOfItems, ih]

theorem mem_selectorsOfFields {part : Json} {fields : Fields} :
    part ∈ selectorsOfFields fields ↔ ∃ field ∈ fields, part ∈ selectorsUnder field.1 field.2 := by
  induction fields with
  | nil => simp [selectorsOfFields]
  | cons field rest ih => simp [selectorsOfFields, ih]

theorem selectorsUnder_plain {key : String} (plain : Token.isNative key = false) (value : Json) :
    selectorsUnder key value = [] := by
  cases value <;> simp [selectorsUnder, plain]

end Json

def Token.known : List String := ["$and", "$or", "$in", "$nin", "$gt", "$gte", "$lt", "$lte", "$regex"]

section

variable (accepts : String → Bool)

inductive Comparison : Fields → Prop
  | isIn (values : List Json) : Comparison [("$in", .array values)]
  | notIn (values : List Json) : Comparison [("$nin", .array values)]
  | between (lower upper : Json) : Comparison [("$gte", lower), ("$lte", upper)]
  | notBetween (lower upper : Json) : Comparison [("$lt", lower), ("$gt", upper)]
  | regex {pattern : String} (accepted : accepts pattern = true) : Comparison [("$regex", .string pattern)]

inductive FieldEntry : String × Json → Prop
  | scalar {field : String} {value : Json} (plain : Token.isNative field = false) (scalar : value.IsScalar) :
    FieldEntry (field, value)
  | comparison {field : String} {relations : Fields} (plain : Token.isNative field = false)
    (comparison : Comparison accepts relations) : FieldEntry (field, .object relations)

/-- Selectors that ask something of each of some fields, or all or one of some selectors. -/
inductive Grammatical : Json → Prop
  | fields {entries : Fields} (distinct : (Fields.keys entries).Nodup)
    (each : ∀ entry ∈ entries, FieldEntry accepts entry) : Grammatical (.object entries)
  | group {token : String} {items : List Json} (connective : token = "$and" ∨ token = "$or")
    (each : ∀ item ∈ items, Grammatical item) : Grammatical (.object [(token, .array items)])

end

variable {accepts : String → Bool}

theorem Comparison.keys_known {relations : Fields} (comparison : Comparison accepts relations) :
    ∀ key ∈ Fields.keys relations, key ∈ Token.known := by
  cases comparison <;> simp [Fields.keys, Token.known]

namespace FieldEntry

theorem plain {entry : String × Json} (allowed : FieldEntry accepts entry) : Token.isNative entry.1 = false := by
  cases allowed <;> assumption

theorem keys_known {entry : String × Json} (allowed : FieldEntry accepts entry) :
    ∀ key ∈ entry.2.keys, key ∈ Token.known := by
  cases allowed with
  | @scalar _ value _ scalar => cases value <;> simp_all [Json.keys, Json.IsScalar]
  | comparison _ comparison => exact comparison.keys_known

end FieldEntry

theorem isNative_connective {token : String} (connective : token = "$and" ∨ token = "$or") :
    Token.isNative token = true := by
  rcases connective with rfl | rfl <;> decide

namespace Grammatical

theorem of_mem_selectors {selector part : Json} (grammatical : Grammatical accepts selector)
    (member : part ∈ selector.selectors) : Grammatical accepts part := by
  induction grammatical with
  | fields distinct each =>
    rcases List.mem_cons.mp member with rfl | inside
    · exact .fields distinct each
    · obtain ⟨entry, there, inside⟩ := Json.mem_selectorsOfFields.mp inside
      rw [Json.selectorsUnder_plain (each entry there).plain] at inside
      cases inside
  | @group token items connective each ih =>
    rcases List.mem_cons.mp member with rfl | inside
    · exact .group connective each
    · simp only [Json.selectorsOfFields, Json.selectorsUnder, isNative_connective connective, if_true,
        List.append_nil, Json.mem_selectorsOfItems] at inside
      obtain ⟨item, there, inside⟩ := inside
      exact ih item there inside

theorem operators_known {selector : Json} (grammatical : Grammatical accepts selector) :
    ∀ token ∈ selector.operators, token ∈ Token.known := by
  intro token member
  cases grammatical with
  | fields _ each =>
    obtain ⟨entry, there, used⟩ := List.mem_flatMap.mp member
    rw [(each entry there).plain] at used
    exact (each entry there).keys_known token used
  | group connective _ =>
    simp only [Json.operators, isNative_connective connective, List.flatMap_cons, List.flatMap_nil, if_true,
      List.append_nil, List.mem_singleton] at member
    rcases connective with rfl | rfl <;> simp [member, Token.known]

theorem keys_of_native {selector : Json} (grammatical : Grammatical accepts selector) {key : String}
    (member : key ∈ selector.keys) (native : Token.isNative key = true) : selector.keys = [key] := by
  cases grammatical with
  | fields _ each =>
    obtain ⟨entry, there, rfl⟩ := List.mem_map.mp member
    rw [(each entry there).plain] at native
    cases native
  | group _ _ => rw [List.mem_singleton.mp member, Json.keys, Fields.keys, List.map_singleton]

end Grammatical

/-- Conditions that take nothing from the store's own language: no raw selector, no native value, and no native name
of a field. The values of hashes are of the kind that they show. -/
def Node.Plain : Node → Prop
  | .condition .empty | .unread _ => True
  | .condition (.hash pairs) => ∀ pair ∈ pairs,
      pair.2.Classified pair.1 ∧ (∀ value, pair.2 ≠ .native value) ∧ Token.isNative pair.1 = false
  | .condition (.operation op operands) => op.arity ≠ none →
      ∀ column name, operands.head? = some column → op.NamesColumn column name → Token.isNative name = false
  | .condition (.raw _) => False

theorem Operator.Takes.accepted {op : Operator} {column : Operand} {pattern : String} (isPattern : op.IsPattern)
    (takes : op.Takes accepts [column, .text pattern]) : accepts pattern = true := by
  generalize same : [column, Operand.text pattern] = operands at takes
  cases takes with
  | connective variadic => rcases isPattern with rfl | rfl <;> cases variadic
  | @fixed _ _ values _ _ patterns =>
    match values, same with
    | [value], same =>
      cases same
      obtain ⟨text, written, accepted⟩ := patterns isPattern _ List.mem_cons_self
      cases written
      exact accepted

namespace Operator.Demands

variable {op : Operator} {operands : List Operand} {name : String} {relations : Fields}

theorem arity_ne_none (demands : op.Demands operands name relations) : op.arity ≠ none := by
  cases demands <;> simp [arity]

theorem exists_column (demands : op.Demands operands name relations) :
    ∃ column, operands.head? = some column ∧ op.NamesColumn column name := by
  cases demands with
  | between named | notBetween named | regex named | like named => exact ⟨_, rfl, .inl named⟩
  | isIn named => exact ⟨_, rfl, .inr ⟨.inl rfl, named⟩⟩
  | notIn named => exact ⟨_, rfl, .inr ⟨.inr rfl, named⟩⟩

theorem comparison (demands : op.Demands operands name relations) (takes : op.Takes accepts operands) :
    Comparison accepts relations := by
  cases demands with
  | between _ => exact .between _ _
  | notBetween _ => exact .notBetween _ _
  | isIn _ => exact .isIn _
  | notIn _ => exact .notIn _
  | regex _ => exact .regex (takes.accepted (.inl rfl))
  | like _ => exact .regex (takes.accepted (.inr rfl))

end Operator.Demands

theorem Operand.nodes_eq {operand : Operand} {condition : Condition} (means : operand.toCondition = .ok condition) :
    operand.nodes = condition.nodes := by
  cases operand with
  | condition own =>
    cases means
    rfl
  | value written =>
    have read : Condition.ofJson written = .ok condition := means
    rw [nodes, nodesOfJson_eq, read]

theorem fieldEntry_compile {pair : String × HashValue} (classified : pair.2.Classified pair.1)
    (own : ∀ value, pair.2 ≠ .native value) (plain : Token.isNative pair.1 = false) :
    FieldEntry accepts (pair.1, pair.2.compile) := by
  obtain ⟨key, value⟩ := pair
  cases value with
  | native value => exact absurd rfl (own value)
  | list values => exact .comparison plain (.isIn values)
  | literal value =>
    refine .scalar plain ?_
    -- Arrays and objects show other kinds.
    cases value <;> simp_all [HashValue.Classified, HashValue.classify, HashValue.toJson, HashValue.compile,
      Json.IsScalar]

theorem grammatical_compileHash {pairs : List (String × HashValue)} (plain : (Node.condition (.hash pairs)).Plain) :
    Grammatical accepts (compileHash pairs).toJson := by
  refine .fields (compileHash pairs).nodup_keys fun entry member => ?_
  obtain ⟨pair, inside, rfl⟩ := List.mem_map.mp (Fields.mem_of_mem_ofList member)
  obtain ⟨classified, own, plain⟩ := plain pair inside
  exact fieldEntry_compile classified own plain

theorem grammatical_group {op : Operator} {operands : List Operand} {fragments : List Selector}
    (connective : op.arity = none)
    (correct : ∀ node ∈ Operand.nodesOfList operands, node.Plain ∧ node.Correct accepts)
    (operandwise : List.Forall₂
      (Operand.Means fun condition fragment =>
        (∀ node ∈ condition.nodes, node.Plain ∧ node.Correct accepts) → Grammatical accepts fragment.toJson)
      operands fragments) : Grammatical accepts (op.group fragments).toJson := by
  have token : op.token = "$and" ∨ op.token = "$or" := by
    cases op <;> simp [Operator.arity, Operator.token, Token.and, Token.or] at connective ⊢
  refine .group token ?_
  induction operandwise with
  | nil => exact List.forall_mem_nil _
  | cons means _ ih =>
    obtain ⟨condition, read, grammatical⟩ := means
    rw [Operand.nodesOfList, List.forall_mem_append, Operand.nodes_eq read] at correct
    rw [List.map_cons, List.forall_mem_cons]
    exact ⟨grammatical correct.1, ih correct.2⟩

theorem grammatical_of_compileWith {condition : Condition} {fragment : Selector}
    (compiled : condition.compileWith accepts = .ok fragment)
    (correct : ∀ node ∈ condition.nodes, node.Plain ∧ node.Correct accepts) :
    Grammatical accepts fragment.toJson := by
  -- The nodes of the operands are nodes of the condition, so what is known of all of them goes down with the induction.
  have steps : CompiledCases fun condition fragment =>
      (∀ node ∈ condition.nodes, node.Plain ∧ node.Correct accepts) → Grammatical accepts fragment.toJson :=
    { empty := fun _ => .fields (by simp [Fields.keys, Selector.empty]) fun _ member => by cases member
      hash := fun pairs correct => grammatical_compileHash (correct _ List.mem_cons_self).1
      group := fun {op operands fragments} connective operandwise correct => by
        rw [Condition.nodes, connective, List.forall_mem_cons] at correct
        exact grammatical_group connective correct.2 operandwise
      fixed := fun {op operands name relations} demands correct => by
        obtain ⟨plain, takes⟩ := correct _ List.mem_cons_self
        obtain ⟨column, first, named⟩ := demands.exists_column
        refine .fields (Selector.single name (.object relations)).nodup_keys fun entry member => ?_
        rw [List.mem_singleton.mp member]
        exact .comparison (plain demands.arity_ne_none column name first named) (demands.comparison takes)
      raw := fun _ correct => (correct _ List.mem_cons_self).1.elim }
  exact steps.condition compiled correct

/-- A condition that takes nothing from the store's own language is compiled into its grammar, if it is compiled. At
every depth, only what the store knows stands for an operator, and a group has no other keys beside it. -/
theorem grammatical_compileWith {condition : Condition} {fragment : Selector}
    (plain : ∀ node ∈ condition.nodes, node.Plain) (compiled : condition.compileWith accepts = .ok fragment) :
    Grammatical accepts fragment.toJson ∧
      ∀ part ∈ fragment.toJson.selectors,
        (∀ token ∈ part.operators, token ∈ Token.known) ∧
          ∀ key ∈ part.keys, Token.isNative key = true → part.keys = [key] := by
  have correct : ∀ node ∈ condition.nodes, node.Correct accepts := condition.judged.accepted.mp ⟨fragment, compiled⟩
  have grammatical : Grammatical accepts fragment.toJson :=
    grammatical_of_compileWith compiled fun node member => ⟨plain node member, correct node member⟩
  refine ⟨grammatical, fun part member => ?_⟩
  have inner : Grammatical accepts part := grammatical.of_mem_selectors member
  exact ⟨inner.operators_known, fun key => inner.keys_of_native⟩

theorem Node.plain_operation {op : Operator} {column : String} {rest : List Operand}
    (plain : Token.isNative column = false) : (Node.condition (.operation op (.text column :: rest))).Plain := by
  intro _ first name head named
  cases head
  rcases named with ⟨same, _⟩ | ⟨_, ⟨same, _⟩ | ⟨same, _⟩⟩ <;> cases same
  · exact plain
  · exact plain

def taggedFragment : Selector :=
  .single "$or" (.array
    [.object [("tag", .object [("$in", .array [.string "b"])]), ("seen", .null)],
      .object [("tag", .object [("$regex", .string "c")])],
      .object [("tag", .object [("$in", .array [])])]])

theorem grammatical_compileWith_tagged :
    (∀ node ∈ taggedCondition.nodes, node.Plain) ∧
      taggedCondition.compileWith Pattern.accepts = .ok taggedFragment ∧
      Grammatical Pattern.accepts taggedFragment.toJson ∧
        ∀ part ∈ taggedFragment.toJson.selectors,
          (∀ token ∈ part.operators, token ∈ Token.known) ∧
            ∀ key ∈ part.keys, Token.isNative key = true → part.keys = [key] := by
  have compiled : taggedCondition.compileWith Pattern.accepts = .ok taggedFragment := by cbv
  have tag : Token.isNative "tag" = false := by decide
  have plain : ∀ node ∈ taggedCondition.nodes, node.Plain := by
    have nodes : taggedCondition.nodes =
        [.condition taggedCondition,
          .condition (.ofPairs [("tag", .string "a"), ("seen", .null), ("tag", .array [.string "b"])]),
          .condition (.like "tag" "c"), .condition (.isIn "tag" [])] := rfl
    rw [nodes]
    simp only [List.forall_mem_cons, List.not_mem_nil, false_imp_iff, implies_true, and_true]
    refine ⟨fun fixed => absurd rfl fixed, ?_, Node.plain_operation tag, Node.plain_operation tag⟩
    intro pair member
    obtain ⟨field, inside, rfl⟩ := List.mem_map.mp member
    refine ⟨HashValue.classified_classify field.1 field.2, ?_⟩
    simp only [List.mem_cons, List.not_mem_nil, or_false] at inside
    rcases inside with rfl | rfl | rfl
    · exact ⟨fun _ same => (by cases same), tag⟩
    · exact ⟨fun _ same => (by cases same), by decide⟩
    · exact ⟨fun _ same => (by cases same), tag⟩
  exact ⟨plain, compiled, grammatical_compileWith plain compiled⟩

end FindQuery
