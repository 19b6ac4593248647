import FindQuery.Pattern.Escape

namespace FindQuery.Pattern

/-- Something that waits for the end of a nested class or of an operation's right side. -/
inductive ClassFrame where
  | opened (negated : Bool) (outer : List ClassSet)
  | pending (operation : SetOperation) (left : ClassSet)

structure ClassState where
  stack : List ClassFrame
  items : List ClassSet
  rest : List Char

def asciiKind? (name : List Char) : Option AsciiKind :=
  ([("alnum", .alnum), ("alpha", .alpha), ("ascii", .ascii), ("blank", .blank), ("cntrl", .cntrl),
    ("digit", .digit), ("graph", .graph), ("lower", .lower), ("print", .print), ("punct", .punct),
    ("space", .space), ("upper", .upper), ("word", .word), ("xdigit", .xdigit)] :
    List (String × AsciiKind)).find? (fun entry => entry.1.toList == name) |>.map Prod.snd

def asciiClass? : List Char → Option (ClassSet × List Char)
  | ':' :: text =>
    let (negated, text) := match text with
      | '^' :: rest => (true, rest)
      | _ => (false, text)
    match text.dropWhile (· ≠ ':') with
    | ':' :: ']' :: rest =>
      (asciiKind? (text.takeWhile (· ≠ ':'))).map fun kind => (.ascii kind negated, rest)
    | _ => none
  | _ => none

def leadingHyphens (spaced : Bool) (fuel : Nat) (items : List ClassSet) (text : List Char) :
    List ClassSet × List Char :=
  match fuel, text with
  | fuel + 1, '-' :: rest =>
    leadingHyphens spaced fuel (.literal ⟨'-', false⟩ :: items) (skipSpace spaced rest)
  | _, _ => (items, text)

/-- Reads what may stand first after an opening bracket: a circumflex that negates the class, then hyphens,
or a closing bracket that stands for itself. -/
def openClass? (spaced : Bool) (text : List Char) : Option (Bool × List ClassSet × List Char) :=
  let text := skipSpace spaced text
  let (negated, text) := match text with
    | '^' :: rest => (true, skipSpace spaced rest)
    | _ => (false, text)
  match leadingHyphens spaced text.length [] text with
  | (_, []) => none
  | ([], ']' :: rest) =>
    match skipSpace spaced rest with
    | [] => none
    | rest => some (negated, [.literal ⟨']', false⟩], rest)
  | (items, rest) => some (negated, items, rest)

def popOperation (stack : List ClassFrame) (right : ClassSet) : ClassSet × List ClassFrame :=
  match stack with
  | .pending operation left :: stack => (.binary operation left right, stack)
  | _ => (right, stack)

def pushOperation (state : ClassState) (operation : SetOperation) (rest : List Char) : ClassState :=
  let (left, stack) := popOperation state.stack (.ofItems state.items.reverse)
  ⟨.pending operation left :: stack, [], rest⟩

def classPrimitive? (spaced : Bool) : List Char → Option (Primitive × List Char)
  | [] => none
  | '\\' :: rest => escape? spaced rest
  | c :: rest => some (plainLiteral c, rest)

/-- Reads one item of a class or a range between two characters. A hyphen before a closing bracket or
before another hyphen makes no range. -/
def classRange? (spaced : Bool) (text : List Char) : Option (ClassSet × List Char) :=
  (classPrimitive? spaced text).bind fun (first, rest) =>
    match skipSpace spaced rest with
    | [] => none
    | '-' :: rest =>
      let next := peekSpace spaced rest
      if next = some ']' ∨ next = some '-' then first.classItem?.map (·, '-' :: rest)
      else
        (classPrimitive? spaced (skipSpace spaced rest)).bind fun (last, rest) =>
          match first, last with
          | .literal first, .literal last =>
            if first.char ≤ last.char then some (.range first last, rest) else none
          | _, _ => none
    | rest => first.classItem?.map (·, rest)

inductive ClassStep where
  | more (state : ClassState)
  | done (negated : Bool) (set : ClassSet) (rest : List Char)

def closeClass? (state : ClassState) (rest : List Char) : Option ClassStep :=
  let (set, stack) := popOperation state.stack (.ofItems state.items.reverse)
  match stack with
  | [.opened negated _] => some (.done negated set rest)
  | .opened negated outer :: stack => some (.more ⟨stack, .bracketed negated set :: outer, rest⟩)
  | _ => none

def openNested? (spaced : Bool) (state : ClassState) (rest : List Char) : Option ClassStep :=
  (openClass? spaced rest).map fun (negated, items, rest) =>
    .more ⟨.opened negated state.items :: state.stack, items, rest⟩

def classStep? (spaced : Bool) (state : ClassState) : Option ClassStep :=
  match skipSpace spaced state.rest with
  | [] => none
  | '[' :: rest =>
    if state.stack.isEmpty then openNested? spaced state rest
    else match asciiClass? rest with
      | some (item, rest) => some (.more { state with items := item :: state.items, rest })
      | none => openNested? spaced state rest
  | ']' :: rest => closeClass? state rest
  | '&' :: '&' :: rest => some (.more (pushOperation state .intersection rest))
  | '-' :: '-' :: rest => some (.more (pushOperation state .difference rest))
  | '~' :: '~' :: rest => some (.more (pushOperation state .symmetricDifference rest))
  | text =>
    (classRange? spaced text).map fun (item, rest) =>
      .more { state with items := item :: state.items, rest }

def runClass? (spaced : Bool) (state : ClassState) : Option (Bool × ClassSet × List Char) :=
  match classStep? spaced state with
  | none => none
  | some (.done negated set rest) => some (negated, set, rest)
  | some (.more next) =>
    if _h : next.rest.length < state.rest.length then runClass? spaced next else none
termination_by state.rest.length

def class? (spaced : Bool) (text : List Char) : Option (Node × List Char) :=
  (runClass? spaced ⟨[], [], text⟩).map fun (negated, set, rest) => (.bracketed negated set, rest)

end FindQuery.Pattern
