import FindQuery.Pattern.ClassParser
import FindQuery.Unicode.Derived

namespace FindQuery.Pattern

open FindQuery.Text

inductive GroupFrame where
  /-- A group has been opened after the items (in reverse) of a concatenation; `spaced` held before. -/
  | opened (kind : GroupKind) (outer : List Node) (spaced : Bool)
  | alternatives (branches : List Node)

structure State where
  spaced : Bool
  stack : List GroupFrame
  items : List Node
  names : List (List Char)
  captures : Nat
  rest : List Char

def isNameStart (c : Char) : Bool := c = '_' || Unicode.alphabetic.contains c.toNat

def isNameChar (c : Char) : Bool :=
  c = '_' || c = '.' || c = '[' || c = ']' || Unicode.alphabetic.contains c.toNat ||
    (Unicode.Category.unionOf Unicode.Category.numbers).contains c.toNat

def groupName? (text : List Char) : Option (List Char × List Char) :=
  match text.takeWhile (· ≠ '>'), text.dropWhile (· ≠ '>') with
  | c :: more, _ :: rest =>
    if isNameStart c && more.all isNameChar then some (c :: more, rest) else none
  | _, _ => none

def flag? : Char → Option Flag
  | 'i' => some .caseInsensitive
  | 'm' => some .multiLine
  | 's' => some .dotAll
  | 'U' => some .swapGreed
  | 'u' => some .unicode
  | 'R' => some .crlf
  | 'x' => some .ignoreSpace
  | _ => none

/-- Reads flags up to a colon or a closing parenthesis. A flag may occur once, and so may the hyphen after
which flags are switched off; a flag has to follow the hyphen. -/
def flags? (changes : List FlagChange) (enabled : Bool) (dangling : Bool) :
    List Char → Option (List FlagChange × Char × List Char)
  | [] => none
  | c :: rest =>
    if c = ':' ∨ c = ')' then if dangling then none else some (changes.reverse, c, rest)
    else if c = '-' then if enabled then flags? changes false true rest else none
    else
      (flag? c).bind fun flag =>
        if changes.any (·.flag = flag) then none
        else flags? (⟨flag, enabled⟩ :: changes) enabled false rest

def isLookAround (text : List Char) : Bool :=
  ["?=", "?!", "?<=", "?<!"].any fun opening => opening.toList.isPrefixOf text

def openGroup (state : State) (kind : GroupKind) (spaced : Bool) (rest : List Char) : State :=
  { state with spaced, stack := .opened kind state.items state.spaced :: state.stack, items := [], rest }

def openCapture (state : State) (rest : List Char) : State :=
  openGroup { state with captures := state.captures + 1 } (.capturing (state.captures + 1)) state.spaced rest

def openNamed? (state : State) (text : List Char) : Option State :=
  (groupName? text).bind fun (name, rest) =>
    if state.names.contains name then none
    else some (openCapture { state with names := name :: state.names } rest)

/-- Reads what follows an opening parenthesis. Assertions about the surroundings are refused. -/
def groupStep? (state : State) (text : List Char) : Option State :=
  let text := skipSpace state.spaced text
  if isLookAround text then none
  else match text with
    | '?' :: 'P' :: '<' :: rest => openNamed? state rest
    | '?' :: '<' :: rest => openNamed? state rest
    | '?' :: rest =>
      (flags? [] true false rest).bind fun (changes, closing, rest) =>
        let spaced := (flagState? changes .ignoreSpace).getD state.spaced
        if closing = ':' then some (openGroup state (.plain changes) spaced rest)
        else if changes.isEmpty then none
        else some { state with spaced, items := .flags changes :: state.items, rest }
    | _ => some (openCapture state text)

def closeGroup? (state : State) (rest : List Char) : Option State :=
  let last := Node.ofConcat state.items.reverse
  match state.stack with
  | .opened kind outer spaced :: stack =>
    some { state with spaced, stack, items := .group kind last :: outer, rest }
  | .alternatives branches :: .opened kind outer spaced :: stack =>
    let sub := Node.ofAlternation (last :: branches).reverse
    some { state with spaced, stack, items := .group kind sub :: outer, rest }
  | _ => none

def alternativeStep (state : State) (rest : List Char) : State :=
  let last := Node.ofConcat state.items.reverse
  match state.stack with
  | .alternatives branches :: stack =>
    { state with stack := .alternatives (last :: branches) :: stack, items := [], rest }
  | stack => { state with stack := .alternatives [last] :: stack, items := [], rest }

/-- Repeats the last item. A pattern, a group or an alternative does not start with a repetition, and
flags are not repeated. -/
def repeatLast? (state : State) (least : Nat) (most : Option Nat) (greedy : Bool) (rest : List Char) :
    Option State :=
  match state.items with
  | [] | .empty :: _ | .flags _ :: _ => none
  | last :: items => some { state with items := .repetition last least most greedy :: items, rest }

def greedyMark (text : List Char) : Bool × List Char :=
  match text with
  | '?' :: rest => (false, rest)
  | _ => (true, text)

def countLimit : Nat := 4294967296

def count? (spaced : Bool) (text : List Char) : Option (Nat × List Char) :=
  match takeSpaced spaced Char.isDigit (text.dropWhile isBlank) with
  | ([], _) => none
  | (digits, rest) =>
    let value := digits.foldl (fun value c => value * 10 + (c.toNat - '0'.toNat)) 0
    if value < countLimit then some (value, rest.dropWhile isBlank) else none

def counts? (spaced : Bool) (text : List Char) : Option (Nat × Option Nat × List Char) :=
  (count? spaced (skipSpace spaced text)).bind fun (least, rest) =>
    match rest with
    | '}' :: rest => some (least, some least, rest)
    | ',' :: rest =>
      match skipSpace spaced rest with
      | '}' :: rest => some (least, none, rest)
      | rest =>
        (count? spaced rest).bind fun (most, rest) =>
          match rest with
          | '}' :: rest => if least ≤ most then some (least, some most, rest) else none
          | _ => none
    | _ => none

def countedStep? (state : State) (text : List Char) : Option State :=
  (counts? state.spaced text).bind fun (least, most, rest) =>
    let (greedy, rest) := greedyMark (skipSpace state.spaced rest)
    repeatLast? state least most greedy rest

def uncountedStep? (state : State) (least : Nat) (most : Option Nat) (text : List Char) : Option State :=
  let (greedy, rest) := greedyMark text
  repeatLast? state least most greedy rest

def step? (state : State) (text : List Char) : Option State :=
  match text with
  | '(' :: rest => groupStep? state rest
  | ')' :: rest => closeGroup? state rest
  | '|' :: rest => some (alternativeStep state rest)
  | '[' :: _ =>
    (class? state.spaced text).map fun (node, rest) => { state with items := node :: state.items, rest }
  | '?' :: rest => uncountedStep? state 0 (some 1) rest
  | '*' :: rest => uncountedStep? state 0 none rest
  | '+' :: rest => uncountedStep? state 1 none rest
  | '{' :: rest => countedStep? state rest
  | _ =>
    (primitive? state.spaced text).map fun (item, rest) =>
      { state with items := item.node :: state.items, rest }

def finish? (state : State) : Option Node :=
  let last := Node.ofConcat state.items.reverse
  match state.stack with
  | [] => some last
  | [.alternatives branches] => some (.ofAlternation (last :: branches).reverse)
  | _ => none

def run? (state : State) : Option Node :=
  match skipSpace state.spaced state.rest with
  | [] => finish? state
  | text =>
    match step? state text with
    | none => none
    | some next => if _h : next.rest.length < state.rest.length then run? next else none
termination_by state.rest.length

def nestLimit : Nat := 250

def parse? (pattern : List Char) : Option Node :=
  (run? ⟨false, [], [], [], 0, pattern⟩).filter (·.depth ≤ nestLimit)

end FindQuery.Pattern
