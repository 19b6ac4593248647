namespace FindQuery

namespace Token

def and : String := "$and"
def or : String := "$or"
def isIn : String := "$in"
def notIn : String := "$nin"
def gt : String := "$gt"
def gte : String := "$gte"
def lt : String := "$lt"
def lte : String := "$lte"
def regex : String := "$regex"

/-- Keys that start with this character are the store's own. -/
def sigil : Char := '$'

def isNative (key : String) : Bool := key.toList.head? = some sigil

end Token

inductive Operator where
  | and
  | or
  | between
  | notBetween
  | isIn
  | notIn
  | regex
  | like
  deriving DecidableEq, Repr

namespace Operator

def all : List Operator := [.and, .or, .between, .notBetween, .isIn, .notIn, .regex, .like]

theorem mem_all (op : Operator) : op ∈ all := by cases op <;> decide

def name : Operator → String
  | .and => "AND"
  | .or => "OR"
  | .between => "BETWEEN"
  | .notBetween => "NOT BETWEEN"
  | .isIn => "IN"
  | .notIn => "NOT IN"
  | .regex => "REGEX"
  | .like => "LIKE"

def kind : Operator → String
  | .and => "And"
  | .or => "Or"
  | .between => "Between"
  | .notBetween => "NotBetween"
  | .isIn => "In"
  | .notIn => "NotIn"
  | .regex => "Regex"
  | .like => "Like"

/-- The token that the store has for the operator; an operator that it does not have goes by its name in
small letters. -/
def token : Operator → String
  | .and => Token.and
  | .or => Token.or
  | .isIn => Token.isIn
  | .notIn => Token.notIn
  | .between => "between"
  | .notBetween => "not between"
  | .regex => "regex"
  | .like => "like"

def arity : Operator → Option Nat
  | .and | .or => none
  | .between | .notBetween => some 3
  | .isIn | .notIn | .regex | .like => some 2

end Operator

end FindQuery
