import FindQuery.Pattern.ClassMembers
import FindQuery.Pattern.Expr

namespace FindQuery.Pattern

open FindQuery.Unicode

def Flags.look (flags : Flags) : Assertion → Look
  | .lineStart => if flags.multiLine then .lineStart flags.crlf else .textStart
  | .lineEnd => if flags.multiLine then .lineEnd flags.crlf else .textEnd
  | .textStart => .textStart
  | .textEnd => .textEnd
  | boundary => .word boundary flags.unicode

def Flags.dot? (flags : Flags) : Option Expr :=
  if flags.unicode then
    some (.ofSet true (if flags.dotAll then .full
      else if flags.crlf then (CodeSet.ofPoints [0xA, 0xD]).complement
      else (CodeSet.single 0xA).complement))
  else none

def Flags.literalExpr? (flags : Flags) (item : Literal) : Option Expr :=
  (flags.literal? item).map fun c =>
    if flags.caseInsensitive then .ofSet flags.unicode (flags.fold (.single c.toNat))
    else .literal [c]

def Flags.inside (flags : Flags) : GroupKind → Flags
  | .plain changes => flags.apply changes
  | .capturing _ => flags

def GroupKind.wrap (kind : GroupKind) (sub : Expr) : Expr :=
  match kind with
  | .capturing index => .capture index sub
  | .plain _ => sub

mutual

/-- The normal form, with the flags that hold after the node. -/
def Node.expr? (flags : Flags) : Node → Option (Expr × Flags)
  | .empty => some (.empty, flags)
  | .flags changes => some (.empty, flags.apply changes)
  | .literal item => (flags.literalExpr? item).map (·, flags)
  | .dot => flags.dot?.map (·, flags)
  | .assertion kind => some (.look (flags.look kind), flags)
  | .escapeClass kind negated => (flags.escapeClass? kind negated).map (.ofSet flags.unicode ·, flags)
  | .property query negated => (flags.property? query negated).map (.ofSet flags.unicode ·, flags)
  | .bracketed negated set =>
    ((set.members? flags).bind (flags.foldAndNegate? negated)).map (.ofSet flags.unicode ·, flags)
  | .repetition sub least most greedy =>
    (sub.expr? flags).map fun (sub, flags) =>
      (.ofRepetition sub least most (greedy != flags.swapGreed), flags)
  | .group kind sub => (sub.expr? (flags.inside kind)).map fun (sub, _) => (kind.wrap sub, flags)
  | .alternation subs => (Node.exprs? flags subs).map fun (subs, flags) => (.ofAlternation subs, flags)
  | .concat subs => (Node.exprs? flags subs).map fun (subs, flags) => (.ofConcat subs, flags)

def Node.exprs? (flags : Flags) : List Node → Option (List Expr × Flags)
  | [] => some ([], flags)
  | sub :: rest =>
    (sub.expr? flags).bind fun (sub, flags) =>
      (Node.exprs? flags rest).map fun (rest, flags) => (sub :: rest, flags)

end

end FindQuery.Pattern
