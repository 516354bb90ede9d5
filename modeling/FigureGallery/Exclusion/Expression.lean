import FigureGallery.Exclusion.Glob
import FigureGallery.Text.Hexadecimal

/-!
# Patterns as regular expressions

A pattern is matched as a regular expression over bytes. Its written form is shown when it is refused, and it is refused
when it is nested too deep. Patterns that are settled by comparing texts never are.
-/

namespace FigureGallery.Exclusion

namespace Glob

/-- The characters that stand for themselves only behind a backslash. -/
def operators : List Char :=
  "\\.+*?()|[]\x7b\x7d^$#&-~".toList

/-- A byte that stands for itself. -/
def writtenByte (b : UInt8) : String :=
  if b < 0x80 then
    let c := Char.ofNat b.toNat
    if operators.contains c then String.ofList ['\\', c] else c.toString
  else String.ofList ['\\', 'x', Text.lowerHexDigit (b.toNat / 16), Text.lowerHexDigit (b.toNat % 16)]

/-- A character that stands for its bytes. -/
def writtenChar (c : Char) : String :=
  String.join ((bytesOf c).map writtenByte)

/-- A range of a class. -/
def writtenRange (range : Char × Char) : String :=
  if range.1 = range.2 then writtenChar range.1 else writtenChar range.1 ++ "-" ++ writtenChar range.2

mutual

/-- The expression of a token. -/
def Token.expression : Token → String
  | .literal c => writtenChar c
  | .any => "[^/]"
  | .run => "[^/]*"
  | .leading => "(?:/?|.*/)"
  | .trailing => "/.*"
  | .between => "(?:/|/.*/)"
  | .oneOf negated ranges => (if negated then "[^" else "[") ++ String.join (ranges.map writtenRange) ++ "]"
  | .alternatives branches =>
    if areVoid branches then "" else "(?:" ++ "|".intercalate (branchExpressions branches) ++ ")"

/-- The expressions of the branches of a group that are not made of nothing. -/
def branchExpressions : List Glob → List String
  | [] => []
  | b :: bs => if isVoid b then branchExpressions bs else body b :: branchExpressions bs

/-- The expressions of the tokens of a pattern, one after the other. -/
def body : Glob → String
  | [] => ""
  | t :: ts => Token.expression t ++ body ts

end

/-- The expression of a pattern. -/
def expression (glob : Glob) : String :=
  "(?-u)^" ++ (if isEverything glob then ".*" else body glob) ++ "$"

/-- How many parts of a sequence a token makes up. -/
def Token.width : Token → Nat
  | .literal c => (bytesOf c).length
  | .trailing => 2
  | .alternatives branches => if areVoid branches then 0 else 1
  | _ => 1

/-- How much deeper things in a sequence or a choice are, which is no nesting when it has one part only. -/
def joining (parts : Nat) : Nat :=
  if parts ≤ 1 then 0 else 1

mutual

/-- How deep the expression of a token is nested. A class, a repetition, a group, a choice and a sequence count one
each. -/
def Token.depth : Token → Nat
  | .literal _ => 0
  | .any => 1
  | .run => 2
  | .leading => 4
  | .trailing => 1
  | .between => 4
  | .oneOf _ ranges => 1 + joining (ranges.flatMap byteRanges).length
  | .alternatives branches =>
    if areVoid branches then 0
    else 1 + joining (branches.filter fun b => !isVoid b).length + branchDepth branches

/-- How deep the deepest branch of a group is nested. -/
def branchDepth : List Glob → Nat
  | [] => 0
  | b :: bs => max (joining (b.map Token.width).sum + depthOf b) (branchDepth bs)

/-- How deep the deepest token of a pattern is nested. -/
def depthOf : Glob → Nat
  | [] => 0
  | t :: ts => max (Token.depth t) (depthOf ts)

end

/-- How deep an expression may be nested. -/
def maxDepth : Nat := 250

/-- Whether the expression of a pattern, which is a sequence, is nested too deep. -/
def isTooDeep (glob : Glob) : Bool :=
  maxDepth < 1 + depthOf glob

/-- How it is found out whether a pattern matches. -/
inductive Method where
  /-- By comparing texts: the pattern is written out, but for what stands before its name or its extension. -/
  | comparison
  /-- By the extension first, which is written out, and by the expression if that one is right. -/
  | extensionFirst
  /-- By the expression. -/
  | expression
deriving DecidableEq

/-- Whether a list of tokens is an extension: a dot, and characters that are neither dots nor slashes. -/
def isExtension : List Token → Bool
  | .literal '.' :: ts => ts.all fun t => match t with
    | .literal c => c != '.' && c != '/'
    | _ => false
  | _ => false

/-- Whether a pattern ends in an extension: a dot with characters after it, none of them a slash. -/
def endsInExtension (glob : Glob) : Bool :=
  glob.reverse.takeWhile (fun t => (literal? t).any (· != '/')) |>.any fun t => literal? t == some '.'

/-- How it is found out whether a pattern matches. -/
def method (glob : Glob) : Method :=
  let isText := fun t => (literal? t).isSome
  let compared := match glob with
    | [] => false
    | .leading :: .run :: ts => isExtension ts
    | .leading :: ts => !ts.isEmpty && ts.all isText
    | ts => ts.all isText
  if compared then .comparison
  else if endsInExtension glob then .extensionFirst
  else .expression

/-- The first pattern that is nested too deep, if any, as it is shown. Those with an extension come first and are
written out; any other is counted among the patterns that only their expression settles. -/
def refusal? (globs : List Glob) : Option ExpressionError :=
  match globs.find? fun g => g.method = .extensionFirst && g.isTooDeep with
  | some g => some (.nestedUnder g.expression)
  | none => ((globs.filter fun g => g.method = .expression).findIdx? isTooDeep).map .nestedAt

end Glob

end FigureGallery.Exclusion
