import FigureGallery.Error

/-!
# Glob patterns

Patterns of file names with `?`, `*`, `**`, character classes and groups of alternatives. A pattern is read into a list
of tokens; the tokens are matched against the bytes of a path.
-/

namespace FigureGallery.Exclusion

/-- A piece of a pattern. -/
inductive Token where
  | literal (c : Char)
  /-- One byte other than a slash. -/
  | any
  /-- Any number of bytes other than slashes. -/
  | run
  /-- Nothing, or directories from the start on. -/
  | leading
  /-- A slash and everything below. -/
  | trailing
  /-- A slash, or directories between two slashes. -/
  | between
  /-- One character of the given ranges, or one outside of them. -/
  | oneOf (negated : Bool) (ranges : List (Char × Char))
  /-- One of several patterns. -/
  | alternatives (branches : List (List Token))

/-- A pattern. -/
abbrev Glob := List Token

namespace Glob

/-- A group of alternatives that is being read: its finished branches and the tokens of its last one, both latest
first. -/
structure Group where
  branches : List Glob
  tokens : List Token

/-- What has been read of a pattern. -/
structure Reading where
  /-- Whether a bracket stands for itself, since no bracket after it can open a class. -/
  plainBrackets : Bool
  group : Group
  outer : List Group

namespace Reading

/-- Nothing has been read. -/
def start : Reading := ⟨false, ⟨[], []⟩, []⟩

/-- Adds a token. -/
def push (r : Reading) (t : Token) : Reading :=
  { r with group := { r.group with tokens := t :: r.group.tokens } }

/-- Whether a group of alternatives is open. -/
def inGroup (r : Reading) : Bool :=
  !r.outer.isEmpty

/-- Opens a group of alternatives. -/
def openGroup (r : Reading) : Reading :=
  { r with group := ⟨[], []⟩, outer := r.group :: r.outer }

/-- Starts the next branch of a group. -/
def nextBranch (r : Reading) : Reading :=
  { r with group := ⟨r.group.tokens.reverse :: r.group.branches, []⟩ }

/-- Closes a group of alternatives. -/
def closeGroup (r : Reading) : Except PatternError Reading :=
  match r.outer with
  | [] => .error .unopenedGroup
  | group :: outer =>
    .ok { r with
      group := { group with
        tokens := .alternatives (r.group.tokens.reverse :: r.group.branches).reverse :: group.tokens }
      outer }

/-- Puts the token of a `**` in place of the slash before it; one more `**` after a `**` adds nothing. -/
def pushDirectories (r : Reading) (t : Token) : Reading :=
  match r.group.tokens with
  | .leading :: _ => r
  | .trailing :: _ => r
  | _ :: tokens => { r with group := { r.group with tokens := t :: tokens } }
  | [] => r.push t

/-- The tokens of a pattern that has been read. -/
def finish (r : Reading) : Except PatternError Glob :=
  if r.inGroup then .error .unclosedGroup else .ok r.group.tokens.reverse

end Reading

/-- Reads the ranges of a character class up to its closing bracket, the latest first in `ranges`. A bracket right at
the start and a dash at either end stand for themselves; `waiting` says that a dash waits for the end of its range.
Without a closing bracket there is no class. -/
def readRanges (first waiting : Bool) (ranges : List (Char × Char)) :
    List Char → Except PatternError (Option (List (Char × Char) × List Char))
  | [] => .ok none
  | c :: cs =>
    if c = ']' && !first then .ok (some ((if waiting then ('-', '-') :: ranges else ranges).reverse, cs))
    else if c = '-' && !first && !waiting then readRanges false true ranges cs
    else match waiting, ranges with
      | true, (low, _) :: others =>
        if c < low then .error (.invalidRange low c) else readRanges false false ((low, c) :: others) cs
      | _, _ => readRanges false false ((c, c) :: ranges) cs

/-- Reads a character class after its opening bracket. -/
def readClass (text : List Char) : Except PatternError (Option (Token × List Char)) :=
  match text with
  | '!' :: cs => (readRanges true false [] cs).map (·.map fun (ranges, rest) => (.oneOf true ranges, rest))
  | '^' :: cs => (readRanges true false [] cs).map (·.map fun (ranges, rest) => (.oneOf true ranges, rest))
  | cs => (readRanges true false [] cs).map (·.map fun (ranges, rest) => (.oneOf false ranges, rest))

/-- What follows the ranges of a class is shorter than the text. -/
theorem length_readRanges_lt {first waiting : Bool} {ranges found : List (Char × Char)} {text rest : List Char}
    (h : readRanges first waiting ranges text = .ok (some (found, rest))) : rest.length < text.length := by
  fun_induction readRanges first waiting ranges text with
  | case1 => simp at h
  | case2 first waiting ranges c cs hc =>
    simp only [Except.ok.injEq, Option.some.injEq, Prod.mk.injEq] at h
    simp [h.2]
  | case3 first waiting ranges c cs h₁ h₂ ih => have := ih h; simp only [List.length_cons]; omega
  | case4 => simp at h
  | case5 first c cs h₁ low high others h₂ h₃ ih => have := ih h; simp only [List.length_cons]; omega
  | case6 first waiting ranges c cs h₁ h₂ h₃ ih => have := ih h; simp only [List.length_cons]; omega

/-- What follows a class is shorter than the text. -/
theorem length_readClass_lt {text rest : List Char} {t : Token} (h : readClass text = .ok (some (t, rest))) :
    rest.length < text.length := by
  have key : ∀ {cs : List Char} {negated : Bool},
      (readRanges true false [] cs).map (·.map fun (p : List (Char × Char) × List Char) =>
        (Token.oneOf negated p.1, p.2)) = .ok (some (t, rest)) → rest.length < cs.length := by
    intro cs negated h
    cases hr : readRanges true false [] cs with
    | error e => simp [hr, Except.map] at h
    | ok o =>
      cases o with
      | none => simp [hr, Except.map] at h
      | some p =>
        simp only [hr, Except.map, Option.map_some, Except.ok.injEq, Option.some.injEq, Prod.mk.injEq] at h
        rw [← h.2]
        exact length_readRanges_lt hr
  unfold readClass at h
  split at h
  · have := key h; simp only [List.length_cons]; omega
  · have := key h; simp only [List.length_cons]; omega
  · exact key h

/-- Reads the rest of a pattern; `previous` is the character before it. -/
def readFrom (r : Reading) (previous : Option Char) (text : List Char) : Except PatternError Glob :=
  match text with
  | [] => r.finish
  | '?' :: cs => readFrom (r.push .any) (some '?') cs
  | '*' :: '*' :: cs =>
    if r.group.tokens.isEmpty then
      match cs with
      | [] => (r.push .leading).finish
      | '/' :: cs => readFrom (r.push .leading) (some '/') cs
      | cs => readFrom ((r.push .run).push .run) (some '*') cs
    else if previous != some '/' && !(r.inGroup && (previous == some ',' || previous == some '{')) then
      readFrom ((r.push .run).push .run) (some '*') cs
    else match cs with
      | [] => (r.pushDirectories .trailing).finish
      | '/' :: cs => readFrom (r.pushDirectories .between) (some '/') cs
      | c :: cs =>
        if r.inGroup && (c == ',' || c == '}') then readFrom (r.pushDirectories .trailing) (some '*') (c :: cs)
        else readFrom ((r.push .run).push .run) (some '*') (c :: cs)
  | '*' :: cs => readFrom (r.push .run) (some '*') cs
  | '[' :: cs =>
    if r.plainBrackets then readFrom (r.push (.literal '[')) (some '[') cs
    else match _class : readClass cs with
      | .error e => .error e
      | .ok (some (t, rest)) => readFrom (r.push t) (some ']') rest
      | .ok none => readFrom ({ r with plainBrackets := true }.push (.literal '[')) (some '[') cs
  | '{' :: cs => readFrom r.openGroup (some '{') cs
  | '}' :: cs => match r.closeGroup with
    | .error e => .error e
    | .ok r => readFrom r (some '}') cs
  | ',' :: cs => readFrom (if r.inGroup then r.nextBranch else r.push (.literal ',')) (some ',') cs
  | '\\' :: cs => match cs with
    | [] => .error .danglingEscape
    | c :: cs => readFrom (r.push (.literal c)) (some c) cs
  | c :: cs => readFrom (r.push (.literal c)) (some c) cs
  termination_by text.length
  decreasing_by
    all_goals simp_wf
    all_goals try omega
    have := length_readClass_lt _class
    omega

/-- Reads a pattern. -/
def read (text : List Char) : Except PatternError Glob :=
  readFrom .start none text

/-- The bytes of a character. -/
def bytesOf (c : Char) : List UInt8 :=
  (String.singleton c).toUTF8.toList

/-- The ranges of bytes that a range of characters stands for: matching goes byte by byte, so a range runs from the
last byte of its first character to the first byte of its last. -/
def byteRanges (range : Char × Char) : List (UInt8 × UInt8) :=
  if range.1 = range.2 then (bytesOf range.1).map fun b => (b, b)
  else match (bytesOf range.1).reverse, bytesOf range.2 with
    | low :: firsts, high :: lasts =>
      (low, high) :: (firsts.map fun b => (b, b)) ++ lasts.map fun b => (b, b)
    | _, _ => []

/-- Whether a class holds a byte. -/
def holdsByte (negated : Bool) (ranges : List (Char × Char)) (b : UInt8) : Bool :=
  ((ranges.flatMap byteRanges).any fun r => r.1 ≤ b && b ≤ r.2) != negated

/-- What can follow the bytes up to the next slash. -/
def afterRun : List UInt8 → List (List UInt8)
  | [] => [[]]
  | b :: bs => (b :: bs) :: (if b = '/'.toUInt8 then [] else afterRun bs)

/-- What can follow a slash anywhere. -/
def afterSlashes : List UInt8 → List (List UInt8)
  | [] => []
  | b :: bs => (if b = '/'.toUInt8 then [bs] else []) ++ afterSlashes bs

/-- All endings of a text. -/
def endings : List UInt8 → List (List UInt8)
  | [] => [[]]
  | b :: bs => (b :: bs) :: endings bs

/-- What follows a slash at the start. -/
def afterSlash? : List UInt8 → Option (List UInt8)
  | b :: bs => if b = '/'.toUInt8 then some bs else none
  | [] => none

mutual

/-- Whether a pattern is made of empty groups only, and so of nothing. -/
def isVoid : Glob → Bool
  | [] => true
  | .alternatives branches :: ts => areVoid branches && isVoid ts
  | _ :: _ => false

/-- Whether all branches of a group are made of nothing. -/
def areVoid : List Glob → Bool
  | [] => true
  | b :: bs => isVoid b && areVoid bs

end

mutual

/-- What can be left of any of the given texts after a token. -/
def Token.rests : Token → List (List UInt8) → List (List UInt8)
  | .literal c, texts => texts.filterMap (bytesOf c).isPrefixOf?
  | .any, texts => texts.filterMap fun
    | b :: bs => if b = '/'.toUInt8 then none else some bs
    | [] => none
  | .run, texts => texts.flatMap afterRun
  | .leading, texts => texts.flatMap fun text => text :: afterSlashes text
  | .trailing, texts => (texts.filterMap afterSlash?).flatMap endings
  | .between, texts => (texts.filterMap afterSlash?).flatMap fun text => text :: afterSlashes text
  | .oneOf negated ranges, texts => texts.filterMap fun
    | b :: bs => if holdsByte negated ranges b then some bs else none
    | [] => none
  | .alternatives branches, texts => if areVoid branches then texts else branchRests branches texts

/-- What can be left of any of the given texts after one of several patterns; branches made of nothing do not count. -/
def branchRests : List Glob → List (List UInt8) → List (List UInt8)
  | [], _ => []
  | b :: bs, texts => (if isVoid b then [] else rests b texts) ++ branchRests bs texts

/-- What can be left of any of the given texts after a pattern. -/
def rests : Glob → List (List UInt8) → List (List UInt8)
  | [], texts => texts
  | t :: ts, texts => rests ts (Token.rests t texts).eraseDups

end

/-- Whether a pattern is `**` alone, which stands for everything. -/
def isEverything : Glob → Bool
  | [.leading] => true
  | _ => false

/-- The character of a literal token. -/
def literal? : Token → Option Char
  | .literal c => some c
  | _ => none

/-- Whether a pattern is written out: nothing but characters, with a directory part when it may start anywhere. -/
def isWrittenOut : Glob → Bool
  | .leading :: ts => ts.all (fun t => (literal? t).isSome) && ts.any (fun t => literal? t == some '/')
  | ts => ts.all fun t => (literal? t).isSome

/-- Whether a pattern is about a base name that ends in a dot. -/
def needsDottedName (glob : Glob) : Bool :=
  (glob.getLast?.bind literal?) == some '.' && !isWrittenOut glob

/-- Whether the last piece of a path is `..`, which is no base name. -/
def hasNoName (path : List UInt8) : Bool :=
  (path.reverse.takeWhile (· != '/'.toUInt8)) == "..".toUTF8.toList

/-- Whether a pattern matches a path as a whole. -/
def accepts (glob : Glob) (path : List UInt8) : Bool :=
  isEverything glob || (!(needsDottedName glob && hasNoName path) && (rests glob [path]).contains [])

end Glob

end FigureGallery.Exclusion
