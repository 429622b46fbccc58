import ZonedAccessors.Grammar.Type
import ZonedAccessors.Grammar.Member

/-!
Patterns.
-/

namespace ZonedAccessors.Grammar

open Token Syntax

def startsAlternative (ts : Source) : Bool := isMark "|" ts && !isMark "||" ts && !isMark "|=" ts

/-- One pattern, or several to choose from. -/
def anyPattern (g : Inner) : Reader Pattern := do
  let leading ← markIf "|"
  let first ← g.pattern
  if leading || startsAlternative (← rest) then
    let more ← many startsAlternative do
      mark "|"
      g.pattern
    return .alternatives leading (first :: more)
  else return first

/-! Ranges. -/

def endsBound (ts : Source) : Bool :=
  ts.isEmpty || isMark "|" ts || isMark "=" ts || (isMark ":" ts && !isMark "::" ts) ||
    isMark "," ts || isMark ";" ts || isWord "if" ts

def constBlock (g : Inner) : Reader Expr := do
  keyword "const"
  let (inner, body) ← braced g
  return .block ["const"] none inner body

/-- A value that bounds a range. -/
def rangeBound (g : Inner) : Reader (Option Expr) := do
  let ts ← rest
  if endsBound ts then return none
  if isLiteral ts then
    let (negative, text) ← literalText
    return some (.literal negative text)
  else if startsPath ts || isMark "::" ts || isMark "<" ts then
    return some (.path (← tyPath g true))
  else if isWord "const" ts then return some (← constBlock g)
  else
    let words := ["::", "<", "self", "Self", "super", "crate", "const"].map tick
    refuseOptions ("literal" :: "identifier" :: words)

/-- Two points, and whether the end belongs to the range. -/
def points : Reader Bool := do
  let ts ← rest
  if isMark "..=" ts then
    mark "..="
    return true
  else if isMark "..." ts then refuseOptions [tick "..="]
  else if isMark ".." ts then
    mark ".."
    return false
  else refuseOptions [tick ".."]

/-- As `points`, or three points, which are an older spelling of a closed range. -/
def pointsOrDots : Reader Bool := do
  if isMark "..." (← rest) && !isMark "..=" (← rest) then
    mark "..."
    return true
  else points

def rangeFrom (g : Inner) (first : Expr) : Reader Pattern := do
  let closed ← pointsOrDots
  match ← rangeBound g with
  | none =>
      if closed then refuse (.broken .rangeEnd)
      return .range (some first) closed none
  | last => return .range (some first) closed last

def valuePattern (g : Inner) : Reader Pattern := do
  match ← rangeBound g with
  | none => refuseOptions []
  | some first =>
      if isMark ".." (← rest) then rangeFrom g first else return .value first

def openRange (g : Inner) : Reader Pattern := do
  let closed ← points
  match ← rangeBound g with
  | some last => return .range none closed (some last)
  | none =>
      if closed then refuse (.broken .rangeEnd)
      return .rest

/-! Names, fields and groups. -/

def namePattern (g : Inner) : Reader Pattern := do
  let borrowed ← keywordIf "ref"
  let mutable ← keywordIf "mut"
  let n ← anyNameOr ["self"]
  if ← markIf "@" then return .bound borrowed mutable n (← g.pattern)
  else return .name borrowed mutable n

/-- A field; a name alone stands for itself. -/
def fieldPattern (g : Inner) : Reader Pattern := do
  let before ← rest
  let boxed ← keywordIf "box"
  let borrowed ← keywordIf "ref"
  let mutable ← keywordIf "mut"
  let changed := boxed || borrowed || mutable
  let m ← if changed then name else member
  if (!changed && isMark ":" (← rest)) || !isNamed m then
    mark ":"
    return .entry m (← anyPattern g)
  else if boxed then return .verbatim (Source.bare (← between before))
  else return .name borrowed mutable m

/-- Fields, up to two points that stand for the others; `fuel` bounds their number. -/
def fieldPatternsFrom (g : Inner) : Nat → Reader (List Pattern × Bool)
  | 0 => refuse (.broken .depth)
  | fuel + 1 => do
      if (← rest).isEmpty then return ([], true)
      let as ← attributes g
      if isMark ".." (← rest) then
        mark ".."
        return ([Pattern.rest.within as], false)
      let first := (← fieldPattern g).within as
      if (← rest).isEmpty then return ([first], false)
      mark ","
      let (more, trailing) ← fieldPatternsFrom g fuel
      return (first :: more, trailing)

def pathPattern (g : Inner) : Reader Pattern := do
  let p ← tyPath g true
  let ts ← rest
  let names := match p with
    | .plain q => if isInvoked ts then q.names? else none
    | _ => none
  match names with
  | some names => return .invocation (← invocationAt names)
  | none =>
      if isGroup .brace ts then
        let (items, trailing) ← inside .brace do fieldPatternsFrom g ((← rest).length + 1)
        return .struct p items trailing
      else if isGroup .paren ts then
        let (items, trailing) ← inCommas .paren (anyPattern g)
        return .applied p items trailing
      else if isMark ".." ts then rangeFrom g (.path p)
      else return .value (.path p)

def isRest : Pattern → Bool
  | .rest => true
  | _ => false

def parenPattern (g : Inner) : Reader Pattern := do
  let (items, trailing) ← inCommas .paren (anyPattern g)
  match items with
  | [p] => return if trailing || isRest p then .tuple [p] trailing else .paren p
  | items => return .tuple items trailing

def isHalfRange : Pattern → Bool
  | .range none .. => true
  | .range _ _ none => true
  | _ => false

/-- In a slice a range has both bounds, or stands in parentheses. -/
def sliceItem (g : Inner) : Reader Pattern := do
  let (p, read) ← captured (anyPattern g)
  if isHalfRange p then
    let marks := (read.dropWhile (!isPoint ·)).takeWhile isRangeMark
    refuseAt (extent (marks.take 3)) (.broken .rangeInSlice)
  return p
where
  isPoint : Token.Tree Span → Bool
    | .punct '.' _ _ => true
    | _ => false
  isRangeMark : Token.Tree Span → Bool
    | .punct '.' _ _ => true
    | .punct '=' _ _ => true
    | _ => false

/-- Two points are no start if a third one follows. -/
def patternStarts (ts : Source) : List String :=
  ["identifier", tick "::", tick "<", tick "_", "literal", tick "const", tick "ref", tick "mut",
    tick "&", "parentheses", "square brackets"] ++
    (if isMark ".." ts then [] else [tick ".."]) ++ [tick "const"]

def startsPathPattern (ts : Source) : Bool :=
  (isName ts && second (fun r => isMark "::" r || isMark "!" r || isGroup .brace r ||
    isGroup .paren r || isMark ".." r) ts) ||
    (isWord "self" ts && second (isMark "::") ts) || isMark "::" ts || isMark "<" ts ||
    ["Self", "super", "crate"].any (isWord · ts)

/-- A pattern without alternatives. -/
def pattern (g : Inner) : Reader Pattern := do
  let ts ← rest
  if startsPathPattern ts then pathPattern g
  else if isWord "_" ts then
    keyword "_"
    return .wild
  else if isWord "box" ts then
    return .verbatim (← capturedTokens do
      keyword "box"
      let _ ← g.pattern)
  else if isMark "-" ts || isLiteral ts || isWord "const" ts then valuePattern g
  else if isWord "ref" ts || isWord "mut" ts || isWord "self" ts || isName ts then namePattern g
  else if isMark "&" ts then
    mark "&"
    let mutable ← keywordIf "mut"
    return .reference mutable (← g.pattern)
  else if isGroup .paren ts then parenPattern g
  else if isGroup .bracket ts then
    let (items, trailing) ← inCommas .bracket (sliceItem g)
    return .slice items trailing
  else if isMark ".." ts && !isMark "..." ts then openRange g
  else refuseOptions (patternStarts ts)

end ZonedAccessors.Grammar
