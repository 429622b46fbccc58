import ZonedAccessors.Grammar.Inner

/-!
Paths and the arguments in them.
-/

namespace ZonedAccessors.Grammar

open Token Syntax

def startsPath (ts : Source) : Bool :=
  isName ts || ["super", "self", "Self", "crate"].any (isWord · ts)

/-- A path of names, any word that starts one included. -/
def modPath : Reader ModPath := do
  let rooted ← markIf "::"
  if !startsPath (← rest) then
    let _ ← name
  let first ← anyName
  let (more, trailing) ← do
    if ← markIf "::" then
      if !startsPath (← rest) then pure ([], true)
      else chainedFrom (fun ts => !startsPath ts) "::" anyName ((← rest).length + 1)
    else pure ([], false)
  if trailing then refuse (.broken .segmentAfterPath)
  return ⟨rooted, first :: more⟩

def invocationAt (path : ModPath) : Reader Invocation := do
  mark "!"
  return ⟨path, ← anyGroup⟩

/-- Whether a path is followed by the mark of a macro call. -/
def isInvoked (ts : Source) : Bool := isMark "!" ts && !isMark "!=" ts

def angled {α : Type} (item : Reader α) : Reader (List α × Bool) := do
  mark "<"
  let items ← listed (isMark ">") "," item
  mark ">"
  return items

def output (g : Inner) (plus : Bool) : Reader (Option Ty) := do
  if ← markIf "->" then return some (← g.type plus) else return none

def segment (g : Inner) (inExpr : Bool) : Reader Segment := do
  let ts ← rest
  if ["super", "self", "crate", "try"].any (isWord · ts) then return .plain (← anyName)
  let n ← anyNameOr ["Self"]
  let ts ← rest
  if (!inExpr && isMark "<" ts && !isMark "<=" ts) || (isMark "::" ts && third (isMark "<") ts) then
    let turbofish ← markIf "::"
    let (items, trailing) ← angled g.argument
    return .angled n turbofish items trailing
  else return .plain n

def path (g : Inner) (inExpr : Bool) : Reader Path := do
  let rooted ← markIf "::"
  let first ← segment g inExpr
  let more ← many (fun ts => isMark "::" ts && !third (isGroup .paren) ts) do
    mark "::"
    segment g inExpr
  return ⟨rooted, first :: more⟩

def tyPath (g : Inner) (inExpr : Bool) : Reader TyPath := do
  if ← markIf "<" then
    let self ← g.type true
    let view ← if ← keywordIf "as" then some <$> path g false else pure none
    mark ">"
    mark "::"
    let first ← segment g inExpr
    let more ← many (isMark "::") do
      mark "::"
      segment g inExpr
    return match view with
      | none => .projected self (first :: more)
      | some v => .viewed self v (first :: more)
  else return .plain (← path g inExpr)

/-- The last segment of a trait may have inputs and an output. -/
def withInputs (inputs : List Ty) (trailing : Bool) (out : Option Ty) :
    List Segment → Option (List Segment)
  | [] => none
  | [.plain n] => some [.call n inputs trailing out]
  | [.angled n _ [] _] => some [.call n inputs trailing out]
  | [_] => none
  | s :: ss => (withInputs inputs trailing out ss).map (s :: ·)

def takesInputs (p : Path) : Bool := (withInputs [] false none p.segments).isSome

def traitPath (g : Inner) : Reader Path := do
  let p ← path g false
  let ts ← rest
  if takesInputs p && (isGroup .paren ts || (isMark "::" ts && third (isGroup .paren) ts)) then
    let _ ← markIf "::"
    let (inputs, trailing) ← inCommas .paren (g.type true)
    let out ← output g false
    return { p with segments := (withInputs inputs trailing out p.segments).getD p.segments }
  else return p

end ZonedAccessors.Grammar
