import ZonedAccessors.Grammar.Path

/-!
Attributes, and what stands between braces behind them.
-/

namespace ZonedAccessors.Grammar

open Token Syntax

def metaValue (g : Inner) : Reader Expr := do
  let ts ← rest
  match afterLiteral ts with
  | some ((negative, text), _, []) =>
      advance []
      return .literal negative text
  | _ =>
      if isMark "#" ts && second (isGroup .bracket) ts then refuse (.broken .nestedAttribute)
      else g.expr true

def metaItem (g : Inner) : Reader Meta := do
  let p ← if ← keywordIf "unsafe" then pure (ModPath.ofName "unsafe") else modPath
  let ts ← rest
  if isGroup .paren ts || isGroup .bracket ts || isGroup .brace ts then return .list p (← anyGroup)
  else if isMark "=" ts && !isMark "==" ts && !isMark "=>" ts then
    mark "="
    return .value p (← metaValue g)
  else return .path p

def attributes (g : Inner) : Reader Attributes :=
  many (isMark "#") do
    mark "#"
    inside .bracket (metaItem g)

/-- Attributes of what encloses them. -/
def innerAttributes (g : Inner) : Reader Attributes :=
  many (fun ts => isMark "#" ts && second (isMark "!") ts) do
    mark "#"
    mark "!"
    inside .bracket (metaItem g)

/-- Braces with attributes of their own and statements. -/
def braced (g : Inner) : Reader (Attributes × List Stmt) :=
  inside .brace do
    let inner ← innerAttributes g
    return (inner, ← g.body)

/-- A value where a type may stand as well. -/
def constant (g : Inner) : Reader Expr := do
  let ts ← rest
  if isLiteral ts then
    let (negative, text) ← literalText
    return .literal negative text
  else if isName ts then return .path (.plain (Path.ofName (← name)))
  else if isGroup .brace ts then
    let (inner, body) ← braced g
    return .block [] none inner body
  else refuseWhole

end ZonedAccessors.Grammar
