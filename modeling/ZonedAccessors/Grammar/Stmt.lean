import ZonedAccessors.Grammar.Expr

/-!
Statements and blocks.
-/

namespace ZonedAccessors.Grammar

open Token Syntax

def localStmt (g : Inner) : Reader Stmt := do
  keyword "let"
  let p ← g.pattern
  let p ← if isMark ":" (← rest) then
      mark ":"
      pure (Pattern.typed p (← g.type true))
    else pure p
  if !(← markIf "=") then
    mark ";"
    return .binding p none none
  let value ← g.expr true
  let otherwise ← if !value.endsInBrace && isWord "else" (← rest) then
      keyword "else"
      some <$> plainBlock g
    else pure none
  mark ";"
  return .binding p (some value) otherwise

/-- Attributes before a statement belong to the expression that it begins with. -/
def withinFirst (as : Attributes) : Expr → Expr
  | .assign left right => .assign (withinFirst as left) right
  | .binary text left right => .binary text (withinFirst as left) right
  | .cast inner target => .cast (withinFirst as inner) target
  | e => e.within as

def exprStmt (g : Inner) (as : Attributes) : Reader Stmt := do
  let e := withinFirst as (← statement g)
  let ended ← markIf ";"
  match e with
  | .invocation c =>
      return if ended || c.isBraced then .invocation c ended else .expr e ended
  | .attributed bs (.invocation c) =>
      return if ended || c.isBraced then .attributed bs (.invocation c ended) else .expr e ended
  | e => return .expr e ended

/-- What follows a path of names, if one stands here. -/
def behindPath : Reader (Option (ModPath × Source)) := do
  let c ← get
  let found ← attempt modPath
  let after ← rest
  set c
  return found.map (·, after)

def startsItem (ts : Source) : Bool :=
  ["pub", "extern", "use", "fn", "mod", "type", "struct", "enum", "trait", "impl", "macro"].any
      (isWord · ts) ||
    (isWord "crate" ts && !second (isMark "::") ts) ||
    (isWord "static" ts && (second (isWord "mut") ts || second isName ts)) ||
    (isWord "const" ts && !(second (fun r => isGroup .brace r || isWord "static" r ||
      isWord "move" r || isMark "|" r) ts || (second (isWord "async") ts &&
        !third (fun r => ["unsafe", "extern", "fn"].any (isWord · r)) ts))) ||
    (isWord "unsafe" ts && !second (isGroup .brace) ts) ||
    (isWord "async" ts && second (fun r => ["unsafe", "extern", "fn"].any (isWord · r)) ts) ||
    (isWord "union" ts && second isName ts) || (isWord "auto" ts && second (isWord "trait") ts) ||
    (isWord "default" ts && second (fun r => isWord "unsafe" r || isWord "impl" r) ts)

/-- The mark and the name of a macro that defines something. -/
def startsDefinition (ts : Source) : Bool :=
  isMark "!" ts && second (fun r => isName r || isWord "try" r) ts

/-- A macro call in braces is a statement, unless something is attached to it. -/
def startsCall (ts : Source) : Bool :=
  isMark "!" ts && second (isGroup .brace) ts &&
    !third (fun r => (isMark "." r && !isMark ".." r) || isMark "?" r) ts

def stmt (g : Inner) : Reader Stmt := do
  let start ← get
  let as ← attributes g
  let ts ← rest
  match ← behindPath with
  | some (p, after) =>
      if startsDefinition after then
        set start
        return .item (← g.item)
      else if startsCall after then
        advance after
        let c ← invocationAt p
        return (Stmt.invocation c (← markIf ";")).within as
      else ordinary start as ts
  | none => ordinary start as ts
where
  ordinary (start : Cursor) (as : Attributes) (ts : Source) : Reader Stmt := do
    if isWord "let" ts then return (← localStmt g).within as
    else if startsItem ts then
      set start
      return .item (← g.item)
    else exprStmt g as

/-- Whether a semicolon must follow, unless nothing does. -/
def isOpen : Stmt → Bool
  | .expr e false => e.needsSemicolon
  | _ => false

/-- Statements up to the end; `fuel` bounds their number. -/
def bodyFrom (g : Inner) : Nat → Reader (List Stmt)
  | 0 => refuse (.broken .depth)
  | fuel + 1 => do
      if ← markIf ";" then return .empty :: (← bodyFrom g fuel)
      if (← rest).isEmpty then return []
      let s ← stmt g
      if isOpen s && !(← rest).isEmpty then refuse (.broken .statementEnd)
      return s :: (← bodyFrom g fuel)

def body (g : Inner) : Reader (List Stmt) := do bodyFrom g ((← rest).length + 1)

def block (g : Inner) : Reader (List Stmt) := inside .brace (body g)

end ZonedAccessors.Grammar
