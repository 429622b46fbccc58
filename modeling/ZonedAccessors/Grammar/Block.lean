import ZonedAccessors.Grammar.Operator

/-!
Expressions that end in a block: conditions, loops, selections and blocks behind a word.
-/

namespace ZonedAccessors.Grammar

open Token Syntax

def labelIf : Reader (Option String) := do
  let l ← lifetimeIf
  if l.isSome then mark ":"
  return l

def plainBlock (g : Inner) : Reader Expr := return .block [] none [] (← g.block)

/-- A condition with what follows an `else`; `fuel` bounds the number of conditions. -/
def conditionalFrom (g : Inner) : Nat → Reader Expr
  | 0 => refuse (.broken .depth)
  | fuel + 1 => do
      keyword "if"
      let condition ← g.expr false
      let yes ← g.block
      if !(← keywordIf "else") then return .conditional condition yes none
      let ts ← rest
      if isWord "if" ts then return .conditional condition yes (some (← conditionalFrom g fuel))
      else if isGroup .brace ts then return .conditional condition yes (some (← plainBlock g))
      else refuseOptions [tick "if", "curly braces"]

def conditional (g : Inner) : Reader Expr := do conditionalFrom g ((← rest).length + 1)

def forever (g : Inner) (label : Option String) : Reader Expr := do
  keyword "loop"
  let (inner, body) ← braced g
  return .forever label inner body

def whilst (g : Inner) (label : Option String) : Reader Expr := do
  keyword "while"
  let condition ← g.expr false
  let (inner, body) ← braced g
  return .whilst label condition inner body

def each (g : Inner) (label : Option String) : Reader Expr := do
  keyword "for"
  let p ← anyPattern g
  keyword "in"
  let source ← g.expr false
  let (inner, body) ← braced g
  return .each label p source inner body

/-- An arm; a comma follows it unless it ends in a block or is the last one. -/
def arm (g : Inner) : Reader Stmt := do
  let as ← attributes g
  let p ← anyPattern g
  let guard ← if ← keywordIf "if" then some <$> g.expr true else pure none
  mark "=>"
  let body ← g.statement
  if body.isBlock || (← rest).isEmpty then
    return (Stmt.arm p guard body (← markIf ",")).within as
  else
    mark ","
    return (Stmt.arm p guard body true).within as

def selection (g : Inner) : Reader Expr := do
  keyword "match"
  let subject ← g.expr false
  inside .brace do
    let inner ← innerAttributes g
    return .select subject inner (← many (fun ts => !ts.isEmpty) (arm g))

def unsafeBlock (g : Inner) : Reader Expr := do
  keyword "unsafe"
  let (inner, body) ← braced g
  return .block ["unsafe"] none inner body

def tryBlock (g : Inner) : Reader Expr := do
  keyword "try"
  return .block ["try"] none [] (← g.block)

def asyncBlock (g : Inner) : Reader Expr := do
  let texts ← wordsIf ["async", "move"]
  return .block texts none [] (← g.block)

def bareBlock (g : Inner) (label : Option String) : Reader Expr := do
  let (inner, body) ← braced g
  return .block [] label inner body

def labelled (g : Inner) : Reader Expr := do
  let label ← labelIf
  let ts ← rest
  if isWord "while" ts then whilst g label
  else if isWord "for" ts then each g label
  else if isWord "loop" ts then forever g label
  else if isGroup .brace ts then bareBlock g label
  else refuse (.broken .loopOrBlock)

/-- A `for` here binds lifetimes and does not begin a loop. -/
def startsBinder (ts : Source) : Bool :=
  isWord "for" ts && second (isMark "<") ts && third (fun r => isLifetime r || isMark ">" r) ts

def startsBlock (ts : Source) : Bool :=
  ["if", "while", "loop", "match", "unsafe"].any (isWord · ts) ||
    (isWord "for" ts && !startsBinder ts) ||
    ((isWord "try" ts || isWord "const" ts) && second (isGroup .brace) ts) ||
    isGroup .brace ts || isLifetime ts

/-- What `startsBlock` looks for. -/
def blockExpr (g : Inner) : Reader Expr := do
  let ts ← rest
  if isWord "if" ts then conditional g
  else if isWord "while" ts then whilst g none
  else if isWord "for" ts then each g none
  else if isWord "loop" ts then forever g none
  else if isWord "match" ts then selection g
  else if isWord "try" ts then tryBlock g
  else if isWord "unsafe" ts then unsafeBlock g
  else if isWord "const" ts then constBlock g
  else if isLifetime ts then labelled g
  else bareBlock g none

end ZonedAccessors.Grammar
