import ZonedAccessors.Grammar.Block

/-!
Expressions.
-/

namespace ZonedAccessors.Grammar

open Token Syntax

/-! Groups. -/

def parenExpr (g : Inner) : Reader Expr :=
  inside .paren do
    let (items, trailing) ← listed List.isEmpty "," (g.expr true)
    match items with
    | [e] => return if trailing then .tuple [e] true else .paren e
    | items => return .tuple items trailing

def bracketExpr (g : Inner) : Reader Expr :=
  inside .bracket do
    if (← rest).isEmpty then return .array [] false
    let first ← g.expr true
    let ts ← rest
    if ts.isEmpty then return .array [first] false
    else if isMark "," ts then
      mark ","
      let (more, trailing) ← listed List.isEmpty "," (g.expr true)
      return .array (first :: more) (trailing || more.isEmpty)
    else if isMark ";" ts then
      mark ";"
      return .copies first (← g.expr true)
    else refuseOptions [tick ",", tick ";"]

/-- A field with its value; a name alone stands for itself. -/
def fieldValue (g : Inner) : Reader Expr := do
  let as ← attributes g
  let m ← member
  if isMark ":" (← rest) || !isNamed m then
    mark ":"
    return (Expr.entry m (← g.expr true)).within as
  else return (Expr.path (.plain (Path.ofName m))).within as

structure Fields where
  fields : List Expr
  trailing : Bool
  more : Bool
  rest : Option Expr

/-- Fields, up to two points and what the others are taken from; `fuel` bounds their number. -/
def fieldsFrom (g : Inner) : Nat → Reader Fields
  | 0 => refuse (.broken .depth)
  | fuel + 1 => do
      let ts ← rest
      if ts.isEmpty then return ⟨[], true, false, none⟩
      if isMark ".." ts then
        mark ".."
        let other ← if (← rest).isEmpty then pure none else some <$> g.expr true
        return ⟨[], true, true, other⟩
      let first ← fieldValue g
      if (← rest).isEmpty then return ⟨[first], false, false, none⟩
      mark ","
      let found ← fieldsFrom g fuel
      return { found with fields := first :: found.fields }

def structExpr (g : Inner) (p : TyPath) : Reader Expr := do
  let f ← inside .brace do fieldsFrom g ((← rest).length + 1)
  return .struct p f.fields f.trailing f.more f.rest

def pathExpr (g : Inner) (structs : Bool) : Reader Expr := do
  let p ← tyPath g true
  let ts ← rest
  let names := match p with
    | .plain q => if isInvoked ts then q.names? else none
    | _ => none
  match names with
  | some names => return .invocation (← invocationAt names)
  | none => if structs && isGroup .brace ts then structExpr g p else return .path p

/-! Closures and jumps. -/

def startsClosure (ts : Source) : Bool :=
  isMark "|" ts || isWord "move" ts || startsBinder ts ||
    (isWord "const" ts && !second (isGroup .brace) ts) || isWord "static" ts ||
    (isWord "async" ts && second (fun r => isMark "|" r || isWord "move" r) ts)

def closureInput (g : Inner) : Reader Pattern := do
  let as ← attributes g
  let p ← g.pattern
  if isMark ":" (← rest) then
    mark ":"
    return (Pattern.typed p (← g.type true)).within as
  else match p with
    | .verbatim tokens => return .verbatim tokens
    | p => return p.within as

def closure (g : Inner) (structs : Bool) : Reader Expr := do
  let binder ← binderIf g
  let texts ← wordsIf ["const", "static", "async", "move"]
  mark "|"
  let (inputs, trailing) ← listed (isMark "|") "," (closureInput g)
  mark "|"
  match ← output g true with
  | none => return .closure binder texts inputs trailing none (← g.expr structs)
  | some t => return .closure binder texts inputs trailing (some t) (← plainBlock g)

/-- Whether a value may begin here. -/
def startsExpr (ts : Source) : Bool :=
  isAnyName ts || isGroup .paren ts || isGroup .bracket ts || isGroup .brace ts || isLiteral ts ||
    (isMark "!" ts && !isMark "!=" ts) || (isMark "-" ts && !isMark "-=" ts && !isMark "->" ts) ||
    (isMark "*" ts && !isMark "*=" ts) || (isMark "|" ts && !isMark "|=" ts) ||
    (isMark "&" ts && !isMark "&=" ts) || isMark ".." ts ||
    (isMark "<" ts && !isMark "<=" ts && !isMark "<<=" ts) || isMark "::" ts || isLifetime ts ||
    isMark "#" ts

def valueIf (g : Inner) (wanted : Bool) : Reader (Option Expr) := do
  if wanted && startsExpr (← rest) then return some (← g.expr true) else return none

/-- A labelled loop behind a `break` stands in parentheses. -/
def breakExpr (g : Inner) (structs : Bool) : Reader Expr := do
  keyword "break"
  let ts ← rest
  if isLifetime ts && second (isMark ":") ts then
    let (_, read) ← captured (g.expr true)
    refuseAt (extent read) (.broken .labelledBreak)
  let label ← lifetimeIf
  let wanted := structs || !isGroup .brace (← rest)
  return .jump "break" label (← valueIf g wanted)

def jump (g : Inner) (word : String) : Reader Expr := do
  keyword word
  return .jump word none (← valueIf g true)

def continueExpr : Reader Expr := do
  keyword "continue"
  return .jump "continue" (← lifetimeIf) none

def becomeExpr (g : Inner) : Reader Expr := do
  return .verbatim (← capturedTokens do
    keyword "become"
    let _ ← g.expr true)

def letExpr (g : Inner) (structs : Bool) : Reader Expr := do
  keyword "let"
  let p ← anyPattern g
  mark "="
  return .binding p (← climb g structs .comparison (← g.unary structs))

/-! Atoms and what is attached to them. -/

def startsPathExpr (ts : Source) : Bool :=
  startsPath ts || isMark "::" ts || isMark "<" ts ||
    (isWord "try" ts && second (fun r => isMark "!" r || isMark "::" r) ts)

def atom (g : Inner) (structs : Bool) : Reader Expr := do
  let ts ← rest
  if isLiteral ts then
    let (negative, text) ← literalText
    return .literal negative text
  else if isWord "async" ts && (second (isGroup .brace) ts ||
      (second (isWord "move") ts && third (isGroup .brace) ts)) then asyncBlock g
  else if isWord "try" ts && second (isGroup .brace) ts then tryBlock g
  else if startsClosure ts then closure g structs
  else if startsBuiltin ts then return .verbatim (← builtin)
  else if startsPathExpr ts then pathExpr g structs
  else if isGroup .paren ts then parenExpr g
  else if isWord "break" ts then breakExpr g structs
  else if isWord "continue" ts then continueExpr
  else if isWord "return" ts then jump g "return"
  else if isWord "become" ts then becomeExpr g
  else if isGroup .bracket ts then bracketExpr g
  else if isWord "let" ts then letExpr g structs
  else if isWord "yield" ts then jump g "yield"
  else if isWord "_" ts then
    keyword "_"
    return .infer
  else if isMark ".." ts then
    let closed ← points
    return .range none closed (← rangeEnd g structs closed)
  else if startsBlock ts then blockExpr g
  else refuse (.broken .expression)

def methodOrField (g : Inner) (e : Expr) : Reader Expr := do
  if ← keywordIf "await" then return .await e
  let m ← member
  let name ← if isNamed m && isMark "::" (← rest) then
      mark "::"
      let (items, trailing) ← angled g.argument
      pure (Segment.angled m true items trailing)
    else pure (.plain m)
  if !name.isPlain || (isNamed m && isGroup .paren (← rest)) then
    let (items, trailing) ← inCommas .paren (g.expr true)
    return .method e name items trailing
  else return .field e m

/-- Members behind a point; several positions may be written as one number. -/
def dotted (g : Inner) (e : Expr) : Reader Expr := do
  mark "."
  match ← positionsIf with
  | none => methodOrField g e
  | some (positions, pointed) =>
      let inner := positions.foldl (fun base m => .field base m) e
      if pointed then methodOrField g inner else return inner

/-- Calls, members, positions and question marks behind an expression. -/
def trailersWithin (g : Inner) : Nat → Expr → Reader Expr
  | 0, _ => refuse (.broken .depth)
  | fuel + 1, e => do
      let ts ← rest
      if isGroup .paren ts then
        let (items, trailing) ← inCommas .paren (g.expr true)
        trailersWithin g fuel (.call e items trailing)
      else if isMark "." ts && !isMark ".." ts && !e.isRange then
        trailersWithin g fuel (← dotted g e)
      else if isGroup .bracket ts then
        trailersWithin g fuel (.index e (← inside .bracket (g.expr true)))
      else if isMark "?" ts && !e.isRange then
        mark "?"
        trailersWithin g fuel (.question e)
      else return e

def trailers (g : Inner) (e : Expr) : Reader Expr := do
  trailersWithin g ((← rest).length + 1) e

/-- An atom with what is attached to it and the attributes before it. -/
def attached (g : Inner) (structs : Bool) (before : Source) (as : Attributes) : Reader Expr := do
  let start ← rest
  match ← trailers g (← atom g structs) with
  | .verbatim _ => return .verbatim (Source.bare (← between before))
  | e =>
      match as, e.bare with
      | _ :: _, .range _ closed _ =>
          refuseAt (extent (start.take (if closed then 3 else 2))) (.broken .rangeAttribute)
      | as, _ => return e.within as

def unary (g : Inner) (structs : Bool) : Reader Expr := do
  let before ← rest
  let as ← attributes g
  let ts ← rest
  if isMark "&" ts then
    mark "&"
    if isWord "raw" (← rest) && second (fun r => isWord "mut" r || isWord "const" r) (← rest) then
      keyword "raw"
      let mutable ← keywordIf "mut"
      if !mutable then keyword "const"
      return (Expr.address mutable (← g.unary structs)).within as
    else
      let mutable ← keywordIf "mut"
      return (Expr.borrow mutable (← g.unary structs)).within as
  else match ["*", "!", "-"].find? (isMark · ts) with
    | some text =>
        mark text
        return (Expr.unary (text.toList.headD '!') (← g.unary structs)).within as
    | none => attached g structs before as

def expr (g : Inner) (structs : Bool) : Reader Expr := do
  climb g structs .lowest (← unary g structs)

/-- An expression as a statement: one that ends in a block ends there. -/
def statement (g : Inner) : Reader Expr := do
  let as ← attributes g
  if startsBlock (← rest) then
    let e ← blockExpr g
    let ts ← rest
    if (isMark "." ts && !isMark ".." ts) || isMark "?" ts then
      climb g true .lowest ((← trailers g e).within as)
    else return e.within as
  else climb g true .lowest ((← unary g true).within as)

end ZonedAccessors.Grammar
