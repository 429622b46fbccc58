import ZonedAccessors.Grammar.Bound

/-!
Types.
-/

namespace ZonedAccessors.Grammar

open Token Syntax

/-- Whether a bound may be a trait. -/
def Bound.isTrait : Bound → Bool
  | .lifetime _ => false
  | .captured .. => false
  | _ => true

def isPlus : Token.Tree Span → Bool
  | .punct '+' _ _ => true
  | _ => false

/-- Bounds of which one is a trait; otherwise the fault reaches from `start` to the last bound. -/
def traitBounds (start : Source) (rule : Rule) (p : Reader (List Bound × Bool)) :
    Reader (List Bound × Bool) := do
  let ((bs, trailing), read) ← captured p
  if bs.any Bound.isTrait then return (bs, trailing)
  else refuseAt (extent (start ++ (read.reverse.find? (!isPlus ·)).toList)) (.broken rule)

def lifetimeObject (g : Inner) : Reader Ty := do
  let start := (← rest).take 1
  let (bs, trailing) ← traitBounds start .objectTrait (bounds g true false false)
  return .bounded none bs trailing

/-- What a parenthesised type becomes when a plus follows it. -/
def enclosedBound : Ty → Option Bound
  | .path (.plain p) => some (.trait true false .none p)
  | .bounded none [.trait _ maybe binder p] false => some (.trait true maybe binder p)
  | .bounded none [b] false => some b
  | _ => none

def plusBounds (g : Inner) : Reader (List Bound) :=
  many (isMark "+") do
    mark "+"
    bound g false false

inductive Enclosed where
  | done (t : Ty)
  | sum (first : Bound)
  | sole (t : Ty)

def enclosedType (g : Inner) : Reader Enclosed := do
  let ts ← rest
  if ts.isEmpty then return .done (.tuple [] false)
  if isLifetime ts then return .done (.paren (← lifetimeObject g))
  if isMark "?" ts then
    match ← traitBound g true false with
    | some b => return .sum b
    | none => refuseOptions []
  let first ← g.type true
  if isMark "," (← rest) then
    mark ","
    let (more, trailing) ← listed List.isEmpty "," (g.type true)
    return .done (.tuple (first :: more) (trailing || more.isEmpty))
  else return .sole first

def parenType (g : Inner) (plus : Bool) : Reader Ty := do
  match ← inside .paren (enclosedType g) with
  | .done t => return t
  | .sum first => return .bounded none (first :: (← plusBounds g)) false
  | .sole t =>
      if plus && isMark "+" (← rest) then
        match enclosedBound t with
        | some first => return .bounded none (first :: (← plusBounds g)) false
        | none => return .paren t
      else return .paren t

/-! Functions. -/

def conventionIf : Reader (Option Convention) := do
  if !(← keywordIf "extern") then return none
  match ← rest with
  | .literal text _ :: ts =>
      if isText text then
        advance ts
        return some ⟨some text⟩
      else return some ⟨none⟩
  | _ => return some ⟨none⟩

/-- Those of some words that stand here, in this order. -/
def wordsIf : List String → Reader (List String)
  | [] => return []
  | w :: ws => do
      let found ← keywordIf w
      let more ← wordsIf ws
      return if found then w :: more else more

def endsInMore (ts : Source) : Bool :=
  isMark "..." ts ||
    ((isName ts || isWord "_" ts) && second (isMark ":") ts && third (isMark "...") ts)

def furtherInputs (as : Attributes) : Reader Input := do
  let n ← if isName (← rest) || isWord "_" (← rest) then
      let n ← anyName
      mark ":"
      pure (some n)
    else pure none
  mark "..."
  return ⟨as, n, .more⟩

def isMutSelf (ts : Source) : Bool := isWord "mut" ts && second (isWord "self") ts

/-- An input; only the first one may be a receiver. -/
def input (g : Inner) (as : Attributes) (isFirst : Bool) : Reader Input := do
  let before ← rest
  let isMut := isFirst && isMutSelf before
  if isMut then keyword "mut"
  let ts ← rest
  let named := (isName ts || isWord "_" ts || (isFirst && isWord "self" ts)) &&
    second (fun r => isMark ":" r && !isMark "::" r) ts
  let n ← if named then
      let n ← anyName
      mark ":"
      pure (some n)
    else pure none
  if isFirst && n != some "self" && isMutSelf (← rest) then
    keyword "mut"
    keyword "self"
    return ⟨as, none, .verbatim (Source.bare (← between before))⟩
  else if isMut then
    if named then
      let _ ← g.type true
    else keyword "self"
    return ⟨as, none, .verbatim (Source.bare (← between before))⟩
  else return ⟨as, n, ← g.type true⟩

/-- Inputs from the first or a later one; `fuel` bounds their number. -/
def inputsFrom (g : Inner) (isFirst : Bool) : Nat → Reader (List Input × Bool)
  | 0 => refuse (.broken .depth)
  | fuel + 1 => do
      if (← rest).isEmpty then return ([], true)
      let as ← attributes g
      if endsInMore (← rest) then return ([← furtherInputs as], ← markIf ",")
      let first ← input g as isFirst
      if (← rest).isEmpty then return ([first], false)
      mark ","
      let (more, trailing) ← inputsFrom g false fuel
      return (first :: more, trailing)

def functionType (g : Inner) (binder : Generics) : Reader Ty := do
  let texts ← wordsIf ["unsafe"]
  let convention ← conventionIf
  keyword "fn"
  let (inputs, trailing) ← inside .paren do inputsFrom g true ((← rest).length + 1)
  return .function binder ⟨texts, convention⟩ inputs trailing (← output g false)

/-! Other types. -/

def pathType (g : Inner) (plus : Bool) (binder : Generics) : Reader Ty := do
  match ← tyPath g false with
  | .plain p =>
      let ts ← rest
      match if isInvoked ts then p.names? else none with
      | some names => return .invocation (← invocationAt names)
      | none =>
          if binder.isWritten || (plus && isMark "+" ts) then
            let (more, trailing) ← if plus then moreBounds g else pure ([], false)
            return .bounded none (.trait false false binder p :: more) trailing
          else return .path (.plain p)
  | p => return .path p

def objectType (g : Inner) (plus : Bool) : Reader Ty := do
  let ((star, bs, trailing), read) ← captured do
    let start := (← rest).take 1
    keyword "dyn"
    let star ← markIf "*"
    let (bs, trailing) ← traitBounds start .objectTrait (bounds g plus false false)
    pure (star, bs, trailing)
  return if star then .verbatim (Source.bare read) else .bounded (some "dyn") bs trailing

def implType (g : Inner) (plus : Bool) : Reader Ty := do
  let start := (← rest).take 1
  keyword "impl"
  let (bs, trailing) ← traitBounds start .implTrait (bounds g plus true true)
  return .bounded (some "impl") bs trailing

def bracketType (g : Inner) : Reader Ty :=
  inside .bracket do
    let item ← g.type true
    if ← markIf ";" then return .array item (← g.expr true) else return .slice item

def pointerType (g : Inner) : Reader Ty := do
  mark "*"
  if ← keywordIf "const" then return .pointer false (← g.type false)
  else if ← keywordIf "mut" then return .pointer true (← g.type false)
  else refuseOptions [tick "const", tick "mut"]

def referenceType (g : Inner) : Reader Ty := do
  mark "&"
  let l ← lifetimeIf
  let mutable ← keywordIf "mut"
  return .reference l mutable (← g.type false)

/-- What only a compiler understands, with its arguments passed over. -/
def builtin : Reader Tokens :=
  capturedTokens do
    keyword "builtin"
    mark "#"
    let _ ← name
    skipGroup .paren

def startsBuiltin (ts : Source) : Bool := isWord "builtin" ts && second (isMark "#") ts

def typeStarts : List String :=
  [tick "for", "parentheses", tick "fn", tick "unsafe", tick "extern", "identifier", tick "::",
    tick "<", tick "dyn", "square brackets", tick "*", tick "&", tick "!", tick "impl", tick "_",
    "lifetime"]

def binderFollowers : List String :=
  ["identifier", tick "fn", tick "unsafe", tick "extern", tick "super", tick "self", tick "Self",
    tick "crate"]

def startsFunction (ts : Source) : Bool := ["fn", "unsafe", "extern"].any (isWord · ts)

def type (g : Inner) (plus : Bool) : Reader Ty := do
  let binder ← binderIf g
  let ts ← rest
  if binder.isWritten && !(startsPath ts || startsFunction ts) then refuseOptions binderFollowers
  if isGroup .paren ts then parenType g plus
  else if startsFunction ts then functionType g binder
  else if startsBuiltin ts then return .verbatim (← builtin)
  else if startsPath ts || isMark "::" ts || isMark "<" ts then pathType g plus binder
  else if isWord "dyn" ts then objectType g plus
  else if isGroup .bracket ts then bracketType g
  else if isMark "*" ts then pointerType g
  else if isMark "&" ts then referenceType g
  else if isMark "!" ts then do
    mark "!"
    return .never
  else if isWord "impl" ts then implType g plus
  else if isWord "_" ts then do
    keyword "_"
    return .infer
  else if isLifetime ts then lifetimeObject g
  else refuseOptions typeStarts

end ZonedAccessors.Grammar
