import ZonedAccessors.Grammar.Attribute

/-!
Bounds, generic parameters and conditions.
-/

namespace ZonedAccessors.Grammar

open Token Syntax

def startsBound (ts : Source) : Bool :=
  isAnyName ts || isMark "::" ts || isMark "?" ts || isLifetime ts || isGroup .paren ts

def lifetimeBound : Reader Bound := return .lifetime (← lifetimeName)

/-- A `for` and its parameters, or nothing. -/
def binderIf (g : Inner) : Reader Generics := do
  if !(← keywordIf "for") then return .none
  let (parameters, trailing) ← angled g.parameter
  return .over parameters trailing

def capturedParameter : Reader Captured := do
  if isLifetime (← rest) then return .lifetime (← lifetimeName)
  else return .name (← anyName)

/-- Items up to the closing mark; `fuel` bounds their number. -/
def capturesFrom : Nat → Reader (List Captured × Bool)
  | 0 => refuse (.broken .depth)
  | fuel + 1 => do
      let ts ← rest
      if isMark ">" ts then return ([], true)
      if !(isLifetime ts || isName ts || isWord "Self" ts) then
        refuseOptions ["lifetime", "identifier", tick ">"]
      let first ← capturedParameter
      let ts ← rest
      if isMark ">" ts then return ([first], false)
      if !isMark "," ts then refuseOptions [tick ",", tick ">"]
      mark ","
      let (more, trailing) ← capturesFrom fuel
      return (first :: more, trailing)

def captures : Reader Bound := do
  keyword "use"
  mark "<"
  let (parameters, trailing) ← capturesFrom ((← rest).length + 1)
  mark ">"
  return .captured parameters trailing

/-- A trait as a bound; `none` if it is one only where constants are computed. -/
def traitBound (g : Inner) (enclosed constant : Bool) : Reader (Option Bound) := do
  let before ← binderIf g
  let conditional := isGroup .bracket (← rest)
  let unconditional := isWord "const" (← rest)
  if conditional then
    let ((), read) ← captured (inside .bracket (keyword "const"))
    if !constant then refuseAt (extent read) (.broken .conditionalBound)
  if unconditional then
    let ((), read) ← captured (keyword "const")
    if !constant then refuseAt (extent read) (.broken .constBound)
  let place := (← get).place
  let maybe ← markIf "?"
  let binder ← if maybe && !before.isWritten then binderIf g else pure before
  let p ← traitPath g
  if maybe && binder.isWritten then refuseAt place (.broken .binderModifier)
  return if conditional || unconditional then none else some (.trait enclosed maybe binder p)

def bound (g : Inner) (capture constant : Bool) : Reader Bound := do
  let ts ← rest
  if isLifetime ts then lifetimeBound
  else if isWord "use" ts then
    let (found, read) ← captured captures
    if capture then return found else refuseAt (extent read) (.broken .preciseCapture)
  else
    let (found, read) ← captured
      (if isGroup .paren ts then inside .paren (traitBound g true constant)
        else traitBound g false constant)
    return found.getD (.verbatim (Source.bare read))

/-- Bounds behind a colon, as long as a plus follows. -/
def boundsIf (g : Inner) (stop : Source → Bool) : Reader (List Bound × Bool) := do
  if ← markIf ":" then chained stop "+" (bound g false true) else return ([], false)

/-- Bounds behind a colon, up to what stops them. -/
def boundsUntil (g : Inner) (stop : Source → Bool) : Reader (List Bound × Bool) := do
  if ← markIf ":" then listed stop "+" (bound g false true) else return ([], false)

/-- What may follow a first bound. -/
def moreBounds (g : Inner) : Reader (List Bound × Bool) := do
  if !(← markIf "+") then return ([], false)
  if !startsBound (← rest) then return ([], true)
  chained (fun ts => !startsBound ts) "+" (bound g false false)

def bounds (g : Inner) (plus capture constant : Bool) : Reader (List Bound × Bool) := do
  let stop := fun ts => !(startsBound ts || (constant && isGroup .bracket ts))
  if plus then chainedFrom stop "+" (bound g capture constant) ((← rest).length + 1)
  else return ([← bound g capture constant], false)

/-! Parameters and conditions. -/

def endsParameter (ts : Source) : Bool := ts.isEmpty || isMark "," ts || isMark ">" ts

def lifetimeParameter (as : Attributes) : Reader Parameter := do
  let n ← lifetimeName
  let (bs, trailing) ← if ← markIf ":" then chained endsParameter "+" lifetimeBound
    else pure ([], false)
  return .lifetime as n bs trailing

def typeParameter (g : Inner) (as : Attributes) : Reader Parameter := do
  let n ← name
  let (bs, trailing) ← boundsIf g fun ts => isMark "," ts || isMark ">" ts || isMark "=" ts
  let default ← if ← markIf "=" then some <$> g.type true else pure none
  return .type as n bs trailing default

def valueParameter (g : Inner) (as : Attributes) : Reader Parameter := do
  keyword "const"
  let n ← name
  mark ":"
  let t ← g.type true
  let default ← if ← markIf "=" then some <$> constant g else pure none
  return .value as n t default

/-- A parameter of a binder. -/
def parameter (g : Inner) : Reader Parameter := do
  let as ← attributes g
  let ts ← rest
  if isName ts then typeParameter g as
  else if isLifetime ts then lifetimeParameter as
  else if isWord "const" ts then valueParameter g as
  else refuseOptions ["identifier", "lifetime", tick "const"]

/-- A parameter of a declaration, which may go without a name. -/
def declaredParameter (g : Inner) : Reader Parameter := do
  let as ← attributes g
  let ts ← rest
  if isLifetime ts then lifetimeParameter as
  else if isName ts then typeParameter g as
  else if isWord "const" ts then valueParameter g as
  else if isWord "_" ts then return .type as (← anyName) [] false none
  else refuseOptions ["lifetime", "identifier", tick "const"]

def generics (g : Inner) : Reader Generics := do
  if isMark "<" (← rest) then
    let (parameters, trailing) ← angled (declaredParameter g)
    return .over parameters trailing
  else return .none

/-- An angle bracket here opens generic parameters and not a type seen as a trait. -/
def startsGenerics (ts : Source) : Bool :=
  isMark "<" ts &&
    (second (isMark ">") ts || second (isMark "#") ts || second (isWord "const") ts ||
      (second (fun r => isLifetime r || isName r) ts &&
        third (fun r => isMark ">" r || isMark "," r || (isMark ":" r && !isMark "::" r) ||
          isMark "=" r) ts))

def endsConditions (ts : Source) : Bool :=
  ts.isEmpty || isGroup .brace ts || isMark "," ts || isMark ";" ts ||
    (isMark ":" ts && !isMark "::" ts) || isMark "=" ts

def predicate (g : Inner) : Reader Predicate := do
  let ts ← rest
  if isLifetime ts && second (isMark ":") ts then
    let n ← lifetimeName
    mark ":"
    let (bs, trailing) ← chained (fun ts => endsConditions ts || isMark ":" ts) "+" lifetimeBound
    return .lifetime n bs trailing
  else
    let binder ← binderIf g
    let subject ← g.type true
    mark ":"
    let (bs, trailing) ← chained endsConditions "+" (bound g false true)
    return .type binder subject bs trailing

def conditions (g : Inner) : Reader Conditions := do
  if !(← keywordIf "where") then return .empty
  if startsGenerics (← rest) then refuse (.broken .genericConditions)
  let (predicates, trailing) ← chained endsConditions "," (predicate g)
  return ⟨predicates, trailing⟩

/-! Arguments. -/

/-- The one segment of a type that may name an associated item. -/
def soleSegment : Ty → Option Segment
  | .path (.plain ⟨false, [.call ..]⟩) => none
  | .path (.plain ⟨false, [s]⟩) => some s
  | _ => none

def argument (g : Inner) : Reader Argument := do
  let ts ← rest
  if isLifetime ts && !second (isMark "+") ts then return .lifetime (← lifetimeName)
  if isLiteral ts || isGroup .brace ts then return .value (← constant g)
  let t ← g.type true
  match soleSegment t with
  | none => return .type t
  | some s =>
      if ← markIf "=" then
        if isLiteral (← rest) || isGroup .brace (← rest) then
          return .equalValue s (← constant g)
        else return .equalType s (← g.type true)
      else if isMark ":" (← rest) then
        let (bs, trailing) ← boundsIf g fun ts => isMark "," ts || isMark ">" ts
        return .constraint s bs trailing
      else return .type t

end ZonedAccessors.Grammar
