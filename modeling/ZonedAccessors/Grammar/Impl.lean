import ZonedAccessors.Grammar.Trait

/-!
Implementations and declarations of another language.
-/

namespace ZonedAccessors.Grammar

open Token Syntax

/-! What an implementation holds. -/

/-- A function; without a body it has no tree. -/
def implFunction (g : Inner) (v : Visibility) (preset : Bool) : Reader (Option Item) := do
  let (_, s) ← signature g false
  if ← markIf ";" then return none
  return some (s.toItem v preset (some (← functionBody g)))

def isDefault (ts : Source) : Bool := isWord "default" ts && !second (isMark "!") ts

def implItemRest (g : Inner) : Reader (Option Item) := do
  let v ← visibility
  let preset := isDefault (← rest)
  let unmarked := !isWord "default" (← rest)
  if preset then keyword "default"
  let ts ← rest
  let bare := v.isInherited && !preset
  if startsSignature false ts then implFunction g v preset
  else if isWord "const" ts then constantItem g v preset
  else if isWord "type" ts then return (← typeParts g v preset .afterEqual).equated false
  else if bare && startsInvocation ts then some <$> invocationItem false
  else
    refuseOptions ((if unmarked && !preset then [tick "default"] else []) ++
      ["fn", "const", "type"].map tick ++ if bare then invocationStarts else [])

def implItem (g : Inner) : Reader Item := withAttributes g (implItemRest g)

/-! Implementations. -/

/-- The trait and the type of an implementation; `place` is where a `!` stands. -/
inductive Subject where
  | own (self : Ty)
  | trait (view : Path) (self : Ty)
  | other

def subject (g : Inner) (negative : Option Span) : Reader Subject := do
  let first ← g.type true
  if ← keywordIf "for" then
    let self ← g.type true
    return match first with
      | .path (.plain view) => .trait view self
      | _ => .other
  else match negative with
    | some place => refuseAt (some place) (.broken .negativeImpl)
    | none => return .own first

/-- An implementation; one that has a visibility or holds where constants are computed has no
tree. -/
def implBlock (g : Inner) (v : Visibility) : Reader (Option Item) := do
  let texts ← wordsIf ["default", "unsafe"]
  keyword "impl"
  let params ← if startsGenerics (← rest) then generics g else pure .none
  let ts ← rest
  let constant := isWord "const" ts || (isMark "?" ts && second (isWord "const") ts)
  if constant then
    let _ ← markIf "?"
    keyword "const"
  let place := (← get).place
  let negative := isMark "!" (← rest) && !second (isGroup .brace) (← rest)
  if negative then mark "!"
  let found ← subject g (if negative then place else none)
  let c ← conditions g
  let (inner, members) ← inside .brace (items g (implItem g))
  if constant || !v.isInherited then return none
  return match found with
    | .own self => some (.impl texts params self c inner members)
    | .trait view self => some (.implTrait texts params negative view self c inner members)
    | .other => none

/-! Another language. -/

/-- A function; marked as safe or with a body it has no tree. -/
def foreignFunction (g : Inner) (v : Visibility) : Reader (Option Item) := do
  let (safe, s) ← signature g true
  if isGroup .brace (← rest) then
    let _ ← functionBody g
    return none
  mark ";"
  return if safe then none else some (s.toItem v false none)

def startsForeignStatic (ts : Source) : Bool :=
  isWord "static" ts ||
    ((isWord "unsafe" ts || isWord "safe" ts) && second (isWord "static") ts)

/-- A static; marked or with a value it has no tree. -/
def foreignStatic (g : Inner) (v : Visibility) : Reader (Option Item) := do
  let marked ← if ← keywordIf "unsafe" then pure true else keywordIf "safe"
  keyword "static"
  let mutable ← keywordIf "mut"
  let n ← name
  mark ":"
  let t ← g.type true
  let value ← valueAfterEqual g
  mark ";"
  return if marked || value.isSome then none else some (.static v mutable n t none)

def foreignItemRest (g : Inner) : Reader (Option Item) := do
  let v ← visibility
  let ts ← rest
  if startsSignature true ts then foreignFunction g v
  else if startsForeignStatic ts then foreignStatic g v
  else if isWord "type" ts then return (← typeParts g v false .anywhere).given
  else if v.isInherited && startsInvocation ts then some <$> invocationItem false
  else
    refuseOptions (["fn", "static", "type"].map tick ++
      if v.isInherited then invocationStarts else [])

def foreignItem (g : Inner) : Reader Item := withAttributes g (foreignItemRest g)

def foreignBlock (g : Inner) : Reader Item := do
  let guarded ← keywordIf "unsafe"
  match ← conventionIf with
  | none => refuseOptions [tick "extern"]
  | some convention =>
      let (inner, members) ← inside .brace (items g (foreignItem g))
      return .foreign guarded convention inner members

end ZonedAccessors.Grammar
