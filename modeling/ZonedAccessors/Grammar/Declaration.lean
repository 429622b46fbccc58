import ZonedAccessors.Grammar.Function

/-!
Declarations that hold no other items. One that has no tree of its own is kept as it was written;
its reader then answers nothing.
-/

namespace ZonedAccessors.Grammar

open Token Syntax

/-! Other modules and what is taken from them. -/

def crateItem (v : Visibility) : Reader Item := do
  keyword "extern"
  keyword "crate"
  let n ← anyNameOr ["self"]
  let rename ← if ← keywordIf "as" then some <$> anyNameOr ["_"] else pure none
  mark ";"
  return .crate v n rename

def startsImport (ts : Source) : Bool :=
  isName ts || ["self", "super", "crate", "try"].any (isWord · ts)

def importStarts : List String :=
  "identifier" :: ["self", "super", "crate", "try", "*"].map tick ++ ["curly braces"]

/-- A tree of imports. It may start from the root where `rooted` says so, and then is kept as it was
written; `fuel` bounds its depth. -/
def importTree : Nat → Bool → Reader (Option Import)
  | 0, _ => refuse (.broken .depth)
  | fuel + 1, rooted => do
      let ts ← rest
      if startsImport ts then
        let n ← anyName
        if ← markIf "::" then return (← importTree fuel false).map (.under n)
        else if ← keywordIf "as" then
          if isName (← rest) || isWord "_" (← rest) then return some (.renamed n (← anyName))
          else refuseOptions ["identifier or underscore"]
        else return some (.name n)
      else if isMark "*" ts then
        mark "*"
        return some .all
      else if isGroup .brace ts then
        let (items, trailing) ← inCommas .brace do
          let fromRoot ← if rooted then markIf "::" else pure false
          let found ← importTree fuel (rooted && !fromRoot)
          return if fromRoot then none else found
        return (items.mapM id).map (.group · trailing)
      else refuseOptions importStarts

def importItem (v : Visibility) : Reader (Option Item) := do
  keyword "use"
  let rooted ← markIf "::"
  let tree ← importTree (Token.Tree.sizeAll (← rest) + 1) !rooted
  mark ";"
  return tree.map (.imports v rooted)

/-! Values. -/

def staticItem (g : Inner) (v : Visibility) : Reader (Option Item) := do
  keyword "static"
  let mutable ← keywordIf "mut"
  let n ← name
  if ← markIf "=" then
    let _ ← g.expr true
    mark ";"
    return none
  mark ":"
  let t ← g.type true
  if ← markIf ";" then return none
  mark "="
  let value ← g.expr true
  mark ";"
  return some (.static v mutable n t (some value))

def constantName : Reader String := do
  let ts ← rest
  if isName ts || isWord "_" ts then anyName else refuseOptions ["identifier", tick "_"]

def valueAfterEqual (g : Inner) : Reader (Option Expr) := do
  if ← markIf "=" then some <$> g.expr true else return none

/-- A constant from its name on; one with parameters or conditions has no tree of its own. -/
def constantRest (g : Inner) (v : Visibility) (preset : Bool) (n : String) :
    Reader (Option Item) := do
  let params ← generics g
  mark ":"
  let t ← g.type true
  let value ← valueAfterEqual g
  let conditional := isWord "where" (← rest)
  let _ ← conditions g
  mark ";"
  return if params.isWritten || conditional then none else some (.constant v preset n t value)

def Item.hasValue : Item → Bool
  | .constant _ _ _ _ value => value.isSome
  | _ => false

/-- A constant that must have a value. -/
def constantItem (g : Inner) (v : Visibility) (preset : Bool) : Reader (Option Item) := do
  keyword "const"
  return (← constantRest g v preset (← constantName)).filter Item.hasValue

/-! Types. -/

/-- Where the conditions of a type stand. -/
inductive ConditionsPlace where
  | beforeEqual
  | afterEqual
  | anywhere
  deriving DecidableEq, Repr

/-- A declared type with everything that may be written of it. -/
structure TypeParts where
  visibility : Visibility
  preset : Bool
  name : String
  generics : Generics
  bounds : Option (List Bound × Bool)
  equal : Option Ty
  conditions : Conditions

def typeParts (g : Inner) (v : Visibility) (preset : Bool) (place : ConditionsPlace) :
    Reader TypeParts := do
  keyword "type"
  let n ← name
  let params ← generics g
  let stop := fun ts => isWord "where" ts || isMark "=" ts || isMark ";" ts
  let bs ← if isMark ":" (← rest) then some <$> boundsUntil g stop else pure none
  let conditional := place ≠ .afterEqual && isWord "where" (← rest)
  let before ← if conditional then conditions g else pure .empty
  let equal ← if ← markIf "=" then some <$> g.type true else pure none
  let after ← if conditional || place = .beforeEqual then pure before else conditions g
  mark ";"
  return ⟨v, preset, n, params, bs, equal, after⟩

def TypeParts.toItem (p : TypeParts) (before : Bool) : Item :=
  let (bs, trailing) := p.bounds.getD ([], false)
  .type p.visibility p.preset p.name p.generics bs trailing before p.equal p.conditions

/-- A name for a type, without bounds. -/
def TypeParts.equated (p : TypeParts) (before : Bool) : Option Item :=
  if p.bounds.isNone && p.equal.isSome then some (p.toItem before) else none

/-- A name for a type that is given elsewhere. -/
def TypeParts.given (p : TypeParts) : Option Item :=
  if p.bounds.isNone && p.equal.isNone then some (p.toItem true) else none

/-! Enums and unions. -/

/-- The visibility of a variant is not kept. -/
def variant (g : Inner) : Reader Item := do
  let as ← attributes g
  let _ ← visibility
  let n ← name
  let ts ← rest
  let (style, (fields, trailing)) ←
    if isGroup .brace ts then pure (FieldStyle.named, ← inCommas .brace (namedField g))
    else if isGroup .paren ts then pure (FieldStyle.positional, ← inCommas .paren (positionalField g))
    else pure (FieldStyle.absent, ([], false))
  return (Item.variant n style (fields.map Field.toItem) trailing (← valueAfterEqual g)).within as

def enumItem (g : Inner) (v : Visibility) : Reader Item := do
  keyword "enum"
  let n ← name
  let params ← generics g
  let c ← conditions g
  let (variants, trailing) ← inCommas .brace (variant g)
  return .enum v n params c variants trailing

def unionItem (g : Inner) (v : Visibility) : Reader Item := do
  keyword "union"
  let n ← name
  let params ← generics g
  let c ← conditions g
  let (fields, trailing) ← inCommas .brace (namedField g)
  return .union v n params c (fields.map Field.toItem) trailing

/-! Macros. -/

/-- A macro that is declared by the word `macro`. -/
def macroItem : Reader Unit := do
  keyword "macro"
  let _ ← name
  let inputs ← groupIf .paren
  if !(← groupIf .brace) then
    refuseOptions ((if inputs then [] else ["parentheses"]) ++ ["curly braces"])

/-- Whether the path of a macro call may begin here. -/
def startsInvocation (ts : Source) : Bool :=
  isName ts || ["self", "super", "crate"].any (isWord · ts) || isMark "::" ts

def invocationStarts : List String := "identifier" :: ["self", "super", "crate", "::"].map tick

/-- A semicolon follows a macro call that is not in braces. -/
def closeInvocation (call : Invocation) (n : Option String) : Reader Item := do
  if !call.isBraced then mark ";"
  return .invocation call n

/-- A macro call; where `named` says so it may define a name. -/
def invocationItem (named : Bool) : Reader Item := do
  let path ← modPath
  mark "!"
  let n ← if named && (isName (← rest) || isWord "try" (← rest)) then some <$> anyName else pure none
  closeInvocation ⟨path, ← anyGroup⟩ n

end ZonedAccessors.Grammar
