import ZonedAccessors.Grammar.Bound
import ZonedAccessors.Syntax.Struct

/-!
Visibilities, fields and structs.
-/

namespace ZonedAccessors.Grammar

open Token Syntax

/-- What stands in parentheses right after `pub`. -/
def restriction : Source → Option Source
  | .group .paren body _ :: _ => some body
  | _ => none

/-- A parenthesis behind `pub` belongs to it only if it names a module. -/
def visibility : Reader Visibility := do
  if !(← keywordIf "pub") then return .inherited
  match restriction (← rest) with
  | some [.ident t _] =>
      if ["crate", "self", "super"].contains t then
        advance (skipped (← rest))
        return .restricted false (ModPath.ofName t)
      else if t == "in" then inModule
      else return .everywhere
  | some (.ident "in" _ :: _) => inModule
  | _ => return .everywhere
where
  inModule : Reader Visibility :=
    inside .paren do
      keyword "in"
      return .restricted true (← modPath)

/-- A field without a name may have fields in place of a type. -/
def startsInline (ts : Source) : Bool :=
  isWord "struct" ts || (isWord "union" ts && second (isGroup .brace) ts)

/-- `fuel` bounds the depth of fields in place of types. -/
def namedFieldWithin (g : Inner) : Nat → Reader Field
  | 0 => refuse (.broken .depth)
  | fuel + 1 => do
      let as ← attributes g
      let v ← visibility
      let unnamed := isWord "_" (← rest)
      let n ← if unnamed then anyName else name
      mark ":"
      if unnamed && startsInline (← rest) then
        let ((), read) ← captured do
          let _ ← anyName
          let _ ← inCommas .brace (namedFieldWithin g fuel)
        return ⟨as, v, some n, .verbatim (Source.bare read), (extent read).getD default⟩
      else
        let (t, read) ← captured (g.type true)
        return ⟨as, v, some n, t, (extent read).getD default⟩

def namedField (g : Inner) : Reader Field := do
  namedFieldWithin g (Token.Tree.sizeAll (← rest) + 1)

def positionalField (g : Inner) : Reader Field := do
  let as ← attributes g
  let v ← visibility
  let (t, read) ← captured (g.type true)
  return ⟨as, v, none, t, (extent read).getD default⟩

/-- The conditions of a struct stand before named fields and behind others. -/
def structBody (g : Inner) : Reader (Conditions × Shape) := do
  let ts ← rest
  if isGroup .paren ts then
    let (fields, trailing) ← inCommas .paren (positionalField g)
    let conditional := isWord "where" (← rest)
    let c ← conditions g
    if ← markIf ";" then return (c, .positional fields trailing)
    else refuseOptions ((if conditional then [] else [tick "where"]) ++ [tick ";"])
  else
    let conditional := isWord "where" ts
    let c ← conditions g
    if isGroup .brace (← rest) then
      let (fields, trailing) ← inCommas .brace (namedField g)
      return (c, .named fields trailing)
    else if ← markIf ";" then return (c, .unit)
    else
      let before := if conditional then [] else [tick "where", "parentheses"]
      refuseOptions (before ++ ["curly braces", tick ";"])

def structRest (g : Inner) (as : Attributes) (v : Visibility) : Reader Struct := do
  keyword "struct"
  let place := ((← get).place).getD default
  let n ← name
  let params ← generics g
  let (c, shape) ← structBody g
  return ⟨as, v, n, place, params, c, shape⟩

end ZonedAccessors.Grammar
