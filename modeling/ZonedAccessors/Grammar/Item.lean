import ZonedAccessors.Grammar.Impl

/-!
Items.
-/

namespace ZonedAccessors.Grammar

open Token Syntax

/-- A module, here or in a file of its own. -/
def modItem (g : Inner) (v : Visibility) : Reader Item := do
  let guarded ← keywordIf "unsafe"
  keyword "mod"
  let n ← anyNameOr ["try"]
  if ← markIf ";" then return .submodule v guarded n
  else if isGroup .brace (← rest) then
    let (inner, members) ← inside .brace (items g g.item)
    return .enclosed v guarded n inner members
  else refuseOptions [tick ";", "curly braces"]

/-- A function; without a body it has no tree. -/
def functionItem (g : Inner) (v : Visibility) : Reader (Option Item) := implFunction g v false

/-- Another crate, or declarations of another language; those have no visibility. -/
def externItem (g : Inner) (start : Cursor) (v : Visibility) : Reader (Option Item) := do
  let after := skipped (← rest)
  if isWord "crate" after then some <$> crateItem v
  else if isGroup .brace after || (isTextLiteral after && second (isGroup .brace) after) then
    set start
    some <$> foreignBlock g
  else
    keyword "extern"
    if isTextLiteral after then
      advance (skipped after)
      refuseOptions ["curly braces"]
    else refuseOptions [tick "crate", "curly braces", "string literal"]

/-- An item behind the word `unsafe`. -/
def unsafeItem (g : Inner) (start : Cursor) (v : Visibility) : Reader (Option Item) := do
  let after := skipped (← rest)
  if isWord "trait" after || (isWord "auto" after && second (isWord "trait") after) then
    some <$> markedTrait g v
  else if isWord "impl" after then implBlock g v
  else if isWord "extern" after then
    set start
    some <$> foreignBlock g
  else if isWord "mod" after then some <$> modItem g v
  else
    keyword "unsafe"
    refuseOptions ((["trait", "auto", "impl", "extern", "mod"].filter (!isWord · after)).map tick)

def itemWords : List String :=
  ["fn", "extern", "use", "static", "const", "unsafe", "mod", "type", "struct", "enum", "union",
    "trait", "auto", "impl", "default", "macro"]

/-- An item behind its attributes, unless it has no tree. -/
def itemRest (g : Inner) : Reader (Option Item) := do
  let start ← get
  let v ← visibility
  let ts ← rest
  if startsSignature false ts then functionItem g v
  else if isWord "extern" ts then externItem g start v
  else if isWord "use" ts then importItem v
  else if isWord "static" ts then staticItem g v
  else if isWord "const" ts then constantItem g v false
  else if isWord "unsafe" ts then unsafeItem g start v
  else if isWord "mod" ts then some <$> modItem g v
  else if isWord "type" ts then return (← typeParts g v false .beforeEqual).equated true
  else if isWord "struct" ts then return some (← structRest g [] v).toItem
  else if isWord "enum" ts then some <$> enumItem g v
  else if isWord "union" ts && second isName ts then some <$> unionItem g v
  else if isWord "trait" ts then some <$> traitOrAlias g v
  else if isWord "auto" ts && second (isWord "trait") ts then some <$> markedTrait g v
  else if isWord "impl" ts || isDefault ts then implBlock g v
  else if isWord "macro" ts then
    macroItem
    return none
  else if v.isInherited && startsInvocation ts then some <$> invocationItem true
  else
    refuseOptions ((itemWords.filter (!isWord · ts)).map tick ++
      if v.isInherited then invocationStarts else [])

def item (g : Inner) : Reader Item := withAttributes g (itemRest g)

/-- A struct with its places, or where another item stands. -/
inductive Declared where
  | struct (s : Struct)
  | other (place : Span)

def declared (g : Inner) : Reader Declared := do
  let (found, read) ← captured do
    let as ← attributes g
    let start ← get
    let v ← visibility
    if isWord "struct" (← rest) then some <$> structRest g as v
    else
      set start
      let _ ← itemRest g
      return none
  return match found with
    | some s => .struct s
    | none => .other ((extent read).getD default)

/-- A whole file. -/
def file (g : Inner) : Reader (Attributes × List Item) := items g g.item

end ZonedAccessors.Grammar
