import ZonedAccessors.Grammar.Declaration

/-!
Traits and what they hold.
-/

namespace ZonedAccessors.Grammar

open Token Syntax

/-- Attributes of what encloses them, then items up to the end. -/
def items (g : Inner) (item : Reader Item) : Reader (Attributes × List Item) := do
  let inner ← innerAttributes g
  return (inner, ← many (fun ts => !ts.isEmpty) item)

/-- An item with the attributes before it, or as it was written if it has no tree. -/
def withAttributes (g : Inner) (itemRest : Reader (Option Item)) : Reader Item := do
  let ((as, found), read) ← captured do
    let as ← attributes g
    return (as, ← itemRest)
  return match found with
    | some i => i.within as
    | none => .verbatim (Source.bare read)

def traitFunction (g : Inner) : Reader Item := do
  let (_, s) ← signature g false
  if isGroup .brace (← rest) then return s.toItem .inherited false (some (← functionBody g))
  else if ← markIf ";" then return s.toItem .inherited false none
  else refuseOptions ["curly braces", tick ";"]

def startsFunctionHead (ts : Source) : Bool := ["async", "unsafe", "extern", "fn"].any (isWord · ts)

/-- A constant, or a function that is computed with constants. -/
def traitConstant (g : Inner) : Reader (Option Item) := do
  let after := skipped (← rest)
  if isName after || isWord "_" after then
    keyword "const"
    constantRest g .inherited false (← anyName)
  else if startsFunctionHead after then return some (← traitFunction g)
  else
    keyword "const"
    refuseOptions ("identifier" :: ["_", "async", "unsafe", "extern", "fn"].map tick)

/-- An item of a trait behind its attributes; one with a visibility or a `default` has no tree. -/
def traitItemRest (g : Inner) : Reader (Option Item) := do
  let v ← visibility
  let preset ← keywordIf "default"
  let bare := v.isInherited && !preset
  let ts ← rest
  let found ←
    if startsSignature false ts then some <$> traitFunction g
    else if isWord "const" ts then traitConstant g
    else if isWord "type" ts then
      pure (some ((← typeParts g .inherited false .afterEqual).toItem false))
    else if bare && startsInvocation ts then some <$> invocationItem false
    else refuseOptions (["fn", "const", "type"].map tick ++ if bare then invocationStarts else [])
  return if bare then found else none

def traitItem (g : Inner) : Reader Item := withAttributes g (traitItemRest g)

/-- A trait from behind its parameters. -/
def traitRest (g : Inner) (v : Visibility) (texts : List String) (n : String) (params : Generics) :
    Reader Item := do
  let (bs, trailing) ← boundsUntil g fun ts => isWord "where" ts || isGroup .brace ts
  let c ← conditions g
  let (inner, members) ← inside .brace (items g (traitItem g))
  return .trait v texts n params bs trailing c inner members

/-- A name for several bounds, from behind its parameters. -/
def traitAliasRest (g : Inner) (v : Visibility) (n : String) (params : Generics) : Reader Item := do
  mark "="
  let (bs, trailing) ← listed (fun ts => isWord "where" ts || isMark ";" ts) "+" (bound g false false)
  let c ← conditions g
  mark ";"
  return .traitAlias v n params bs trailing c

def traitOrAlias (g : Inner) (v : Visibility) : Reader Item := do
  keyword "trait"
  let n ← name
  let params ← generics g
  let ts ← rest
  if isGroup .brace ts || isMark ":" ts || isWord "where" ts then traitRest g v [] n params
  else if isMark "=" ts then traitAliasRest g v n params
  else refuseOptions ["curly braces", tick ":", tick "where", tick "="]

/-- A trait behind a word of its own. -/
def markedTrait (g : Inner) (v : Visibility) : Reader Item := do
  let texts ← wordsIf ["unsafe", "auto"]
  keyword "trait"
  let n ← name
  traitRest g v texts n (← generics g)

end ZonedAccessors.Grammar
