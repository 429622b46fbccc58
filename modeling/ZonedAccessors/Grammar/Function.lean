import ZonedAccessors.Grammar.Stmt
import ZonedAccessors.Grammar.Struct

/-!
Functions: what stands before their names, their inputs and their bodies.
-/

namespace ZonedAccessors.Grammar

open Token Syntax

/-! Whether a function stands here. -/

def withoutWord (text : String) (ts : Source) : Source :=
  if isWord text ts then skipped ts else ts

def isTextLiteral : Source → Bool
  | .literal t _ :: _ => isText t
  | _ => false

def withoutConvention (ts : Source) : Source :=
  if isWord "extern" ts then
    let after := skipped ts
    if isTextLiteral after then skipped after else after
  else ts

/-- A function of another language may be marked as safe. -/
def withoutSafety (safe : Bool) (ts : Source) : Source :=
  if safe && isWord "safe" ts then skipped ts else withoutWord "unsafe" ts

def startsSignature (safe : Bool) (ts : Source) : Bool :=
  isWord "fn" (withoutConvention (withoutSafety safe (withoutWord "async" (withoutWord "const" ts))))

/-! Inputs. -/

/-- The type of a receiver stands only behind `self` itself. -/
def receiver (g : Inner) : Reader Pattern := do
  if ← markIf "&" then
    let l ← lifetimeIf
    let mutable ← keywordIf "mut"
    keyword "self"
    return .receiver (.borrowed l mutable) none
  else
    let mutable ← keywordIf "mut"
    keyword "self"
    if ← markIf ":" then return .receiver (.owned mutable) (some (← g.type true))
    else return .receiver (.owned mutable) none

/-- One input; without a name it is a type with arguments. -/
def typedInput (g : Inner) : Reader Pattern := do
  if isName (← rest) && second (isMark "<") (← rest) then return .typed .wild (← g.type true)
  else
    let p ← g.pattern
    mark ":"
    if ← markIf "..." then return .typed p .more else return .typed p (← g.type true)

def isMore : Pattern → Bool
  | .more => true
  | .typed _ .more => true
  | _ => false

/-- The `self` of a receiver that was just read. -/
def selfPlace (read : Source) : Option Span :=
  let ts := (afterMark ['&'] read).getD read
  let ts := if isLifetime ts then skipped ts else ts
  (withoutWord "mut" ts).head?.map Token.Tree.place

/-- Nothing but a comma follows any number of further inputs. -/
def afterMore (as : Attributes) (p : Pattern) : Reader (List Pattern × Bool) := do
  if (← rest).isEmpty then return ([p.within as], false)
  mark ","
  return ([p.within as], true)

/-- Inputs from the first or a later one; a receiver stands first. `received` says that one has been
read, and `fuel` bounds the number of inputs. -/
def functionInputsFrom (g : Inner) (isFirst received : Bool) : Nat → Reader (List Pattern × Bool)
  | 0 => refuse (.broken .depth)
  | fuel + 1 => do
      if (← rest).isEmpty then return ([], true)
      let as ← attributes g
      if ← markIf "..." then return ← afterMore as .more
      let before ← rest
      let found ← attempt (receiver g)
      if found.isSome && received then
        refuseAt (selfPlace (← between before)) (.broken .secondReceiver)
      if found.isSome && !isFirst then
        refuseAt (selfPlace (← between before)) (.broken .lateReceiver)
      let p ← match found with
        | some p => pure p
        | none => typedInput g
      if isMore p then return ← afterMore as p
      if (← rest).isEmpty then return ([p.within as], false)
      mark ","
      let (more, trailing) ← functionInputsFrom g false (received || found.isSome) fuel
      return (p.within as :: more, trailing)

def functionInputs (g : Inner) : Reader (List Pattern × Bool) :=
  inside .paren do functionInputsFrom g true false ((← rest).length + 1)

/-! Signatures and bodies. -/

structure Signature where
  head : Qualifiers
  name : String
  generics : Generics
  inputs : List Pattern
  trailing : Bool
  output : Option Ty
  conditions : Conditions

/-- Whether a function is marked as safe, and what else stands before its body. -/
def signature (g : Inner) (safe : Bool) : Reader (Bool × Signature) := do
  let first ← wordsIf ["const", "async", "unsafe"]
  let marked ← if safe && !first.contains "unsafe" then keywordIf "safe" else pure false
  let convention ← conventionIf
  keyword "fn"
  let n ← name
  let params ← generics g
  let (inputs, trailing) ← functionInputs g
  let out ← output g true
  return (marked, ⟨⟨first, convention⟩, n, params, inputs, trailing, out, ← conditions g⟩)

/-- A body behind a signature. -/
def functionBody (g : Inner) : Reader Expr := do
  let (inner, stmts) ← braced g
  return .block [] none inner stmts

def Signature.toItem (s : Signature) (v : Visibility) (preset : Bool) (body : Option Expr) : Item :=
  .function v preset s.head s.name s.generics s.inputs s.trailing s.output s.conditions body

end ZonedAccessors.Grammar
