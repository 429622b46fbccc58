import ZonedAccessors.Grammar.Attribute
import ZonedAccessors.Token.Number

/-!
Members of a value: a name, or the position of a component.
-/

namespace ZonedAccessors.Grammar

open Token Syntax

/-- A position is an integer without a suffix; it is written with decimal digits alone. -/
def position (written : String) : Except Rule String :=
  match integerOf written.toList with
  | none => .error .integer
  | some (n, suffix) =>
      if !suffix.isEmpty then .error .integerSuffix
      else if n < 4294967296 then .ok n.repr
      else .error .integerSize

def positionAt (place : Span) (written : String) : Reader String :=
  match position written with
  | .ok text => return text
  | .error rule => refuseAt (some place) (.broken rule)

/-- No position is negative. -/
def negativePosition {α : Type} (place : Span) (written : String) : Reader α :=
  match position written with
  | .ok _ => refuseAt (some place) (.broken .integerDigits)
  | .error .integerSize => refuseAt (some place) (.broken .integerDigits)
  | .error rule => refuseAt (some place) (.broken rule)

def isInteger (written : String) : Bool := (integerOf written.toList).isSome

def member : Reader String := do
  match ← rest with
  | .ident t _ :: ts =>
      if isKeyword t then refuseOptions ["identifier or integer"]
      else
        advance ts
        return t
  | .literal t p :: ts =>
      if isInteger t then
        advance ts
        positionAt p t
      else refuseOptions ["identifier or integer"]
  | .punct '-' _ p :: .literal t q :: _ =>
      if isInteger t then negativePosition (p.join q) t else refuseOptions ["identifier or integer"]
  | _ => refuseOptions ["identifier or integer"]

def isNamed (member : String) : Bool := !member.toList.all Char.isDigit

/-- The parts of a text between points. -/
def splitAtPoints : List Char → List (List Char)
  | [] => [[]]
  | c :: cs =>
      match splitAtPoints cs with
      | [] => [[c]]
      | part :: parts => if c == '.' then [] :: part :: parts else (c :: part) :: parts

/-- Positions written as one number, such as `0.1`; whether a point follows the last of them. -/
def positionsAt (place : Span) (written : String) : Reader (List String × Bool) := do
  let parts := splitAtPoints written.toList
  let pointed := parts.getLast?.any List.isEmpty
  let found ← (if pointed then parts.dropLast else parts).mapM fun part =>
    positionAt place (String.ofList part)
  return (found, pointed)

/-- Several members in one number, if one stands here. -/
def positionsIf : Reader (Option (List String × Bool)) := do
  match ← rest with
  | .literal t p :: ts =>
      if literal t = .number && !isInteger t then
        advance ts
        return some (← positionsAt p t)
      else return none
  | .punct '-' _ p :: .literal t q :: _ =>
      if literal t = .number && !isInteger t then
        let first := (splitAtPoints t.toList).headD []
        negativePosition (p.join q) (String.ofList first)
      else return none
  | _ => return none

end ZonedAccessors.Grammar
