import ZonedAccessors.Syntax.Tokens

/-!
What an expression looks like from the outside: how it ends, and where it may stand without a
comma or a semicolon behind it.
-/

namespace ZonedAccessors.Syntax

open Token

namespace Expr

/-- Without its attributes. -/
def bare : Expr → Expr
  | .attributed _ e => e
  | e => e

def isRange (e : Expr) : Bool :=
  match e.bare with
  | .range .. => true
  | _ => false

def isComparison (e : Expr) : Bool :=
  match e.bare with
  | .binary text _ _ => ["==", "<=", "!=", ">=", "<", ">"].contains text
  | _ => false

/-- Whether it is a statement, or the body of an arm, without a mark behind it. -/
def isBlock (e : Expr) : Bool :=
  match e.bare with
  | .conditional .. | .select .. | .forever .. | .whilst .. | .each .. => true
  | .block words _ _ _ => words.head? != some "async"
  | _ => false

/-- Whether a semicolon must follow, unless nothing does. -/
def needsSemicolon (e : Expr) : Bool :=
  match e.bare with
  | .invocation c => !c.isBraced
  | _ => !e.isBlock

def endsInBrace (e : Expr) : Bool :=
  match e.tokens.getLast? with
  | some (.group .brace _ _) => true
  | _ => false

end Expr

end ZonedAccessors.Syntax
