import ZonedAccessors.Grammar.Pattern
import ZonedAccessors.Syntax.Shape

/-!
Operators between expressions, and how tightly they bind.
-/

namespace ZonedAccessors.Grammar

open Token Syntax

namespace Binding

def lowest : Binding := 0
def assign : Binding := 1
def range : Binding := 2
def disjunction : Binding := 3
def conjunction : Binding := 4
def comparison : Binding := 6
def bitOr : Binding := 7
def bitXor : Binding := 8
def bitAnd : Binding := 9
def shift : Binding := 10
def sum : Binding := 11
def product : Binding := 12
def cast : Binding := 13

end Binding

/-- Longer operators stand before those they start with. -/
def operators : List (String × Binding) :=
  [("+=", .assign), ("-=", .assign), ("*=", .assign), ("/=", .assign), ("%=", .assign),
    ("^=", .assign), ("&=", .assign), ("|=", .assign), ("<<=", .assign), (">>=", .assign),
    ("&&", .conjunction), ("||", .disjunction), ("<<", .shift), (">>", .shift),
    ("==", .comparison), ("<=", .comparison), ("!=", .comparison), (">=", .comparison),
    ("+", .sum), ("-", .sum), ("*", .product), ("/", .product), ("%", .product),
    ("^", .bitXor), ("&", .bitAnd), ("|", .bitOr), ("<", .comparison), (">", .comparison)]

def operatorAt (ts : Source) : Option (String × Binding) :=
  operators.find? fun o => isMark o.1 ts

def isAssign (ts : Source) : Bool := isMark "=" ts && !isMark "=>" ts

def bindingAt (ts : Source) : Binding :=
  match operatorAt ts with
  | some (_, b) => b
  | none =>
      if isAssign ts then .assign
      else if isMark ".." ts then .range
      else if isWord "as" ts then .cast
      else .lowest

/-- The right side of an operator; operators behind it that bind more tightly belong to it. -/
def tighten (g : Inner) (structs : Bool) (b : Binding) : Nat → Expr → Reader Expr
  | 0, _ => refuse (.broken .depth)
  | fuel + 1, right => do
      let before ← rest
      let next := bindingAt before
      if b < next || (b = next && b = .assign) then
        let more ← g.climb structs next right
        if (← rest).length = before.length then return more else tighten g structs b fuel more
      else return right

def operand (g : Inner) (structs : Bool) (b : Binding) : Reader Expr := do
  let right ← g.unary structs
  tighten g structs b ((← rest).length + 1) right

/-- Marks behind two points that leave the range open. -/
def endsRange (structs : Bool) (ts : Source) : Bool :=
  ts.isEmpty || isMark "," ts || isMark ";" ts || (isMark "." ts && !isMark ".." ts) ||
    isMark "?" ts || isMark "=>" ts || (!structs && isGroup .brace ts) ||
    ["=", "+", "/", "%", "^", ">", "<=", "!=", "-=", "*=", "&=", "|=", "<<="].any (isMark · ts) ||
    isWord "as" ts

def rangeEnd (g : Inner) (structs closed : Bool) : Reader (Option Expr) := do
  if !closed && endsRange structs (← rest) then return none
  else return some (← operand g structs .range)

/-- Nothing may reach into the result of a cast. -/
def checkCast : Reader Unit := do
  let ts ← rest
  if isMark "." ts && !isMark ".." ts then
    if second (isWord "await") ts then refuseForm "`.await`"
    else if second isName ts && third (fun r => isGroup .paren r || isMark "::" r) ts then
      refuseForm "a method call"
    else refuseForm "a field access"
  else if isMark "?" ts then refuseForm "`?`"
  else if isGroup .bracket ts then refuseForm "indexing"
  else if isGroup .paren ts then refuseForm "a function call"
where
  refuseForm (form : String) : Reader Unit := refuse (.broken (.castFollowed form))

/-- Operators behind `left` that bind at least as tightly as `base`; none follows a range. -/
def climbWithin (g : Inner) (structs : Bool) (base : Binding) : Nat → Expr → Reader Expr
  | 0, _ => refuse (.broken .depth)
  | fuel + 1, left => do
      if left.isRange then return left
      let ts ← rest
      match operatorAt ts with
      | some (text, b) =>
          if b < base then return left
          if b = .comparison && left.isComparison then refuse (.broken .chainedComparison)
          mark text
          climbWithin g structs base fuel (.binary text left (← operand g structs b))
      | none =>
          if base ≤ .assign && isAssign ts then
            mark "="
            climbWithin g structs base fuel (.assign left (← operand g structs .assign))
          else if base ≤ .range && isMark ".." ts then
            let closed ← points
            climbWithin g structs base fuel (.range (some left) closed (← rangeEnd g structs closed))
          else if base ≤ .cast && isWord "as" ts then
            keyword "as"
            let target ← g.type false
            checkCast
            climbWithin g structs base fuel (.cast left target)
          else return left

def climb (g : Inner) (structs : Bool) (base : Binding) (left : Expr) : Reader Expr := do
  climbWithin g structs base ((← rest).length + 1) left

end ZonedAccessors.Grammar
