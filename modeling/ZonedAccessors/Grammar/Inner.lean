import ZonedAccessors.Grammar.Reader
import ZonedAccessors.Syntax.Tokens

/-!
Readers for what is nested in something else.
-/

namespace ZonedAccessors.Grammar

open Token Syntax

/-- How tightly an operator binds. -/
abbrev Binding := Nat

/-- A type may be refused a sum of bounds, and an expression a struct, whose braces would otherwise
be those of a block. -/
structure Inner where
  type : Bool → Reader Ty
  argument : Reader Argument
  parameter : Reader Parameter
  expr : Bool → Reader Expr
  unary : Bool → Reader Expr
  climb : Bool → Binding → Expr → Reader Expr
  statement : Reader Expr
  pattern : Reader Pattern
  block : Reader (List Stmt)
  body : Reader (List Stmt)
  item : Reader Item

end ZonedAccessors.Grammar
