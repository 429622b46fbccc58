import ZonedAccessors.Grammar.Item

/-!
The grammar closed over itself. A reader at one level hands what is nested to the level below; at
most a few levels pass before a token is read, so the size of a text bounds the levels it needs.
-/

namespace ZonedAccessors.Grammar

open Token

def bottom : Inner where
  type _ := refuse (.broken .depth)
  argument := refuse (.broken .depth)
  parameter := refuse (.broken .depth)
  expr _ := refuse (.broken .depth)
  unary _ := refuse (.broken .depth)
  climb _ _ _ := refuse (.broken .depth)
  statement := refuse (.broken .depth)
  pattern := refuse (.broken .depth)
  block := refuse (.broken .depth)
  body := refuse (.broken .depth)
  item := refuse (.broken .depth)

def above (g : Inner) : Inner where
  type := type g
  argument := argument g
  parameter := parameter g
  expr := expr g
  unary := unary g
  climb := climb g
  statement := statement g
  pattern := pattern g
  block := block g
  body := body g
  item := item g

def level : Nat → Inner
  | 0 => bottom
  | n + 1 => above (level n)

/-- All of `ts` as one `p`. -/
def read {α : Type} (p : Inner → Reader α) (ts : Source) : Except Fault α :=
  readAll (p (level (4 * Token.Tree.sizeAll ts + 8))) ts

end ZonedAccessors.Grammar
