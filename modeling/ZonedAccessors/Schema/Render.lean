import ZonedAccessors.Layout.Print
import ZonedAccessors.Schema.Basic

/-!
The source text of a schema. The blocks are read back before they are laid out.
-/

namespace ZonedAccessors.Schema

def header : String :=
  "// @generated by region-field-gen. Edit the schema and regenerate instead.\n"

def readBlocks (ts : Token.Tokens) : Except DeclarationError (Syntax.Attributes × List Syntax.Item) :=
  match Grammar.read Grammar.file ts.placed with
  | .ok found => .ok found
  | .error f => .error (.unreadable f.message)

/-- What is laid out. -/
def parsed (s : Schema) : Except DeclarationError (Syntax.Attributes × List Syntax.Item) := do
  readBlocks (← s.blocks)

def render (s : Schema) : Except DeclarationError String := do
  let (inner, items) ← s.parsed
  return header ++ "\n" ++ Layout.render (Layout.file inner items)

end ZonedAccessors.Schema
