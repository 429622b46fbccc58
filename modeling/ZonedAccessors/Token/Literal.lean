import ZonedAccessors.Token.Quoted
import ZonedAccessors.Unicode.Letter

/-!
What the text of a literal stands for.
-/

namespace ZonedAccessors.Token

open Unicode

/-- `marked` says that a suffix follows the closing quote. -/
inductive Literal where
  | text (value : String) (marked : Bool)
  | number
  | other
  deriving DecidableEq, Repr

def Literal.ofText (found : Option (List Char × List Char)) : Literal :=
  match found with
  | some (value, rest) => .text (String.ofList value) !rest.isEmpty
  | none => .other

def literal (written : String) : Literal :=
  match written.toList with
  | '"' :: cs => .ofText (readQuoted .text .plain cs)
  | 'r' :: cs => .ofText (readHashed .text cs)
  | c :: _ => if isAsciiDigit c then .number else .other
  | [] => .other

end ZonedAccessors.Token
