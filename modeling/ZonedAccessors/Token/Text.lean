import ZonedAccessors.Token.Basic

/-!
Tokens as text: one space between two tokens, none after a joint mark.
-/

namespace ZonedAccessors.Token

def Delimiter.before (d : Delimiter) : List Char :=
  match d with
  | .brace => [d.opening, ' ']
  | _ => [d.opening]

def Delimiter.after (d : Delimiter) (empty : Bool) : List Char :=
  match d with
  | .brace => if empty then [d.closing] else [' ', d.closing]
  | _ => [d.closing]

mutual

def Tree.chars {σ : Type} : Tree σ → List Char
  | .ident text _ => text.toList
  | .punct c _ _ => [c]
  | .literal text _ => text.toList
  | .group d body _ => d.before ++ charsAfter true body ++ d.after body.isEmpty

/-- `tight` says that the first token follows without a space. -/
def charsAfter {σ : Type} (tight : Bool) : List (Tree σ) → List Char
  | [] => []
  | t :: ts =>
      (if tight then [] else [' ']) ++ t.chars ++
        charsAfter (match t with | .punct _ joint _ => joint | _ => false) ts

end

def Tokens.text (ts : Tokens) : String := String.ofList (charsAfter true ts)

end ZonedAccessors.Token
