import ZonedAccessors.Token.Quoted

/-!
Strings of a TOML document, read from behind their opening quotes.
-/

namespace ZonedAccessors.Toml

open Token

/-- A control character other than a tab. -/
def isControl (c : Char) : Bool := (c.toNat < 32 && c != '\t') || c.toNat == 127

/-- The character that `n` hexadecimal digits name. -/
def codePoint (n : Nat) (cs : List Char) : Option (Char × List Char) := do
  let ds ← (cs.take n).mapM hexDigit
  if ds.length ≠ n then none
  let c ← scalar (ds.foldl (fun v d => 16 * v + d) 0)
  some (c, cs.drop n)

/-- What follows a backslash. -/
def escaped : List Char → Option (Char × List Char)
  | 'b' :: cs => some (Char.ofNat 8, cs)
  | 't' :: cs => some ('\t', cs)
  | 'n' :: cs => some ('\n', cs)
  | 'f' :: cs => some (Char.ofNat 12, cs)
  | 'r' :: cs => some ('\r', cs)
  | 'e' :: cs => some (Char.ofNat 27, cs)
  | '"' :: cs => some ('"', cs)
  | '\\' :: cs => some ('\\', cs)
  | 'x' :: cs => codePoint 2 cs
  | 'u' :: cs => codePoint 4 cs
  | 'U' :: cs => codePoint 8 cs
  | _ => none

def literalString : List Char → Option (List Char × List Char)
  | [] => none
  | '\'' :: cs => some ([], cs)
  | c :: cs =>
      if isControl c then none else (literalString cs).map fun (s, rest) => (c :: s, rest)

/-- `fuel` bounds the number of characters. -/
def basicString : Nat → List Char → Option (List Char × List Char)
  | 0, _ => none
  | _, [] => none
  | _, '"' :: cs => some ([], cs)
  | fuel + 1, '\\' :: cs => do
      let (c, cs) ← escaped cs
      let (s, rest) ← basicString fuel cs
      some (c :: s, rest)
  | fuel + 1, c :: cs =>
      if isControl c then none else (basicString fuel cs).map fun (s, rest) => (c :: s, rest)

def newline : List Char → Option (List Char)
  | '\n' :: cs => some cs
  | '\r' :: '\n' :: cs => some cs
  | _ => none

def quotes (quote : Char) (cs : List Char) : Nat := (cs.takeWhile (· == quote)).length

/-- Three quotes close; one or two more before them belong to the string. -/
def closing (quote : Char) (cs : List Char) : Option (List Char × List Char) :=
  let n := quotes quote cs
  if n ≤ 5 then some (List.replicate (n - 3) quote, cs.drop n) else none

def isBlank (c : Char) : Bool := c == ' ' || c == '\t'

def skipBlanks (cs : List Char) : List Char := cs.dropWhile isBlank

/-- The lines and blanks that a backslash at the end of a line takes away. -/
def skipLines : Nat → List Char → List Char
  | 0, cs => cs
  | fuel + 1, cs =>
      match newline (skipBlanks cs) with
      | some rest => skipLines fuel rest
      | none => skipBlanks cs

/-- Strings over several lines; `basic` ones have escapes. -/
def longString (basic : Bool) (quote : Char) : Nat → List Char → Option (List Char × List Char)
  | 0, _ => none
  | _, [] => none
  | fuel + 1, c :: cs =>
      if 3 ≤ quotes quote (c :: cs) then closing quote (c :: cs)
      else match newline (c :: cs) with
        | some rest => (longString basic quote fuel rest).map fun (s, r) => ('\n' :: s, r)
        | none =>
            if basic && c == '\\' then
              match newline (skipBlanks cs) with
              | some rest => longString basic quote fuel (skipLines (rest.length + 1) rest)
              | none => do
                  let (d, cs) ← escaped cs
                  let (s, r) ← longString basic quote fuel cs
                  some (d :: s, r)
            else if isControl c then none
            else (longString basic quote fuel cs).map fun (s, r) => (c :: s, r)

/-- A line break right behind the opening quotes is not part of the string. -/
def openLines (cs : List Char) : List Char := (newline cs).getD cs

def stringValue (cs : List Char) : Option (List Char × List Char) :=
  match cs with
  | '"' :: '"' :: '"' :: cs => longString true '"' (cs.length + 1) (openLines cs)
  | '\'' :: '\'' :: '\'' :: cs => longString false '\'' (cs.length + 1) (openLines cs)
  | '"' :: cs => basicString (cs.length + 1) cs
  | '\'' :: cs => literalString cs
  | _ => none

end ZonedAccessors.Toml
