import ZonedAccessors.Unicode.Printable

/-!
A text written as a string literal.
-/

namespace ZonedAccessors.Token

open Unicode

def hexDigits (n : Nat) : List Char := Nat.toDigits 16 n

/-- A zero before an octal digit is written out, since it would read on into the digit. -/
def escapeZero : List Char → List Char
  | c :: _ => if '0' ≤ c && c ≤ '7' then ['\\', 'x', '0', '0'] else ['\\', '0']
  | [] => ['\\', '0']

def escapeChar (c : Char) : List Char :=
  match c with
  | '\t' => ['\\', 't']
  | '\r' => ['\\', 'r']
  | '\n' => ['\\', 'n']
  | '"' => ['\\', '"']
  | '\\' => ['\\', '\\']
  | c => if isPlain c then [c] else ['\\', 'u', '\x7b'] ++ hexDigits c.toNat ++ ['\x7d']

def escapeChars : List Char → List Char
  | [] => []
  | c :: cs => (if c.toNat = 0 then escapeZero cs else escapeChar c) ++ escapeChars cs

def quote (text : String) : String := String.ofList ('"' :: escapeChars text.toList ++ ['"'])

end ZonedAccessors.Token
