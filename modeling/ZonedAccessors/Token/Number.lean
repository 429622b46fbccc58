import ZonedAccessors.Unicode.Identifier

/-!
Names and numbers at the front of a text. Each reader returns the text behind what it read.
-/

namespace ZonedAccessors.Token

open Unicode

def readName : List Char → Option (List Char × List Char)
  | [] => none
  | c :: cs =>
      if isIdentStart c then some (c :: cs.takeWhile isIdentContinue, cs.dropWhile isIdentContinue)
      else none

def dropSuffix (cs : List Char) : List Char :=
  match readName cs with
  | some (_, rest) => rest
  | none => cs

/-- The end of a number, behind its digits: a suffix may follow, but no further part of a word. -/
def endNumber (cs : List Char) : Option (List Char) :=
  match dropSuffix cs with
  | c :: rest => if isIdentContinue c then none else some (c :: rest)
  | [] => some []

inductive Mantissa where
  | refused
  | plain (rest : List Char)
  | pointed (rest : List Char)
  | exponent (pointed : Bool) (mark rest : List Char)
  deriving Repr

def readMantissa (dot : Bool) : List Char → Mantissa
  | [] => if dot then .pointed [] else .plain []
  | c :: cs =>
      if isAsciiDigit c || c == '_' then readMantissa dot cs
      else if c == '.' && !dot then
        match cs with
        | d :: _ => if d == '.' || isIdentStart d then .refused else readMantissa true cs
        | [] => readMantissa true cs
      else if c == 'e' || c == 'E' then .exponent dot (c :: cs) cs
      else if dot then .pointed (c :: cs)
      else .plain (c :: cs)

/-- `none` when no digit follows. -/
def readExponent (sign value : Bool) : List Char → Option (List Char)
  | [] => if value then some [] else none
  | c :: cs =>
      if (c == '+' || c == '-') && !value then
        if sign then none else readExponent true value cs
      else if isAsciiDigit c then readExponent sign true cs
      else if c == '_' then readExponent sign value cs
      else if value then some (c :: cs)
      else none

def readFloat (cs : List Char) : Option (List Char) :=
  match cs with
  | c :: rest =>
      if isAsciiDigit c then
        match readMantissa false rest with
        | .refused | .plain _ => none
        | .pointed rest => endNumber rest
        | .exponent pointed mark rest =>
            match readExponent false false rest with
            | some rest => endNumber rest
            | none => if pointed then endNumber mark else none
      else none
  | [] => none

def digitIn (base : Nat) (c : Char) : Option (Option Nat) :=
  if isAsciiDigit c then
    if base ≤ c.toNat - 48 then none else some (some (c.toNat - 48))
  else if base == 16 && (('a' ≤ c && c ≤ 'f') || ('A' ≤ c && c ≤ 'F')) then some (some 10)
  else some none

/-- Digits of a base with underscores between them. A decimal digit too large for the base is
refused, any other character ends the digits. -/
def readDigits (base : Nat) (empty : Bool) : List Char → Option (List Char)
  | [] => if empty then none else some []
  | c :: cs =>
      if c == '_' then
        if empty && base == 10 then none else readDigits base empty cs
      else match digitIn base c with
        | none => none
        | some (some _) => readDigits base false cs
        | some none => if empty then none else some (c :: cs)

def readInteger (cs : List Char) : Option (List Char) :=
  match cs with
  | '0' :: 'x' :: rest => (readDigits 16 true rest).bind endNumber
  | '0' :: 'o' :: rest => (readDigits 8 true rest).bind endNumber
  | '0' :: 'b' :: rest => (readDigits 2 true rest).bind endNumber
  | _ => (readDigits 10 true cs).bind endNumber

/-! What an integer stands for. -/

def digitValue (base : Nat) (c : Char) : Option Nat :=
  if isAsciiDigit c then some (c.toNat - 48)
  else if base == 16 && 'a' ≤ c && c ≤ 'f' then some (c.toNat - 87)
  else if base == 16 && 'A' ≤ c && c ≤ 'F' then some (c.toNat - 55)
  else none

/-- Whether these characters give a number an exponent, and are no suffix. -/
def isExponent : List Char → Bool
  | c :: cs =>
      (c == 'e' || c == 'E') &&
        let digits := cs.takeWhile fun d => isAsciiDigit d || d == '_'
        let after := cs.dropWhile fun d => isAsciiDigit d || d == '_'
        digits.any isAsciiDigit || after.head?.any fun d => d == '+' || d == '-'
  | [] => false

/-- The value of the digits and what follows them; `none` if a fraction or an exponent does. -/
def readValue (base value : Nat) (found : Bool) : List Char → Option (Nat × List Char)
  | [] => if found then some (value, []) else none
  | c :: cs =>
      if c == '_' then readValue base value found cs
      else match digitValue base c with
        | some d => if d < base then readValue base (value * base + d) true cs else none
        | none =>
            if !found || (base == 10 && (c == '.' || isExponent (c :: cs))) then none
            else some (value, c :: cs)

/-- The value of an integer literal and its suffix. -/
def integerOf (written : List Char) : Option (Nat × List Char) :=
  match written with
  | '0' :: 'x' :: rest => readValue 16 0 false rest
  | '0' :: 'o' :: rest => readValue 8 0 false rest
  | '0' :: 'b' :: rest => readValue 2 0 false rest
  | c :: _ => if isAsciiDigit c then readValue 10 0 false written else none
  | [] => none

end ZonedAccessors.Token
