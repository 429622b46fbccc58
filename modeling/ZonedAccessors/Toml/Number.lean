import ZonedAccessors.Toml.Value
import ZonedAccessors.Token.Quoted

/-!
Values written without quotes: numbers, booleans, dates and times.
-/

namespace ZonedAccessors.Toml

open Token

def isDigit (c : Char) : Bool := '0' ≤ c && c ≤ '9'

def digitValue (c : Char) : Nat := (hexDigit c).getD 0

def number (base : Nat) (cs : List Char) : Nat := cs.foldl (fun n c => base * n + digitValue c) 0

/-- Digits without the underscores, each of which stands between two digits. -/
def ungrouped (isDigit : Char → Bool) : List Char → Option (List Char)
  | [] => none
  | [c] => if isDigit c then some [c] else none
  | c :: '_' :: d :: cs =>
      if isDigit c && isDigit d then (ungrouped isDigit (d :: cs)).map (c :: ·) else none
  | c :: cs => if isDigit c then (ungrouped isDigit cs).map (c :: ·) else none

/-- Decimal digits of which the first is a zero only if it is the only one. -/
def wholePart (cs : List Char) : Option (List Char) :=
  match ungrouped isDigit cs with
  | some ('0' :: _ :: _) => none
  | found => found

def signed : List Char → Bool × List Char
  | '-' :: cs => (true, cs)
  | '+' :: cs => (false, cs)
  | cs => (false, cs)

def isIn (base : Nat) (c : Char) : Bool :=
  match hexDigit c with
  | some d => d < base
  | none => false

def integerOf (cs : List Char) : Option Int :=
  match cs with
  | '0' :: 'x' :: ds => (ungrouped (isIn 16) ds).map fun ds => number 16 ds
  | '0' :: 'o' :: ds => (ungrouped (isIn 8) ds).map fun ds => number 8 ds
  | '0' :: 'b' :: ds => (ungrouped (isIn 2) ds).map fun ds => number 2 ds
  | cs =>
      let (negative, ds) := signed cs
      (wholePart ds).map fun ds => if negative then -(number 10 ds : Int) else number 10 ds

/-- Whole numbers have 64 bits. -/
def fits (n : Int) : Bool := -9223372036854775808 ≤ n && n < 9223372036854775808

def integer (cs : List Char) : Option Int := (integerOf cs).filter fits

/-- What stands before and behind the first character of a kind. -/
def splitAt (p : Char → Bool) (cs : List Char) : List Char × Option (List Char) :=
  (cs.takeWhile fun c => !p c,
    match cs.dropWhile fun c => !p c with
    | _ :: rest => some rest
    | [] => none)

def exponent (cs : List Char) : Option Int :=
  let (negative, ds) := signed cs
  (ungrouped isDigit ds).map fun ds => if negative then -(number 10 ds : Int) else number 10 ds

def real (cs : List Char) : Option Real :=
  let (negative, body) := signed cs
  if body = "inf".toList then some (.infinite negative)
  else if body = "nan".toList then some .nan
  else do
    let (mantissa, power) := splitAt (fun c => c == 'e' || c == 'E') body
    let (whole, fraction) := splitAt (· == '.') mantissa
    if power.isNone && fraction.isNone then none
    let whole ← wholePart whole
    let fraction ← match fraction with
      | some ds => ungrouped isDigit ds
      | none => some []
    let power ← match power with
      | some ds => exponent ds
      | none => some 0
    let digits := number 10 (whole ++ fraction)
    let scale := power - fraction.length
    if scale < 400 && Decimal.text false digits scale = "inf" then none
    else if 400 ≤ scale && digits ≠ 0 then none
    else some (.finite negative digits scale)

/-! Dates and times. -/

def fixedDigits (n : Nat) (cs : List Char) : Option (Nat × List Char) :=
  let ds := cs.take n
  if ds.length = n && ds.all isDigit then some (number 10 ds, cs.drop n) else none

def literally (c : Char) : List Char → Option (List Char)
  | d :: cs => if c == d then some cs else none
  | [] => none

def isLeap (year : Nat) : Bool := year % 4 == 0 && (year % 100 != 0 || year % 400 == 0)

def daysIn (year month : Nat) : Nat :=
  if month = 2 then if isLeap year then 29 else 28
  else if [4, 6, 9, 11].contains month then 30
  else 31

def date (cs : List Char) : Option (List Char) := do
  let (year, cs) ← fixedDigits 4 cs
  let (month, cs) ← fixedDigits 2 (← literally '-' cs)
  let (day, cs) ← fixedDigits 2 (← literally '-' cs)
  if 1 ≤ month && month ≤ 12 && 1 ≤ day && day ≤ daysIn year month then some cs else none

def clock (cs : List Char) : Option (Nat × Nat × List Char) := do
  let (hour, cs) ← fixedDigits 2 cs
  let (minute, cs) ← fixedDigits 2 (← literally ':' cs)
  if hour < 24 && minute < 60 then some (hour, minute, cs) else none

def seconds (cs : List Char) : Option (List Char) :=
  match cs with
  | ':' :: cs => do
      let (second, cs) ← fixedDigits 2 cs
      if 60 < second then none
      match cs with
      | '.' :: cs =>
          if (cs.takeWhile isDigit).isEmpty then none else some (cs.dropWhile isDigit)
      | cs => some cs
  | cs => some cs

def time (cs : List Char) : Option (List Char) := do
  let (_, _, cs) ← clock cs
  seconds cs

def offset (cs : List Char) : Option (List Char) :=
  match cs with
  | 'Z' :: cs => some cs
  | 'z' :: cs => some cs
  | '+' :: cs => (clock cs).map (·.2.2)
  | '-' :: cs => (clock cs).map (·.2.2)
  | cs => some cs

def isDivider (c : Char) : Bool := c == 'T' || c == 't' || c == ' '

def isMoment (cs : List Char) : Bool :=
  match date cs with
  | some [] => true
  | some (c :: cs) => isDivider c && ((time cs).bind offset) == some []
  | none => time cs == some []

/-- What a word without quotes stands for. -/
def plain (cs : List Char) : Option Value :=
  if cs = "true".toList then some (.boolean true)
  else if cs = "false".toList then some (.boolean false)
  else match integer cs with
    | some n => some (.integer n)
    | none =>
      match real cs with
      | some r => some (.real r)
      | none => if isMoment cs then some .moment else none

end ZonedAccessors.Toml
