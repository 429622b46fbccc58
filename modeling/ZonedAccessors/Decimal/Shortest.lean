/-!
Decimal numbers as double precision holds them: a number is rounded to the nearest double, and a
double is written with the fewest digits that round back to it.
-/

namespace ZonedAccessors.Decimal

/-- Number of binary digits. -/
def bits (n : Nat) : Nat := if n = 0 then 0 else Nat.log2 n + 1

/-- A positive double, `mantissa * 2 ^ exponent`. -/
structure Double where
  mantissa : Nat
  exponent : Int
  deriving DecidableEq, Repr

/-- A positive fraction, from a decimal with `digits * 10 ^ scale`. -/
def fraction (digits : Nat) (scale : Int) : Nat × Nat :=
  if 0 ≤ scale then (digits * Nat.pow 10 scale.toNat, 1)
  else (digits, Nat.pow 10 (-scale).toNat)

/-- `num / den` to the nearest whole number, halves to the even one. -/
def roundEven (num den : Nat) : Nat :=
  let q := num / den
  let r := num % den
  if 2 * r < den then q
  else if den < 2 * r then q + 1
  else q + q % 2

/-- `num / den` in units of `2 ^ e`, as a fraction. -/
def inUnits (num den : Nat) (e : Int) : Nat × Nat :=
  if 0 ≤ e then (num, den * Nat.pow 2 e.toNat) else (num * Nat.pow 2 (-e).toNat, den)

/-- The exponent at which the mantissa has 53 bits, or the least one there is. -/
def exponentFor (num den : Nat) : Int :=
  let guess : Int := (bits num : Int) - bits den - 53
  let (n, d) := inUnits num den guess
  max (if Nat.pow 2 53 ≤ n / d then guess + 1 else guess) (-1074)

/-- Nearest double, or nothing if it is too large. -/
def nearest (num den : Nat) : Option Double :=
  let e := exponentFor num den
  let (n, d) := inUnits num den e
  let m := roundEven n d
  let (m, e) := if m = Nat.pow 2 53 then (Nat.pow 2 52, e + 1) else (m, e)
  if 971 < e then none else some ⟨m, e⟩

/-- Whether `digits * 10 ^ scale` rounds to `d`. -/
def Double.holds (d : Double) (digits : Nat) (scale : Int) : Bool :=
  nearest (fraction digits scale).1 (fraction digits scale).2 = some d

/-- The multiple of `10 ^ scale` nearest to `d`. -/
def Double.grid (d : Double) (scale : Int) : Nat :=
  let (num, den) := if 0 ≤ d.exponent then (d.mantissa * Nat.pow 2 d.exponent.toNat, 1)
    else (d.mantissa, Nat.pow 2 (-d.exponent).toNat)
  if 0 ≤ scale then roundEven num (den * Nat.pow 10 scale.toNat)
  else roundEven (num * Nat.pow 10 (-scale).toNat) den

/-- The first grid, from coarse to fine, of which a point rounds to `d`. -/
def Double.search (d : Double) : Nat → Int → Nat × Int
  | 0, scale => (d.grid scale, scale)
  | fuel + 1, scale =>
      if 0 < d.grid scale && d.holds (d.grid scale) scale then (d.grid scale, scale)
      else d.search fuel (scale - 1)

/-- The shortest decimal that rounds to `d`, as digits and scale. -/
def Double.shortest (d : Double) : Nat × Int :=
  let top : Int := ((bits d.mantissa : Int) + d.exponent) * 30103 / 100000 + 1
  d.search 800 top

/-- Digits with a point, and never an exponent. -/
def positional (digits : Nat) (scale : Int) : String :=
  let cs := Nat.toDigits 10 digits
  if 0 ≤ scale then String.ofList (cs ++ List.replicate scale.toNat '0' ++ ['.', '0'])
  else
    let n := (-scale).toNat
    let padded := List.replicate (n + 1 - cs.length) '0' ++ cs
    String.ofList (padded.take (padded.length - n) ++ '.' :: padded.drop (padded.length - n))

/-- A decimal as the double it rounds to. -/
def text (negative : Bool) (digits : Nat) (scale : Int) : String :=
  let sign := if negative then "-" else ""
  if digits = 0 then sign ++ "0.0"
  else
    let (num, den) := fraction digits scale
    match nearest num den with
    | none => sign ++ "inf"
    | some ⟨0, _⟩ => sign ++ "0.0"
    | some d =>
        let (n, s) := d.shortest
        sign ++ positional n s

end ZonedAccessors.Decimal
