/-!
Instants, offsets from UTC, and instants shown at an offset.
-/

namespace ZonedAccessors

/-- Seconds since 1970 began and nanoseconds; from a thousand million of them on it is a leap
second. -/
structure Instant where
  secs : Int
  nanos : Nat
  deriving DecidableEq, Repr, Inhabited

/-- The largest offset there is, a second less than a day. -/
def maxOffset : Int := 86399

/-- Seconds east of UTC. -/
structure Offset where
  seconds : Int
  bounded : -maxOffset ≤ seconds ∧ seconds ≤ maxOffset
  deriving DecidableEq, Repr

namespace Offset

def utc : Offset := ⟨0, by decide⟩

instance : Inhabited Offset := ⟨utc⟩

def ofSeconds? (s : Int) : Option Offset :=
  if h : -maxOffset ≤ s ∧ s ≤ maxOffset then some ⟨s, h⟩ else none

theorem ofSeconds?_seconds (o : Offset) : ofSeconds? o.seconds = some o := by
  simp [ofSeconds?, o.bounded]

theorem ofSeconds?_eq_none_iff {s : Int} :
    ofSeconds? s = none ↔ s < -maxOffset ∨ maxOffset < s := by
  unfold ofSeconds?
  split
  · simp; omega
  · simp; omega

end Offset

structure DateInRegion where
  instant : Instant
  offset : Offset
  deriving DecidableEq, Repr, Inhabited

namespace Calendar

/-- Days from 1970 began to the first day of a month. A year is counted from March, so that a leap
day is its last. -/
def daysToMonth (year : Int) (month : Nat) : Int :=
  let y := if month ≤ 2 then year - 1 else year
  let m : Int := if month ≤ 2 then (month : Int) + 9 else (month : Int) - 3
  365 * y + y.fdiv 4 - y.fdiv 100 + y.fdiv 400 + (153 * m + 2).fdiv 5 - 719468

def daysTo (year : Int) (month : Nat) (day : Int) : Int := daysToMonth year month + day - 1

def isLeapYear (year : Int) : Bool :=
  year.fmod 4 == 0 && (year.fmod 100 != 0 || year.fmod 400 == 0)

/-- Year, month and day, from the days since 1970 began. -/
def ofDays (days : Int) : Int × Nat × Nat :=
  let z := days + 719468
  let era := z.fdiv 146097
  let ofEra := z.fmod 146097
  let y := (ofEra - ofEra.fdiv 1460 + ofEra.fdiv 36524 - ofEra.fdiv 146096).fdiv 365
  let ofYear := ofEra - (365 * y + y.fdiv 4 - y.fdiv 100)
  let m := (5 * ofYear + 2).fdiv 153
  let day := ofYear - (153 * m + 2).fdiv 5 + 1
  let month := if m < 10 then m + 3 else m - 9
  (y + era * 400 + (if month ≤ 2 then 1 else 0), month.toNat, day.toNat)

def yearOf (secs : Int) : Int := (ofDays (secs.fdiv 86400)).1

end Calendar

namespace DateInRegion

/-- At least `width` digits. -/
def digits (width n : Nat) : String :=
  let cs := Nat.toDigits 10 n
  String.ofList (List.replicate (width - cs.length) '0' ++ cs)

/-- Years of other than four digits have a sign. -/
def yearText (y : Int) : String :=
  if 0 ≤ y ∧ y ≤ 9999 then digits 4 y.toNat
  else (if y < 0 then "-" else "+") ++ digits 4 y.natAbs

def fractionText (nanos : Nat) : String :=
  if nanos = 0 then ""
  else if nanos % 1000000 = 0 then "." ++ digits 3 (nanos / 1000000)
  else if nanos % 1000 = 0 then "." ++ digits 6 (nanos / 1000)
  else "." ++ digits 9 nanos

/-- To the nearest minute. -/
def offsetText (o : Offset) : String :=
  let minutes := (o.seconds.natAbs + 30) / 60
  (if o.seconds < 0 then "-" else "+") ++ digits 2 (minutes / 60) ++ ":" ++ digits 2 (minutes % 60)

/-- Date, time and offset; a leap second is the second after the one it belongs to. -/
def text (d : DateInRegion) : String :=
  let local' := d.instant.secs + d.offset.seconds
  let (year, month, day) := Calendar.ofDays (local'.fdiv 86400)
  let ofDay := (local'.fmod 86400).toNat
  let leap := 1000000000 ≤ d.instant.nanos
  let second := ofDay % 60 + if leap then 1 else 0
  let nanos := if leap then d.instant.nanos - 1000000000 else d.instant.nanos
  yearText year ++ "-" ++ digits 2 month ++ "-" ++ digits 2 day ++ "T" ++
    digits 2 (ofDay / 3600) ++ ":" ++ digits 2 (ofDay / 60 % 60) ++ ":" ++ digits 2 second ++
    fractionText nanos ++ offsetText d.offset

end DateInRegion

end ZonedAccessors
