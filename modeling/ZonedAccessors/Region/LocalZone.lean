import ZonedAccessors.Region.Date

/-!
The local zone: an offset for every instant. One that is written down has a single offset, or a
second one for a part of each year between two days of it.
-/

namespace ZonedAccessors

inductive RuleDay where
  /-- The last or an earlier day of the week in a month. -/
  | weekday (month week day : Nat)
  /-- From 1, without leap days. -/
  | julian (day : Nat)
  /-- From 0, with leap days. -/
  | ordinal (day : Nat)
  deriving DecidableEq, Repr

/-- A day, and seconds from its midnight. -/
structure Transition where
  day : RuleDay
  time : Nat
  deriving DecidableEq, Repr

inductive ZoneRule where
  | fixed (o : Offset)
  | seasonal (standard summer : Offset) (start finish : Transition)
  deriving DecidableEq, Repr

/-- Any assignment of offsets to instants: the offsets a place has had follow no rule. -/
structure LocalZone where
  offsetAt : Instant → Offset

namespace RuleDay

def daysInMonth (year : Int) (month : Nat) : Int :=
  Calendar.daysToMonth (if month = 12 then year + 1 else year) (month % 12 + 1) -
    Calendar.daysToMonth year month

/-- Days from 1970 began to this day of a year. -/
def inYear (year : Int) : RuleDay → Int
  | .julian day =>
      Calendar.daysTo year 1 day + if Calendar.isLeapYear year && 60 ≤ day then 1 else 0
  | .ordinal day => Calendar.daysTo year 1 1 + day
  | .weekday month week day =>
      let first := Calendar.daysToMonth year month
      let ahead := ((day : Int) - (first + 4)).fmod 7
      let ofMonth := 1 + ahead + ((week : Int) - 1) * 7
      first + (if daysInMonth year month < ofMonth then ofMonth - 7 else ofMonth) - 1

end RuleDay

/-- When a transition happens that is told in local time at an offset. -/
def Transition.secs (t : Transition) (told : Offset) (year : Int) : Int :=
  t.day.inYear year * 86400 + t.time - told.seconds

namespace ZoneRule

/-- Whether the second offset is in effect, for years whose first transition comes first; the years
before and after count too. -/
def northern (start finish : Int → Int) (year secs : Int) : Bool :=
  if secs < start year then secs < finish (year - 1) && start (year - 1) ≤ secs
  else if secs < finish year then true
  else start (year + 1) ≤ secs && secs < finish (year + 1)

def southern (start finish : Int → Int) (year secs : Int) : Bool :=
  if secs < finish year then !(secs < start (year - 1)) || secs < finish (year - 1)
  else if secs < start year then false
  else !(finish (year + 1) ≤ secs) || start (year + 1) ≤ secs

def isSummer (start finish : Int → Int) (secs : Int) : Bool :=
  let year := Calendar.yearOf secs
  if start year ≤ finish year then northern start finish year secs
  else southern start finish year secs

def offsetAt : ZoneRule → Instant → Offset
  | .fixed o, _ => o
  | .seasonal standard summer start finish, i =>
      if isSummer (start.secs standard) (finish.secs summer) i.secs then summer else standard

/-! Zones written as `std offset dst,start/time,end/time`. -/

def isLetter (c : Char) : Bool := ('a' ≤ c && c ≤ 'z') || ('A' ≤ c && c ≤ 'Z')

def isDigit (c : Char) : Bool := '0' ≤ c && c ≤ '9'

def isNameChar (c : Char) : Bool := isLetter c || isDigit c || c == '+' || c == '-'

def checkName (cs rest : List Char) : Option (List Char) :=
  if 3 ≤ cs.length && cs.length ≤ 7 && cs.all isNameChar then some rest else none

/-- Behind the name of a zone. -/
def name (cs : List Char) : Option (List Char) :=
  match cs with
  | '<' :: cs =>
      match cs.dropWhile (· != '>') with
      | '>' :: rest => checkName (cs.takeWhile (· != '>')) rest
      | _ => none
  | cs => checkName (cs.takeWhile isLetter) (cs.dropWhile isLetter)

def number (cs : List Char) : Option (Nat × List Char) :=
  let ds := cs.takeWhile isDigit
  if ds.isEmpty then none
  else some (ds.foldl (fun n c => 10 * n + (c.toNat - 48)) 0, cs.dropWhile isDigit)

def expect (c : Char) : List Char → Option (List Char)
  | d :: cs => if c == d then some cs else none
  | [] => none

def below (bound : Nat) (cs : List Char) : Option (Nat × List Char) :=
  (number cs).filter fun (n, _) => n < bound

/-- Hours, and minutes and seconds if they are given, in seconds. -/
def clock (cs : List Char) : Option (Nat × List Char) := do
  let (h, cs) ← below 25 cs
  match cs with
  | ':' :: cs =>
      let (m, cs) ← below 60 cs
      match cs with
      | ':' :: cs =>
          let (s, cs) ← below 60 cs
          some (h * 3600 + m * 60 + s, cs)
      | cs => some (h * 3600 + m * 60, cs)
  | cs => some (h * 3600, cs)

/-- Seconds west of UTC. -/
def west (cs : List Char) : Option (Int × List Char) :=
  match cs with
  | '-' :: cs => (clock cs).map fun (n, r) => (-(n : Int), r)
  | '+' :: cs => (clock cs).map fun (n, r) => ((n : Int), r)
  | cs => (clock cs).map fun (n, r) => ((n : Int), r)

def ruleDay (cs : List Char) : Option (RuleDay × List Char) :=
  match cs with
  | 'M' :: cs => do
      let (month, cs) ← below 13 cs
      let (week, cs) ← below 6 (← expect '.' cs)
      let (day, cs) ← below 7 (← expect '.' cs)
      if month = 0 || week = 0 then none
      some (.weekday month week day, cs)
  | 'J' :: cs => do
      let (day, cs) ← below 366 cs
      if day = 0 then none
      some (.julian day, cs)
  | cs => (below 366 cs).map fun (day, r) => (.ordinal day, r)

/-- Two in the morning unless a time is given. -/
def transition (cs : List Char) : Option (Transition × List Char) := do
  let (day, cs) ← ruleDay cs
  match cs with
  | '/' :: cs =>
      let (t, cs) ← clock cs
      some (⟨day, t⟩, cs)
  | cs => some (⟨day, 7200⟩, cs)

def seasons (standard summer : Offset) (cs : List Char) : Option ZoneRule := do
  let (start, cs) ← transition (← expect ',' cs)
  let (finish, cs) ← transition (← expect ',' cs)
  if cs.isEmpty then some (.seasonal standard summer start finish) else none

def isPadding (c : Char) : Bool :=
  c == ' ' || c == '\t' || c == '\n' || c == '\r' || c.toNat == 12

def ofText? (text : String) : Option ZoneRule := do
  let trimmed := ((text.toList.dropWhile isPadding).reverse.dropWhile isPadding).reverse
  let (w, cs) ← west (← name trimmed)
  let standard ← Offset.ofSeconds? (-w)
  if cs.isEmpty then some (.fixed standard)
  else
    let cs ← name cs
    match cs with
    | ',' :: _ => seasons standard (← Offset.ofSeconds? (3600 - w)) cs
    | cs =>
        let (w, cs) ← west cs
        seasons standard (← Offset.ofSeconds? (-w)) cs

end ZoneRule

namespace LocalZone

def utc : LocalZone := ⟨fun _ => .utc⟩

/-- What cannot be read is UTC. -/
def ofText (text : String) : LocalZone :=
  match ZoneRule.ofText? text with
  | some rule => ⟨rule.offsetAt⟩
  | none => utc

end LocalZone

end ZonedAccessors
