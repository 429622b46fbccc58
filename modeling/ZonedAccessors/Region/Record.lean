import ZonedAccessors.Accessor.Policy
import ZonedAccessors.Region.Compose

/-!
A record with a property of each kind: what its accessors do to the fields they are stored in.
-/

namespace ZonedAccessors

structure Required where
  utc : Instant
  tz : Int
  deriving DecidableEq, Repr, Inhabited

structure Nullable where
  utc : Option Instant
  tz : Option Int
  deriving DecidableEq, Repr, Inhabited

inductive Reading where
  | date (d : DateInRegion)
  | missing
  | outOfRange (e : OffsetOutOfRange)
  deriving DecidableEq, Repr

/-- A present pair of stored values under a policy. -/
def Policy.read (p : Policy) (zone : LocalZone) (utc : Instant) (tz : Int) :
    Reading × List Fallback :=
  match p with
  | .local => (.date (utc.inRegion zone tz).1, (utc.inRegion zone tz).2)
  | .error =>
      match utc.tryInRegion tz with
      | .ok d => (.date d, [])
      | .error e => (.outOfRange e, [])

namespace Required

def get (p : Policy) (zone : LocalZone) (r : Required) : Reading × List Fallback :=
  p.read zone r.utc r.tz

def set (_ : Required) (d : DateInRegion) : Required := ⟨d.split.1, d.split.2⟩

end Required

namespace Nullable

def get (p : Policy) (zone : LocalZone) (n : Nullable) : Reading × List Fallback :=
  match n.tz, n.utc with
  | some tz, some utc => p.read zone utc tz
  | _, _ => (.missing, [])

/-- Assigning nothing leaves both fields as they are. -/
def set (n : Nullable) : Option DateInRegion → Nullable
  | none => n
  | some d => ⟨some d.split.1, some d.split.2⟩

end Nullable

inductive Property where
  | wakeUp
  | bedtime
  | alarm
  | snooze
  deriving DecidableEq, Repr

namespace Property

def all : List Property := [.alarm, .bedtime, .snooze, .wakeUp]

def name : Property → String
  | .wakeUp => "wake_up"
  | .bedtime => "bedtime"
  | .alarm => "alarm"
  | .snooze => "snooze"

def policy : Property → Policy
  | .wakeUp | .bedtime => .local
  | .alarm | .snooze => .error

def nullable : Property → Bool
  | .wakeUp | .alarm => false
  | .bedtime | .snooze => true

end Property

structure Record where
  wakeUp : Required
  bedtime : Nullable
  alarm : Required
  snooze : Nullable
  deriving DecidableEq, Repr

/-- What is done to one stored field. -/
inductive Change (α : Type) where
  | keep
  | clear
  | put (value : α)
  deriving DecidableEq, Repr

def Change.optional {α : Type} : Change α → Option α → Option α
  | .keep, old => old
  | .clear, _ => none
  | .put value, _ => some value

/-- What cannot be empty is not cleared. -/
def Change.required {α : Type} : Change α → α → α
  | .put value, _ => value
  | _, old => old

namespace Record

def initial : Record := ⟨⟨⟨0, 0⟩, 0⟩, ⟨none, none⟩, ⟨⟨0, 0⟩, 0⟩, ⟨none, none⟩⟩

/-- The stored fields of a property. -/
def stored (r : Record) : Property → Nullable
  | .wakeUp => ⟨some r.wakeUp.utc, some r.wakeUp.tz⟩
  | .bedtime => r.bedtime
  | .alarm => ⟨some r.alarm.utc, some r.alarm.tz⟩
  | .snooze => r.snooze

def get (zone : LocalZone) (r : Record) (p : Property) : Reading × List Fallback :=
  match p with
  | .wakeUp => r.wakeUp.get p.policy zone
  | .bedtime => r.bedtime.get p.policy zone
  | .alarm => r.alarm.get p.policy zone
  | .snooze => r.snooze.get p.policy zone

def assign (r : Required) : Option DateInRegion → Required
  | none => r
  | some d => r.set d

def set (r : Record) (p : Property) (d : Option DateInRegion) : Record :=
  match p with
  | .wakeUp => { r with wakeUp := assign r.wakeUp d }
  | .bedtime => { r with bedtime := r.bedtime.set d }
  | .alarm => { r with alarm := assign r.alarm d }
  | .snooze => { r with snooze := r.snooze.set d }

def changeRequired (utc : Change Instant) (tz : Change Int) (r : Required) : Required :=
  ⟨utc.required r.utc, tz.required r.tz⟩

def changeNullable (utc : Change Instant) (tz : Change Int) (n : Nullable) : Nullable :=
  ⟨utc.optional n.utc, tz.optional n.tz⟩

/-- Writes stored fields directly. -/
def write (r : Record) (p : Property) (utc : Change Instant) (tz : Change Int) : Record :=
  match p with
  | .wakeUp => { r with wakeUp := changeRequired utc tz r.wakeUp }
  | .bedtime => { r with bedtime := changeNullable utc tz r.bedtime }
  | .alarm => { r with alarm := changeRequired utc tz r.alarm }
  | .snooze => { r with snooze := changeNullable utc tz r.snooze }

inductive Step where
  | get (p : Property)
  | set (p : Property) (value : Option DateInRegion)
  | write (p : Property) (utc : Change Instant) (tz : Change Int)
  deriving DecidableEq, Repr

inductive Answer where
  | reading (r : Reading)
  | state (r : Record)
  deriving DecidableEq, Repr

def step (zone : LocalZone) (r : Record) : Step → Record × Answer
  | .get p => (r, .reading (r.get zone p).1)
  | .set p d => (r.set p d, .state (r.set p d))
  | .write p utc tz => (r.write p utc tz, .state (r.write p utc tz))

def run (zone : LocalZone) : Record → List Step → List Answer
  | _, [] => []
  | r, s :: ss => (step zone r s).2 :: run zone (step zone r s).1 ss

/-- The record after some steps. -/
def after (zone : LocalZone) (r : Record) (ss : List Step) : Record :=
  ss.foldl (fun r s => (step zone r s).1) r

end Record

end ZonedAccessors
