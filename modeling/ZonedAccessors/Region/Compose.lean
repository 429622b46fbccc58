import ZonedAccessors.Region.LocalZone

/-!
Putting an instant and a stored offset together, and taking a date apart.
-/

namespace ZonedAccessors

/-- The stored offset is that of no zone. -/
structure OffsetOutOfRange where
  seconds : Int
  max : Int
  deriving DecidableEq, Repr

def OffsetOutOfRange.message (e : OffsetOutOfRange) : String :=
  s!"UTC offset of {e.seconds} seconds is outside the supported range of ±{e.max} seconds"

/-- The local zone stood in for a stored offset. -/
structure Fallback where
  seconds : Int
  used : Offset
  deriving DecidableEq, Repr

def Fallback.message : String := "stored UTC offset out of range; using the local zone"

namespace Instant

/-- At the stored offset, or at that of the local zone, and what is reported then. -/
def inRegion (zone : LocalZone) (i : Instant) (seconds : Int) : DateInRegion × List Fallback :=
  match Offset.ofSeconds? seconds with
  | some o => (⟨i, o⟩, [])
  | none => (⟨i, zone.offsetAt i⟩, [⟨seconds, zone.offsetAt i⟩])

def tryInRegion (i : Instant) (seconds : Int) : Except OffsetOutOfRange DateInRegion :=
  match Offset.ofSeconds? seconds with
  | some o => .ok ⟨i, o⟩
  | none => .error ⟨seconds, maxOffset⟩

end Instant

def DateInRegion.split (d : DateInRegion) : Instant × Int := (d.instant, d.offset.seconds)

end ZonedAccessors
