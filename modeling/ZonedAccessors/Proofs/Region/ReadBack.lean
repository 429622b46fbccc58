import ZonedAccessors.Proofs.Region.Composition
import ZonedAccessors.Proofs.Region.Independence

/-!
Assigning to a property what was read of it. Nothing changes, unless an offset that is that of no
zone was shown in the local one, whose offset then takes its place for good.
-/

namespace ZonedAccessors

/-- The value that was read; a failure is none. -/
def Reading.value? : Reading → Option (Option DateInRegion)
  | .date d => some (some d)
  | .missing => some none
  | .outOfRange _ => none

namespace Nullable

variable {p : Policy} {zone : LocalZone} {n : Nullable} {v : Option DateInRegion}

theorem set_of_not_corrupt (h : (n.get p zone).1.value? = some v)
    (hsound : ¬∃ utc tz, n.Corrupt utc tz) :
    n.set v = n ∧ ∀ zone', n.get p zone' = ((n.get p zone).1, []) := by
  rcases cases_get zone n with ⟨hmissing, hget⟩ | ⟨utc, o, rfl, hget⟩ | ⟨utc, tz, hcorrupt, -, -⟩
  · rw [hget] at h ⊢
    cases h
    refine ⟨rfl, fun zone' => ?_⟩
    rcases hmissing with hnone | hnone <;> simp [get, hnone]
  · rw [hget] at h ⊢
    cases h
    exact ⟨rfl, fun zone' => p.read_offset zone' utc o⟩
  · exact absurd ⟨utc, tz, hcorrupt⟩ hsound

/-- Only a getter that falls back has a value to show for corrupt fields. -/
theorem Corrupt.value {utc : Instant} {tz : Int} (hcorrupt : n.Corrupt utc tz)
    (h : (n.get p zone).1.value? = some v) :
    v = some ⟨utc, zone.offsetAt utc⟩ ∧ (n.get p zone).1 = .date ⟨utc, zone.offsetAt utc⟩ := by
  obtain ⟨hstrict, hlenient⟩ := (policyGap zone n).corrupt utc tz hcorrupt
  cases p with
  | error =>
      rw [hstrict] at h
      cases h
  | «local» =>
      rw [hlenient] at h ⊢
      cases h
      exact ⟨rfl, rfl⟩

theorem get_set_date (p : Policy) (zone : LocalZone) (n : Nullable) (d : DateInRegion) :
    (n.set (some d)).get p zone = (.date d, []) :=
  p.read_offset zone d.instant d.offset

/-- What is read and assigned is what is read from then on, in all zones. -/
theorem get_set_value (h : (n.get p zone).1.value? = some v) (zone' : LocalZone) :
    (n.set v).get p zone' = ((n.get p zone).1, []) := by
  by_cases hsound : ∃ utc tz, n.Corrupt utc tz
  · obtain ⟨utc, tz, hcorrupt⟩ := hsound
    obtain ⟨rfl, hget⟩ := hcorrupt.value h
    rw [get_set_date, hget]
  · obtain ⟨hset, hget⟩ := set_of_not_corrupt h hsound
    rw [hset, hget]

end Nullable

namespace Record

variable {r : Record} {p : Property} {zone : LocalZone} {v : Option DateInRegion}

theorem set_eq_iff {r' : Record} (hother : ∀ q, q ≠ p → r'.stored q = r.stored q) :
    r.set p v = r' ↔ (r.stored p).set v = r'.stored p := by
  constructor
  · rintro rfl
    exact (stored_set_self r p v).symm
  · intro hself
    refine ext_stored fun q => ?_
    by_cases hq : q = p
    · subst hq
      rw [stored_set_self, hself]
    · rw [stored_set_of_ne (Ne.symm hq), hother q hq]

theorem stored_write_offset (r : Record) (p : Property) (s : Int) :
    (r.write p .keep (.put s)).stored p = ⟨(r.stored p).utc, some s⟩ := by
  cases p <;> rfl

/-- Assigning the value that was read leaves the record as it is, unless the stored offset is that
of no zone: then the offset of the local zone is put in its place and nothing else is changed. From
then on that value is read in all zones, and assigning it again changes nothing. -/
theorem set_value_heals (h : (r.get zone p).1.value? = some v) :
    ((¬∃ utc tz, (r.stored p).Corrupt utc tz) → r.set p v = r) ∧
    (∀ utc tz, (r.stored p).Corrupt utc tz →
      r.set p v = r.write p .keep (.put (zone.offsetAt utc).seconds) ∧
      -86399 ≤ (zone.offsetAt utc).seconds ∧ (zone.offsetAt utc).seconds ≤ 86399) ∧
    ∀ zone', ((r.set p v).get zone' p).1.value? = some v ∧
      ∀ v', ((r.set p v).get zone' p).1.value? = some v' → (r.set p v).set p v' = r.set p v := by
  have hstored := h
  rw [get_eq_stored_get] at hstored
  have hagain (zone' : LocalZone) : ((r.set p v).get zone' p).1.value? = some v := by
    rw [get_eq_stored_get, stored_set_self, Nullable.get_set_value hstored, hstored]
  refine ⟨fun hsound => ?_, fun utc tz hcorrupt => ⟨?_, (zone.offsetAt utc).seconds_range⟩,
    fun zone' => ⟨hagain zone', fun v' hv' => ?_⟩⟩
  · exact (set_eq_iff fun _ _ => rfl).mpr (Nullable.set_of_not_corrupt hstored hsound).1
  · refine (set_eq_iff fun q hq => stored_write_of_ne hq.symm _ _).mpr ?_
    obtain ⟨rfl, -⟩ := hcorrupt.value hstored
    rw [stored_write_offset, hcorrupt.1]
    rfl
  · rw [hagain, Option.some.injEq] at hv'
    subst hv'
    refine (set_eq_iff fun _ _ => rfl).mpr ?_
    rw [stored_set_self]
    cases v <;> rfl

/-- The offset of a whole day is healed in a winter of the local zone. -/
theorem set_value_heals_winter :
    let zone := LocalZone.ofText "EST5EDT,M3.2.0,M11.1.0"
    let r := initial.write .bedtime (.put ⟨1700000000, 0⟩) (.put 86400)
    let v : Option DateInRegion := some ⟨⟨1700000000, 0⟩, zone.offsetAt ⟨1700000000, 0⟩⟩
    (r.get zone .bedtime).1.value? = some v ∧
      r.set .bedtime v = r.write .bedtime .keep (.put (-18000)) ∧
      ((r.set .bedtime v).get .utc .bedtime).1.value? = some v := by
  intro zone r v
  have hread : (r.get zone .bedtime).1.value? = some v := by decide +kernel
  have hcorrupt : (r.stored .bedtime).Corrupt ⟨1700000000, 0⟩ 86400 := ⟨rfl, .inr (by decide)⟩
  have hoffset : (zone.offsetAt ⟨1700000000, 0⟩).seconds = -18000 := by decide +kernel
  obtain ⟨-, hheals, hagain⟩ := set_value_heals hread
  refine ⟨hread, ?_, (hagain .utc).1⟩
  rw [(hheals _ _ hcorrupt).1, hoffset]

end Record

end ZonedAccessors
