import ZonedAccessors.Proofs.Region.Assignment
import Mathlib.Algebra.Order.Group.Abs
import Mathlib.Algebra.Order.Group.Int

/-!
An instant put together with an offset: which date comes of it, when the date falls apart into the
same two again, and what the two policies make of an offset that is that of no zone.
-/

namespace ZonedAccessors

theorem Offset.ofSeconds?_cases (s : Int) :
    (∃ o : Offset, o.seconds = s) ∨ Offset.ofSeconds? s = none ∧ (s < -86399 ∨ 86399 < s) := by
  by_cases h : -maxOffset ≤ s ∧ s ≤ maxOffset
  · exact .inl ⟨⟨s, h⟩, rfl⟩
  · have hnone : Offset.ofSeconds? s = none := dif_neg h
    exact .inr ⟨hnone, Offset.ofSeconds?_eq_none_iff.mp hnone⟩

theorem Offset.seconds_range (o : Offset) : -86399 ≤ o.seconds ∧ o.seconds ≤ 86399 := o.bounded

namespace Instant

variable {zone : LocalZone} {i : Instant} {s : Int}

theorem inRegion_seconds (zone : LocalZone) (i : Instant) (o : Offset) :
    i.inRegion zone o.seconds = (⟨i, o⟩, []) := by
  rw [inRegion, Offset.ofSeconds?_seconds]

theorem tryInRegion_seconds (i : Instant) (o : Offset) : i.tryInRegion o.seconds = .ok ⟨i, o⟩ := by
  rw [tryInRegion, Offset.ofSeconds?_seconds]

theorem inRegion_out (h : s < -86399 ∨ 86399 < s) :
    i.inRegion zone s = (⟨i, zone.offsetAt i⟩, [⟨s, zone.offsetAt i⟩]) := by
  rw [inRegion, Offset.ofSeconds?_eq_none_iff.mpr h]

theorem tryInRegion_out (h : s < -86399 ∨ 86399 < s) : i.tryInRegion s = .error ⟨s, 86399⟩ := by
  rw [tryInRegion, Offset.ofSeconds?_eq_none_iff.mpr h]
  rfl

theorem inRegion_instant (zone : LocalZone) (i : Instant) (s : Int) :
    (i.inRegion zone s).1.instant = i := by
  unfold inRegion
  split <;> rfl

theorem split_inRegion_iff : (i.inRegion zone s).1.split = (i, s) ↔ |s| ≤ 86399 := by
  rw [abs_le]
  rcases Offset.ofSeconds?_cases s with ⟨o, rfl⟩ | ⟨-, h⟩
  · rw [inRegion_seconds]
    exact iff_of_true rfl o.seconds_range
  · rw [inRegion_out h]
    -- what is put in place of the offset is an offset, and this one is none
    have hother : (zone.offsetAt i).seconds ≠ s := by
      have := (zone.offsetAt i).seconds_range
      omega
    refine iff_of_false (fun hsplit => hother (Prod.mk.inj hsplit).2) ?_
    omega

/-- Taking a date apart and putting it together are inverse to each other, as far as the offset is
that of a zone. -/
theorem composition_inverts_split :
    (∀ (zone : LocalZone) (d : DateInRegion),
      d.split.1.inRegion zone d.split.2 = (d, []) ∧ d.split.1.tryInRegion d.split.2 = .ok d) ∧
    ∀ (zone : LocalZone) (i : Instant) (s : Int),
      ((i.inRegion zone s).1.split = (i, s) ↔ |s| ≤ 86399) ∧
      (i.inRegion zone s).1.split.1 = i ∧
      -86399 ≤ (i.inRegion zone s).1.split.2 ∧ (i.inRegion zone s).1.split.2 ≤ 86399 := by
  refine ⟨fun zone d => ?_, fun zone i s => ?_⟩
  · exact ⟨inRegion_seconds zone d.instant d.offset, tryInRegion_seconds d.instant d.offset⟩
  · exact ⟨split_inRegion_iff, inRegion_instant zone i s, (i.inRegion zone s).1.offset.seconds_range⟩

end Instant

/-- Both values are there, and the offset is that of no zone. -/
def Nullable.Corrupt (n : Nullable) (utc : Instant) (tz : Int) : Prop :=
  n = ⟨some utc, some tz⟩ ∧ (tz < -86399 ∨ 86399 < tz)

/-- What the getter that fails and the getter that falls back make of the same stored values. -/
structure PolicyGap (zone : LocalZone) (n : Nullable) (strict lenient : Reading × List Fallback) :
    Prop where
  fails_iff : (∃ e, strict.1 = .outOfRange e) ↔ ∃ utc tz, n.Corrupt utc tz
  corrupt : ∀ utc tz, n.Corrupt utc tz → strict = (.outOfRange ⟨tz, 86399⟩, []) ∧
    lenient = (.date ⟨utc, zone.offsetAt utc⟩, [⟨tz, zone.offsetAt utc⟩])
  agree : (¬∃ utc tz, n.Corrupt utc tz) → strict = lenient ∧ lenient.2 = []
  missing : n.utc = none ∨ n.tz = none → strict = (.missing, []) ∧ lenient = (.missing, [])

namespace Nullable

variable {zone : LocalZone} {n : Nullable}

/-- Something is missing, or the offset is that of a zone, or the values are corrupt. -/
theorem cases_get (zone : LocalZone) (n : Nullable) :
    ((n.utc = none ∨ n.tz = none) ∧ ∀ p : Policy, n.get p zone = (.missing, [])) ∨
    (∃ utc o, n = ⟨some utc, some (Offset.seconds o)⟩ ∧
      ∀ p : Policy, n.get p zone = (.date ⟨utc, o⟩, [])) ∨
    ∃ utc tz, n.Corrupt utc tz ∧ n.get .error zone = (.outOfRange ⟨tz, 86399⟩, []) ∧
      n.get .local zone = (.date ⟨utc, zone.offsetAt utc⟩, [⟨tz, zone.offsetAt utc⟩]) := by
  obtain ⟨_ | utc, _ | tz⟩ := n
  case some.some =>
    rcases Offset.ofSeconds?_cases tz with ⟨o, rfl⟩ | ⟨-, h⟩
    · exact .inr (.inl ⟨utc, o, rfl, fun p => p.read_offset zone utc o⟩)
    · refine .inr (.inr ⟨utc, tz, ⟨rfl, h⟩, ?_⟩)
      simp only [get, Policy.read, Instant.inRegion_out h, Instant.tryInRegion_out h, and_self]
  all_goals exact .inl ⟨by simp, fun p => rfl⟩

theorem not_corrupt_of_missing (h : n.utc = none ∨ n.tz = none) : ¬∃ utc tz, n.Corrupt utc tz := by
  rintro ⟨utc, tz, rfl, -⟩
  rcases h with h | h <;> cases h

theorem not_corrupt_seconds (utc : Instant) (o : Offset) :
    ¬∃ utc' tz, Corrupt ⟨some utc, some o.seconds⟩ utc' tz := by
  rintro ⟨utc', tz, heq, h⟩
  cases heq
  have := o.seconds_range
  omega

theorem Corrupt.unique {utc utc' : Instant} {tz tz' : Int} (h : n.Corrupt utc tz)
    (h' : n.Corrupt utc' tz') : utc' = utc ∧ tz' = tz := by
  obtain ⟨rfl, -⟩ := h
  obtain ⟨heq, -⟩ := h'
  cases heq
  exact ⟨rfl, rfl⟩

theorem policyGap (zone : LocalZone) (n : Nullable) :
    PolicyGap zone n (n.get .error zone) (n.get .local zone) := by
  rcases cases_get zone n with
    ⟨hmissing, hget⟩ | ⟨utc, o, rfl, hget⟩ | ⟨utc, tz, hcorrupt, hstrict, hlenient⟩
  · have hsound := not_corrupt_of_missing hmissing
    rw [hget, hget]
    exact {
      fails_iff := iff_of_false (by simp) hsound
      corrupt := fun utc tz h => absurd ⟨utc, tz, h⟩ hsound
      agree := fun _ => ⟨rfl, rfl⟩
      missing := fun _ => ⟨rfl, rfl⟩ }
  · have hsound := not_corrupt_seconds utc o
    rw [hget, hget]
    exact {
      fails_iff := iff_of_false (by simp) hsound
      corrupt := fun utc tz h => absurd ⟨utc, tz, h⟩ hsound
      agree := fun _ => ⟨rfl, rfl⟩
      missing := by simp }
  · rw [hstrict, hlenient]
    exact {
      fails_iff := iff_of_true ⟨_, rfl⟩ ⟨utc, tz, hcorrupt⟩
      corrupt := by
        intro utc' tz' h
        obtain ⟨rfl, rfl⟩ := hcorrupt.unique h
        exact ⟨rfl, rfl⟩
      agree := fun h => absurd ⟨utc, tz, hcorrupt⟩ h
      missing := fun h => absurd ⟨utc, tz, hcorrupt⟩ (not_corrupt_of_missing h) }

end Nullable

/-- A getter over values that are always there is the one over values that may be missing. -/
theorem Required.get_eq_nullable_get (p : Policy) (zone : LocalZone) (r : Required) :
    r.get p zone = Nullable.get p zone ⟨some r.utc, some r.tz⟩ := rfl

/-- The two policies differ on corrupt values alone: there one fails and the other falls back, and
says so once. -/
theorem policies_differ_on_corrupt (zone : LocalZone) :
    (∀ r : Required,
      PolicyGap zone ⟨some r.utc, some r.tz⟩ (r.get .error zone) (r.get .local zone)) ∧
    ∀ n : Nullable, PolicyGap zone n (n.get .error zone) (n.get .local zone) := by
  refine ⟨fun r => ?_, Nullable.policyGap zone⟩
  rw [r.get_eq_nullable_get, r.get_eq_nullable_get]
  exact Nullable.policyGap zone _

end ZonedAccessors
