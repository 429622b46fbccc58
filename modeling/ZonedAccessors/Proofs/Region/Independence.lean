import ZonedAccessors.Proofs.Region.Assignment

/-!
What a run does not depend on. Steps on one property are blind to steps on the others, and the local
zone shows only in a date that is read at an offset out of range.
-/

namespace ZonedAccessors.Record

variable {r r' : Record} {p q : Property} {s t : Step} {ss : List Step}

def Step.property : Step → Property
  | .get p => p
  | .set p _ => p
  | .write p _ _ => p

/-- What a step changes in the stored fields of its own property. -/
def Step.change (n : Nullable) (required : Bool) : Step → Nullable
  | .get _ => n
  | .set _ d => n.set d
  | .write _ utc tz =>
      if required then ⟨n.utc.map utc.required, n.tz.map tz.required⟩ else changeNullable utc tz n

/-! One step. -/

theorem stored_write_of_ne (h : q ≠ p) (utc : Change Instant) (tz : Change Int) :
    (r.write q utc tz).stored p = r.stored p := by
  cases q <;> cases p <;> first | rfl | exact absurd rfl h

theorem stored_step_of_ne (zone : LocalZone) (h : s.property ≠ p) :
    (step zone r s).1.stored p = r.stored p := by
  cases s with
  | get q => rfl
  | set q d => exact stored_set_of_ne h d
  | write q utc tz => exact stored_write_of_ne h utc tz

theorem stored_step_self (zone : LocalZone) (r : Record) (s : Step) :
    (step zone r s).1.stored s.property = s.change (r.stored s.property) !s.property.nullable := by
  cases s with
  | get p => rfl
  | set p d => exact stored_set_self r p d
  | write p utc tz => cases p <;> rfl

/-- What is stored for a property after a step on it depends on what was stored for it alone. -/
theorem stored_step_congr (zone : LocalZone) (h : r.stored s.property = r'.stored s.property) :
    (step zone r s).1.stored s.property = (step zone r' s).1.stored s.property := by
  rw [stored_step_self, stored_step_self, h]

theorem get_congr (zone : LocalZone) (h : r.stored p = r'.stored p) : r.get zone p = r'.get zone p := by
  rw [get_eq_stored_get, get_eq_stored_get, h]

theorem ext_stored (h : ∀ p, r.stored p = r'.stored p) : r = r' := by
  obtain ⟨⟨wu, wt⟩, b, ⟨au, at'⟩, s⟩ := r
  obtain ⟨⟨wu', wt'⟩, b', ⟨au', at''⟩, s'⟩ := r'
  have hw := h .wakeUp
  have hb : b = b' := h .bedtime
  have ha := h .alarm
  have hs : s = s' := h .snooze
  simp only [stored, Nullable.mk.injEq, Option.some.injEq] at hw ha
  simp [hw, hb, ha, hs]

/-! What a run shows of one property. -/

/-- At a step of a run: the answer, and the record after it. -/
structure Moment where
  step : Step
  answer : Answer
  record : Record

def moments (zone : LocalZone) : Record → List Step → List Moment
  | _, [] => []
  | r, s :: ss =>
      ⟨s, (step zone r s).2, (step zone r s).1⟩ :: moments zone (step zone r s).1 ss

theorem answers_moments (zone : LocalZone) (r : Record) (ss : List Step) :
    (moments zone r ss).map Moment.answer = run zone r ss := by
  induction ss generalizing r with
  | nil => rfl
  | cons s ss ih => rw [moments, run, List.map_cons, ih]

def Answer.reading? : Answer → Option Reading
  | .reading x => some x
  | .state _ => none

/-- At a step on `p`: what was read if it reads, and what is stored for `p` after it. -/
def Moment.view (p : Property) (m : Moment) : Option (Option Reading × Nullable) :=
  if m.step.property = p then some (m.answer.reading?, m.record.stored p) else none

def views (p : Property) (zone : LocalZone) (r : Record) (ss : List Step) :
    List (Option Reading × Nullable) :=
  (moments zone r ss).filterMap (Moment.view p)

/-- The steps on `p`. -/
def stepsOn (p : Property) (ss : List Step) : List Step := ss.filter (·.property = p)

theorem reading_step_congr (zone : LocalZone) (h : r.stored s.property = r'.stored s.property) :
    (step zone r s).2.reading? = (step zone r' s).2.reading? := by
  cases s with
  | get p => exact congrArg (fun x => some x.1) (get_congr zone h)
  | set p d => rfl
  | write p utc tz => rfl

theorem views_cons_of_ne (zone : LocalZone) (h : s.property ≠ p) :
    views p zone r (s :: ss) = views p zone (step zone r s).1 ss := by
  rw [views, moments, List.filterMap_cons_none]
  · rfl
  · exact if_neg h

theorem views_cons_self (zone : LocalZone) (h : s.property = p) : views p zone r (s :: ss) =
    ((step zone r s).2.reading?, (step zone r s).1.stored p) ::
      views p zone (step zone r s).1 ss := by
  rw [views, moments, List.filterMap_cons_some]
  · rfl
  · exact if_pos h

/-- Runs from records that store the same for `p` show the same of it, with or without the steps on
other properties. -/
theorem views_stepsOn (zone : LocalZone) (h : r.stored p = r'.stored p) (ss : List Step) :
    views p zone r ss = views p zone r' (stepsOn p ss) := by
  induction ss generalizing r r' with
  | nil => rfl
  | cons s ss ih =>
      by_cases hs : s.property = p
      · subst hs
        have hself : stepsOn s.property (s :: ss) = s :: stepsOn s.property ss :=
          List.filter_cons_of_pos (by simp)
        rw [hself, views_cons_self zone rfl, views_cons_self zone rfl, reading_step_congr zone h,
          stored_step_congr zone h, ih (stored_step_congr zone h)]
      · have hother : stepsOn p (s :: ss) = stepsOn p ss :=
          List.filter_cons_of_neg (by simpa using hs)
        rw [hother, views_cons_of_ne zone hs]
        exact ih ((stored_step_of_ne zone hs).trans h)

/-! Two steps on different properties. -/

theorem step_comm (zone : LocalZone) (r : Record) (h : s.property ≠ t.property) :
    (step zone (step zone r s).1 t).1 = (step zone (step zone r t).1 s).1 := by
  refine ext_stored fun p => ?_
  by_cases hs : s.property = p
  · subst hs
    rw [stored_step_of_ne zone h.symm]
    exact stored_step_congr zone (stored_step_of_ne zone h.symm).symm
  · rw [stored_step_of_ne zone hs]
    by_cases ht : t.property = p
    · subst ht
      exact stored_step_congr zone (stored_step_of_ne zone hs)
    · rw [stored_step_of_ne zone ht, stored_step_of_ne zone ht, stored_step_of_ne zone hs]

theorem after_swap (zone : LocalZone) (r : Record) (ss us : List Step)
    (h : s.property ≠ t.property) :
    after zone r (ss ++ s :: t :: us) = after zone r (ss ++ t :: s :: us) := by
  unfold after
  rw [List.foldl_append, List.foldl_append, List.foldl_cons, List.foldl_cons, List.foldl_cons,
    List.foldl_cons, step_comm zone _ h]

theorem stepsOn_swap (p : Property) (ss us : List Step) (h : s.property ≠ t.property) :
    stepsOn p (ss ++ s :: t :: us) = stepsOn p (ss ++ t :: s :: us) := by
  unfold stepsOn
  rw [List.filter_append, List.filter_append]
  congr 1
  by_cases hs : s.property = p
  · have ht : t.property ≠ p := fun ht => h (hs.trans ht.symm)
    simp [hs, ht]
  · simp [List.filter_cons, hs]

/-- Of a property a run shows what it would show without the steps on other properties, and two
steps on different properties can change places. -/
theorem run_independent (zone : LocalZone) (r : Record) (ss : List Step) (p : Property) :
    (moments zone r ss).map Moment.answer = run zone r ss ∧
      views p zone r ss = views p zone r (stepsOn p ss) ∧
      ∀ (s t : Step) (us : List Step), s.property ≠ t.property →
        after zone r (ss ++ s :: t :: us) = after zone r (ss ++ t :: s :: us) ∧
        views p zone r (ss ++ s :: t :: us) = views p zone r (ss ++ t :: s :: us) := by
  refine ⟨answers_moments zone r ss, views_stepsOn zone rfl ss, fun s t us h => ?_⟩
  refine ⟨after_swap zone r ss us h, ?_⟩
  rw [views_stepsOn zone rfl (ss ++ s :: t :: us), views_stepsOn zone rfl (ss ++ t :: s :: us),
    stepsOn_swap p ss us h]

/-- A date that is half cleared, and a date of another property assigned around it. -/
theorem run_independent_half_cleared :
    let d : DateInRegion := ⟨⟨1483228799, 1500000000⟩, ⟨-86399, by decide⟩⟩
    let s : Step := .write .bedtime .clear .keep
    let t : Step := .set .snooze (some d)
    Step.property s ≠ Step.property t ∧
      after .utc initial [.set .bedtime (some d), s, t, .get .bedtime] =
        after .utc initial [.set .bedtime (some d), t, s, .get .bedtime] := by
  intro d s t
  have hne : Step.property s ≠ Step.property t := by decide
  exact ⟨hne, ((run_independent .utc initial [.set .bedtime (some d)] .bedtime).2.2 s t
    [.get .bedtime] hne).1⟩

/-! Two local zones. -/

theorem step_zone (zone zone' : LocalZone) (r : Record) (s : Step) :
    (step zone r s).1 = (step zone' r s).1 := by
  cases s <;> rfl

theorem after_zone (zone zone' : LocalZone) (r : Record) (ss : List Step) :
    after zone r ss = after zone' r ss := by
  unfold after
  simp only [step_zone zone zone']

/-- An offset that is that of no zone, stored with an instant, under the policy that falls back. -/
def FallsBack (r : Record) (p : Property) (utc : Instant) : Prop :=
  p.policy = .local ∧ ∃ tz, r.stored p = ⟨some utc, some tz⟩ ∧ (tz < -86399 ∨ 86399 < tz)

theorem read_cases (policy : Policy) (utc : Instant) (tz : Int) :
    (policy = .local ∧ (tz < -86399 ∨ 86399 < tz) ∧
      ∀ zone, (policy.read zone utc tz).1 = .date ⟨utc, zone.offsetAt utc⟩) ∨
    ∀ zone zone', policy.read zone utc tz = policy.read zone' utc tz := by
  cases policy with
  | error => exact .inr fun zone zone' => rfl
  | «local» =>
      cases h : Offset.ofSeconds? tz with
      | some o => exact .inr fun zone zone' => by simp only [Policy.read, Instant.inRegion, h]
      | none =>
          refine .inl ⟨rfl, Offset.ofSeconds?_eq_none_iff.mp h, fun zone => ?_⟩
          simp only [Policy.read, Instant.inRegion, h]

/-- A reading is the same in all zones, or the stored instant at the offset of the local one. -/
theorem get_cases (r : Record) (p : Property) :
    (∃ utc, r.FallsBack p utc ∧ ∀ zone, (r.get zone p).1 = .date ⟨utc, zone.offsetAt utc⟩) ∨
    ∀ zone zone', r.get zone p = r.get zone' p := by
  simp only [get_eq_stored_get, FallsBack]
  obtain ⟨_ | utc, _ | tz⟩ := r.stored p
  case some.some =>
    rcases read_cases p.policy utc tz with ⟨hpolicy, hrange, hread⟩ | hsame
    · exact .inl ⟨utc, ⟨hpolicy, tz, rfl, hrange⟩, hread⟩
    · exact .inr hsame
  all_goals exact .inr fun zone zone' => rfl

/-- Two runs in different local zones have the same records throughout. Their answers are the same
too, but where a date is read that falls back: there both show the stored instant, each at the offset
of its own zone. -/
theorem run_zone_apart (zone zone' : LocalZone) (r : Record) (ss : List Step) (i : Nat) :
    after zone r (ss.take i) = after zone' r (ss.take i) ∧
    ((run zone r ss)[i]? = (run zone' r ss)[i]? ∨
      ∃ p utc, ss[i]? = some (.get p) ∧ (after zone r (ss.take i)).FallsBack p utc ∧
        (run zone r ss)[i]? = some (.reading (.date ⟨utc, zone.offsetAt utc⟩)) ∧
        (run zone' r ss)[i]? = some (.reading (.date ⟨utc, zone'.offsetAt utc⟩))) := by
  have hafter : after zone r (ss.take i) = after zone' r (ss.take i) := after_zone zone zone' r _
  refine ⟨hafter, ?_⟩
  rw [run_getElem?, run_getElem?, ← hafter]
  cases ss[i]? with
  | none => exact .inl rfl
  | some s =>
      cases s with
      | set p d => exact .inl rfl
      | write p utc tz => exact .inl rfl
      | get p =>
          rcases get_cases (after zone r (ss.take i)) p with ⟨utc, hfalls, hget⟩ | hsame
          · refine .inr ⟨p, utc, rfl, hfalls, ?_, ?_⟩ <;>
              simp only [Option.map_some, step, hget]
          · exact .inl (by simp only [Option.map_some, step, hsame zone zone'])

end ZonedAccessors.Record
