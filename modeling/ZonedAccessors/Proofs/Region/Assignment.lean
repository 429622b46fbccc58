import ZonedAccessors.Region.Record
import Mathlib.Data.List.Induction

/-!
Runs that assign and read but never write stored fields directly: a reading is the last date that
was assigned, whatever the local zone is.
-/

namespace ZonedAccessors

theorem Policy.read_offset (p : Policy) (zone : LocalZone) (i : Instant) (o : Offset) :
    p.read zone i o.seconds = (.date ⟨i, o⟩, []) := by
  cases p with
  | «local» => simp [Policy.read, Instant.inRegion, Offset.ofSeconds?_seconds]
  | error => simp [Policy.read, Instant.tryInRegion, Offset.ofSeconds?_seconds]

namespace Record

theorem get_eq_stored_get (zone : LocalZone) (r : Record) (p : Property) :
    r.get zone p = (r.stored p).get p.policy zone := by
  cases p <;> rfl

theorem stored_set_of_ne {r : Record} {p q : Property} (h : q ≠ p) (d : Option DateInRegion) :
    (r.set q d).stored p = r.stored p := by
  cases q <;> cases p <;> first | rfl | exact absurd rfl h

theorem stored_set_self (r : Record) (p : Property) (d : Option DateInRegion) :
    (r.set p d).stored p = (r.stored p).set d := by
  cases p <;> cases d <;> rfl

def Step.isWrite : Step → Bool
  | .write .. => true
  | _ => false

def Step.assigned (p : Property) : Step → Option DateInRegion
  | .set q d => if q = p then d else none
  | _ => none

def lastAssigned (p : Property) (ss : List Step) : Option DateInRegion :=
  ss.reverse.findSome? (Step.assigned p)

theorem lastAssigned_concat (p : Property) (ss : List Step) (s : Step) :
    lastAssigned p (ss ++ [s]) = (s.assigned p).or (lastAssigned p ss) := by
  simp only [lastAssigned, List.reverse_append, List.reverse_singleton, List.singleton_append,
    List.findSome?_cons]
  cases s.assigned p <;> rfl

def unassigned (p : Property) : Reading :=
  if p.nullable then .missing else .date ⟨⟨0, 0⟩, .utc⟩

def expected (p : Property) (ss : List Step) : Reading :=
  match lastAssigned p ss with
  | some d => .date d
  | none => unassigned p

/-- Each property stores the last date assigned to it, or what it began with. -/
def Holds (r : Record) (ss : List Step) : Prop :=
  ∀ p, r.stored p = (initial.stored p).set (lastAssigned p ss)

theorem holds_initial : Holds initial [] := by
  intro p
  rfl

theorem holds_step (zone : LocalZone) {r : Record} {ss : List Step} {s : Step} (h : Holds r ss)
    (hs : s.isWrite = false) : Holds (step zone r s).1 (ss ++ [s]) := by
  intro p
  rw [lastAssigned_concat]
  cases s with
  | get q => exact h p
  | set q d =>
      by_cases hq : q = p
      · subst hq
        have hr : (step zone r (.set q d)).1.stored q = (r.stored q).set d := stored_set_self r q d
        rw [hr, h q]
        cases d with
        | none => simp [Step.assigned, Nullable.set]
        | some d => simp [Step.assigned, Nullable.set]
      · have hr : (step zone r (.set q d)).1.stored p = r.stored p := stored_set_of_ne hq d
        rw [hr, h p]
        simp [Step.assigned, hq]
  | write q utc tz => simp [Step.isWrite] at hs

theorem after_concat (zone : LocalZone) (r : Record) (ss : List Step) (s : Step) :
    after zone r (ss ++ [s]) = (step zone (after zone r ss) s).1 := by
  simp [after]

theorem holds_after (zone : LocalZone) {ss : List Step} (h : ∀ s ∈ ss, s.isWrite = false) :
    Holds (after zone initial ss) ss := by
  -- from the right end, where the newest step stands
  induction ss using List.reverseRecOn with
  | nil => exact holds_initial
  | append_singleton ss s ih =>
      rw [after_concat]
      have hs : s.isWrite = false := h s (by simp)
      exact holds_step zone (ih fun t ht => h t (by simp [ht])) hs

theorem get_initial (zone : LocalZone) (p : Property) :
    initial.get zone p = (unassigned p, []) := by
  cases p <;> rfl

theorem Holds.get_eq {r : Record} {ss : List Step} (h : Holds r ss) (zone : LocalZone)
    (p : Property) : r.get zone p = (expected p ss, []) := by
  rw [get_eq_stored_get, h p]
  unfold expected
  cases lastAssigned p ss with
  | none => exact (get_eq_stored_get zone initial p).symm.trans (get_initial zone p)
  | some d => exact Policy.read_offset p.policy zone d.instant d.offset

theorem Holds.paired {r : Record} {ss : List Step} (h : Holds r ss) (p : Property) :
    (r.stored p).utc.isSome = (r.stored p).tz.isSome := by
  rw [h p]
  cases lastAssigned p ss with
  | none => cases p <;> rfl
  | some d => rfl

theorem run_getElem? (zone : LocalZone) (r : Record) (ss : List Step) (i : Nat) :
    (run zone r ss)[i]? = ss[i]?.map fun s => (step zone (after zone r (ss.take i)) s).2 := by
  induction ss generalizing r i with
  | nil => simp [run]
  | cons s ss ih =>
      cases i with
      | zero => simp [run, after]
      | succ i => simpa [run, after] using ih (step zone r s).1 i

theorem expected_ne_outOfRange (p : Property) (ss : List Step) (e : OffsetOutOfRange) :
    expected p ss ≠ .outOfRange e := by
  unfold expected unassigned
  split
  · simp
  · split <;> simp

theorem run_reads_last_assigned (zone : LocalZone) (ss : List Step)
    (h : ∀ s ∈ ss, s.isWrite = false) :
    (∀ (i : Nat) (p : Property), ss[i]? = some (.get p) →
      (run zone initial ss)[i]? = some (.reading (expected p (ss.take i))) ∧
      ((after zone initial (ss.take i)).get zone p).2 = []) ∧
    (∀ e : OffsetOutOfRange, .reading (.outOfRange e) ∉ run zone initial ss) ∧
    ∀ (i : Nat) (p : Property),
      ((after zone initial (ss.take i)).stored p).utc.isSome =
        ((after zone initial (ss.take i)).stored p).tz.isSome := by
  have holds (i : Nat) : Holds (after zone initial (ss.take i)) (ss.take i) :=
    holds_after zone fun s hs => h s (List.mem_of_mem_take hs)
  refine ⟨?_, ?_, fun i p => (holds i).paired p⟩
  · intro i p hi
    have hget := (holds i).get_eq zone p
    refine ⟨?_, by rw [hget]⟩
    rw [run_getElem?, hi]
    simp [step, hget]
  · intro e he
    obtain ⟨i, hi⟩ := List.mem_iff_getElem?.mp he
    rw [run_getElem?] at hi
    obtain ⟨s, -, hs⟩ := Option.map_eq_some_iff.mp hi
    cases s with
    | get p =>
        simp only [step, (holds i).get_eq zone p, Answer.reading.injEq] at hs
        exact expected_ne_outOfRange p _ e hs
    | set p d => simp [step] at hs
    | write p utc tz => simp [step] at hs

/-- A leap second at the largest offset west survives an assignment of nothing. -/
theorem run_reads_last_assigned_leap_second :
    let d : DateInRegion := ⟨⟨1483228799, 1500000000⟩, ⟨-86399, by decide⟩⟩
    let ss : List Step := [.set .snooze (some d), .set .alarm (some d), .set .snooze none, .get .snooze]
    (run .utc initial ss)[3]? = some (.reading (.date d)) := by
  intro d ss
  exact ((run_reads_last_assigned .utc ss (by decide)).1 3 .snooze rfl).1

end Record

end ZonedAccessors
