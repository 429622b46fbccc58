import ZonedAccessors.Proofs.Grammar.Reader
import Mathlib.Data.List.Forall2
import ZonedAccessors.Proofs.Toml.Distinct
import ZonedAccessors.Schema.Decode

/-!
Tables decoded entry by entry. Where no key stands twice, an entry fills the part of the record that
its key names, and nothing that comes before or after it touches that part again.
-/

namespace ZonedAccessors.Schema

open Toml

abbrev TableEntries := List (String × Value)

variable {es fs : TableEntries} {e : String × Value} {own : List String} {v : Value} {α : Type}

/-! One part of a record, filled from its keys. -/

section Fills

variable {read : Value → Decoded α} {old new : α}

/-- The one entry at a key of the part fills it; without one it stays as it was. -/
def Fills (es : TableEntries) (own : List String) (read : Value → Decoded α) (old new : α) : Prop :=
  (∃ e ∈ es, e.1 ∈ own ∧ (∀ e' ∈ es, e'.1 ∈ own → e' = e) ∧ read e.2 = .ok new) ∨
    (∀ e ∈ es, e.1 ∉ own) ∧ old = new

theorem fills_of_none (h : ∀ e ∈ es, e.1 ∉ own) : Fills es own read old new ↔ old = new := by
  constructor
  · rintro (⟨e, he, hown, -⟩ | ⟨-, hnew⟩)
    · exact absurd hown (h e he)
    · exact hnew
  · intro hnew
    exact .inr ⟨h, hnew⟩

theorem fills_nil : Fills [] own read old new ↔ old = new := fills_of_none nofun

theorem fills_cons_of_notMem (h : e.1 ∉ own) :
    Fills (e :: es) own read old new ↔ Fills es own read old new := by
  unfold Fills
  simp only [List.mem_cons, exists_eq_or_imp, forall_eq_or_imp, h, false_and, false_or,
    not_false_eq_true, true_and, false_imp_iff]

theorem key_ne_of_nodup (h : ((e :: es).map Prod.fst).Nodup) : ∀ e' ∈ es, e'.1 ≠ e.1 := by
  intro e' he' heq
  have hkey : e'.1 ∈ es.map Prod.fst := List.mem_map_of_mem he'
  exact (List.nodup_cons.mp h).1 (heq ▸ hkey)

theorem fills_cons (h : e.1 ∈ own) (hkeys : ((e :: es).map Prod.fst).Nodup) :
    Fills (e :: es) own read old new ↔ (∀ e' ∈ es, e'.1 ∉ own) ∧ read e.2 = .ok new := by
  -- no other entry is the first one, since its key is not in the rest
  have hother : ∀ e' ∈ es, e' ≠ e := fun e' he' heq => key_ne_of_nodup hkeys e' he' (by rw [heq])
  constructor
  · rintro (⟨e₁, he₁, -, hone, hread⟩ | ⟨hnone, -⟩)
    · obtain rfl : e = e₁ := hone e List.mem_cons_self h
      refine ⟨fun e' he' hown => ?_, hread⟩
      exact hother e' he' (hone e' (List.mem_cons_of_mem e he') hown)
    · exact absurd h (hnone e List.mem_cons_self)
  · rintro ⟨hnone, hread⟩
    refine .inl ⟨e, List.mem_cons_self, h, fun e' he' hown => ?_, hread⟩
    rcases List.mem_cons.mp he' with heq | he'
    · exact heq
    · exact absurd hown (hnone e' he')

theorem fills_single_iff :
    Fills [e] own read old new ↔ if e.1 ∈ own then read e.2 = .ok new else old = new := by
  split_ifs with h
  · have hkeys : ([e].map Prod.fst).Nodup := List.nodup_singleton e.1
    rw [fills_cons h hkeys, and_iff_right nofun]
  · rw [fills_cons_of_notMem h, fills_nil]

/-- A part with one key is filled by the first entry or by the rest. -/
theorem fills_cons_iff {key : String} (hkeys : ((e :: es).map Prod.fst).Nodup) :
    Fills (e :: es) [key] read old new ↔
      ∃ a, Fills [e] [key] read old a ∧ Fills es [key] read a new := by
  simp only [fills_single_iff]
  by_cases h : e.1 ∈ [key]
  · have hnone : ∀ e' ∈ es, e'.1 ∉ [key] := by
      intro e' he' hkey
      rw [List.mem_singleton] at h hkey
      exact key_ne_of_nodup hkeys e' he' (hkey.trans h.symm)
    simp only [fills_cons h hkeys, fills_of_none hnone, if_pos h, exists_eq_right,
      and_iff_right hnone]
  · simp only [fills_cons_of_notMem h, if_neg h, exists_eq_left']

end Fills

theorem optional_ok_iff {read : Value → Decoded α} {o : Option α} :
    optional read v = .ok o ↔ ∃ a, read v = .ok a ∧ some a = o := by
  rw [optional, bind_ok_iff]
  simp [pure, Except.pure]

theorem text_ok_iff {s : String} : text v = .ok s ↔ v = .text s := by
  cases v <;> simp [text]

theorem boolean_ok_iff {b : Bool} : boolean v = .ok b ↔ v = .boolean b := by
  cases v <;> simp [boolean]

theorem policy_ok_iff (hv : v.IsScalar) {p : Policy} : policy v = .ok p ↔ v = .text p.text := by
  cases v with
  | text s =>
      have hnamed : policyNamed s = .ok p ↔ Policy.ofText? s = some p := by
        unfold policyNamed
        cases Policy.ofText? s <;> simp
      rw [policy, hnamed, Policy.ofText?_eq_some_iff, Value.text.injEq]
  | array items => cases hv
  | table entries => cases hv
  | integer n => simp [policy]
  | real r => simp [policy]
  | boolean b => simp [policy]
  | moment => simp [policy]

theorem listOf_ok_iff {read : Value → Decoded α} {xs : List α} : listOf read v = .ok xs ↔
    ∃ items, v = .array items ∧ List.Forall₂ (fun item x => read item = .ok x) items xs := by
  cases v with
  | array items =>
      simp only [listOf, Value.array.injEq, exists_eq_left']
      induction items generalizing xs with
      | nil => simp [pure, Except.pure, eq_comm]
      | cons item items ih =>
          simp only [List.mapM_cons, bind_ok_iff, List.forall₂_cons_left_iff, ih]
          simp [pure, Except.pure, eq_comm]
  | _ => simp [listOf]

/-! Drafts. -/

namespace TypeDraft

variable {d d' : TypeDraft}

/-- The entry fills the part that its key names and leaves the others. -/
theorem add_ok_iff : d.add e = .ok d' ↔ e.1 ∈ typeKeys ∧
    Fills [e] ["name"] (optional text) d.name d'.name ∧
    Fills [e] ["vis"] (optional text) d.visibility d'.visibility ∧
    Fills [e] ["crate"] (optional text) d.runtime d'.runtime ∧
    Fills [e] ["fields"] (listOf field) d.fields d'.fields := by
  obtain ⟨key, v⟩ := e
  obtain ⟨name, visibility, runtime, fields⟩ := d
  obtain ⟨name', visibility', runtime', fields'⟩ := d'
  simp only [add, fills_single_iff, typeKeys]
  -- one case for each known key, and one for all others
  split_ifs <;> simp_all [optional_ok_iff, bind_ok_iff, pure, Except.pure] <;> grind

theorem foldlM_add_iff (hkeys : (es.map Prod.fst).Nodup) :
    es.foldlM add d = .ok d' ↔ (∀ e ∈ es, e.1 ∈ typeKeys) ∧
      Fills es ["name"] (optional text) d.name d'.name ∧
      Fills es ["vis"] (optional text) d.visibility d'.visibility ∧
      Fills es ["crate"] (optional text) d.runtime d'.runtime ∧
      Fills es ["fields"] (listOf field) d.fields d'.fields := by
  induction es generalizing d with
  | nil =>
      obtain ⟨name, visibility, runtime, fields⟩ := d
      obtain ⟨name', visibility', runtime', fields'⟩ := d'
      simp [fills_nil, pure, Except.pure]
  | cons e es ih =>
      simp only [List.foldlM_cons, bind_ok_iff, List.forall_mem_cons, fills_cons_iff hkeys,
        add_ok_iff, ih (List.nodup_cons.mp hkeys).2]
      constructor
      · rintro ⟨d₁, ⟨hkey, hname, hvis, hcrate, hfields⟩, hkeys, hname', hvis', hcrate', hfields'⟩
        exact ⟨⟨hkey, hkeys⟩, ⟨_, hname, hname'⟩, ⟨_, hvis, hvis'⟩, ⟨_, hcrate, hcrate'⟩,
          ⟨_, hfields, hfields'⟩⟩
      · rintro ⟨⟨hkey, hkeys⟩, ⟨n, hname, hname'⟩, ⟨w, hvis, hvis'⟩, ⟨r, hcrate, hcrate'⟩,
          ⟨fs, hfields, hfields'⟩⟩
        exact ⟨⟨n, w, r, fs⟩, ⟨hkey, hname, hvis, hcrate, hfields⟩, hkeys, hname', hvis', hcrate',
          hfields'⟩

end TypeDraft

def flagKeys : List String := ["nullable", "optional"]

/-- As a part is filled, but never over what is there already. -/
def FillsOnce (es : TableEntries) (own : List String) (read : Value → Decoded α)
    (old new : Option α) : Prop :=
  (old = none ∨ ∀ e ∈ es, e.1 ∉ own) ∧ Fills es own (optional read) old new

theorem fillsOnce_cons_iff {read : Value → Decoded α} {old new : Option α}
    (hkeys : ((e :: es).map Prod.fst).Nodup) :
    FillsOnce (e :: es) own read old new ↔
      ∃ a, FillsOnce [e] own read old a ∧ FillsOnce es own read a new := by
  simp only [FillsOnce, fills_single_iff, List.forall_mem_cons]
  by_cases h : e.1 ∈ own
  · simp only [fills_cons h hkeys, not_true_eq_false, h, false_and, or_false, optional_ok_iff]
    constructor
    · rintro ⟨rfl, hnone, a, hread, rfl⟩
      exact ⟨some a, ⟨rfl, a, hread, rfl⟩, .inr hnone, (fills_of_none hnone).mpr rfl⟩
    · rintro ⟨_, ⟨rfl, a, hread, rfl⟩, hnone | hnone, hfills⟩
      · cases hnone
      · exact ⟨rfl, hnone, a, hread, (fills_of_none hnone).mp hfills⟩
  · simp [fills_cons_of_notMem h, h]

namespace FieldDraft

variable {d d' : FieldDraft}

theorem add_ok_iff : d.add e = .ok d' ↔ e.1 ∈ fieldKeys ∧
    Fills [e] ["name"] (optional text) d.name d'.name ∧
    FillsOnce [e] flagKeys boolean d.nullable d'.nullable ∧
    Fills [e] ["fallback"] (optional Schema.policy) d.policy d'.policy := by
  obtain ⟨key, v⟩ := e
  obtain ⟨name, nullable, policy⟩ := d
  obtain ⟨name', nullable', policy'⟩ := d'
  simp only [add, FillsOnce, fills_single_iff, fieldKeys, flagKeys]
  split_ifs <;> simp_all [optional_ok_iff, bind_ok_iff, pure, Except.pure] <;> grind

theorem foldlM_add_iff (hkeys : (es.map Prod.fst).Nodup) :
    es.foldlM add d = .ok d' ↔ (∀ e ∈ es, e.1 ∈ fieldKeys) ∧
      Fills es ["name"] (optional text) d.name d'.name ∧
      FillsOnce es flagKeys boolean d.nullable d'.nullable ∧
      Fills es ["fallback"] (optional Schema.policy) d.policy d'.policy := by
  induction es generalizing d with
  | nil =>
      obtain ⟨name, nullable, policy⟩ := d
      obtain ⟨name', nullable', policy'⟩ := d'
      simp [FillsOnce, fills_nil, pure, Except.pure]
  | cons e es ih =>
      simp only [List.foldlM_cons, bind_ok_iff, List.forall_mem_cons, fills_cons_iff hkeys,
        fillsOnce_cons_iff hkeys, add_ok_iff, ih (List.nodup_cons.mp hkeys).2]
      constructor
      · rintro ⟨d₁, ⟨hkey, hname, hflag, hpolicy⟩, hknown, hname', hflag', hpolicy'⟩
        exact ⟨⟨hkey, hknown⟩, ⟨_, hname, hname'⟩, ⟨_, hflag, hflag'⟩, ⟨_, hpolicy, hpolicy'⟩⟩
      · rintro ⟨⟨hkey, hknown⟩, ⟨n, hname, hname'⟩, ⟨b, hflag, hflag'⟩, ⟨p, hpolicy, hpolicy'⟩⟩
        exact ⟨⟨n, b, p⟩, ⟨hkey, hname, hflag, hpolicy⟩, hknown, hname', hflag', hpolicy'⟩

end FieldDraft

theorem decode_ok_iff {entries : TableEntries} (hkeys : (entries.map Prod.fst).Nodup) {s : Schema} :
    decode entries = .ok s ↔ (∀ e ∈ entries, e.1 ∈ ["types"]) ∧
      Fills entries ["types"] (listOf typeEntry) [] s := by
  unfold decode
  generalize ([] : Schema) = old
  induction entries generalizing old with
  | nil => simp [fills_nil, pure, Except.pure]
  | cons e entries ih =>
      have hadd (mid : Schema) : add old e = .ok mid ↔ e.1 ∈ ["types"] ∧
          Fills [e] ["types"] (listOf typeEntry) old mid := by
        simp only [add, fills_single_iff, List.mem_singleton]
        split_ifs with h <;> simp [h]
      simp only [List.foldlM_cons, bind_ok_iff, List.forall_mem_cons, fills_cons_iff hkeys, hadd,
        ih (List.nodup_cons.mp hkeys).2]
      constructor
      · rintro ⟨mid, ⟨hkey, hfills⟩, hknown, hfills'⟩
        exact ⟨⟨hkey, hknown⟩, mid, hfills, hfills'⟩
      · rintro ⟨⟨hkey, hknown⟩, mid, hfills, hfills'⟩
        exact ⟨mid, ⟨hkey, hfills⟩, hknown, hfills'⟩

end ZonedAccessors.Schema
