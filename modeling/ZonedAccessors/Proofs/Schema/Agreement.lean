import ZonedAccessors.Schema.Basic
import ZonedAccessors.Proofs.Attribute.Acceptance
import ZonedAccessors.Proofs.Attribute.Written
import ZonedAccessors.Proofs.Grammar.Head

/-!
Attributes and a schema that say the same add the same accessors: one block each, or one block for
all of them.
-/

namespace ZonedAccessors.Attribute

open Token Grammar Syntax

def RuntimeText (ts : Source) (text : Option String) : Prop :=
  ∃ name cs, Written ts name cs ∧ ∀ t, text = some t ↔ ∃ p, Clause.runtime t p ∈ cs

theorem Clauses.pathOfText {ts : Source} {cs : List Clause} (h : Clauses ts cs) {t : String}
    {p : Path} (hmem : .runtime t p ∈ cs) : pathOfText t = some p := by
  induction h with
  | done => cases hmem
  | comma => cases hmem
  | clause j k i q r hs _ ih =>
      rcases List.mem_cons.mp hmem with rfl | hmem
      · exact hs.2.2
      · exact ih hmem

theorem RuntimeText.readPath {ts : Source} {text : Option String} {o : Options}
    (h : RuntimeText ts text) (hl : LexedAll ts) (ho : Options.read ts = .ok o) :
    TypeEntry.readPath text = .ok o.runtime := by
  obtain ⟨name, cs, hw, htext⟩ := h
  obtain ⟨name', cs', hw', htakes⟩ := read_sound hl ho
  obtain ⟨rfl, rfl⟩ := hw.unique hw'
  have hruntime := htakes.holds.runtime_iff
  cases text with
  | none =>
      have hnone : o.runtime = none := by
        rw [Option.eq_none_iff_forall_ne_some]
        intro p hp
        obtain ⟨t, ht⟩ := (hruntime p).mp hp
        exact absurd ((htext t).mpr ⟨p, ht⟩) (by simp)
      rw [hnone, TypeEntry.readPath]
  | some t =>
      obtain ⟨p, hp⟩ := (htext t).mp rfl
      have hpath : pathOfText t = some p := by
        cases hw with
        | mk place _ hcs => exact hcs.pathOfText hp
      rw [TypeEntry.readPath, hpath, (hruntime p).mpr ⟨t, hp⟩]

theorem target_ofStruct {s : Struct} (hparameters : s.generics.parameters = [])
    (hconditions : s.conditions.predicates = []) (r : Option Path) :
    Target.ofStruct s r = .ofType (.path (.plain (.ofName s.name))) s.visibility r := by
  obtain ⟨as, v, n, place, generics, ⟨predicates, trailing⟩, shape⟩ := s
  simp only at hparameters hconditions
  subst hconditions
  rcases generics with _ | ⟨parameters, trailing'⟩
  · rfl
  · obtain rfl : parameters = [] := hparameters
    rfl

/-- An attribute that is accepted on an item: the field it declares, and what it expands to. The
path of the runtime has a given text, or none. -/
structure Attached (item : Source) (runtime : Option String) where
  text : String
  options : Source
  field : DateField
  expansion : Expansion
  lexed : Token.ofText text = some options
  declared : ∃ o, Options.read options = .ok o ∧ o.field = .ok field
  runtimeText : RuntimeText options runtime
  accepted : expand options item = .ok expansion

theorem Attached.spec {item : Source} {runtime : Option String} (a : Attached item runtime)
    {s : Struct} (hs : readStruct item = .ok s) :
    a.field.accessor = .ok a.expansion.accessor ∧ ∃ r, TypeEntry.readPath runtime = .ok r ∧
      a.expansion.block = (Target.ofStruct s r).block [a.expansion.accessor] := by
  obtain ⟨o, s', acc, ho, hs', haccepts, he⟩ := expand_ok_iff.mp a.accepted
  obtain ⟨o', ho', hfield⟩ := a.declared
  obtain ⟨f, hf, hacc⟩ := haccepts.declares
  rw [ho, Except.ok.injEq] at ho'
  rw [hs, Except.ok.injEq] at hs'
  subst ho' hs'
  rw [field_ok_iff.mpr hf, Except.ok.injEq] at hfield
  rw [Expansion.block, he, ← hfield]
  exact ⟨hacc, o.runtime, a.runtimeText.readPath (ofText_lexed a.lexed) ho, rfl⟩

theorem accessors_eq_ok {item : Source} {runtime : Option String} {s : Struct}
    (hs : readStruct item = .ok s) (attached : List (Attached item runtime)) :
    DateField.accessors (attached.map (·.field)) =
      .ok (attached.map (·.expansion.accessor)) := by
  induction attached with
  | nil => rfl
  | cons a attached ih =>
      simp only [List.map_cons, DateField.accessors, (a.spec hs).1, ih]
      rfl

def entryOf {item : Source} {runtime : Option String} (s : Struct)
    (attached : List (Attached item runtime)) : TypeEntry where
  name := s.name
  visibility := some (Tokens.text s.visibility.tokens)
  runtime := runtime
  fields := attached.map (·.field)

theorem blocks_eq_block_entryOf {text : String} {item : Source} {s : Struct}
    {runtime : Option String} (hitem : Token.ofText text = some item)
    (hs : readStruct item = .ok s) (hparameters : s.generics.parameters = [])
    (hconditions : s.conditions.predicates = []) (attached : List (Attached item runtime))
    (hne : attached ≠ []) :
    ∃ (header : Tokens) (bodies : List Tokens),
      (entryOf s attached).block = .ok (header ++ braces bodies.flatten) ∧
      attached.map (·.expansion.block) = bodies.map fun body => header ++ braces body := by
  obtain ⟨hvisibility, hword, hkeyword⟩ := readStruct_head (ofText_lexed hitem) hs
  obtain ⟨first, hfirst⟩ := List.exists_mem_of_ne_nil attached hne
  obtain ⟨-, r, hr, -⟩ := first.spec hs
  let t := Target.ofType (.path (.plain (.ofName s.name))) s.visibility r
  have htarget : (entryOf s attached).target = .ok t := by
    simp only [TypeEntry.target, TypeEntry.readType, TypeEntry.readVisibility, entryOf,
      tyPathOfText_name hword hkeyword, visibilityOfText_text hvisibility, hr]
    rfl
  have hblock (a : Attached item runtime) :
      a.expansion.block = t.header ++ braces (t.body [a.expansion.accessor]) := by
    obtain ⟨-, r', hr', hblock⟩ := a.spec hs
    rw [hr, Except.ok.injEq] at hr'
    rw [hblock, ← hr', target_ofStruct hparameters hconditions]
    rfl
  refine ⟨t.header, attached.map fun a => t.body [a.expansion.accessor], ?_, ?_⟩
  · have hbody : t.body (attached.map (·.expansion.accessor)) =
        (attached.map fun a => t.body [a.expansion.accessor]).flatten := by
      simp [Target.body, List.flatMap_def, List.map_map, Function.comp_def]
    refine bind_ok_iff.mpr ⟨t, htarget, bind_ok_iff.mpr ⟨_, accessors_eq_ok hs attached, ?_⟩⟩
    rw [← hbody]
    rfl
  · simp [hblock]

theorem runtimeText_none {ts : Source} {o : Options} (hl : LexedAll ts)
    (ho : Options.read ts = .ok o) (hr : o.runtime = none) : RuntimeText ts none := by
  obtain ⟨name, cs, hw, htakes⟩ := read_sound hl ho
  refine ⟨name, cs, hw, fun t => ⟨fun h => ?_, ?_⟩⟩
  · cases h
  · rintro ⟨p, hp⟩
    rw [(htakes.holds.runtime_iff p).mpr ⟨t, hp⟩] at hr
    cases hr

theorem exists_attached {item ts : Source} {text : String} (hts : Token.ofText text = some ts)
    (hruntime : ((Options.read ts).toOption.any (·.runtime.isNone)) = true)
    (hexpand : (expand ts item).isOk = true) : ∃ a : Attached item none, a.text = text := by
  obtain ⟨e, he⟩ := exists_of_isOk hexpand
  obtain ⟨o, s, a, ho, -, haccepts, -⟩ := expand_ok_iff.mp he
  obtain ⟨f, hf, -⟩ := haccepts.declares
  rw [toOption_eq_some_iff.mpr ho] at hruntime
  have hnone : o.runtime = none := by simpa using hruntime
  exact ⟨⟨text, ts, f, e, hts, ⟨o, ho, field_ok_iff.mpr hf⟩,
    runtimeText_none (ofText_lexed hts) ho hnone, he⟩, rfl⟩

def alarmText : String :=
  "pub(crate) struct Alarm { b_utc: i64, b_tz: i32, c_tz: Option<i32>, c_utc: Option<i64> }"

theorem blocks_eq_block_entryOf_alarm :
    ∃ (item : Source) (s : Struct) (attached : List (Attached item none)),
      Token.ofText alarmText = some item ∧ readStruct item = .ok s ∧
      attached.map (·.text) = ["\"B\"", "\"c\", nullable = true"] ∧
      ∃ (header : Tokens) (bodies : List Tokens),
        (entryOf s attached).block = .ok (header ++ braces bodies.flatten) ∧
        attached.map (·.expansion.block) = bodies.map fun body => header ++ braces body := by
  have hlex {t : String} (h : (Token.ofText t).isSome = true) :
      Token.ofText t = some ((Token.ofText t).getD []) := by
    obtain ⟨ts, hts⟩ := Option.isSome_iff_exists.mp h
    rw [hts, Option.getD_some]
  have hitem := hlex (t := alarmText) (by decide +kernel)
  have hread : (readStruct ((Token.ofText alarmText).getD [])).toOption.any
      (fun s => s.generics.parameters.isEmpty && s.conditions.predicates.isEmpty) = true := by
    decide +kernel
  obtain ⟨s, hs, hplain⟩ := (Option.any_eq_true ..).mp hread
  rw [toOption_eq_some_iff] at hs
  rw [Bool.and_eq_true, List.isEmpty_iff, List.isEmpty_iff] at hplain
  obtain ⟨b, hb⟩ : ∃ a : Attached ((Token.ofText alarmText).getD []) none, a.text = "\"B\"" :=
    exists_attached (hlex (by decide +kernel)) (by decide +kernel) (by decide +kernel)
  obtain ⟨c, hc⟩ : ∃ a : Attached ((Token.ofText alarmText).getD []) none,
      a.text = "\"c\", nullable = true" :=
    exists_attached (hlex (by decide +kernel)) (by decide +kernel) (by decide +kernel)
  exact ⟨_, s, [b, c], hitem, hs, by simp [hb, hc],
    blocks_eq_block_entryOf hitem hs hplain.1 hplain.2 [b, c] (by simp)⟩

end ZonedAccessors.Attribute
