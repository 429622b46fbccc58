import ZonedAccessors.Proofs.Attribute.Written
import ZonedAccessors.Proofs.Schema.FieldTables

/-!
The options of an attribute and the table of a field: the same keys and values are refused by both,
or declare the same field.
-/

namespace ZonedAccessors

open Token Grammar

/-- Which number it is does not matter: no option is one. -/
def Given.InTokens : Given → Source → Prop
  | .text s, ts => ∃ w place marked, ts = [.literal w place] ∧ literal w = .text s marked
  | .boolean b, ts => ∃ place, ts = [.ident (boolWord b) place]
  | .integer n, ts => ∃ w place, literal w = .number ∧
      (0 ≤ n ∧ ts = [.literal w place] ∨
        n < 0 ∧ ∃ joint sign, ts = [.punct '-' joint sign, .literal w place])

namespace Attribute

open Schema

/-- Keys and values after the name, with a comma before each and maybe a last comma. -/
inductive Lists : Source → List (String × Given) → Prop
  | nil : Lists [] []
  | comma (joint place) : Lists [.punct ',' joint place] []
  | cons {key g v rest ps} (j p k i q) : g.InTokens v → Lists rest ps →
      Lists (.punct ',' j p :: .ident key k :: .punct '=' i q :: (v ++ rest)) ((key, g) :: ps)

/-- Options that have the name and then some keys and values. -/
def ListsField (ts : Source) (name : String) (ps : List (String × Given)) : Prop :=
  ∃ w place marked rest, ts = .literal w place :: rest ∧ literal w = .text name marked ∧
    Lists rest ps

/-! One option. -/

def Value.plainText (v : Value) : Option String := v.text.map (·.1)

def asFlag : Given → Option Bool
  | .boolean b => some b
  | _ => none

def asText : Given → Option String
  | .text s => some s
  | _ => none

theorem boolean_eq_none {x : Value} (h : literal x.written ≠ .other) : x.boolean = none := by
  cases hx : x.boolean with
  | none => rfl
  | some b =>
      rw [Value.boolean_eq_some_iff.mp hx, literal_boolWord] at h
      exact absurd rfl h

theorem plainText_eq (x : Value) : x.plainText = match literal x.written with
    | .text s _ => some s
    | _ => none := by
  unfold Value.plainText Value.text
  cases literal x.written <;> rfl

theorem afterLiteral_inTokens {g : Given} {v : Source} (h : g.InTokens v) :
    ∃ x : Value, x.boolean = asFlag g ∧ x.plainText = asText g ∧
      ∀ rest, afterLiteral (v ++ rest) = some ((x.negative, x.written), x.place, rest) := by
  cases g with
  | text s =>
      obtain ⟨w, place, marked, rfl, hw⟩ := h
      exact ⟨⟨false, w, place⟩, boolean_eq_none (by simp [hw]), by simp [plainText_eq, hw, asText],
        fun _ => rfl⟩
  | boolean b =>
      obtain ⟨place, rfl⟩ := h
      exact ⟨⟨false, boolWord b, place⟩, Value.boolean_eq_some_iff.mpr rfl,
        by simp [plainText_eq, literal_boolWord, asText], fun _ => by cases b <;> rfl⟩
  | integer n =>
      obtain ⟨w, place, hw, ⟨-, rfl⟩ | ⟨-, joint, sign, rfl⟩⟩ := h
      · exact ⟨⟨false, w, place⟩, boolean_eq_none (by simp [hw]),
          by simp [plainText_eq, hw, asText], fun _ => rfl⟩
      · exact ⟨⟨true, w, sign.join place⟩, boolean_eq_none (by simp [hw]),
          by simp [plainText_eq, hw, asText], fun _ => by simp [afterLiteral, hw]⟩

/-- The field so far, unless the policy is unknown. -/
def Options.draft (o : Options) : Option FieldDraft :=
  match o.fallback with
  | none => some ⟨some o.name.value, o.nullable, none⟩
  | some s => (Policy.ofText? s.value).map fun p => ⟨some o.name.value, o.nullable, some p⟩

theorem Options.field_toOption (o : Options) :
    o.field.toOption = o.draft.bind (·.finish.toOption) := by
  unfold field draft
  cases o.fallback with
  | none => rfl
  | some s =>
      simp only [Policy.ofText]
      cases Policy.ofText? s.value <;> rfl

/-- The part of a field that is set with an option; the path of the runtime is none. -/
def Setting.part : Setting → Option Schema.Part
  | .nullable b => some (.nullable b)
  | .fallback s => (Policy.ofText? s.value).map .policy
  | .runtime _ => none

theorem setting_unknown {key : String} (hnullable : ¬(key = "nullable" ∨ key = "optional"))
    (hfallback : key ≠ "fallback") (hcrate : key ≠ "crate") (place : Span) (x : Value) :
    setting key place x = refuseAt place (.unknownOption key) := by
  simp only [setting, if_neg hnullable, if_neg hfallback, if_neg hcrate]

theorem setting_ne_runtime {key : String} (hcrate : key ≠ "crate") {place : Span} {x : Value}
    {s : Setting} (h : setting key place x = .ok s) (p : Syntax.Path) : s ≠ .runtime p := by
  rintro rfl
  unfold setting at h
  rw [if_neg hcrate] at h
  split at h
  · split at h <;> cases h
  split at h
  · split at h <;> cases h
  · cases h

section Parts

variable {g : Given} {x : Value}

theorem partOf_flag {key : String} (hkey : key = "nullable" ∨ key = "optional") :
    partOf key g.value = (asFlag g).map .nullable := by
  rcases hkey with rfl | rfl <;> cases g <;> rfl

theorem partOf_fallback : partOf "fallback" g.value =
    (asText g).bind fun s => (Policy.ofText? s).map .policy := by
  cases g with
  | text s =>
      change ((policyNamed s).toOption).map Part.policy = (Policy.ofText? s).map .policy
      unfold policyNamed
      cases Policy.ofText? s <;> rfl
  | boolean b => rfl
  | integer n => rfl

/-- An option gives the part of the field that an entry with the same key and value gives. Only the
name is not given as an option. -/
theorem part_setting (hflag : x.boolean = asFlag g) (htext : x.plainText = asText g) {key : String}
    (hname : key ≠ "name") (hcrate : key ≠ "crate") (place : Span) :
    (setting key place x).toOption.bind Setting.part = partOf key g.value := by
  by_cases hnullable : key = "nullable" ∨ key = "optional"
  · rw [partOf_flag hnullable, setting, if_pos hnullable, hflag]
    cases asFlag g <;> rfl
  by_cases hfallback : key = "fallback"
  · subst hfallback
    rw [partOf_fallback, ← htext, Value.plainText, setting, if_neg (by decide), if_pos rfl]
    cases x.text <;> rfl
  · rw [setting_unknown hnullable hfallback hcrate]
    simp only [partOf, if_neg hname, if_neg hnullable, if_neg hfallback]
    rfl

end Parts

theorem Options.draft_name {o : Options} {d : FieldDraft} (h : o.draft = some d) :
    d.name = some o.name.value := by
  unfold draft at h
  split at h
  · cases h
    rfl
  · obtain ⟨p, -, rfl⟩ := Option.map_eq_some_iff.mp h
    rfl

theorem draft_set_part {s : Setting} (hs : ∀ p, s ≠ .runtime p) (o : Options) (place : Span) :
    (o.set place s).toOption.bind Options.draft =
      o.draft.bind fun d => s.part.bind fun p => if d.has p then none else some (d.put p) := by
  obtain ⟨name, nullable, fallback, runtime⟩ := o
  cases s with
  | nullable b =>
      cases fallback with
      | none => cases nullable <;> rfl
      | some f =>
          cases hp : Policy.ofText? f.value <;> cases nullable <;>
            simp [Options.set, Options.draft, Setting.part, Except.toOption, refuseAt,
              FieldDraft.has, FieldDraft.put, hp]
  | fallback found =>
      cases fallback with
      | none =>
          cases hp : Policy.ofText? found.value <;>
            simp [Options.set, Options.draft, Setting.part, Except.toOption, FieldDraft.has,
              FieldDraft.put, hp]
      | some f =>
          simp only [Options.set, Options.draft, Setting.part]
          cases Policy.ofText? f.value <;> cases Policy.ofText? found.value <;> rfl
  | runtime p => exact absurd rfl (hs p)

/-- An option fills the field as an entry with the same key and value does. -/
theorem draft_set {g : Given} {x : Value} (hflag : x.boolean = asFlag g)
    (htext : x.plainText = asText g) {key : String} (hcrate : key ≠ "crate") (o : Options)
    (place : Span) :
    ((setting key place x).bind (o.set place)).toOption.bind Options.draft =
      o.draft.bind (·.take key g.value) := by
  by_cases hname : key = "name"
  · subst hname
    -- the name is there from the start
    have htake {d : FieldDraft} (hd : o.draft = some d) : d.take "name" g.value = none := by
      rw [FieldDraft.take, partOf, if_pos rfl]
      cases text g.value <;> simp [Except.toOption, FieldDraft.has, Options.draft_name hd]
    rw [setting_unknown (by decide) (by decide) hcrate]
    cases hd : o.draft with
    | none => rfl
    | some d => exact (htake hd).symm
  · have hpart := part_setting hflag htext hname hcrate place
    simp only [FieldDraft.take, ← hpart]
    cases hs : setting key place x with
    | error e => cases o.draft <;> rfl
    | ok s => exact draft_set_part (setting_ne_runtime hcrate hs) o place

/-- One option, and then the rest of them. -/
theorem extend_option {v rest : Source} {x : Value} {key : String} (hcrate : key ≠ "crate")
    (hafter : afterLiteral (v ++ rest) = some ((x.negative, x.written), x.place, rest))
    (o : Options) (j : Bool) (p k : Span) (i : Bool) (q : Span) :
    (o.extend (.punct ',' j p :: .ident key k :: .punct '=' i q :: (v ++ rest))).toOption =
      ((setting key k x).bind (o.set k)).toOption.bind fun o => (o.extend rest).toOption := by
  rw [Options.extend]
  by_cases hoption : isOption key = true
  · have hflagless : ¬ (key = "true" ∨ key = "false") := by
      rintro (rfl | rfl)
      · exact absurd hoption (by decide)
      · exact absurd hoption (by decide)
    rw [if_neg hflagless]
    simp only [hoption, Bool.not_true, Bool.false_eq_true, if_false]
    split
    · rename_i hvalue
      rw [hafter] at hvalue
      cases hvalue
      cases setting key k x with
      | error e => rfl
      | ok s =>
          change (do let o ← o.set k s; o.extend rest : Except Refusal Options).toOption = _
          cases ho : o.set k s with
          | error e => simp [Except.bind, ho]; rfl
          | ok o' => simp [Except.bind, ho]; rfl
    · rename_i hvalue
      rw [hafter] at hvalue
      cases hvalue
  · have hunknown : setting key k x = refuseAt k (.unknownOption key) := by
      simp only [isOption, List.contains_cons, List.contains_nil, Bool.or_false, Bool.or_eq_true,
        beq_iff_eq, not_or] at hoption
      obtain ⟨hnullable, hoptional, hfallback, -⟩ := hoption
      exact setting_unknown (not_or.mpr ⟨hnullable, hoptional⟩) hfallback hcrate k x
    rw [hunknown]
    split
    · rfl
    · simp [hoption, refuseAt, Except.bind, Except.toOption]

theorem draft_extend {ts : Source} {ps : List (String × Given)} (h : Lists ts ps)
    (hkeys : ∀ p ∈ ps, p.1 ≠ "crate") (o : Options) :
    (o.extend ts).toOption.bind Options.draft = o.draft.bind (takeAll · ps) := by
  induction h generalizing o with
  | nil =>
      rw [Options.extend]
      cases hd : o.draft <;> simp [Except.toOption, hd, takeAll]
  | comma =>
      rw [Options.extend]
      cases hd : o.draft <;> simp [Except.toOption, hd, takeAll]
  | @cons key g v rest ps j p k i q hv _ ih =>
      obtain ⟨x, hflag, htext, hafter⟩ := afterLiteral_inTokens hv
      have hcrate : key ≠ "crate" := hkeys (key, g) (by simp)
      have hset := draft_set hflag htext hcrate o k
      have hrest (o : Options) := ih (fun p hp => hkeys p (by simp [hp])) o
      have htake : (o.draft.bind fun d => takeAll d ((key, g) :: ps)) =
          (o.draft.bind (·.take key g.value)).bind (takeAll · ps) := (Option.bind_assoc ..).symm
      rw [extend_option hcrate (hafter rest), htake, ← hset, Option.bind_assoc, Option.bind_assoc]
      exact congrArg _ (funext hrest)

theorem read_listsField {ts : Source} {name : String} {ps : List (String × Given)}
    (h : ListsField ts name ps) (hkeys : ∀ p ∈ ps, p.1 ≠ "crate") :
    (Options.read ts).toOption.bind (·.field.toOption) =
      (takeAll ⟨some name, none, none⟩ ps).bind (·.finish.toOption) := by
  obtain ⟨w, place, marked, rest, rfl, hw, hrest⟩ := h
  have hdraft := draft_extend hrest hkeys ⟨⟨name, place⟩, none, none, none⟩
  have hread : Options.read (.literal w place :: rest) =
      Options.extend ⟨⟨name, place⟩, none, none, none⟩ rest := by
    simp only [Options.read, hw]
  rw [hread, funext Options.field_toOption, ← Option.bind_assoc, hdraft]
  rfl

/-! Every name and every list of keys and values can be written. -/

def codeOf (c : Char) : List Char := '\\' :: 'u' :: '\x7b' :: (hexOf 6 c.toNat ++ ['\x7d'])

theorem quoteStep_hexDigit {c : Char} {d : Nat} (h : hexDigit c = some d) (value : Nat)
    {digits : Nat} (hdigits : digits < 6) : quoteStep .text (.code value digits) c =
      .move (.code (16 * value + d) (digits + 1)) none := by
  have hbrace : (c == '\x7d') = false := by
    rw [beq_eq_false_iff_ne]
    rintro rfl
    cases (show hexDigit '\x7d' = none by decide).symm.trans h
  have hunderscore : (c == '_') = false := by
    rw [beq_eq_false_iff_ne]
    rintro rfl
    cases (show hexDigit '_' = none by decide).symm.trans h
  simp [quoteStep, hbrace, hunderscore, h, hdigits]

theorem readQuoted_code {ds : List Char} {vs : List Nat} (h : ds.mapM hexDigit = some vs)
    (value : Nat) {digits : Nat} (hdigits : digits + ds.length ≤ 6) (rest : List Char) :
    readQuoted .text (.code value digits) (ds ++ rest) =
      readQuoted .text (.code (vs.foldl (fun v d => 16 * v + d) value) (digits + ds.length))
        rest := by
  induction ds generalizing vs value digits with
  | nil =>
      cases h
      rfl
  | cons c ds ih =>
      rw [List.mapM_cons] at h
      obtain ⟨d, hd, h⟩ := Option.bind_eq_some_iff.mp h
      obtain ⟨vs, hvs, h⟩ := Option.bind_eq_some_iff.mp h
      cases h
      rw [List.length_cons] at hdigits
      have hfew : digits < 6 := by omega
      have hstep := quoteStep_hexDigit hd value hfew
      rw [List.cons_append, readQuoted, hstep]
      simp only
      rw [ih hvs _ (by omega), List.foldl_cons, List.length_cons]
      congr 2
      omega

theorem readQuoted_codeOf (c : Char) (rest : List Char) :
    readQuoted .text .plain (codeOf c ++ rest) =
      (readQuoted .text .plain rest).map fun (s, r) => (c :: s, r) := by
  obtain ⟨ds, hds, hlength, hvalue⟩ := hexOf_digits (toNat_lt c)
  have hfew : 0 + (hexOf 6 c.toNat).length ≤ 6 := by rw [hexOf_length]
  have hcode := readQuoted_code hds 0 hfew ('\x7d' :: rest)
  rw [hvalue, hexOf_length] at hcode
  have hclose : quoteStep .text (.code c.toNat (0 + 6)) '\x7d' = .move .plain (some c) := by
    simp [quoteStep, showCode, scalar_toNat]
  have hopen : readQuoted .text .plain (codeOf c ++ rest) =
      readQuoted .text (.code 0 0) (hexOf 6 c.toNat ++ '\x7d' :: rest) := by
    simp [codeOf]
    rfl
  rw [hopen, hcode, readQuoted, hclose]

theorem literal_codes (s : List Char) :
    literal (String.ofList ('"' :: (s.flatMap codeOf ++ ['"']))) = .text (String.ofList s) false := by
  have hread : readQuoted .text .plain (s.flatMap codeOf ++ ['"']) = some (s, []) := by
    induction s with
    | nil => rfl
    | cons c s ih =>
        rw [List.flatMap_cons, List.append_assoc, readQuoted_codeOf, ih]
        rfl
  unfold literal
  rw [String.toList_ofList]
  simp only [hread]
  rfl

theorem exists_inTokens (g : Given) : ∃ ts, g.InTokens ts := by
  cases g with
  | text s => exact ⟨_, _, ⟨0, 0⟩, false, rfl, by rw [literal_codes, String.ofList_toList]⟩
  | boolean b => exact ⟨_, ⟨0, 0⟩, rfl⟩
  | integer n =>
      have hnumber : literal "1" = .number := by decide
      by_cases hn : n < 0
      · exact ⟨_, "1", ⟨0, 0⟩, hnumber, .inr ⟨hn, false, ⟨0, 0⟩, rfl⟩⟩
      · exact ⟨_, "1", ⟨0, 0⟩, hnumber, .inl ⟨Int.not_lt.mp hn, rfl⟩⟩

theorem exists_lists (ps : List (String × Given)) : ∃ ts, Lists ts ps := by
  induction ps with
  | nil => exact ⟨[], .nil⟩
  | cons p ps ih =>
      obtain ⟨ts, hts⟩ := ih
      obtain ⟨v, hv⟩ := exists_inTokens p.2
      exact ⟨_, .cons false ⟨0, 0⟩ ⟨0, 0⟩ false ⟨0, 0⟩ hv hts⟩

theorem exists_listsField (name : String) (ps : List (String × Given)) :
    ∃ ts, ListsField ts name ps := by
  obtain ⟨ts, hts⟩ := exists_lists ps
  exact ⟨_, _, ⟨0, 0⟩, false, ts, rfl, by rw [literal_codes, String.ofList_toList], hts⟩

/-- Options and an entry in a table that have the same name, keys and values declare the same field,
or both are refused; which of the two depends on the keys and the values alone. -/
theorem field_options_agree_with_table (type name : String) {ps : List (String × Given)}
    (hkeys : ∀ p ∈ ps, Toml.isPlainKey p.1 = true ∧ p.1 ≠ "crate") :
    (∃ ts, ListsField ts name ps) ∧ (∃ text, DeclaresField text type name ps) ∧
    ∀ ts text, ListsField ts name ps → DeclaresField text type name ps →
      (∀ s, Schema.ofText text = .ok s ↔
        ∃ o f, Options.read ts = .ok o ∧ o.field = .ok f ∧ s = [⟨type, none, none, [f]⟩]) ∧
      ((∃ o f, Options.read ts = .ok o ∧ o.field = .ok f) ↔ Declarable ps) := by
  refine ⟨exists_listsField name ps, exists_declaresField type name fun p hp => (hkeys p hp).1,
    fun ts text hts htext => ?_⟩
  have hoptions := read_listsField hts fun p hp => (hkeys p hp).2
  have htable := ofText_declaresField htext
  have hread {f : DateField} : (∃ o, Options.read ts = .ok o ∧ o.field = .ok f) ↔
      (takeAll ⟨some name, none, none⟩ ps).bind (·.finish.toOption) = some f := by
    rw [← hoptions, Option.bind_eq_some_iff]
    simp only [toOption_eq_some_iff]
  constructor
  · intro s
    rw [← toOption_eq_some_iff, htable]
    constructor
    · intro hs
      obtain ⟨d, hd, hs⟩ := Option.bind_eq_some_iff.mp hs
      obtain ⟨f, hf, rfl⟩ := Option.map_eq_some_iff.mp hs
      obtain ⟨o, ho, hof⟩ := hread.mpr (Option.bind_eq_some_iff.mpr ⟨d, hd, hf⟩)
      exact ⟨o, f, ho, hof, rfl⟩
    · rintro ⟨o, f, ho, hof, rfl⟩
      obtain ⟨d, hd, hf⟩ := Option.bind_eq_some_iff.mp (hread.mp ⟨o, ho, hof⟩)
      exact Option.bind_eq_some_iff.mpr ⟨d, hd, Option.map_eq_some_iff.mpr ⟨f, hf, rfl⟩⟩
  · rw [← isSome_takeAll_iff_declarable name, exists_comm, Option.isSome_iff_exists]
    simp only [hread]
    constructor
    · rintro ⟨f, hf⟩
      obtain ⟨d, hd, -⟩ := Option.bind_eq_some_iff.mp hf
      exact ⟨d, hd⟩
    · rintro ⟨d, hd⟩
      obtain ⟨f, hf⟩ := finish_takeAll hd
      exact ⟨f, Option.bind_eq_some_iff.mpr ⟨d, hd, hf⟩⟩

theorem field_options_agree_with_table_optional :
    (∀ p ∈ [("optional", Given.boolean true), ("fallback", .text "error")],
      Toml.isPlainKey p.1 = true ∧ p.1 ≠ "crate") ∧
    ∃ ts text, ListsField ts "bedtime" [("optional", .boolean true), ("fallback", .text "error")] ∧
      DeclaresField text "Log" "bedtime" [("optional", .boolean true), ("fallback", .text "error")] ∧
      ∃ o f, Options.read ts = .ok o ∧ o.field = .ok f ∧
        Schema.ofText text = .ok [⟨"Log", none, none, [f]⟩] := by
  have hkeys : ∀ p ∈ [("optional", Given.boolean true), ("fallback", .text "error")],
      Toml.isPlainKey p.1 = true ∧ p.1 ≠ "crate" := by decide
  have hdeclarable : Declarable [("optional", .boolean true), ("fallback", .text "error")] := by
    refine ⟨?_, by decide, by decide⟩
    intro p hp
    rcases List.mem_pair.mp hp with rfl | rfl
    · exact .inl ⟨.inr rfl, true, rfl⟩
    · exact .inr ⟨rfl, .error, rfl⟩
  obtain ⟨⟨ts, hts⟩, ⟨text, htext⟩, hagree⟩ :=
    field_options_agree_with_table "Log" "bedtime" hkeys
  obtain ⟨hschema, hfield⟩ := hagree ts text hts htext
  obtain ⟨o, f, ho, hf⟩ := hfield.mpr hdeclarable
  exact ⟨hkeys, ts, text, hts, htext, o, f, ho, hf, (hschema _).mpr ⟨o, f, ho, hf, rfl⟩⟩

end Attribute

end ZonedAccessors
