import ZonedAccessors.Proofs.Accessor.Identifiers
import ZonedAccessors.Proofs.Attribute.Acceptance
import ZonedAccessors.Proofs.Attribute.Written
import ZonedAccessors.Proofs.Grammar.Places

/-!
Much can be wrong with an attribute at once. What is told is the first in a fixed order, and the
place that is told with it is that of a token of the attribute, or of the item below it.
-/

namespace ZonedAccessors.Attribute

open Token Grammar Syntax Unicode

/-! The first of several failures. -/

section First

variable {σ ρ α β : Type} {fails : σ → ρ → Prop} {x : Except ρ α} {f : α → Except ρ β} {r : ρ}

/-- One of `stages` fails with a refusal, and none before it fails. -/
inductive First (fails : σ → ρ → Prop) : List σ → ρ → Prop
  | here {stage stages r} : fails stage r → First fails (stage :: stages) r
  | later {stage stages r} : (∀ r', ¬ fails stage r') → First fails stages r →
      First fails (stage :: stages) r

theorem not_first_nil : ¬ First fails [] r := nofun

theorem first_cons_iff {stage : σ} {stages : List σ} : First fails (stage :: stages) r ↔
    fails stage r ∨ (∀ r', ¬ fails stage r') ∧ First fails stages r := by
  constructor
  · intro h
    cases h with
    | here h => exact .inl h
    | later hnone h => exact .inr ⟨hnone, h⟩
  · rintro (h | ⟨hnone, h⟩)
    · exact .here h
    · exact .later hnone h

theorem first_singleton_iff {stage : σ} : First fails [stage] r ↔ fails stage r := by
  simp [first_cons_iff, not_first_nil]

theorem first_append_iff {now later : List σ} : First fails (now ++ later) r ↔
    First fails now r ∨ (∀ r', ¬ First fails now r') ∧ First fails later r := by
  induction now with
  | nil => simp [not_first_nil]
  | cons stage now ih =>
      have hnone : (∀ r', ¬ First fails (stage :: now) r') ↔
          (∀ r', ¬ fails stage r') ∧ ∀ r', ¬ First fails now r' := by
        simp only [first_cons_iff, not_or, forall_and]
        exact and_congr_right fun h => by simp [h]
      rw [List.cons_append, first_cons_iff, first_cons_iff, ih, hnone]
      tauto

theorem First.exists_mem {stages : List σ} (h : First fails stages r) :
    ∃ stage ∈ stages, fails stage r := by
  induction h with
  | here h => exact ⟨_, List.mem_cons_self, h⟩
  | later _ _ ih =>
      obtain ⟨stage, hmem, h⟩ := ih
      exact ⟨stage, List.mem_cons_of_mem _ hmem, h⟩

theorem exists_first_iff {stages : List σ} :
    (∃ r, First fails stages r) ↔ ∃ stage ∈ stages, ∃ r, fails stage r := by
  constructor
  · rintro ⟨r, h⟩
    obtain ⟨stage, hmem, h⟩ := h.exists_mem
    exact ⟨stage, hmem, r, h⟩
  · rintro ⟨stage, hmem, r, h⟩
    induction stages with
    | nil => cases hmem
    | cons first stages ih =>
        by_cases hfirst : ∃ r', fails first r'
        · obtain ⟨r', h'⟩ := hfirst
          exact ⟨r', .here h'⟩
        · have hlater : stage ∈ stages :=
            (List.mem_cons.mp hmem).resolve_left fun heq => hfirst ⟨r, heq ▸ h⟩
          obtain ⟨r', h'⟩ := ih hlater
          exact ⟨r', .later (not_exists.mp hfirst) h'⟩

/-- One step and then others fail as the stages of the step and then those of the others. -/
theorem bind_error_iff_first {now later : List σ} (hx : ∀ r, x = .error r ↔ First fails now r)
    (hf : ∀ a, x = .ok a → (f a = .error r ↔ First fails later r)) :
    x >>= f = .error r ↔ First fails (now ++ later) r := by
  rw [first_append_iff]
  cases x with
  | error r₀ =>
      have hfirst : First fails now r₀ := (hx r₀).mp rfl
      have herror : (.error r₀ >>= f : Except ρ β) = .error r ↔
          (.error r₀ : Except ρ α) = .error r := by
        simp [bind, Except.bind]
      rw [herror, hx r, or_iff_left fun h => h.1 r₀ hfirst]
  | ok a =>
      have hnone (r' : ρ) : ¬ First fails now r' := fun h => nomatch (hx r').mpr h
      simp only [hnone, not_false_eq_true, implies_true, true_and, false_or]
      exact hf a rfl

end First

/-! The stages. -/

inductive Half where
  | utc
  | tz
  deriving DecidableEq, Repr

def Half.field (a : Accessor) : Half → String
  | .utc => a.utcField
  | .tz => a.tzField

inductive Stage where
  | options
  | item
  | struct
  | policy
  | name
  | namedFields
  | present (half : Half)
  | optionality (half : Half)
  deriving DecidableEq, Repr

def Stage.order : List Stage :=
  [.options, .item, .struct, .policy, .name, .namedFields, .present .utc, .optionality .utc,
    .present .tz, .optionality .tz]

/-- Why a text names no field. -/
inductive Nameless (text : String) : DeclarationError → Prop
  | empty : (∀ c ∈ text.toList, isBlank c = true) → Nameless text .emptyName
  | invalid : (∃ c ∈ text.toList, isBlank c = false) →
      ¬ (Name.Worded text.toList ∧ Identifier (Name.normalised text)) →
      Nameless text (.invalidName text (Name.normalised text))

/-- The options ask for `a`, and the struct has `fields`. -/
structure Asks (options item : Source) (o : Options) (a : Accessor) (s : Struct)
    (fields : List Syntax.Field) : Prop where
  read : Options.read options = .ok o
  accessor : ∃ f, o.Declares f ∧ f.accessor = .ok a
  struct : Grammar.read declared item = .ok (.struct s)
  named : ∃ trailing, s.shape = .named fields trailing

/-- The refusal of one stage, whatever the stages before it say. -/
def Stage.Fails (options item : Source) : Stage → Refusal → Prop
  | .options, r => Options.read options = .error r
  | .item, r => ∃ fault, read declared item = .error fault ∧ r = .ofFault .item fault
  | .struct, r => ∃ place, read declared item = .ok (.other place) ∧
      r = ⟨.item, some place, false, .notStruct⟩
  | .policy, r => ∃ o, Options.read options = .ok o ∧ ∃ t, o.fallback = some t ∧
      (∀ p : Policy, t.value ≠ p.text) ∧
      r = ⟨.options, some t.place, false, .declaration (.unknownPolicy t.value)⟩
  | .name, r => ∃ o, Options.read options = .ok o ∧ ∃ e, Nameless o.name.value e ∧
      r = ⟨.options, some o.name.place, false, .declaration e⟩
  | .namedFields, r => ∃ s, read declared item = .ok (.struct s) ∧
      (∀ fields trailing, s.shape ≠ .named fields trailing) ∧
      r = ⟨.item, some s.place, false, .unnamedFields⟩
  | .present half, r => ∃ o a s fields, Asks options item o a s fields ∧
      (∀ f ∈ fields, f.name ≠ some (half.field a)) ∧
      r = ⟨.options, some o.name.place, false, .missingField s.name (half.field a) a⟩
  | .optionality half, r => ∃ o a s fields f, Asks options item o a s fields ∧
      FirstNamed (half.field a) fields f ∧ ¬ (OptionType f.type ↔ a.nullable = true) ∧
      r = ⟨.item, some f.place, false,
        if a.nullable then .notOptional (half.field a) a.name else .optional (half.field a)⟩

variable {options item : Source} {o : Options} {a : Accessor} {s : Struct} {r : Refusal}
  {f : DateField} {fields : List Syntax.Field} {half : Half}

theorem nameless_iff {e : DeclarationError} : Nameless f.name e ↔ f.accessor = .error e := by
  have hblank : (∀ c ∈ f.name.toList, isBlank c = true) ↔ Name.isBlankText f.name = true := by
    rw [Name.isBlankText, List.all_eq_true]
  have hfilled : (∃ c ∈ f.name.toList, isBlank c = false) ↔ Name.isBlankText f.name = false := by
    rw [← Bool.not_eq_true, ← hblank]
    simp
  have hnamed : Name.Worded f.name.toList ∧ Identifier (Name.normalised f.name) ↔
      (Name.isWordText f.name && Name.isIdentifier (Name.normalised f.name)) = true := by
    rw [Bool.and_eq_true, Name.isWordText_iff, isIdentifier_iff]
  unfold DateField.accessor
  constructor
  · rintro (h | ⟨hsome, hnot⟩)
    · rw [if_pos (hblank.mp h)]
    · rw [if_neg (Bool.eq_false_iff.mp (hfilled.mp hsome)), if_neg (mt hnamed.mpr hnot)]
  · intro h
    split at h
    · rename_i hall
      cases h
      exact .empty (hblank.mpr hall)
    · rename_i hsome
      split at h
      · cases h
      · rename_i hnot
        cases h
        exact .invalid (hfilled.mpr (Bool.eq_false_iff.mpr hsome)) (mt hnamed.mp hnot)

theorem readStruct_error_iff : readStruct item = .error r ↔
    First (Stage.Fails options item) [.item, .struct] r := by
  rw [first_cons_iff, first_singleton_iff]
  unfold readStruct Stage.Fails
  cases read declared item with
  | error fault => simp [eq_comm]
  | ok found => cases found <;> simp [refuseItem, eq_comm]

theorem readStruct_ok_iff : readStruct item = .ok s ↔ read declared item = .ok (.struct s) := by
  unfold readStruct
  cases read declared item with
  | error fault => simp
  | ok found => cases found <;> simp [refuseItem]

theorem ofText?_eq_none_iff {text : String} :
    Policy.ofText? text = none ↔ ∀ p : Policy, text ≠ p.text := by
  simp only [Option.eq_none_iff_forall_ne_some, ne_eq, Policy.ofText?_eq_some_iff]

theorem field_error_iff (ho : Options.read options = .ok o) :
    o.field = .error r ↔ First (Stage.Fails options item) [.policy] r := by
  rw [first_singleton_iff]
  unfold Options.field
  simp only [Stage.Fails, ho, Except.ok.injEq, exists_eq_left', ← ofText?_eq_none_iff]
  cases o.fallback with
  | none => simp
  | some t =>
      simp only [Option.some.injEq, exists_eq_left', Policy.ofText]
      cases Policy.ofText? t.value <;> simp [refuseAt, eq_comm]

def Options.accessor (o : Options) (f : DateField) : Except Refusal Accessor :=
  f.accessor.mapError fun e => ⟨.options, some o.name.place, false, .declaration e⟩

theorem expand_eq (options item : Source) : expand options item = do
    let o ← Options.read options
    let s ← readStruct item
    let f ← o.field
    let a ← o.accessor f
    check s a o.name.place
    return ⟨s, .ofStruct s o.runtime, a⟩ := by
  unfold expand Options.accessor
  refine bind_congr fun o => bind_congr fun s => bind_congr fun f => ?_
  cases f.accessor <;> rfl

theorem accessor_error_iff (ho : Options.read options = .ok o) (hf : o.Declares f) :
    o.accessor f = .error r ↔ First (Stage.Fails options item) [.name] r := by
  rw [first_singleton_iff]
  unfold Options.accessor
  simp only [Stage.Fails, ho, Except.ok.injEq, exists_eq_left', ← hf.1, nameless_iff]
  cases f.accessor <;> simp [Except.mapError, eq_comm]

theorem Options.accessor_ok_iff : o.accessor f = .ok a ↔ f.accessor = .ok a := by
  unfold Options.accessor
  cases f.accessor <;> simp [Except.mapError]

theorem fields_error_iff (hs : read declared item = .ok (.struct s)) :
    Struct.fields s = .error r ↔ First (Stage.Fails options item) [.namedFields] r := by
  rw [first_singleton_iff]
  unfold Struct.fields
  simp only [Stage.Fails, hs, Except.ok.injEq, Declared.struct.injEq, exists_eq_left']
  cases s.shape <;> simp [refuseItem, eq_comm]

theorem Asks.unique {o' : Options} {a' : Accessor} {s' : Struct} {fields' : List Syntax.Field}
    (h : Asks options item o a s fields) (h' : Asks options item o' a' s' fields') :
    o' = o ∧ a' = a ∧ s' = s ∧ fields' = fields := by
  obtain ⟨ho, ⟨f, hf, ha⟩, hs, trailing, hshape⟩ := h
  obtain ⟨ho', ⟨f', hf', ha'⟩, hs', trailing', hshape'⟩ := h'
  rw [ho] at ho'
  cases ho'
  rw [hs] at hs'
  cases hs'
  rw [hshape] at hshape'
  cases hshape'
  rw [← field_ok_iff] at hf hf'
  rw [hf] at hf'
  cases hf'
  rw [ha] at ha'
  cases ha'
  exact ⟨rfl, rfl, rfl, rfl⟩

theorem findField_eq_none_iff {name : String} :
    findField name fields = none ↔ ∀ f ∈ fields, f.name ≠ some name := by
  simp [findField]

theorem present_fails_iff (h : Asks options item o a s fields) :
    (Stage.present half).Fails options item r ↔ findField (half.field a) fields = none ∧
      r = ⟨.options, some o.name.place, false, .missingField s.name (half.field a) a⟩ := by
  rw [findField_eq_none_iff]
  constructor
  · rintro ⟨o', a', s', fields', h', hnone, rfl⟩
    obtain ⟨rfl, rfl, rfl, rfl⟩ := h.unique h'
    exact ⟨hnone, rfl⟩
  · rintro ⟨hnone, rfl⟩
    exact ⟨o, a, s, fields, h, hnone, rfl⟩

theorem optionality_fails_iff (h : Asks options item o a s fields) :
    (Stage.optionality half).Fails options item r ↔ ∃ f, findField (half.field a) fields = some f ∧
      isOptional f.type ≠ a.nullable ∧ r = ⟨.item, some f.place, false,
        if a.nullable then .notOptional (half.field a) a.name else .optional (half.field a)⟩ := by
  have htype (f : Syntax.Field) :
      isOptional f.type ≠ a.nullable ↔ ¬ (OptionType f.type ↔ a.nullable = true) := by
    rw [← isOptional_iff, ← Bool.eq_iff_iff]
  simp only [findField_eq_some_iff, htype]
  constructor
  · rintro ⟨o', a', s', fields', f, h', hfirst, hother, rfl⟩
    obtain ⟨rfl, rfl, rfl, rfl⟩ := h.unique h'
    exact ⟨f, hfirst, hother, rfl⟩
  · rintro ⟨f, hfirst, hother, rfl⟩
    exact ⟨o, a, s, fields, f, h, hfirst, hother, rfl⟩

theorem checkField_error_iff (h : Asks options item o a s fields) (half : Half) :
    checkField s fields a o.name.place (half.field a) = .error r ↔
      First (Stage.Fails options item) [.present half, .optionality half] r := by
  rw [first_cons_iff, first_singleton_iff]
  simp only [present_fails_iff h, optionality_fails_iff h]
  unfold checkField
  cases findField (half.field a) fields with
  | none => simp [refuseAt, eq_comm (a := r)]
  | some f =>
      simp only [Option.some.injEq, exists_eq_left']
      cases a.nullable <;> cases isOptional f.type <;> simp [refuseItem, eq_comm (a := r)]

theorem check_error_iff (ho : Options.read options = .ok o) (hf : o.Declares f)
    (ha : f.accessor = .ok a) (hs : read declared item = .ok (.struct s)) :
    check s a o.name.place = .error r ↔ First (Stage.Fails options item)
      [.namedFields, .present .utc, .optionality .utc, .present .tz, .optionality .tz] r := by
  refine bind_error_iff_first (fun r => fields_error_iff hs) fun fields hfields => ?_
  have h : Asks options item o a s fields := by
    refine ⟨ho, ⟨f, hf, ha⟩, hs, ?_⟩
    unfold Struct.fields at hfields
    split at hfields
    · rename_i trailing hshape
      cases hfields
      exact ⟨trailing, hshape⟩
    · cases hfields
  exact bind_error_iff_first (fun r => checkField_error_iff h .utc) fun _ _ =>
    checkField_error_iff h .tz

theorem expand_error_iff : expand options item = .error r ↔
    First (Stage.Fails options item) Stage.order r := by
  have hread (r : Refusal) : Options.read options = .error r ↔
      First (Stage.Fails options item) [.options] r := by
    rw [first_singleton_iff, Stage.Fails]
  rw [expand_eq]
  refine bind_error_iff_first hread fun o ho => ?_
  refine bind_error_iff_first (fun r => readStruct_error_iff) fun s hs => ?_
  refine bind_error_iff_first (fun r => field_error_iff ho) fun f hf => ?_
  rw [field_ok_iff] at hf
  rw [readStruct_ok_iff] at hs
  refine bind_error_iff_first (fun r => accessor_error_iff ho hf) fun a ha => ?_
  rw [Options.accessor_ok_iff] at ha
  rw [← check_error_iff ho hf ha hs]
  cases check s a o.name.place <;> simp [bind, Except.bind, pure, Except.pure]

/-! Places. -/

def FallbackIn (us : Source) (t : Located String) : Prop :=
  ∃ front j p k i q written marked more,
    us = front ++ .punct ',' j p :: .ident "fallback" k :: .punct '=' i q ::
      .literal written t.place :: more ∧ literal written = .text t.value marked

/-- Of `us` the options are written, the name first. -/
structure OptionsIn (us : Source) (o : Options) : Prop where
  name : ∃ written marked more, us = .literal written o.name.place :: more ∧
    literal written = .text o.name.value marked
  fallback : ∀ t, o.fallback = some t → FallbackIn us t

theorem FallbackIn.append {us : Source} {t : Located String} (h : FallbackIn us t)
    (before : Source) : FallbackIn (before ++ us) t := by
  obtain ⟨front, j, p, k, i, q, written, marked, more, rfl, ht⟩ := h
  exact ⟨before ++ front, j, p, k, i, q, written, marked, more, by rw [List.append_assoc], ht⟩

theorem setting_fallback {key : String} {k : Span} {v : Value} {t : Located String}
    (h : setting key k v = .ok (.fallback t)) :
    key = "fallback" ∧ t.place = v.place ∧ ∃ marked, literal v.written = .text t.value marked := by
  unfold setting at h
  split at h
  · split at h <;> cases h
  split at h
  · rename_i hkey
    split at h
    · rename_i text marked htext
      cases h
      exact ⟨hkey, rfl, marked, Value.text_eq_some_iff.mp htext⟩
    · cases h
  split at h
  · split at h
    · cases h
    · split at h <;> cases h
  · cases h

theorem Options.set_keeps {o o' : Options} {k : Span} {x : Setting} (h : o.set k x = .ok o') :
    o'.name = o.name ∧ ∀ t, o'.fallback = some t → o.fallback = some t ∨ x = .fallback t := by
  cases x with
  | nullable | runtime =>
      simp only [Options.set] at h
      split at h
      · cases h
      · cases h
        exact ⟨rfl, fun t ht => .inl ht⟩
  | fallback text =>
      simp only [Options.set] at h
      split at h
      · cases h
      · cases h
        exact ⟨rfl, fun t ht => .inr (congrArg _ (Option.some.inj ht))⟩

/-- The fallback of the result was there before, or has been read. -/
theorem extend_keeps {o o' : Options} {ts : Source} (h : o.extend ts = .ok o') :
    o'.name = o.name ∧ ∀ t, o'.fallback = some t → o.fallback = some t ∨ FallbackIn ts t := by
  fun_induction Options.extend o ts with
  | case1 o | case2 o =>
      cases h
      exact ⟨rfl, fun t ht => .inl ht⟩
  | case5 o j p key k _ i q value _ negative w at' more hv ih =>
      obtain ⟨x, hx, h⟩ := bind_ok_iff.mp h
      obtain ⟨o₁, ho, h⟩ := bind_ok_iff.mp h
      obtain ⟨hname, hset⟩ := Options.set_keeps ho
      obtain ⟨hname', hmore⟩ := ih o₁ h
      refine ⟨hname'.trans hname, fun t ht => ?_⟩
      rcases hmore t ht with hold | hnew
      · refine (hset t hold).imp_right fun hfallback => ?_
        subst hfallback
        obtain ⟨rfl, hplace, marked, htext⟩ := setting_fallback hx
        obtain rfl := literal_of_text hv htext
        exact ⟨[], j, p, k, i, q, w, marked, more, by rw [hplace]; rfl, htext⟩
      · obtain ⟨front, hfront⟩ : more <:+ value :=
          (afterLiteral_suffix (Edge.admits_nil _ _) hv).1
        right
        rw [← hfront]
        exact hnew.append (_ :: _ :: _ :: front)
  | _ => cases h

theorem optionsIn_of_read (h : Options.read options = .ok o) : OptionsIn options o := by
  unfold Options.read at h
  split at h
  · rename_i written place more
    split at h
    · rename_i text marked htext
      obtain ⟨hname, hfallback⟩ := extend_keeps h
      refine ⟨⟨written, marked, more, by rw [hname], by rw [hname]; exact htext⟩, fun t ht => ?_⟩
      have hin : FallbackIn more t := (hfallback t ht).resolve_left nofun
      exact hin.append [_]
    · cases h
  · cases h

theorem Half.field_ne_underscore (half : Half) (a : Accessor) : half.field a ≠ "_" := by
  intro h
  have hchars := congrArg String.toList h
  cases half <;>
    simp [field, Accessor.utcField, Accessor.tzField, List.append_eq_singleton_iff] at hchars

theorem Asks.typedIn (h : Asks options item o a s fields) {f : Syntax.Field}
    (hf : FirstNamed (half.field a) fields f) : ∃ front body q,
      item = front ++ [.group .brace body q] ∧ TypedIn body (half.field a) f.type f.place := by
  obtain ⟨trailing, hshape⟩ := h.named
  obtain ⟨hname, before, after, rfl, -⟩ := hf
  exact (structIn_of_read h.struct).typedIn hshape (by simp) hname (half.field_ne_underscore a)

/-- Of all that is wrong the first in order is told. The places told with it are those of the name
of the options, the text of their fallback, the name of the struct, the type of a field or all of
the item. -/
theorem expand_tells_first_failure (options item : Source) :
    (∀ r, expand options item = .error r ↔ First (Stage.Fails options item) Stage.order r) ∧
    (∀ o, Options.read options = .ok o → OptionsIn options o) ∧
    (∀ s, read declared item = .ok (.struct s) → StructIn item s) ∧
    (∀ o a s fields (half : Half) f, Asks options item o a s fields →
      FirstNamed (half.field a) fields f →
      ∃ front body q, item = front ++ [.group .brace body q] ∧
        TypedIn body (half.field a) f.type f.place) ∧
    ∀ place, read declared item = .ok (.other place) → extent item = some place :=
  ⟨fun _ => expand_error_iff, fun _ => optionsIn_of_read, fun _ => structIn_of_read,
    fun _ _ _ _ _ _ h hf => h.typedIn hf, fun _ => extent_of_read⟩

end ZonedAccessors.Attribute
