import ZonedAccessors.Proofs.Schema.Filling
import ZonedAccessors.Proofs.Toml.Reordering

/-!
What the tables of a schema say. A table is decoded just if every key of it is known and every value
is of its kind; no key is passed over, and the order of the keys says nothing.
-/

namespace ZonedAccessors.Schema

open Toml

variable {es fs : TableEntries} {own : List String} {key : String} {α : Type}

/-! What stands at the keys of a part. -/

def Found (es : TableEntries) (own : List String) : Option Value → Prop
  | some v => ∃ key ∈ own, (key, v) ∈ es ∧ ∀ e ∈ es, e.1 ∈ own → e = (key, v)
  | none => ∀ e ∈ es, e.1 ∉ own

def AtMostOne (es : TableEntries) (own : List String) : Prop :=
  ∀ e ∈ es, ∀ e' ∈ es, e.1 ∈ own → e'.1 ∈ own → e = e'

theorem atMostOne_of_nodup (hkeys : (es.map Prod.fst).Nodup) : AtMostOne es [key] := by
  intro e he e' he' hkey hkey'
  rw [List.mem_singleton] at hkey hkey'
  exact List.inj_on_of_nodup_map hkeys he he' (hkey.trans hkey'.symm)

theorem found_some_iff {v : Value} (hkeys : (es.map Prod.fst).Nodup) :
    Found es [key] (some v) ↔ (key, v) ∈ es := by
  constructor
  · rintro ⟨key', hkey, hmem, -⟩
    rwa [← List.mem_singleton.mp hkey]
  · intro hmem
    refine ⟨key, List.mem_singleton_self key, hmem, fun e he hkey => ?_⟩
    exact atMostOne_of_nodup hkeys e he _ hmem hkey (List.mem_singleton_self key)

theorem fills_iff_found {β : Type} {value : β → Value} {read : Value → Decoded α} {old new : α}
    (hkind : ∀ e ∈ es, e.1 ∈ own → read e.2 = .ok new → ∃ b, e.2 = value b) :
    Fills es own read old new ↔ ∃ o : Option β, Found es own (o.map value) ∧
      o.elim (old = new) fun b => read (value b) = .ok new := by
  constructor
  · rintro (⟨⟨key, v⟩, he, hown, hone, hread⟩ | ⟨hnone, hnew⟩)
    · obtain ⟨b, rfl⟩ := hkind _ he hown hread
      exact ⟨some b, ⟨key, hown, he, hone⟩, hread⟩
    · exact ⟨none, hnone, hnew⟩
  · rintro ⟨_ | b, hfound, hread⟩
    · exact .inr ⟨hfound, hread⟩
    · obtain ⟨key, hown, he, hone⟩ := hfound
      exact .inl ⟨(key, value b), he, hown, hone, hread⟩

theorem fills_optional_iff {read : Value → Decoded α} {value : α → Value} {o : Option α}
    (hread : ∀ e ∈ es, e.1 ∈ own → ∀ a, read e.2 = .ok a ↔ e.2 = value a) :
    Fills es own (optional read) none o ↔ Found es own (o.map value) := by
  have hkind : ∀ e ∈ es, e.1 ∈ own → optional read e.2 = .ok o → ∃ a, e.2 = value a := by
    intro e he hkey ho
    obtain ⟨a, ha, -⟩ := optional_ok_iff.mp ho
    exact ⟨a, (hread e he hkey a).mp ha⟩
  have hvalue {a : α} (hfound : Found es own (some (value a))) : read (value a) = .ok a := by
    obtain ⟨key, hkey, he, -⟩ := hfound
    exact (hread _ he hkey a).mpr rfl
  rw [fills_iff_found hkind]
  constructor
  · rintro ⟨_ | a, hfound, ho⟩
    · obtain rfl : none = o := ho
      exact hfound
    · obtain ⟨a', ha', rfl⟩ := optional_ok_iff.mp ho
      obtain rfl : a = a' := by simpa [hvalue hfound] using ha'
      exact hfound
  · intro hfound
    cases o with
    | none => exact ⟨none, hfound, rfl⟩
    | some a => exact ⟨some a, hfound, optional_ok_iff.mpr ⟨a, hvalue hfound, rfl⟩⟩

/-- Some value of the kind is found, or none, just if all that stands there is of the kind. -/
theorem exists_found_iff {value : α → Value} : (∃ o : Option α, Found es own (o.map value)) ↔
    AtMostOne es own ∧ ∀ e ∈ es, e.1 ∈ own → ∃ a, e.2 = value a := by
  constructor
  · rintro ⟨_ | a, hfound⟩
    · exact ⟨fun e he _ _ hkey => absurd hkey (hfound e he),
        fun e he hkey => absurd hkey (hfound e he)⟩
    · obtain ⟨key, -, -, hone⟩ := hfound
      refine ⟨fun e he e' he' hkey hkey' => ?_, fun e he hkey => ?_⟩
      · rw [hone e he hkey, hone e' he' hkey']
      · exact ⟨a, by rw [hone e he hkey]⟩
  · rintro ⟨hone, hkind⟩
    by_cases hnone : ∀ e ∈ es, e.1 ∉ own
    · exact ⟨none, hnone⟩
    · push Not at hnone
      obtain ⟨⟨key, v⟩, he, hkey⟩ := hnone
      obtain ⟨a, rfl⟩ := hkind _ he hkey
      exact ⟨some a, key, hkey, he, fun e' he' hkey' => hone e' he' _ he hkey' hkey⟩

/-! What a table says. -/

structure FieldGives (es : TableEntries) (f : DateField) : Prop where
  known : ∀ e ∈ es, e.1 ∈ fieldKeys
  name : Found es ["name"] (some (.text f.name))
  nullable : ∃ b : Option Bool, Found es flagKeys (b.map .boolean) ∧ b.getD false = f.nullable
  policy : ∃ p : Option Policy, Found es ["fallback"] (p.map fun q => .text q.text) ∧
    p.getD .local = f.policy

def arrayOf (tables : List TableEntries) : Value := .array (tables.map .table)

/-- The tables of an array say these, one each and in order; without an array they are none. -/
def Lists (gives : TableEntries → α → Prop) (es : TableEntries) (key : String) (xs : List α) :
    Prop :=
  ∃ tables : Option (List TableEntries), Found es [key] (tables.map arrayOf) ∧
    List.Forall₂ gives (tables.getD []) xs

structure TypeGives (es : TableEntries) (t : TypeEntry) : Prop where
  known : ∀ e ∈ es, e.1 ∈ typeKeys
  name : Found es ["name"] (some (.text t.name))
  visibility : Found es ["vis"] (t.visibility.map .text)
  runtime : Found es ["crate"] (t.runtime.map .text)
  fields : Lists FieldGives es "fields" t.fields

structure Gives (es : TableEntries) (s : Schema) : Prop where
  known : ∀ e ∈ es, e.1 ∈ ["types"]
  types : Lists TypeGives es "types" s

/-! The shape of a schema: types and fields in arrays of tables, and policies by name. What stands
at other keys does not matter to it. -/

def ShapedWith (key : String) (shaped : TableEntries → Prop) (es : TableEntries) : Prop :=
  ∀ e ∈ es, e.1 = key → ∃ tables, e.2 = arrayOf tables ∧ ∀ t ∈ tables, shaped t

def FieldShaped (es : TableEntries) : Prop := ∀ e ∈ es, e.1 = "fallback" → e.2.IsScalar

def TypeShaped : TableEntries → Prop := ShapedWith "fields" FieldShaped

def Shaped : TableEntries → Prop := ShapedWith "types" TypeShaped

theorem arrayOf_injective : Function.Injective arrayOf := by
  have htable : Function.Injective Value.table := fun _ _ => Value.table.inj
  intro ts us h
  exact List.map_injective_iff.mpr htable (Value.array.inj h)

theorem listOf_arrayOf_iff {read : Value → Decoded α} {tables : List TableEntries} {xs : List α} :
    listOf read (arrayOf tables) = .ok xs ↔
      List.Forall₂ (fun t x => read (.table t) = .ok x) tables xs := by
  rw [listOf_ok_iff, arrayOf]
  simp only [Value.array.injEq, exists_eq_left', List.forall₂_map_left_iff]

/-! The shape can be checked. -/

def table? : Value → Option TableEntries
  | .table entries => some entries
  | _ => none

def tables? : Value → Option (List TableEntries)
  | .array items => items.mapM table?
  | _ => none

theorem table?_eq_some_iff {v : Value} : table? v = some es ↔ v = .table es := by
  cases v <;> simp [table?]

theorem tables?_eq_some_iff {v : Value} {tables : List TableEntries} :
    tables? v = some tables ↔ v = arrayOf tables := by
  cases v with
  | array items =>
      simp only [tables?, arrayOf, Value.array.injEq]
      induction items generalizing tables with
      | nil => simp [eq_comm]
      | cons item items ih =>
          simp only [List.mapM_cons, Option.bind_eq_bind, Option.bind_eq_some_iff, ih,
            table?_eq_some_iff, Option.pure_def, Option.some.injEq]
          constructor
          · rintro ⟨es, rfl, ts, rfl, rfl⟩
            rfl
          · intro h
            obtain ⟨es, ts, rfl, rfl, rfl⟩ := List.map_eq_cons_iff.mp h.symm
            exact ⟨es, rfl, ts, rfl, rfl⟩
  | _ => simp [tables?, arrayOf]

instance : DecidablePred Value.IsScalar
  | .text _ | .integer _ | .real _ | .boolean _ | .moment => isTrue trivial
  | .array _ | .table _ => isFalse id

instance {shaped : TableEntries → Prop} [DecidablePred shaped] (v : Value) :
    Decidable (∃ tables, v = arrayOf tables ∧ ∀ t ∈ tables, shaped t) :=
  decidable_of_iff (∃ tables ∈ tables? v, ∀ t ∈ tables, shaped t) (by
    simp only [Option.mem_def, tables?_eq_some_iff])

instance {shaped : TableEntries → Prop} [DecidablePred shaped] :
    DecidablePred (ShapedWith key shaped) := fun es =>
  inferInstanceAs (Decidable (∀ e ∈ es, e.1 = key →
    ∃ tables, e.2 = arrayOf tables ∧ ∀ t ∈ tables, shaped t))

instance : DecidablePred FieldShaped := fun es =>
  inferInstanceAs (Decidable (∀ e ∈ es, e.1 = "fallback" → e.2.IsScalar))

instance : DecidablePred TypeShaped :=
  inferInstanceAs (DecidablePred (ShapedWith "fields" FieldShaped))

instance : DecidablePred Shaped := inferInstanceAs (DecidablePred (ShapedWith "types" TypeShaped))

section Tables

variable {shaped : TableEntries → Prop} {gives : TableEntries → α → Prop}
  {tables : List TableEntries}

theorem ShapedWith.of_mem (h : ShapedWith key shaped es) (hmem : (key, arrayOf tables) ∈ es) :
    ∀ t ∈ tables, shaped t := by
  obtain ⟨ts, hts, hshaped⟩ := h _ hmem rfl
  obtain rfl := arrayOf_injective hts
  exact hshaped

theorem distinct_of_mem (h : (Value.table es).Distinct) (hmem : (key, arrayOf tables) ∈ es) :
    ∀ t ∈ tables, (Value.table t).Distinct := by
  have hitems := Value.distinct_array_iff.mp ((Value.distinct_table_iff.mp h).2 _ hmem)
  exact fun t ht => hitems _ (List.mem_map_of_mem ht)

theorem fills_listOf_iff {read : Value → Decoded α} {xs : List α}
    (hshaped : ShapedWith key shaped es) (hdistinct : (Value.table es).Distinct)
    (hread : ∀ {t x}, shaped t → (Value.table t).Distinct → (read (.table t) = .ok x ↔ gives t x)) :
    Fills es [key] (listOf read) [] xs ↔ Lists gives es key xs := by
  have hlist {ts : List TableEntries} (hfound : Found es [key] (some (arrayOf ts))) :
      listOf read (arrayOf ts) = .ok xs ↔ List.Forall₂ gives ts xs := by
    obtain ⟨key', hkey, hmem, -⟩ := hfound
    rw [List.mem_singleton.mp hkey] at hmem
    have hts : ∀ t ∈ ts, shaped t ∧ (Value.table t).Distinct := fun t ht =>
      ⟨hshaped.of_mem hmem t ht, distinct_of_mem hdistinct hmem t ht⟩
    rw [listOf_arrayOf_iff]
    -- `hread` needs the shape of each table, which `forall₂_and_left` carries along
    constructor
    · intro h
      exact ((List.forall₂_and_left _ _).mpr ⟨hts, h⟩).imp fun t x h => (hread h.1.1 h.1.2).mp h.2
    · intro h
      exact ((List.forall₂_and_left _ _).mpr ⟨hts, h⟩).imp fun t x h => (hread h.1.1 h.1.2).mpr h.2
  have hkind : ∀ e ∈ es, e.1 ∈ [key] → listOf read e.2 = .ok xs → ∃ ts, e.2 = arrayOf ts := by
    intro e he hkey _
    obtain ⟨ts, hts, -⟩ := hshaped e he (List.mem_singleton.mp hkey)
    exact ⟨ts, hts⟩
  rw [fills_iff_found hkind, Lists]
  refine exists_congr fun o => and_congr_right fun hfound => ?_
  cases o with
  | none => simp [eq_comm]
  | some ts => exact hlist hfound

end Tables

/-! Decoding. -/

theorem FieldDraft.finish_ok_iff {d : FieldDraft} {f : DateField} : d.finish = .ok f ↔
    d.name = some f.name ∧ d.nullable.getD false = f.nullable ∧
      d.policy.getD .local = f.policy := by
  obtain ⟨name, nullable, policy⟩ := d
  obtain ⟨name', nullable', policy'⟩ := f
  cases name <;> simp [finish]

theorem TypeDraft.finish_ok_iff {d : TypeDraft} {t : TypeEntry} : d.finish = .ok t ↔
    d.name = some t.name ∧ d.visibility = t.visibility ∧ d.runtime = t.runtime ∧
      d.fields = t.fields := by
  obtain ⟨name, visibility, runtime, fields⟩ := d
  obtain ⟨name', visibility', runtime', fields'⟩ := t
  cases name <;> simp [finish]

theorem field_table_ok_iff {f : DateField} (hshaped : FieldShaped es)
    (hdistinct : (Value.table es).Distinct) : field (.table es) = .ok f ↔ FieldGives es f := by
  have hkeys := (Value.distinct_table_iff.mp hdistinct).1
  have hfold (d : FieldDraft) : es.foldlM FieldDraft.add ⟨none, none, none⟩ = .ok d ↔
      (∀ e ∈ es, e.1 ∈ fieldKeys) ∧ Found es ["name"] (d.name.map .text) ∧
      Found es flagKeys (d.nullable.map .boolean) ∧
      Found es ["fallback"] (d.policy.map fun q => .text q.text) := by
    -- an empty draft has no flag, so the guard lets the first one in
    rw [FieldDraft.foldlM_add_iff hkeys, FillsOnce, eq_self, true_or, true_and,
      fills_optional_iff fun e he hkey a => text_ok_iff,
      fills_optional_iff fun e he hkey a => boolean_ok_iff,
      fills_optional_iff fun e he hkey a =>
        policy_ok_iff (hshaped e he (List.mem_singleton.mp hkey))]
  simp only [field, bind_ok_iff, hfold, FieldDraft.finish_ok_iff]
  constructor
  · rintro ⟨d, ⟨hknown, hname, hflag, hpolicy⟩, hn, hb, hp⟩
    rw [hn] at hname
    exact ⟨hknown, hname, ⟨_, hflag, hb⟩, ⟨_, hpolicy, hp⟩⟩
  · rintro ⟨hknown, hname, ⟨b, hflag, hb⟩, ⟨p, hpolicy, hp⟩⟩
    exact ⟨⟨some f.name, b, p⟩, ⟨hknown, hname, hflag, hpolicy⟩, rfl, hb, hp⟩

theorem typeEntry_table_ok_iff {t : TypeEntry} (hshaped : TypeShaped es)
    (hdistinct : (Value.table es).Distinct) :
    typeEntry (.table es) = .ok t ↔ TypeGives es t := by
  have hkeys := (Value.distinct_table_iff.mp hdistinct).1
  have hfold (d : TypeDraft) : es.foldlM TypeDraft.add ⟨none, none, none, []⟩ = .ok d ↔
      (∀ e ∈ es, e.1 ∈ typeKeys) ∧ Found es ["name"] (d.name.map .text) ∧
      Found es ["vis"] (d.visibility.map .text) ∧ Found es ["crate"] (d.runtime.map .text) ∧
      Lists FieldGives es "fields" d.fields := by
    rw [TypeDraft.foldlM_add_iff hkeys, fills_listOf_iff hshaped hdistinct field_table_ok_iff]
    simp only [fills_optional_iff fun e he hkey a => text_ok_iff]
  simp only [typeEntry, bind_ok_iff, hfold, TypeDraft.finish_ok_iff]
  constructor
  · rintro ⟨⟨name, _, _, _⟩, ⟨hknown, hname, hvis, hcrate, hfields⟩, rfl, rfl, rfl, rfl⟩
    exact ⟨hknown, hname, hvis, hcrate, hfields⟩
  · rintro ⟨hknown, hname, hvis, hcrate, hfields⟩
    exact ⟨⟨some t.name, t.visibility, t.runtime, t.fields⟩,
      ⟨hknown, hname, hvis, hcrate, hfields⟩, rfl, rfl, rfl, rfl⟩

theorem decode_ok_iff_gives {s : Schema} (hshaped : Shaped es)
    (hdistinct : (Value.table es).Distinct) : decode es = .ok s ↔ Gives es s := by
  rw [decode_ok_iff (Value.distinct_table_iff.mp hdistinct).1,
    fills_listOf_iff hshaped hdistinct typeEntry_table_ok_iff]
  exact ⟨fun h => ⟨h.1, h.2⟩, fun h => ⟨h.known, h.types⟩⟩

/-! Which tables are decoded. -/

structure FieldConforms (es : TableEntries) : Prop where
  known : ∀ e ∈ es, e.1 ∈ fieldKeys
  name : ∃ s, ("name", .text s) ∈ es
  flag : ∀ e ∈ es, e.1 ∈ flagKeys → ∃ b, e.2 = .boolean b
  once : AtMostOne es flagKeys
  fallback : ∀ v, ("fallback", v) ∈ es → v = .text "local" ∨ v = .text "error"

structure TypeConforms (es : TableEntries) : Prop where
  known : ∀ e ∈ es, e.1 ∈ typeKeys
  name : ∃ s, ("name", .text s) ∈ es
  visibility : ∀ v, ("vis", v) ∈ es → ∃ s, v = .text s
  runtime : ∀ v, ("crate", v) ∈ es → ∃ s, v = .text s
  fields : ∀ tables, ("fields", arrayOf tables) ∈ es → ∀ t ∈ tables, FieldConforms t

structure Conforms (es : TableEntries) : Prop where
  known : ∀ e ∈ es, e.1 = "types"
  types : ∀ tables, ("types", arrayOf tables) ∈ es → ∀ t ∈ tables, TypeConforms t

theorem exists_found_singleton_iff {value : α → Value} (hkeys : (es.map Prod.fst).Nodup) :
    (∃ o : Option α, Found es [key] (o.map value)) ↔ ∀ v, (key, v) ∈ es → ∃ a, v = value a := by
  rw [exists_found_iff, and_iff_right (atMostOne_of_nodup hkeys)]
  constructor
  · intro h v hv
    exact h _ hv (List.mem_singleton_self key)
  · rintro h ⟨key', v⟩ hv hkey
    obtain rfl := List.mem_singleton.mp hkey
    exact h v hv

theorem exists_forall₂_iff {β : Type} {R : α → β → Prop} {as : List α} :
    (∃ bs, List.Forall₂ R as bs) ↔ ∀ a ∈ as, ∃ b, R a b := by
  induction as with
  | nil => simp
  | cons a as ih =>
      simp only [List.forall₂_cons_left_iff, List.forall_mem_cons, ← ih]
      constructor
      · rintro ⟨_, b, bs, hb, hbs, rfl⟩
        exact ⟨⟨b, hb⟩, bs, hbs⟩
      · rintro ⟨⟨b, hb⟩, bs, hbs⟩
        exact ⟨b :: bs, b, bs, hb, hbs, rfl⟩

theorem exists_lists_iff {shaped conforms : TableEntries → Prop} {gives : TableEntries → α → Prop}
    (hshaped : ShapedWith key shaped es) (hdistinct : (Value.table es).Distinct)
    (hgives : ∀ {t}, shaped t → (Value.table t).Distinct → ((∃ x, gives t x) ↔ conforms t)) :
    (∃ xs, Lists gives es key xs) ↔
      ∀ tables, (key, arrayOf tables) ∈ es → ∀ t ∈ tables, conforms t := by
  have hkeys := (Value.distinct_table_iff.mp hdistinct).1
  have hall {ts : List TableEntries} (hmem : (key, arrayOf ts) ∈ es) :
      (∃ xs, List.Forall₂ gives ts xs) ↔ ∀ t ∈ ts, conforms t := by
    rw [exists_forall₂_iff]
    exact forall₂_congr fun t ht =>
      hgives (hshaped.of_mem hmem t ht) (distinct_of_mem hdistinct hmem t ht)
  constructor
  · rintro ⟨xs, o, hfound, hxs⟩ ts hmem
    cases o with
    | none => exact absurd (List.mem_singleton_self key) (hfound _ hmem)
    | some us =>
        -- what was found at the key is what stands there
        obtain rfl : ts = us := by
          obtain ⟨_, -, -, honly⟩ := hfound
          exact arrayOf_injective (congrArg Prod.snd (honly _ hmem (List.mem_singleton_self key)))
        exact (hall hmem).mp ⟨xs, hxs⟩
  · intro hconforms
    have hsome : ∃ o : Option (List TableEntries), Found es [key] (o.map arrayOf) :=
      (exists_found_singleton_iff hkeys).mpr fun v hv =>
        (hshaped _ hv rfl).imp fun _ h => h.1
    obtain ⟨o, hfound⟩ := hsome
    cases o with
    | none => exact ⟨[], none, hfound, .nil⟩
    | some ts =>
        have hmem := (found_some_iff hkeys).mp hfound
        obtain ⟨xs, hxs⟩ := (hall hmem).mpr (hconforms ts hmem)
        exact ⟨xs, some ts, hfound, hxs⟩

theorem exists_fieldGives_iff (hdistinct : (Value.table es).Distinct) :
    (∃ f, FieldGives es f) ↔ FieldConforms es := by
  have hkeys := (Value.distinct_table_iff.mp hdistinct).1
  have hpolicy : (∃ p : Option Policy, Found es ["fallback"] (p.map fun q => .text q.text)) ↔
      ∀ v, ("fallback", v) ∈ es → v = .text "local" ∨ v = .text "error" := by
    rw [exists_found_singleton_iff hkeys]
    refine forall₂_congr fun v _ => ⟨?_, ?_⟩
    · rintro ⟨_ | _, rfl⟩
      · exact .inl rfl
      · exact .inr rfl
    · rintro (rfl | rfl)
      · exact ⟨.local, rfl⟩
      · exact ⟨.error, rfl⟩
  constructor
  · rintro ⟨f, hknown, hname, ⟨b, hflag, -⟩, ⟨p, hfallback, -⟩⟩
    obtain ⟨honce, hkind⟩ := exists_found_iff.mp ⟨b, hflag⟩
    exact ⟨hknown, ⟨_, (found_some_iff hkeys).mp hname⟩, hkind, honce, hpolicy.mp ⟨p, hfallback⟩⟩
  · rintro ⟨hknown, ⟨n, hname⟩, hkind, honce, hfallback⟩
    obtain ⟨b, hflag⟩ := exists_found_iff.mpr ⟨honce, hkind⟩
    obtain ⟨p, hfallback⟩ := hpolicy.mpr hfallback
    exact ⟨⟨n, b.getD false, p.getD .local⟩, hknown, (found_some_iff hkeys).mpr hname,
      ⟨b, hflag, rfl⟩, ⟨p, hfallback, rfl⟩⟩

theorem exists_typeGives_iff (hshaped : TypeShaped es) (hdistinct : (Value.table es).Distinct) :
    (∃ t, TypeGives es t) ↔ TypeConforms es := by
  have hkeys := (Value.distinct_table_iff.mp hdistinct).1
  have htext {key : String} : (∃ o : Option String, Found es [key] (o.map .text)) ↔
      ∀ v, (key, v) ∈ es → ∃ s, v = .text s := exists_found_singleton_iff hkeys
  have hfields := exists_lists_iff hshaped hdistinct fun _ h => exists_fieldGives_iff h
  constructor
  · rintro ⟨t, hknown, hname, hvis, hcrate, hlists⟩
    exact ⟨hknown, ⟨_, (found_some_iff hkeys).mp hname⟩, htext.mp ⟨_, hvis⟩, htext.mp ⟨_, hcrate⟩,
      hfields.mp ⟨_, hlists⟩⟩
  · rintro ⟨hknown, ⟨n, hname⟩, hvis, hcrate, hconform⟩
    obtain ⟨w, hvis⟩ := htext.mpr hvis
    obtain ⟨r, hcrate⟩ := htext.mpr hcrate
    obtain ⟨fs, hlists⟩ := hfields.mpr hconform
    exact ⟨⟨n, w, r, fs⟩, hknown, (found_some_iff hkeys).mpr hname, hvis, hcrate, hlists⟩

theorem exists_gives_iff (hshaped : Shaped es) (hdistinct : (Value.table es).Distinct) :
    (∃ s, Gives es s) ↔ Conforms es := by
  have htypes := exists_lists_iff hshaped hdistinct exists_typeGives_iff
  constructor
  · rintro ⟨s, hknown, hlists⟩
    exact ⟨fun e he => List.mem_singleton.mp (hknown e he), htypes.mp ⟨s, hlists⟩⟩
  · rintro ⟨hknown, hconform⟩
    obtain ⟨s, hlists⟩ := htypes.mpr hconform
    exact ⟨s, fun e he => List.mem_singleton.mpr (hknown e he), hlists⟩

/-! Keys in another order. -/

section Reordered

variable {o : Option Value}

theorem forall_key_of_reorders {P : String → Prop} (h : (Value.table es).Reorders (.table fs))
    (hes : ∀ e ∈ es, P e.1) : ∀ f ∈ fs, P f.1 := by
  rintro ⟨key, w⟩ hf
  obtain ⟨v, hv, -⟩ := h.symm.exists_mem hf
  exact hes (key, v) hv

theorem Found.reorders (h : (Value.table es).Reorders (.table fs)) (hkeys : (fs.map Prod.fst).Nodup)
    (hfound : Found es own o) : ∃ o', Found fs own o' ∧ Option.Rel Value.Reorders o o' := by
  cases o with
  | none => exact ⟨none, forall_key_of_reorders (P := (· ∉ own)) h hfound, .none⟩
  | some v =>
      obtain ⟨key, hown, hv, hone⟩ := hfound
      obtain ⟨w, hw, hvw⟩ := h.exists_mem hv
      refine ⟨some w, ⟨key, hown, hw, fun f hf hkey => ?_⟩, .some hvw⟩
      obtain ⟨u, hu, -⟩ := h.symm.exists_mem hf
      have heq : f.1 = key := congrArg Prod.fst (hone _ hu hkey)
      exact List.inj_on_of_nodup_map hkeys hf hw heq

theorem Found.reorders_scalar {value : α → Value} {o : Option α}
    (h : (Value.table es).Reorders (.table fs)) (hkeys : (fs.map Prod.fst).Nodup)
    (hfound : Found es own (o.map value)) (hvalue : ∀ a, (value a).IsScalar) :
    Found fs own (o.map value) := by
  obtain ⟨o', hfound', hrel⟩ := hfound.reorders h hkeys
  cases o with
  | none =>
      cases hrel
      exact hfound'
  | some a =>
      cases hrel with
      | some hv =>
        rw [hv.eq_of_scalar (hvalue a)] at hfound'
        exact hfound'

/-- Tables stay in their order, so what they say does. -/
theorem Lists.reorders {gives : TableEntries → α → Prop} {xs : List α}
    (h : (Value.table es).Reorders (.table fs)) (hfs : (Value.table fs).Distinct)
    (hgives : ∀ {t u x}, (Value.table t).Reorders (.table u) → (Value.table u).Distinct →
      gives t x → gives u x)
    (hlists : Lists gives es key xs) : Lists gives fs key xs := by
  have hkeys := (Value.distinct_table_iff.mp hfs).1
  obtain ⟨o, hfound, hxs⟩ := hlists
  obtain ⟨o', hfound', hrel⟩ := hfound.reorders h hkeys
  cases o with
  | none =>
      cases hrel
      exact ⟨none, hfound', hxs⟩
  | some ts =>
      obtain hw | _ := hrel
      obtain ⟨us, rfl, hus⟩ := hw.forall₂_of_tables
      have hdistinct := distinct_of_mem hfs ((found_some_iff hkeys).mp hfound')
      refine ⟨some us, hfound', ?_⟩
      -- both arrays are as long, so what is given is compared table by table
      clear hfound hfound' hw
      change List.Forall₂ gives ts xs at hxs
      change List.Forall₂ gives us xs
      induction hus generalizing xs with
      | nil => exact hxs
      | cons hu _ ih =>
          obtain _ | ⟨hx, hxs⟩ := hxs
          rw [List.forall_mem_cons] at hdistinct
          exact .cons (hgives hu hdistinct.1 hx) (ih hdistinct.2 hxs)

theorem ShapedWith.reorders {shaped : TableEntries → Prop}
    (h : (Value.table es).Reorders (.table fs))
    (hshaped : ∀ {t u}, (Value.table t).Reorders (.table u) → shaped t → shaped u)
    (hes : ShapedWith key shaped es) : ShapedWith key shaped fs := by
  rintro ⟨_, w⟩ hf rfl
  obtain ⟨v, hv, hwv⟩ := h.symm.exists_mem hf
  obtain ⟨ts, rfl, hts⟩ := hes _ hv rfl
  obtain ⟨us, rfl, hus⟩ := hwv.symm.forall₂_of_tables
  refine ⟨us, rfl, ?_⟩
  clear hwv hv hf hes
  induction hus with
  | nil => exact nofun
  | cons hu _ ih =>
      rw [List.forall_mem_cons] at hts ⊢
      exact ⟨hshaped hu hts.1, ih hts.2⟩

theorem FieldGives.reorders {f : DateField} (h : (Value.table es).Reorders (.table fs))
    (hfs : (Value.table fs).Distinct) (hgives : FieldGives es f) : FieldGives fs f := by
  have hkeys := (Value.distinct_table_iff.mp hfs).1
  obtain ⟨hknown, hname, ⟨b, hflag, hb⟩, ⟨p, hpolicy, hp⟩⟩ := hgives
  exact ⟨forall_key_of_reorders (P := (· ∈ fieldKeys)) h hknown,
    hname.reorders_scalar (o := some f.name) h hkeys (fun _ => trivial),
    ⟨b, hflag.reorders_scalar h hkeys (fun _ => trivial), hb⟩,
    ⟨p, hpolicy.reorders_scalar h hkeys (fun _ => trivial), hp⟩⟩

theorem TypeGives.reorders {t : TypeEntry} (h : (Value.table es).Reorders (.table fs))
    (hfs : (Value.table fs).Distinct) (hgives : TypeGives es t) : TypeGives fs t := by
  have hkeys := (Value.distinct_table_iff.mp hfs).1
  obtain ⟨hknown, hname, hvis, hcrate, hfields⟩ := hgives
  exact ⟨forall_key_of_reorders (P := (· ∈ typeKeys)) h hknown,
    hname.reorders_scalar (o := some t.name) h hkeys (fun _ => trivial),
    hvis.reorders_scalar h hkeys (fun _ => trivial),
    hcrate.reorders_scalar h hkeys (fun _ => trivial),
    hfields.reorders h hfs FieldGives.reorders⟩

theorem Gives.reorders {s : Schema} (h : (Value.table es).Reorders (.table fs))
    (hfs : (Value.table fs).Distinct) (hgives : Gives es s) : Gives fs s :=
  ⟨forall_key_of_reorders (P := (· ∈ ["types"])) h hgives.known,
    hgives.types.reorders h hfs TypeGives.reorders⟩

theorem FieldShaped.reorders (h : (Value.table es).Reorders (.table fs)) (hes : FieldShaped es) :
    FieldShaped fs := by
  rintro ⟨_, w⟩ hf rfl
  obtain ⟨v, hv, hwv⟩ := h.symm.exists_mem hf
  have hscalar : v.IsScalar := hes _ hv rfl
  rwa [hwv.symm.eq_of_scalar hscalar]

theorem Shaped.reorders (h : (Value.table es).Reorders (.table fs)) (hes : Shaped es) : Shaped fs :=
  ShapedWith.reorders h (fun h ht => ShapedWith.reorders h FieldShaped.reorders ht) hes

theorem decode_reorders {s : Schema} (h : (Value.table es).Reorders (.table fs)) (hes : Shaped es)
    (hdistinct : (Value.table es).Distinct) : decode fs = .ok s ↔ decode es = .ok s := by
  have hfs := h.distinct hdistinct
  rw [decode_ok_iff_gives hes hdistinct, decode_ok_iff_gives (hes.reorders h) hfs]
  exact ⟨fun hgives => hgives.reorders h.symm hdistinct, fun hgives => hgives.reorders h hfs⟩

end Reordered

/-- A document in the shape of a schema is decoded just if its tables conform, as what they give,
and with its keys in any other order as the same. -/
theorem ofText_ok_iff_conforms {text : String} {entries : TableEntries}
    (htoml : document text = some entries) (hshaped : Shaped entries) :
    ((∃ s, ofText text = .ok s) ↔ Conforms entries) ∧
    (∀ s, ofText text = .ok s ↔ Gives entries s) ∧
    ∀ others s, (Value.table entries).Reorders (.table others) →
      (decode others = .ok s ↔ ofText text = .ok s) := by
  have hdistinct := distinct_of_document htoml
  have hdecode (s : Schema) : ofText text = .ok s ↔ decode entries = .ok s := by
    simp only [ofText, htoml]
    cases decode entries <;> simp
  have hgives (s : Schema) : ofText text = .ok s ↔ Gives entries s := by
    rw [hdecode, decode_ok_iff_gives hshaped hdistinct]
  refine ⟨?_, hgives, fun others s h => ?_⟩
  · simp only [hgives]
    exact exists_gives_iff hshaped hdistinct
  · rw [hdecode]
    exact decode_reorders h hshaped hdistinct

def logText : String :=
  "[[types]]\nvis = \"pub\"\nname = \"Log\"\n" ++
    "fields = [\x7b optional = true, name = \"seen_at\" \x7d]\n"

/-- A flag by its other name, in front of the name of the field. -/
theorem ofText_ok_iff_conforms_log : ∃ entries, document logText = some entries ∧
    Shaped entries ∧ Conforms entries ∧
    ofText logText = .ok [⟨"Log", some "pub", none, [⟨"seen_at", true, .local⟩]⟩] := by
  have hread : ofText logText = .ok [⟨"Log", some "pub", none, [⟨"seen_at", true, .local⟩]⟩] :=
    toOption_eq_some_iff.mp (by decide +kernel)
  have hshape : ((document logText).any fun entries => decide (Shaped entries)) = true := by
    decide +kernel
  obtain ⟨entries, htoml, hshaped⟩ := (Option.any_eq_true ..).mp hshape
  obtain ⟨hconforms, -, -⟩ := ofText_ok_iff_conforms htoml (of_decide_eq_true hshaped)
  exact ⟨entries, htoml, of_decide_eq_true hshaped, hconforms.mp ⟨_, hread⟩, hread⟩

end ZonedAccessors.Schema
