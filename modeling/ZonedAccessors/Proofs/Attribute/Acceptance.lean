import ZonedAccessors.Attribute.Expansion
import ZonedAccessors.Proofs.Accessor.OwnFields
import ZonedAccessors.Proofs.Grammar.Reader
import Mathlib.Data.List.Find
import Mathlib.Data.List.Nodup

/-!
When an attribute is expanded, and what its block depends on.
-/

namespace ZonedAccessors.Attribute

open Token Grammar Syntax

def OptionType (t : Ty) : Prop :=
  ∃ p turbofish inner args trailing, t = .path p ∧
    p.last = some (.angled "Option" turbofish (.type inner :: args) trailing)

theorem isOptional_iff {t : Ty} : isOptional t = true ↔ OptionType t := by
  unfold isOptional OptionType
  split
  · rename_i p
    split
    · rename_i turbofish inner args trailing h
      simp only [true_iff]
      exact ⟨p, turbofish, inner, args, trailing, rfl, h⟩
    · rename_i h
      simp only [Bool.false_eq_true, false_iff]
      rintro ⟨q, turbofish, inner, args, trailing, hq, hlast⟩
      cases hq
      exact h turbofish inner args trailing hlast
  · rename_i h
    simp only [Bool.false_eq_true, false_iff]
    rintro ⟨q, turbofish, inner, args, trailing, hq, -⟩
    exact h q hq

def FirstNamed (name : String) (fields : List Syntax.Field) (f : Syntax.Field) : Prop :=
  f.name = some name ∧
    ∃ before after, fields = before ++ f :: after ∧ ∀ g ∈ before, g.name ≠ some name

theorem findField_eq_some_iff {name : String} {fields : List Syntax.Field} {f : Syntax.Field} :
    findField name fields = some f ↔ FirstNamed name fields f := by
  simp [findField, FirstNamed, List.find?_eq_some_iff_append]

def Stores (nullable : Bool) (name : String) (fields : List Syntax.Field) : Prop :=
  ∃ f, FirstNamed name fields f ∧ (OptionType f.type ↔ nullable = true)

theorem checkField_ok_iff {s : Struct} {fields : List Syntax.Field} {a : Accessor} {blame : Span}
    {name : String} : checkField s fields a blame name = .ok () ↔ Stores a.nullable name fields := by
  unfold checkField Stores
  split
  · rename_i h
    simp only [refuseAt, reduceCtorEq, false_iff]
    rintro ⟨f, hf, -⟩
    rw [findField_eq_some_iff.mpr hf] at h
    cases h
  · rename_i f h
    have hfirst : ∀ g, FirstNamed name fields g ↔ g = f := by
      intro g
      rw [← findField_eq_some_iff, h, Option.some.injEq, eq_comm]
    simp only [hfirst, exists_eq_left, ← isOptional_iff]
    cases a.nullable <;> cases isOptional f.type <;> simp [refuseItem]

theorem check_ok_iff {s : Struct} {a : Accessor} {blame : Span} :
    check s a blame = .ok () ↔ ∃ fields trailing, s.shape = .named fields trailing ∧
      Stores a.nullable a.utcField fields ∧ Stores a.nullable a.tzField fields := by
  unfold check Struct.fields
  split
  · rename_i fields trailing h
    simp only [h, Shape.named.injEq, bind_ok_iff, Except.ok.injEq, exists_eq_left']
    constructor
    · rintro ⟨⟨⟩, hu, ht⟩
      exact ⟨fields, trailing, ⟨rfl, rfl⟩, checkField_ok_iff.mp hu, checkField_ok_iff.mp ht⟩
    · rintro ⟨_, _, ⟨rfl, rfl⟩, hu, ht⟩
      exact ⟨(), checkField_ok_iff.mpr hu, checkField_ok_iff.mpr ht⟩
  · rename_i h
    constructor
    · intro hc
      cases hc
    · rintro ⟨fields, trailing, hs, -⟩
      exact absurd hs (h fields trailing)

/-- The fallback names a policy, and none is as good as the local one. -/
def Options.Declares (o : Options) (f : DateField) : Prop :=
  f.name = o.name.value ∧ f.nullable = o.nullable.getD false ∧
    (o.fallback.map Located.value).getD "local" = f.policy.text

theorem field_ok_iff {o : Options} {f : DateField} : o.field = .ok f ↔ o.Declares f := by
  obtain ⟨n, b, p⟩ := f
  unfold Options.field Options.Declares
  split
  · rename_i h
    simp only [h, Option.map_none, Option.getD_none, ← Policy.ofText?_eq_some_iff, Policy.ofText?]
    simp [eq_comm]
  · rename_i t h
    simp only [h, Option.map_some, Option.getD_some, ← Policy.ofText?_eq_some_iff, Policy.ofText]
    cases Policy.ofText? t.value with
    | none => simp [refuseAt]
    | some q => simp [eq_comm]

structure Accepts (o : Options) (s : Struct) (a : Accessor) : Prop where
  declares : ∃ f, o.Declares f ∧ f.accessor = .ok a
  stores : ∃ fields trailing, s.shape = .named fields trailing ∧
    Stores (o.nullable.getD false) a.utcField fields ∧
    Stores (o.nullable.getD false) a.tzField fields

theorem accessor_nullable {f : DateField} {a : Accessor} (h : f.accessor = .ok a) :
    a.nullable = f.nullable := by
  rw [(DateField.accessor_ok_iff.mp h).2.2.2]

theorem expand_ok_iff {options item : Source} {e : Expansion} :
    expand options item = .ok e ↔ ∃ o s a, Options.read options = .ok o ∧
      readStruct item = .ok s ∧ Accepts o s a ∧ e = ⟨s, .ofStruct s o.runtime, a⟩ := by
  constructor
  · intro h
    unfold expand at h
    obtain ⟨o, ho, h⟩ := bind_ok_iff.mp h
    obtain ⟨s, hs, h⟩ := bind_ok_iff.mp h
    obtain ⟨f, hf, h⟩ := bind_ok_iff.mp h
    cases ha : f.accessor with
    | error r =>
        rw [ha] at h
        cases h
    | ok a =>
        rw [ha] at h
        obtain ⟨_, ⟨⟩, h⟩ := bind_ok_iff.mp h
        obtain ⟨_, hc, h⟩ := bind_ok_iff.mp h
        have hdeclares := field_ok_iff.mp hf
        have hstores := check_ok_iff.mp hc
        rw [accessor_nullable ha, hdeclares.2.1] at hstores
        cases h
        exact ⟨o, s, a, ho, hs, ⟨⟨f, hdeclares, ha⟩, hstores⟩, rfl⟩
  · rintro ⟨o, s, a, ho, hs, ⟨⟨f, hf, ha⟩, hstores⟩, rfl⟩
    rw [← hf.2.1, ← accessor_nullable ha] at hstores
    have hc : check s a o.name.place = .ok () := check_ok_iff.mpr hstores
    simp [expand, bind, Except.bind, ho, hs, field_ok_iff.mpr hf, ha, hc, pure, Except.pure]

def storedFields (a : Accessor) (fields : List Syntax.Field) : List (Option String × Ty) :=
  (fields.map fun f => (f.name, f.type)).filter fun p =>
    p.1 == some a.utcField || p.1 == some a.tzField

/-- Fields that store a date as others do, whatever stands beside them; two that store it may swap
places if their names are distinct. -/
def SameStored (a : Accessor) (fields others : List Syntax.Field) : Prop :=
  storedFields a fields = storedFields a others ∨
    (storedFields a fields).Perm (storedFields a others) ∧
      ((storedFields a fields).map Prod.fst).Nodup

theorem find_storedFields {a : Accessor} {name : String}
    (h : name = a.utcField ∨ name = a.tzField) (fields : List Syntax.Field) :
    (storedFields a fields).find? (fun p => p.1 == some name) =
      (findField name fields).map fun f => (f.name, f.type) := by
  rw [storedFields, List.find?_filter, List.find?_map, findField]
  congr 2
  funext f
  rcases h with rfl | rfl <;> simp +contextual [beq_eq_decide]

theorem SameStored.find_eq {a : Accessor} {fields others : List Syntax.Field}
    (h : SameStored a fields others) (name : String) :
    (storedFields a fields).find? (fun p => p.1 == some name) =
      (storedFields a others).find? fun p => p.1 == some name := by
  rcases h with h | ⟨hperm, hnodup⟩
  · rw [h]
  · -- with distinct names no more than one entry has the name
    refine List.find?_eq_find?_of_perm hperm ?_
    rintro p ⟨hp, hpn⟩ q ⟨hq, hqn⟩
    refine List.inj_on_of_nodup_map hnodup hp hq ?_
    rw [beq_iff_eq] at hpn hqn
    rw [hpn, hqn]

theorem stores_iff_find {nullable : Bool} {name : String} {fields : List Syntax.Field} :
    Stores nullable name fields ↔ ∃ p, (findField name fields).map (fun f => (f.name, f.type)) =
      some p ∧ (OptionType p.2 ↔ nullable = true) := by
  simp only [Stores, ← findField_eq_some_iff, Option.map_eq_some_iff]
  constructor
  · rintro ⟨f, hf, ht⟩
    exact ⟨_, ⟨f, hf, rfl⟩, ht⟩
  · rintro ⟨_, ⟨f, hf, rfl⟩, ht⟩
    exact ⟨f, hf, ht⟩

theorem SameStored.stores_iff {a : Accessor} {fields others : List Syntax.Field}
    (h : SameStored a fields others) {name : String} (hn : name = a.utcField ∨ name = a.tzField)
    (nullable : Bool) : Stores nullable name fields ↔ Stores nullable name others := by
  rw [stores_iff_find, stores_iff_find, ← find_storedFields hn, ← find_storedFields hn, h.find_eq]

structure SameHead (s t : Struct) : Prop where
  visibility : s.visibility = t.visibility
  name : s.name = t.name
  generics : s.generics = t.generics
  conditions : s.conditions = t.conditions

theorem SameHead.target_eq {s t : Struct} (h : SameHead s t) (r : Option Path) :
    Target.ofStruct s r = Target.ofStruct t r := by
  simp only [Target.ofStruct, h.visibility, h.name, h.generics, h.conditions]

/-- Where the block has `self.` for no stored field, the struct or the attribute was written with it: in
its parameters, its conditions or the path of its runtime. -/
theorem expand_ok_iff_accepts (options item : Source) :
    ((∃ e, expand options item = .ok e) ↔
      ∃ o s a, Options.read options = .ok o ∧ readStruct item = .ok s ∧ Accepts o s a) ∧
    ∀ e, expand options item = .ok e → ∃ o fields trailing u t,
      Options.read options = .ok o ∧ readStruct item = .ok e.struct ∧
      e.struct.shape = .named fields trailing ∧
      FirstNamed e.accessor.utcField fields u ∧ FirstNamed e.accessor.tzField fields t ∧
      (∀ name, name ∈ ownFields e.block ↔ (u.name = some name ∨ t.name = some name) ∨
        name ∈ ownFields e.struct.generics.parameterTokens ∨
        name ∈ ownFields e.struct.conditions.tokens ∨ name ∈ ownFields (runtimeTokens o.runtime)) ∧
      ∀ item' s' fields' trailing', readStruct item' = .ok s' → SameHead e.struct s' →
        s'.shape = .named fields' trailing' → SameStored e.accessor fields fields' →
        ∃ e', expand options item' = .ok e' ∧ e'.block = e.block := by
  constructor
  · constructor
    · rintro ⟨e, he⟩
      obtain ⟨o, s, a, ho, hs, ha, -⟩ := expand_ok_iff.mp he
      exact ⟨o, s, a, ho, hs, ha⟩
    · rintro ⟨o, s, a, ho, hs, ha⟩
      exact ⟨_, expand_ok_iff.mpr ⟨o, s, a, ho, hs, ha, rfl⟩⟩
  · intro e he
    obtain ⟨o, s, a, ho, hs, ha, rfl⟩ := expand_ok_iff.mp he
    obtain ⟨fields, trailing, hshape, ⟨u, hu, hut⟩, t, ht, htt⟩ := ha.stores
    refine ⟨o, fields, trailing, u, t, ho, hs, hshape, hu, ht, ?_, ?_⟩
    · intro name
      rw [hu.1, ht.1, Option.some.injEq, Option.some.injEq, eq_comm (b := name),
        eq_comm (b := name), or_assoc]
      exact mem_ownFields_block s o.runtime a name
    · intro item' s' fields' trailing' hs' hhead hshape' hsame
      have hstores {name : String} {f : Syntax.Field} (hn : name = a.utcField ∨ name = a.tzField)
          (hf : FirstNamed name fields f) (hft : OptionType f.type ↔ o.nullable.getD false = true) :
          Stores (o.nullable.getD false) name fields' :=
        (hsame.stores_iff hn _).mp ⟨f, hf, hft⟩
      have ha' : Accepts o s' a := by
        refine ⟨ha.declares, fields', trailing', hshape', ?_, ?_⟩
        · exact hstores (.inl rfl) hu hut
        · exact hstores (.inr rfl) ht htt
      refine ⟨_, expand_ok_iff.mpr ⟨o, s', a, ho, hs', ha', rfl⟩, ?_⟩
      rw [Expansion.block, Expansion.block, hhead.target_eq]

def plainSource (name : String) (fields : List (String × String)) : Source :=
  let body := fields.flatMap fun f =>
    [.ident f.1 ⟨0, 0⟩, .punct ':' false ⟨0, 0⟩, .ident f.2 ⟨0, 0⟩, .punct ',' false ⟨0, 0⟩]
  [.ident "struct" ⟨0, 0⟩, .ident name ⟨0, 0⟩, .group .brace body ⟨0, 0⟩]

def plainFields (fields : List (String × String)) : List Syntax.Field :=
  fields.map fun f => ⟨[], .inherited, some f.1, .path (.plain (.ofName f.2)), ⟨0, 0⟩⟩

def plainStruct (name : String) (fields : List (String × String)) : Struct :=
  ⟨[], .inherited, name, ⟨0, 0⟩, .none, .empty, .named (plainFields fields) true⟩

theorem expand_ok_iff_accepts_swapped :
    ∃ e e', expand [.literal "\"wakeUp\"" ⟨0, 0⟩]
        (plainSource "Alarm" [("wake_up_utc", "i64"), ("wake_up_tz", "i32")]) = .ok e ∧
      expand [.literal "\"wakeUp\"" ⟨0, 0⟩]
        (plainSource "Alarm" [("wake_up_tz", "i32"), ("volume", "u8"), ("wake_up_utc", "i64")]) =
          .ok e' ∧ e'.block = e.block := by
  have hread : readStruct (plainSource "Alarm" [("wake_up_utc", "i64"), ("wake_up_tz", "i32")]) =
      .ok (plainStruct "Alarm" [("wake_up_utc", "i64"), ("wake_up_tz", "i32")]) := rfl
  have hread' : readStruct (plainSource "Alarm"
      [("wake_up_tz", "i32"), ("volume", "u8"), ("wake_up_utc", "i64")]) = .ok (plainStruct "Alarm"
        [("wake_up_tz", "i32"), ("volume", "u8"), ("wake_up_utc", "i64")]) := rfl
  have haccessor : (expand [.literal "\"wakeUp\"" ⟨0, 0⟩] (plainSource "Alarm"
      [("wake_up_utc", "i64"), ("wake_up_tz", "i32")])).toOption.map Expansion.accessor =
        some ⟨"wake_up", false, .local⟩ := by
    decide +kernel
  obtain ⟨e, he, ha⟩ := Option.map_eq_some_iff.mp haccessor
  rw [toOption_eq_some_iff] at he
  obtain ⟨o, fields, trailing, u, t, -, hs, hshape, -, -, -, hframe⟩ :=
    (expand_ok_iff_accepts _ _).2 e he
  rw [hread, Except.ok.injEq] at hs
  rw [← hs] at hframe hshape
  cases hshape
  have hperm : (storedFields e.accessor (plainFields [("wake_up_utc", "i64"), ("wake_up_tz", "i32")])).Perm
      (storedFields e.accessor
        (plainFields [("wake_up_tz", "i32"), ("volume", "u8"), ("wake_up_utc", "i64")])) := by
    rw [ha]
    exact .swap _ _ _
  have hnodup : ((storedFields e.accessor
      (plainFields [("wake_up_utc", "i64"), ("wake_up_tz", "i32")])).map Prod.fst).Nodup := by
    rw [ha]
    decide
  obtain ⟨e', he', hblock⟩ := hframe _ _ _ _ hread' ⟨rfl, rfl, rfl, rfl⟩ rfl (.inr ⟨hperm, hnodup⟩)
  exact ⟨e, e', he, he', hblock⟩

/-- A block in the path of the runtime may take any field. -/
theorem exists_ownField_of_runtime : ¬ ∀ options item e, expand options item = .ok e →
    ∀ name ∈ ownFields e.block, name = e.accessor.utcField ∨ name = e.accessor.tzField := by
  intro h
  let options : Source := [.literal "\"x\"" ⟨0, 0⟩, .punct ',' false ⟨0, 0⟩, .ident "crate" ⟨0, 0⟩,
    .punct '=' false ⟨0, 0⟩, .literal "\"a::<\x7b self.y \x7d>\"" ⟨0, 0⟩]
  let item := plainSource "L" [("x_utc", "T"), ("x_tz", "i32"), ("y", "u8")]
  have hrun : (expand options item).toOption.any (fun e =>
      decide ("y" ∈ ownFields e.block ∧ "y" ≠ e.accessor.utcField ∧ "y" ≠ e.accessor.tzField)) =
        true := by
    decide +kernel
  obtain ⟨e, he, hfields⟩ := (Option.any_eq_true ..).mp hrun
  rw [toOption_eq_some_iff] at he
  obtain ⟨hy, hutc, htz⟩ := of_decide_eq_true hfields
  exact (h options item e he "y" hy).elim hutc htz

end ZonedAccessors.Attribute
