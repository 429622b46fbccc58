import ZonedAccessors.Proofs.Accessor.Identifiers
import ZonedAccessors.Proofs.Attribute.Acceptance
import ZonedAccessors.Proofs.Attribute.Written
import ZonedAccessors.Schema.Render
import Mathlib.Data.List.Forall2

/-!
Names that stand for the same accessor: one may be written for the other wherever a field is
declared.
-/

namespace ZonedAccessors

open Unicode Token

/-! A name and its accessor. -/

namespace Name

variable {name : String}

theorem normalised_ascii (hascii : IsAscii name.toList) (hw : Worded name.toList) :
    IsAscii (normalised name).toList ∧ (normalised name).toList.any isUpper = false := by
  cases hupper : name.toList.any isUpper with
  | false =>
      rw [normalised_of_not_any hupper]
      exact ⟨hascii, hupper⟩
  | true =>
      have hsnaked : IsAscii (snaked name.toList) := isAscii_snaked hascii
      rw [toList_normalised hupper hascii hw, any_isUpper_ascii hsnaked]
      exact ⟨hsnaked, List.any_eq_false.mpr fun c hc => by simp [isUpper_snaked hascii c hc]⟩

end Name

theorem DateField.accessor_renamed {f : DateField} {a : Accessor} (hascii : IsAscii f.name.toList)
    (h : f.accessor = .ok a) : accessor { f with name := a.name } = .ok a := by
  obtain ⟨-, hword, hidentifier, rfl⟩ := accessor_ok_iff.mp h
  have hname : Identifier (Name.normalised f.name) := isIdentifier_iff.mp hidentifier
  obtain ⟨hnew, hlower⟩ := Name.normalised_ascii hascii (Name.isWordText_iff.mp hword)
  have hsame : Name.normalised (Name.normalised f.name) = Name.normalised f.name :=
    Name.normalised_of_not_any hlower
  have hwordNew : Name.isWordText (Name.normalised f.name) = true :=
    Name.isWordText_iff.mpr (worded_of_isAscii hname hnew)
  refine accessor_ok_iff.mpr ⟨hname.not_blank, hwordNew, ?_, ?_⟩
  · rw [hsame]
    exact hidentifier
  · rw [hsame]

/-- One name stands for the same accessor as the other, or for none as well. -/
def SameAccessor (n n' : String) : Prop :=
  ∀ b p, DateField.accessor ⟨n', b, p⟩ = DateField.accessor ⟨n, b, p⟩

/-- The same name, or the accessor for a name of ASCII characters. -/
def Name.Respelled (n n' : String) : Prop :=
  n' = n ∨ IsAscii n.toList ∧ ∃ f a, DateField.accessor f = .ok a ∧ f.name = n ∧ a.name = n'

theorem Name.Respelled.sameAccessor {n n' : String} (h : Name.Respelled n n') :
    SameAccessor n n' := by
  intro b p
  rcases h with rfl | ⟨hascii, f, a, ha, rfl, rfl⟩
  · rfl
  · have hf : DateField.accessor ⟨f.name, b, p⟩ = .ok ⟨a.name, b, p⟩ := by
      obtain ⟨hblank, hword, hidentifier, rfl⟩ := DateField.accessor_ok_iff.mp ha
      exact DateField.accessor_ok_iff.mpr ⟨hblank, hword, hidentifier, rfl⟩
    rw [hf]
    exact DateField.accessor_renamed (f := ⟨f.name, b, p⟩) hascii hf

/-! Schemas. -/

def DateField.Respelled (f f' : DateField) : Prop :=
  ∃ n, Name.Respelled f.name n ∧ f' = { f with name := n }

def TypeEntry.Respelled (e e' : TypeEntry) : Prop :=
  ∃ fs, List.Forall₂ DateField.Respelled e.fields fs ∧ e' = { e with fields := fs }

theorem DateField.accessors_respelled {fs fs' : List DateField}
    (h : List.Forall₂ DateField.Respelled fs fs') : accessors fs' = accessors fs := by
  induction h with
  | nil => rfl
  | cons hf _ ih =>
      obtain ⟨n, hn, rfl⟩ := hf
      rw [accessors, accessors, ih]
      exact congrArg (· >>= _) (hn.sameAccessor _ _)

theorem TypeEntry.Respelled.block_eq {e e' : TypeEntry} (h : e.Respelled e') :
    e'.block = e.block := by
  obtain ⟨fs, hfs, rfl⟩ := h
  have htarget : TypeEntry.target { e with fields := fs } = e.target := rfl
  rw [TypeEntry.block, TypeEntry.block, htarget, DateField.accessors_respelled hfs]

theorem Schema.blocks_respelled {s s' : Schema} (h : List.Forall₂ TypeEntry.Respelled s s') :
    Schema.blocks s' = Schema.blocks s := by
  unfold Schema.blocks Schema.active
  induction h with
  | nil => rfl
  | @cons e e' s s' he _ ih =>
      have hempty : e'.fields.isEmpty = e.fields.isEmpty := by
        obtain ⟨fs, hfs, rfl⟩ := he
        change fs.isEmpty = e.fields.isEmpty
        generalize e.fields = gs at hfs
        cases hfs <;> rfl
      rw [List.filter_cons, List.filter_cons, hempty]
      split
      · rw [Schema.blocksOf, Schema.blocksOf, he.block_eq, ih]
      · exact ih

/-! Attributes. -/

namespace Attribute

open Grammar Syntax

structure Options.Alike (o o' : Options) : Prop where
  name : SameAccessor o.name.value o'.name.value
  nullable : o'.nullable = o.nullable
  fallback : o'.fallback.map Located.value = o.fallback.map Located.value
  runtime : o'.runtime = o.runtime

inductive Setting.Alike : Setting → Setting → Prop
  | nullable (b : Bool) : Alike (.nullable b) (.nullable b)
  | fallback {t t' : Located String} : t'.value = t.value → Alike (.fallback t) (.fallback t')
  | runtime (p : Path) : Alike (.runtime p) (.runtime p)

section Reading

variable {o o' o₁ : Options} {s s' : Setting} {key w : String} {negative : Bool}
  {place place' here here' : Span} {ts ts' more : Source}

theorem setting_alike (h : setting key place ⟨negative, w, here⟩ = .ok s) (place' here' : Span) :
    ∃ s', setting key place' ⟨negative, w, here'⟩ = .ok s' ∧ s.Alike s' := by
  have hboolean : (⟨negative, w, here'⟩ : Value).boolean = (⟨negative, w, here⟩ : Value).boolean := rfl
  have htext : (⟨negative, w, here'⟩ : Value).text = (⟨negative, w, here⟩ : Value).text := rfl
  unfold setting at h ⊢
  rw [hboolean, htext]
  split at h
  · rw [if_pos ‹_›]
    split at h <;> cases h
    exact ⟨_, rfl, .nullable _⟩
  rw [if_neg ‹_›]
  split at h
  · rw [if_pos ‹_›]
    split at h <;> cases h
    exact ⟨_, rfl, .fallback rfl⟩
  rw [if_neg ‹_›]
  split at h
  · rw [if_pos ‹_›]
    split at h
    · cases h
    · split at h <;> cases h
      exact ⟨_, rfl, .runtime _⟩
  · cases h

theorem set_alike (h : o.set place s = .ok o₁) (ho : o.Alike o') (hs : s.Alike s')
    (place' : Span) : ∃ o₁', o'.set place' s' = .ok o₁' ∧ o₁.Alike o₁' := by
  obtain ⟨hname, hnullable, hfallback, hruntime⟩ := ho
  have hset : o'.fallback.isSome = o.fallback.isSome := by
    simpa using congrArg Option.isSome hfallback
  cases hs with
  | nullable b =>
      simp only [Options.set] at h ⊢
      rw [hnullable]
      split at h <;> cases h
      exact ⟨_, if_neg ‹_›, hname, rfl, hfallback, hruntime⟩
  | fallback ht =>
      simp only [Options.set] at h ⊢
      rw [hset]
      split at h <;> cases h
      exact ⟨_, if_neg ‹_›, hname, hnullable, congrArg some ht, hruntime⟩
  | runtime p =>
      simp only [Options.set] at h ⊢
      rw [hruntime]
      split at h <;> cases h
      exact ⟨_, if_neg ‹_›, hname, hnullable, hfallback, rfl⟩

theorem afterLiteral_alike (h : afterLiteral ts = some ((negative, w), here, more))
    (hts : Source.bare ts' = Source.bare ts) : ∃ here' more',
      afterLiteral ts' = some ((negative, w), here', more') ∧
        Source.bare more' = Source.bare more := by
  unfold afterLiteral at h
  split at h
  · cases h
    obtain ⟨here', more', rfl, hmore⟩ := bare_eq_literal hts
    exact ⟨here', more', rfl, hmore⟩
  · split at h
    · rename_i hword
      cases h
      obtain ⟨here', more', rfl, hmore⟩ := bare_eq_ident hts
      exact ⟨here', more', by simp only [afterLiteral, hword, if_true], hmore⟩
    · cases h
  · split at h
    · rename_i hnumber
      cases h
      obtain ⟨here', after, rfl, hafter⟩ := bare_eq_punct hts
      obtain ⟨there, more', rfl, hmore⟩ := bare_eq_literal hafter
      exact ⟨here'.join there, more', by simp only [afterLiteral, hnumber, if_true], hmore⟩
    · cases h
  · cases h

theorem extend_alike (h : o.extend ts = .ok o₁) (ho : o.Alike o')
    (hts : Source.bare ts' = Source.bare ts) :
    ∃ o₁', o'.extend ts' = .ok o₁' ∧ o₁.Alike o₁' := by
  fun_induction Options.extend o ts generalizing o' ts' with
  | case1 o =>
      cases h
      obtain rfl := bare_eq_nil hts
      exact ⟨o', by rw [Options.extend], ho⟩
  | case2 o j p =>
      cases h
      obtain ⟨p', after, rfl, hafter⟩ := bare_eq_punct hts
      obtain rfl := bare_eq_nil hafter
      exact ⟨o', by rw [Options.extend], ho⟩
  | case5 o j p key k hflag i q value hkey negative w here more hv ih =>
      obtain ⟨p', ts₁, rfl, h₁⟩ := bare_eq_punct hts
      obtain ⟨k', ts₂, rfl, h₂⟩ := bare_eq_ident h₁
      obtain ⟨q', ts₃, rfl, h₃⟩ := bare_eq_punct h₂
      obtain ⟨here', more', hv', hmore⟩ := afterLiteral_alike hv h₃
      obtain ⟨s, hs, h⟩ := bind_ok_iff.mp h
      obtain ⟨o₂, ho₂, h⟩ := bind_ok_iff.mp h
      obtain ⟨s', hs', hsame⟩ := setting_alike hs k' here'
      obtain ⟨o₂', ho₂', halike⟩ := set_alike ho₂ ho hsame k'
      obtain ⟨o₁', ho₁', hresult⟩ := ih o₂ h halike hmore
      have hopen : isOption key = true := by simpa using hkey
      exact ⟨o₁', (extend_clause hflag hopen hv' hs' ho₂').trans ho₁', hresult⟩
  | _ => cases h

end Reading

/-- The same options behind a name spelled in two ways. -/
inductive Renames (R : String → String → Prop) : Source → Source → Prop
  | mk {w w' n n' marked marked' more more'} (place place') : literal w = .text n marked →
      literal w' = .text n' marked' → R n n' → Source.bare more' = Source.bare more →
      Renames R (.literal w place :: more) (.literal w' place' :: more')

theorem Renames.symm {us us' : Source} (h : Renames SameAccessor us us') :
    Renames SameAccessor us' us := by
  obtain ⟨place, place', hw, hw', hn, hmore⟩ := h
  exact .mk place' place hw' hw (fun b p => (hn b p).symm) hmore.symm

theorem Renames.mono {R S : String → String → Prop} {us us' : Source} (h : Renames R us us')
    (hRS : ∀ n n', R n n' → S n n') : Renames S us us' := by
  obtain ⟨place, place', hw, hw', hn, hmore⟩ := h
  exact .mk place place' hw hw' (hRS _ _ hn) hmore

theorem read_alike {us us' : Source} {o : Options} (h : Renames SameAccessor us us')
    (ho : Options.read us = .ok o) : ∃ o', Options.read us' = .ok o' ∧ o.Alike o' := by
  obtain ⟨place, place', hw, hw', hn, hmore⟩ := h
  simp only [Options.read, hw] at ho
  simp only [Options.read, hw']
  exact extend_alike ho ⟨hn, rfl, rfl, rfl⟩ hmore

theorem Options.Alike.accepts {o o' : Options} {s : Struct} {a : Accessor} (ho : o.Alike o')
    (h : Accepts o s a) : Accepts o' s a := by
  obtain ⟨⟨f, ⟨hname, hnullable, hpolicy⟩, ha⟩, hstores⟩ := h
  rw [← ho.nullable] at hnullable hstores
  rw [← ho.fallback] at hpolicy
  have hf : DateField.accessor ⟨o'.name.value, f.nullable, f.policy⟩ = .ok a := by
    rw [ho.name, ← hname]
    exact ha
  exact ⟨⟨⟨_, _, _⟩, ⟨rfl, hnullable, hpolicy⟩, hf⟩, hstores⟩

theorem expand_renamed {us us' item : Source} (h : Renames SameAccessor us us') :
    (expand us' item).toOption = (expand us item).toOption := by
  have himp {us us' : Source} (h : Renames SameAccessor us us') (e : Expansion)
      (he : expand us item = .ok e) : expand us' item = .ok e := by
    obtain ⟨o, s, a, ho, hs, haccepts, rfl⟩ := expand_ok_iff.mp he
    obtain ⟨o', ho', halike⟩ := read_alike h ho
    exact expand_ok_iff.mpr ⟨o', s, a, ho', hs, halike.accepts haccepts, by rw [halike.runtime]⟩
  ext e
  simp only [toOption_eq_some_iff]
  exact ⟨himp h.symm e, himp h e⟩

end Attribute

/-- Instead of a name of ASCII characters its accessor may be written: it stands for the same
accessor, a schema is laid out as before whichever of its names are changed, and so is the block of an
attribute. -/
theorem respelling_unseen :
    (∀ f a, IsAscii f.name.toList → DateField.accessor f = .ok a →
      DateField.accessor { f with name := a.name } = .ok a) ∧
    (∀ s s', List.Forall₂ TypeEntry.Respelled s s' → Schema.render s' = Schema.render s) ∧
    (∀ us us' item, Attribute.Renames Name.Respelled us us' →
      (Attribute.expand us' item).toOption = (Attribute.expand us item).toOption) := by
  refine ⟨fun f a => DateField.accessor_renamed, fun s s' h => ?_, fun us us' item h => ?_⟩
  · rw [Schema.render, Schema.render, Schema.parsed, Schema.parsed, Schema.blocks_respelled h]
  · exact Attribute.expand_renamed (h.mono fun _ _ => Name.Respelled.sameAccessor)

theorem respelling_unseen_wake :
    DateField.accessor ⟨"wake_up2", true, .error⟩ = .ok ⟨"wake_up2", true, .error⟩ ∧
      Schema.render [⟨"Alarm", none, none, [⟨"wakeUp2", true, .error⟩, ⟨"end", false, .local⟩]⟩] =
        Schema.render [⟨"Alarm", none, none, [⟨"wake_up2", true, .error⟩, ⟨"end", false, .local⟩]⟩] ∧
      ∀ more item,
        (Attribute.expand (.literal "\"wake_up2\"" ⟨0, 10⟩ :: more) item).toOption =
          (Attribute.expand (.literal "\"wakeUp2\"" ⟨0, 9⟩ :: more) item).toOption := by
  have hascii : IsAscii "wakeUp2".toList := forall_mem_of_all (by decide)
  have haccessor : DateField.accessor ⟨"wakeUp2", true, .error⟩ = .ok ⟨"wake_up2", true, .error⟩ := by
    decide +kernel
  have hname : Name.Respelled "wakeUp2" "wake_up2" := .inr ⟨hascii, _, _, haccessor, rfl, rfl⟩
  have hfields : List.Forall₂ DateField.Respelled [⟨"wakeUp2", true, .error⟩, ⟨"end", false, .local⟩]
      [⟨"wake_up2", true, .error⟩, ⟨"end", false, .local⟩] :=
    .cons ⟨_, hname, rfl⟩ (.cons ⟨_, .inl rfl, rfl⟩ .nil)
  refine ⟨respelling_unseen.1 ⟨"wakeUp2", true, .error⟩ _ hascii haccessor, ?_, fun more item => ?_⟩
  · exact (respelling_unseen.2.1 _ _ (.cons ⟨_, hfields, rfl⟩ .nil)).symm
  · refine respelling_unseen.2.2 _ _ item ?_
    have hold : literal "\"wakeUp2\"" = .text "wakeUp2" false := by decide +kernel
    have hnew : literal "\"wake_up2\"" = .text "wake_up2" false := by decide +kernel
    exact .mk _ _ hold hnew hname rfl

end ZonedAccessors
