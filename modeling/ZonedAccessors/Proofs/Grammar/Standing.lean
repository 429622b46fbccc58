import ZonedAccessors.Proofs.Grammar.Follow.File
import ZonedAccessors.Proofs.Layout.Lines

/-!
The items of a file are of those kinds that stand on lines of their own.
-/

namespace ZonedAccessors.Grammar

open Token Syntax Layout

variable {α β : Type}

/-- Everything that `p` finds is of a kind. -/
def Gives (kind : α → Prop) (p : Reader α) : Prop := ∀ c a c', p.run c = .ok (a, c') → kind a

section Rules

variable {kind : β → Prop} {p : Reader α} {f : α → Reader β} {q q' : Reader β} {b : β}

theorem Gives.bind (hf : ∀ a, Gives kind (f a)) : Gives kind (p >>= f) := by
  intro c b c' hrun
  obtain ⟨a, c₁, -, hb⟩ := run_bind_iff.mp hrun
  exact hf a c₁ b c' hb

theorem Gives.bind_of {found : α → Prop} (hp : Gives found p)
    (hf : ∀ a, found a → Gives kind (f a)) : Gives kind (p >>= f) := by
  intro c b c' hrun
  obtain ⟨a, c₁, ha, hb⟩ := run_bind_iff.mp hrun
  exact hf a (hp c a c₁ ha) c₁ b c' hb

theorem Gives.pure (hb : kind b) : Gives kind (pure b) := by
  intro c b' c' hrun
  cases hrun
  exact hb

theorem Gives.ite {t : Prop} [Decidable t] (h : Gives kind q) (h' : Gives kind q') :
    Gives kind (if t then q else q') := by
  split
  · exact h
  · exact h'

theorem Gives.map {h : α → β} {found : α → Prop} (hp : Gives found p)
    (hkind : ∀ a, found a → kind (h a)) : Gives kind (h <$> p) := by
  rw [map_eq_pure_bind]
  exact hp.bind_of fun a ha => .pure (hkind a ha)

theorem Gives.of_fails [h : Fails q] : Gives kind q := by
  intro c b c' hrun
  obtain ⟨fault, hfault⟩ := h.failed c
  rw [hfault] at hrun
  cases hrun

end Rules

variable {g : Inner} {v : Visibility} {b : Bool} {start : Cursor}

/-- What has a tree stands on lines of its own. -/
def Stands (found : Option Item) : Prop := ∀ i ∈ found, Standing i

theorem stands_some {i : Item} (h : Standing i) : Stands (some i) := by
  rintro _ ⟨⟩
  exact h

theorem stands_none : Stands none := nofun

theorem Gives.some {p : Reader Item} (h : Gives Standing p) : Gives Stands (some <$> p) :=
  h.map fun _ => stands_some

theorem standing_within {i : Item} (as : Attributes) (h : Standing i) : Standing (i.within as) := by
  cases as with
  | nil => exact h
  | cons a as => cases i <;> exact h

/-! Declarations that hold no other items. -/

theorem gives_implFunction : Gives Stands (implFunction g v b) := by
  unfold implFunction
  refine .bind fun s => .bind fun _ => .ite (.pure stands_none) (.bind fun body => ?_)
  exact .pure (stands_some trivial)

theorem gives_crateItem : Gives Standing (crateItem v) := by
  unfold crateItem
  refine .bind fun _ => .bind fun _ => .bind fun _ => .bind fun _ => .ite ?_ ?_ <;>
    exact .bind fun _ => .bind fun _ => .pure trivial

theorem gives_importItem : Gives Stands (importItem v) := by
  unfold importItem
  refine .bind fun _ => .bind fun rooted => .bind fun _ => .bind fun tree => .bind fun _ => .pure ?_
  cases tree with
  | none => exact stands_none
  | some tree => exact stands_some trivial

theorem gives_staticItem : Gives Stands (staticItem g v) := by
  unfold staticItem
  refine .bind fun _ => .bind fun mutable => .bind fun n => .bind fun _ => .ite ?_ ?_
  · exact .bind fun _ => .bind fun _ => .pure stands_none
  · refine .bind fun _ => .bind fun t => .bind fun _ => .ite (.pure stands_none) ?_
    exact .bind fun _ => .bind fun value => .bind fun _ => .pure (stands_some trivial)

theorem gives_constantRest {n : String} : Gives Stands (constantRest g v b n) := by
  unfold constantRest
  refine .bind fun params => .bind fun _ => .bind fun t => .bind fun value => .bind fun _ =>
    .bind fun _ => .bind fun _ => .pure ?_
  split
  · exact stands_none
  · exact stands_some trivial

theorem gives_constantItem : Gives Stands (constantItem g v b) := by
  unfold constantItem
  refine .bind fun _ => .bind fun n => .bind_of gives_constantRest fun found hfound => .pure ?_
  exact fun i hi => hfound i (Option.eq_some_of_filter_eq_some hi)

theorem stands_equated (p : TypeParts) : Stands (p.equated b) := by
  obtain ⟨_, _, _, _, _, equal, _⟩ := p
  unfold TypeParts.equated
  split
  · cases b <;> cases equal <;> exact stands_some trivial
  · exact stands_none

theorem gives_enumItem : Gives Standing (enumItem g v) := by
  unfold enumItem
  exact .bind fun _ => .bind fun _ => .bind fun _ => .bind fun _ => .bind fun _ => .pure trivial

theorem gives_unionItem : Gives Standing (unionItem g v) := by
  unfold unionItem
  exact .bind fun _ => .bind fun _ => .bind fun _ => .bind fun _ => .bind fun _ => .pure trivial

theorem gives_anyGroup : Gives (fun t => ∃ d body place, t = .group d body place) anyGroup := by
  intro c t c' hrun
  obtain ⟨vs, ⟨d, body, place, -, rfl⟩, -⟩ := (takes_anyGroup c t c').mp hrun
  exact ⟨d, _, _, rfl⟩

theorem gives_closeInvocation {call : Invocation} {n : Option String}
    (h : ∃ d body place, call.body = .group d body place) :
    Gives Standing (closeInvocation call n) := by
  unfold closeInvocation
  exact .ite (.bind fun _ => .pure h) (.pure h)

theorem gives_invocationItem : Gives Standing (invocationItem b) := by
  unfold invocationItem
  refine .bind fun path => .bind fun _ => .bind fun ts => .bind fun ts' => .ite ?_ ?_ <;>
    exact .bind fun n => .bind_of gives_anyGroup fun body hbody => gives_closeInvocation hbody

/-! Declarations that hold items. -/

theorem gives_traitRest {texts : List String} {n : String} {params : Generics} :
    Gives Standing (traitRest g v texts n params) := by
  unfold traitRest
  exact .bind fun _ => .bind fun _ => .bind fun _ => .pure trivial

theorem gives_traitAliasRest {n : String} {params : Generics} :
    Gives Standing (traitAliasRest g v n params) := by
  unfold traitAliasRest
  exact .bind fun _ => .bind fun _ => .bind fun _ => .bind fun _ => .pure trivial

theorem gives_traitOrAlias : Gives Standing (traitOrAlias g v) := by
  unfold traitOrAlias
  refine .bind fun _ => .bind fun n => .bind fun params => .bind fun ts => ?_
  exact .ite gives_traitRest (.ite gives_traitAliasRest .of_fails)

theorem gives_markedTrait : Gives Standing (markedTrait g v) := by
  unfold markedTrait
  exact .bind fun _ => .bind fun _ => .bind fun _ => .bind fun _ => gives_traitRest

theorem gives_implBlock : Gives Stands (implBlock g v) := by
  unfold implBlock
  refine .bind fun texts => .bind fun _ => .bind fun ts => .ite ?_ ?_ <;>
    refine .bind fun params => .bind fun ts => .ite (.bind fun _ => .bind fun _ => ?_) ?_ <;>
    refine .bind fun c => .bind fun ts => .bind fun ts' => .ite (.bind fun _ => ?_) ?_ <;>
    refine .bind fun found => .bind fun c => .bind fun _ => .ite (.pure stands_none) (.pure ?_) <;>
    cases found <;>
    first | exact stands_some trivial | exact stands_none

theorem gives_foreignBlock : Gives Standing (foreignBlock g) := by
  unfold foreignBlock
  refine .bind fun _ => .bind fun convention => ?_
  cases convention with
  | none => exact .of_fails
  | some convention => exact .bind fun _ => .pure trivial

theorem gives_modItem : Gives Standing (modItem g v) := by
  unfold modItem
  refine .bind fun _ => .bind fun _ => .bind fun _ => .bind fun _ => .ite (.pure trivial) ?_
  exact .bind fun _ => .ite (.bind fun _ => .pure trivial) .of_fails

theorem gives_externItem : Gives Stands (externItem g start v) := by
  unfold externItem
  refine .bind fun _ => .ite gives_crateItem.some (.ite (.bind fun _ => gives_foreignBlock.some) ?_)
  exact .of_fails

theorem gives_unsafeItem : Gives Stands (unsafeItem g start v) := by
  unfold unsafeItem
  refine .bind fun _ => .ite gives_markedTrait.some (.ite gives_implBlock ?_)
  refine .ite (.bind fun _ => gives_foreignBlock.some) (.ite gives_modItem.some .of_fails)

theorem standing_struct (s : Struct) : Standing s.toItem := by
  refine standing_within s.attributes ?_
  trivial

theorem gives_itemRest : Gives Stands (itemRest g) := by
  unfold itemRest
  refine .bind fun start => .bind fun v => .bind fun ts => .ite gives_implFunction ?_
  refine .ite gives_externItem (.ite gives_importItem (.ite gives_staticItem ?_))
  refine .ite gives_constantItem (.ite gives_unsafeItem (.ite gives_modItem.some ?_))
  refine .ite (.bind fun p => .pure (stands_equated p)) ?_
  refine .ite (.bind fun s => .pure (stands_some (standing_struct s))) (.ite gives_enumItem.some ?_)
  refine .ite gives_unionItem.some (.ite gives_traitOrAlias.some (.ite gives_markedTrait.some ?_))
  refine .ite gives_implBlock (.ite (.bind fun _ => .pure stands_none) ?_)
  exact .ite gives_invocationItem.some .of_fails

/-! Items, and what has no tree. -/

theorem captured_tokens {p : Reader α} {a : α} {ts : Source} {c c' : Cursor}
    (h : (captured p).run c = .ok ((a, ts), c')) :
    ts = c.rest.take (c.rest.length - c'.rest.length) := by
  unfold captured at h
  rw [run_rest_bind] at h
  obtain ⟨b, c₁, -, h⟩ := run_bind_iff.mp h
  rw [run_rest_bind] at h
  cases h
  rfl

theorem standing_of_run {c c' : Cursor} {i : Item} (hrun : (item g).run c = .ok (i, c'))
    (hlt : c'.rest.length < c.rest.length) : Standing i := by
  unfold item withAttributes at hrun
  obtain ⟨⟨⟨as, found⟩, read⟩, c₁, hcaptured, hi⟩ := run_bind_iff.mp hrun
  have hread := run_of_captured hcaptured
  have htokens : read = c.rest.take (c.rest.length - c₁.rest.length) := captured_tokens hcaptured
  cases hi
  cases found with
  | some i =>
      obtain ⟨as', c₂, -, hrest⟩ := run_bind_iff.mp hread
      obtain ⟨found', c₃, hfound, hpair⟩ := run_bind_iff.mp hrest
      cases hpair
      exact standing_within as (gives_itemRest c₂ (some i) _ hfound i rfl)
  | none =>
      intro hbare
      have hempty : read = [] := bare_eq_nil hbare
      rw [htokens, List.take_eq_nil_iff] at hempty
      rcases hempty with hzero | hnil
      · omega
      · rw [hnil] at hlt
        exact absurd hlt (Nat.not_lt_zero _)

theorem Sequence.standing {p : Reader Item} {s : Nat} {ts : Source} {is : List Item} (hp : Moves s p)
    (hgives : ∀ c i c', p.run c = .ok (i, c') → c'.rest.length < c.rest.length → Standing i)
    (hs : Tree.sizeAll ts ≤ s) (h : Sequence p ts is) : ∀ i ∈ is, Standing i := by
  induction h with
  | nil => nofun
  | @cons ts us i is hts hrun hrest ih =>
      have hlater : Later (.at ts) (.at us) := hp (.at ts) i (.at us) hs hrun
      have hlt : us.length < ts.length := hrest.head_lt hp hs hts hrun
      intro j hj
      rcases List.mem_cons.mp hj with rfl | hj
      · exact hgives (.at ts) j (.at us) hrun hlt
      · exact ih (Nat.le_trans hlater.size_le hs) j hj

theorem standing_of_read_file {ts : Source} [Neutral ts] {inner : Attributes} {is : List Item}
    (h : read file ts = .ok (inner, is)) : ∀ i ∈ is, Standing i := by
  unfold read at h
  obtain ⟨-, his⟩ := (readAll_file_iff (by omega)).mp h
  have hgives (n : Nat) : ∀ c i c', (level (n + 1)).item.run c = .ok (i, c') →
      c'.rest.length < c.rest.length → Standing i := fun _ _ _ => standing_of_run
  exact his.standing (agrees_item (by omega)).moves (hgives _) (Nat.le_refl _)

end ZonedAccessors.Grammar
