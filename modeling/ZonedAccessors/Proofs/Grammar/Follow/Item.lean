import ZonedAccessors.Grammar.Item
import ZonedAccessors.Proofs.Grammar.Follow.Declaration

/-!
Items are read in step.
-/

namespace ZonedAccessors.Grammar

open Token Syntax

set_option synthInstance.maxSize 20000
set_option synthInstance.maxHeartbeats 200000

variable {us : Source} [Neutral us] {r : Reach} {s n : Nat} {g g' : Inner} [Nested s g g'] {b : Bool}
  {v : Visibility}

/-! Traits. -/

instance {p q : Reader Item} [Agrees .fewer s p q] : Agrees .fewer s (items g p) (items g' q) := by
  unfold items
  infer_instance

instance {p q : Reader (Option Item)} [InStep us .all s n .shut .spent p q] :
    InStep us .all s n .shut .spent (withAttributes g p) (withAttributes g' q) := by
  unfold withAttributes
  refine .bind (d := .spent) inferInstance fun ((as, found), read) => ?_
  cases found <;> infer_instance

instance {p q : Reader (Option Item)} [h : Agrees .all s p q] :
    Agrees .all s (withAttributes g p) (withAttributes g' q) := by
  have (n : Nat) : InStep [] .all s n .spent .spent p q := h.follows
  infer_instance

instance : Agrees .all s (traitFunction g) (traitFunction g') := by
  unfold traitFunction
  infer_instance

instance : Agrees .all s (traitConstant g) (traitConstant g') := by
  unfold traitConstant
  infer_instance

instance : Agrees .all s (traitItemRest g) (traitItemRest g') := by
  unfold traitItemRest
  infer_instance

instance : Agrees .all s (traitItem g) (traitItem g') := by
  unfold traitItem
  infer_instance

instance {texts : List String} {text : String} {params : Generics} : InStep us .all s n .spent .spent
    (traitRest g v texts text params) (traitRest g' v texts text params) := by
  unfold traitRest
  infer_instance

instance {text : String} {params : Generics} : InStep us .all s n .spent .shut
    (traitAliasRest g v text params) (traitAliasRest g' v text params) := by
  unfold traitAliasRest
  infer_instance

instance : InStep us .all s n .shut .spent (traitOrAlias g v) (traitOrAlias g' v) := by
  unfold traitOrAlias
  infer_instance

instance : InStep us .all s n .shut .spent (markedTrait g v) (markedTrait g' v) := by
  unfold markedTrait
  infer_instance

/-! Implementations. -/

instance : InStep us .all s n .shut .spent (implFunction g v b) (implFunction g' v b) := by
  unfold implFunction
  infer_instance

instance {ts : Left us .shut} : Alike (isDefault ts.tokens) (isDefault (ts.tokens ++ us)) := by
  unfold isDefault
  infer_instance

instance : Agrees .all s (implItemRest g) (implItemRest g') := by
  unfold implItemRest
  infer_instance

instance : Agrees .all s (implItem g) (implItem g') := by
  unfold implItem
  infer_instance

instance {negative : Option Span} :
    InStep us .fewer s n .shut .spent (subject g negative) (subject g' negative) := by
  unfold subject
  cases negative <;> infer_instance

instance : InStep us .all s n .shut .spent (implBlock g v) (implBlock g' v) := by
  unfold implBlock
  refine .bind (d := .shut) inferInstance fun texts => .bind_eats (d := .shut) inferInstance fun _ => ?_
  refine .rest fun ts => .ite_bind (d := .shut) inferInstance inferInstance inferInstance fun params => ?_
  refine .rest fun ts => ?_
  have hconstant : Alike (isWord "const" ts.tokens || (isMark "?" ts.tokens && second (isWord "const") ts.tokens))
    (isWord "const" (ts.tokens ++ us) || (isMark "?" (ts.tokens ++ us) && second (isWord "const") (ts.tokens ++ us))) := inferInstance
  rw [← hconstant.eq]
  generalize (isWord "const" ts.tokens || (isMark "?" ts.tokens && second (isWord "const") ts.tokens)) = constant
  refine .ite ⟨rfl⟩ (.bind (d := .shut) inferInstance fun _ => .bind (d := .shut) inferInstance fun _ => ?_) ?_
  all_goals
    refine .get fun c he => .rest fun ts => .rest fun ts' => ?_
    have hnegative : Alike (isMark "!" ts.tokens && !second (isGroup .brace) ts'.tokens)
      (isMark "!" (ts.tokens ++ us) && !second (isGroup .brace) (ts'.tokens ++ us)) := inferInstance
    rw [← hnegative.eq, place_before he]
    generalize (isMark "!" ts.tokens && !second (isGroup .brace) ts'.tokens) = negative
    infer_instance

/-! Another language. -/

instance : Agrees .all s (foreignFunction g v) (foreignFunction g' v) := by
  unfold foreignFunction
  infer_instance

instance : Agrees .all s (foreignStatic g v) (foreignStatic g' v) := by
  unfold foreignStatic
  infer_instance

instance : Agrees .all s (foreignItemRest g) (foreignItemRest g') := by
  unfold foreignItemRest
  infer_instance

instance : Agrees .all s (foreignItem g) (foreignItem g') := by
  unfold foreignItem
  infer_instance

instance : InStep us .all s n .shut .spent (foreignBlock g) (foreignBlock g') := by
  have hconvention : InStep us .all s n .shut .spent conventionIf conventionIf := inferInstance
  unfold foreignBlock
  refine .bind (d := .shut) inferInstance fun guarded => hconvention.bind fun convention => ?_
  cases convention <;> infer_instance

/-! Modules and functions. -/

instance : InStep us .all s n .shut .spent (modItem g v) (modItem g' v) := by
  unfold modItem
  infer_instance

instance : InStep us .all s n .shut .spent (functionItem g v) (functionItem g' v) := by
  unfold functionItem
  infer_instance

/-! Items; what stands behind some words says that they are read from before. -/

section Marked

variable {start c : Cursor}

omit [Neutral us] in
theorem shut_behind_word {text : String} (he : Edge.shut.Admits us c.rest)
    (hword : isWord text c.rest = true) : ∃ ts : Left us .shut,
      skipped c.rest = ts.tokens ∧ skipped (c.before us).rest = ts.tokens ++ us := by
  obtain ⟨place, vs, hvs⟩ := isWord_iff.mp hword
  rw [show (c.before us).rest = c.rest ++ us from rfl, hvs]
  rw [hvs] at he
  exact ⟨⟨vs, he.tail (by simp)⟩, rfl, rfl⟩

theorem run_externItem (hstart : Reach.all.Covers s n start) (hadmits : Edge.shut.Admits us start.rest)
    (hl : Later start c) (he : Edge.shut.Admits us c.rest) (hword : isWord "extern" c.rest = true) :
    Outcome us .spent start ((externItem g start v).run c)
      ((externItem g' (start.before us) v).run (c.before us)) := by
  have hcrate : InStep us .all s n .shut .spent (some <$> crateItem v) (some <$> crateItem v) :=
    inferInstance
  have hblock : InStep us .all s n .shut .spent (some <$> foreignBlock g) (some <$> foreignBlock g') :=
    inferInstance
  obtain ⟨ts, hts, hbefore⟩ := shut_behind_word he hword
  unfold externItem
  rw [run_rest_bind, run_rest_bind, hts, hbefore]
  refine .ite Alike.eq ?_ (.ite Alike.eq ?_ (.of_fails inferInstance inferInstance))
  · exact (hcrate.run c (hstart.later hl) he).later hl
  · exact hblock.run start hstart hadmits

theorem run_unsafeItem (hstart : Reach.all.Covers s n start) (hadmits : Edge.shut.Admits us start.rest)
    (hl : Later start c) (he : Edge.shut.Admits us c.rest) (hword : isWord "unsafe" c.rest = true) :
    Outcome us .spent start ((unsafeItem g start v).run c)
      ((unsafeItem g' (start.before us) v).run (c.before us)) := by
  have hblock : InStep us .all s n .shut .spent (some <$> foreignBlock g) (some <$> foreignBlock g') :=
    inferInstance
  have hread {p q : Reader (Option Item)} (h : InStep us .all s n .shut .spent p q) :
      Outcome us .spent start (p.run c) (q.run (c.before us)) :=
    (h.run c (hstart.later hl) he).later hl
  obtain ⟨ts, hts, hbefore⟩ := shut_behind_word he hword
  unfold unsafeItem
  rw [run_rest_bind, run_rest_bind, hts, hbefore]
  refine .ite Alike.eq (hread inferInstance) (.ite Alike.eq (hread inferInstance) ?_)
  refine .ite Alike.eq (hblock.run start hstart hadmits) (hread ?_)
  infer_instance

end Marked

instance : InStep us .all s n .shut .spent (itemRest g) (itemRest g') := by
  have hvisibility : InStep us .all s n .shut .shut visibility visibility := inferInstance
  constructor
  intro c hc he
  unfold itemRest
  rw [run_get_bind, run_get_bind]
  refine (hvisibility.run c hc he).bind_from fun v c₁ _ h₁ hl => ?_
  have hread {p q : Reader (Option Item)} (h : InStep us .all s n .shut .spent p q) :
      Outcome us .spent c (p.run c₁) (q.run (c₁.before us)) := (h.run c₁ (hc.later hl) h₁).later hl
  rw [run_rest_bind, run_rest_bind, show (c₁.before us).rest = c₁.rest ++ us from rfl]
  obtain ⟨ts, hts⟩ : ∃ ts : Left us .shut, ts.tokens = c₁.rest := ⟨⟨c₁.rest, h₁⟩, rfl⟩
  rw [← hts]
  refine .ite Alike.eq (hread inferInstance) (.ite_of Alike.eq (fun hword => ?_) fun _ => ?_)
  · exact run_externItem hc he hl h₁ (hts ▸ hword)
  refine .ite Alike.eq (hread inferInstance) (.ite Alike.eq (hread inferInstance) ?_)
  refine .ite Alike.eq (hread inferInstance) (.ite_of Alike.eq (fun hword => ?_) fun _ => hread ?_)
  · exact run_unsafeItem hc he hl h₁ (hts ▸ hword)
  infer_instance

instance : InStep us .all s n .shut .spent (item g) (item g') := by
  unfold item
  infer_instance

end ZonedAccessors.Grammar
