import ZonedAccessors.Grammar.Declaration
import ZonedAccessors.Proofs.Grammar.Follow.Expr

/-!
Statements and declarations are read in step.
-/

namespace ZonedAccessors.Grammar

open Token Syntax

set_option synthInstance.maxSize 20000
set_option synthInstance.maxHeartbeats 200000

variable {us : Source} [Neutral us] {r : Reach} {s n : Nat} {g g' : Inner} [Nested s g g'] {b b' : Bool}

/-! Statements. -/

instance : Agrees .all s (localStmt g) (localStmt g') := by
  unfold localStmt
  infer_instance

instance {as : Attributes} : Agrees .all s (exprStmt g as) (exprStmt g' as) := by
  unfold exprStmt
  refine .bind inferInstance fun e => .bind inferInstance fun ended => ?_
  split <;> infer_instance

theorem run_attempt {α : Type} (p : Reader α) (c : Cursor) : (attempt p).run c =
    match p.run c with
    | .ok (a, c') => .ok (some a, c')
    | .error _ => .ok (none, c) := rfl

/-- Nothing is read, and what follows the path stands further on. -/
theorem run_behindPath (c : Cursor) : ∃ found, behindPath.run c = .ok (found, c) ∧
    ∀ p ts, found = some (p, ts) → ts <:+ c.rest := by
  have hattempt := run_attempt modPath c
  have hlater : InStep [] .all c.size c.rest.length .shut .shut modPath modPath := inferInstance
  unfold behindPath
  rw [run_get_bind]
  cases hrun : modPath.run c with
  | error fault =>
      rw [hrun] at hattempt
      exact ⟨none, by rw [run_bind_of_ok hattempt]; rfl, nofun⟩
  | ok found =>
      obtain ⟨p, c'⟩ := found
      rw [hrun] at hattempt
      refine ⟨some (p, c'.rest), by rw [run_bind_of_ok hattempt]; rfl, fun p' ts heq => ?_⟩
      cases heq
      exact (hlater.later_of_ok ⟨Nat.le_refl _, Nat.le_refl _⟩ (.inl rfl) hrun).rest

theorem Agrees.stmt (hitem : Agrees r s g.item g'.item) : Agrees r s (stmt g) (stmt g') := by
  have hattributes : Agrees .all s (attributes g) (attributes g') := inferInstance
  constructor
  intro c hc
  have hread : Outcome [] .spent c ((Stmt.item <$> g.item).run c) ((Stmt.item <$> g'.item).run c) :=
    Agrees.run c hc
  unfold Grammar.stmt
  rw [run_get_bind, run_get_bind]
  refine hattributes.bind_from hc.all fun as c₁ hl => ?_
  have hsize : Reach.all.Bounds s c₁.size := Nat.le_trans hl.size_le hc.all
  have hordinary : Outcome [] .spent c ((stmt.ordinary g c as c₁.rest).run c₁)
      ((stmt.ordinary g' c as c₁.rest).run c₁) := by
    have hlocal : Agrees .all s ((Stmt.within as ·) <$> localStmt g) ((Stmt.within as ·) <$> localStmt g') := inferInstance
    have hexpr : Agrees .all s (exprStmt g as) (exprStmt g' as) := inferInstance
    unfold stmt.ordinary
    split
    · exact (hlocal.run c₁ hsize).later hl
    · split
      · exact hread
      · exact (hexpr.run c₁ hsize).later hl
  rw [run_rest_bind, run_rest_bind]
  obtain ⟨found, hfound, hsuffix⟩ := run_behindPath c₁
  rw [run_bind_of_ok hfound, run_bind_of_ok hfound]
  split
  · rename_i p after
    split
    · exact hread
    · split
      · have hcall : Agrees .all s (invocationAt p >>= fun x => markIf ";" >>= fun ended => pure ((Stmt.invocation x ended).within as)) (invocationAt p >>= fun x => markIf ";" >>= fun ended => pure ((Stmt.invocation x ended).within as)) := inferInstance
        have hlater : Later c₁ { c₁ with rest := after } := ⟨hsuffix p after rfl, id, rfl⟩
        exact (hcall.run { c₁ with rest := after } (hsize.mono hlater.size_le)).later (hl.trans hlater)
      · exact hordinary
  · exact hordinary

theorem Agrees.body (hitem : Agrees r s g.item g'.item) : Agrees r s (body g) (body g') := by
  have hstmt := hitem.stmt
  have hbody (m : Nat) : Agrees r s (bodyFrom g m) (bodyFrom g' m) := by
    induction m with
    | zero => exact inferInstanceAs (Agrees r s (refuse _) (refuse _))
    | succ m ih =>
        unfold bodyFrom
        cases r <;> infer_instance
  unfold Grammar.body
  infer_instance

instance : InStep us .all s n .spent .spent (block g) (block g') :=
  .inside (Agrees.body inferInstance) (.inl rfl)

/-! Functions. -/

instance {e : Edge} {ts : Left us e} : Alike (isTextLiteral ts.tokens) (isTextLiteral (ts.tokens ++ us)) :=
  alike_of_front ts (fun t _ => by cases t <;> rfl) fun _ _ => .inr rfl

instance {ts : Source} : Opens (isTextLiteral ts) ts := by
  constructor
  intro hliteral d
  match ts, hliteral with
  | .literal .. :: _, _ => rfl

/-- Tokens that are passed over leave what follows in its place. -/
structure Skips (us : Source) (skip : Source → Source) : Prop where
  append : ∀ ts, Edge.shut.Admits us ts → skip (ts ++ us) = skip ts ++ us
  admits : ∀ ts, Edge.shut.Admits us ts → Edge.shut.Admits us (skip ts)

omit [Neutral us] in
theorem Skips.id : Skips us id := ⟨fun _ _ => rfl, fun _ h => h⟩

omit [Neutral us] in
theorem Skips.comp {f f' : Source → Source} (h : Skips us f) (h' : Skips us f') :
    Skips us (f' ∘ f) where
  append ts hts := by
    rw [Function.comp_apply, h.append ts hts, h'.append _ (h.admits ts hts), Function.comp_apply]
  admits ts hts := h'.admits _ (h.admits ts hts)

omit [Neutral us] in
theorem Skips.behind {test : Source → Bool} {f g : Source → Source} [hopens : ∀ ts, Opens (test ts) ts]
    [∀ ts : Left us .shut, Alike (test ts.tokens) (test (ts.tokens ++ us))] (h : Skips us f)
    (h' : Skips us g) : Skips us fun ts => if test ts then f (skipped ts) else g ts where
  append ts hts := by
    rw [← hts.alike test test]
    split
    · rename_i hyes
      rw [skipped_append hts, h.append _ ((skipped_admits hts).2 ((hopens ts).not_group hyes))]
    · exact h'.append ts hts
  admits ts hts := by
    split
    · rename_i hyes
      exact h.admits _ ((skipped_admits hts).2 ((hopens ts).not_group hyes))
    · exact h'.admits ts hts

theorem skips_word (text : String) : Skips us (withoutWord text) :=
  .behind (f := id) (g := id) .id .id

theorem skips_convention : Skips us withoutConvention :=
  have htext : Skips us fun ts => if isTextLiteral ts then skipped ts else ts := .behind .id .id
  .behind (g := id) htext .id

theorem skips_safety (safe : Bool) : Skips us (withoutSafety safe) := by
  have hsafe : Skips us fun ts => if isWord "safe" ts then skipped ts else withoutWord "unsafe" ts :=
    .behind (f := id) .id (skips_word "unsafe")
  cases safe with
  | false => exact skips_word "unsafe"
  | true => exact hsafe

instance : InStep us .all s n .shut .shut visibility visibility := by
  have hmodule : InStep us .all s n .shut .shut visibility.inModule visibility.inModule := by
    unfold visibility.inModule
    infer_instance
  unfold visibility
  refine .keywordIf (r := .all) ?_ inferInstance inferInstance
  refine .front (fun _ => .pure _) fun t ts c hc he hts => ?_
  have hrest : Edge.shut.Admits us c.rest := hts ▸ he
  have hsuffix : ts <:+ c.rest := by
    rw [hts]
    exact List.suffix_cons _ _
  cases t with
  | group d body place =>
      cases d with
      | paren =>
          dsimp only [restriction]
          split
          · refine .ite rfl ?_ (.ite rfl (hmodule.run c hc.all hrest) (.found hrest (.refl c)))
            rw [run_rest_bind, run_rest_bind, show (c.before us).rest = c.rest ++ us from rfl, hts]
            exact .advance hsuffix (.found (he.behind_group.2 (by simp)) (.refl _))
          · exact hmodule.run c hc.all hrest
          · exact .found hrest (.refl c)
      | _ => exact .found hrest (.refl c)
  | _ => exact .found hrest (.refl c)

instance {ts : Left us .shut} :
    Alike (startsSignature b ts.tokens) (startsSignature b (ts.tokens ++ us)) := by
  have hskip := (((skips_word "const").comp (skips_word "async")).comp (skips_safety b)).comp
    (skips_convention : Skips us _)
  constructor
  have happend := hskip.append _ ts.admits
  have halike := (hskip.admits _ ts.admits).alike (isWord "fn") (isWord "fn")
  rw [← happend] at halike
  exact halike

instance : Agrees .fewer s (receiver g) (receiver g') := by
  unfold receiver
  infer_instance

instance : Agrees .fewer s (typedInput g) (typedInput g') := by
  unfold typedInput
  infer_instance

instance {as : Attributes} {p : Pattern} : Agrees .all s (afterMore as p) (afterMore as p) := by
  unfold afterMore
  infer_instance

instance {m : Nat} : Agrees .fewer s (functionInputsFrom g b b' m) (functionInputsFrom g' b b' m) := by
  induction m generalizing b b' with
  | zero => exact inferInstanceAs (Agrees .fewer s (refuse _) (refuse _))
  | succ m ih =>
      unfold functionInputsFrom
      infer_instance

instance : InStep us .all s n .spent .shut (functionInputs g) (functionInputs g') := by
  unfold functionInputs
  infer_instance

instance : InStep us .all s n .shut .spent (signature g b) (signature g' b) := by
  unfold signature
  infer_instance

instance : InStep us .all s n .spent .spent (functionBody g) (functionBody g') := by
  unfold functionBody
  infer_instance

/-! Structs. -/

instance {m : Nat} : Agrees .fewer s (namedFieldWithin g m) (namedFieldWithin g' m) := by
  induction m with
  | zero => exact inferInstanceAs (Agrees .fewer s (refuse _) (refuse _))
  | succ m ih =>
      unfold namedFieldWithin
      infer_instance

instance : Agrees .fewer s (namedField g) (namedField g') := by
  unfold namedField
  infer_instance

instance : Agrees .fewer s (positionalField g) (positionalField g') := by
  unfold positionalField
  infer_instance

instance : InStep us .all s n .spent .spent (structBody g) (structBody g') := by
  unfold structBody
  infer_instance

instance {as : Attributes} {v : Visibility} :
    InStep us .all s n .shut .spent (structRest g as v) (structRest g' as v) := by
  unfold structRest
  refine .bind_eats (d := .shut) inferInstance fun _ => .get fun c he => ?_
  rw [place_before he]
  infer_instance

/-! Declarations. -/

instance {v : Visibility} : InStep us .all s n .shut .shut (crateItem v) (crateItem v) := by
  unfold crateItem
  infer_instance

instance {ts : Left us .shut} : Alike (startsImport ts.tokens) (startsImport (ts.tokens ++ us)) := by
  unfold startsImport
  infer_instance

theorem follows_importTree {m k : Nat} (h : m ≤ k) (us : Source) [Neutral us] (n : Nat) (b : Bool) :
    InStep us .fewer m n .shut .spent (importTree m b) (importTree k b) := by
  induction m generalizing k us n b with
  | zero => exact .zero
  | succ m ih =>
      obtain ⟨k, rfl⟩ := Nat.exists_eq_succ_of_ne_zero (Nat.ne_zero_of_lt h)
      have := ih (Nat.le_of_succ_le_succ h)
      refine .fewer_succ ?_
      unfold importTree
      infer_instance

instance {v : Visibility} : InStep us .all s n .shut .shut (importItem v) (importItem v) := by
  have htree (b : Bool) : InStep us .all s n .shut .spent
      (rest >>= fun ts => importTree (Tree.sizeAll ts + 1) b)
      (rest >>= fun ts => importTree (Tree.sizeAll ts + 1) b) := by
    constructor
    intro c hc he
    rw [run_rest_bind, run_rest_bind]
    refine (follows_importTree ?_ us (c.rest.length + 1) b).run c ⟨Nat.lt_succ_self _, Nat.lt_succ_self _⟩ he
    rw [Cursor.before, Tree.sizeAll_append]
    omega
  have htree {f : Option Import → Reader (Option Item)} (b : Bool)
      (hf : ∀ tree, InStep us .all s n .spent .shut (f tree) (f tree)) : InStep us .all s n .shut .shut
        (rest >>= fun ts => importTree (Tree.sizeAll ts + 1) b >>= f)
        (rest >>= fun ts => importTree (Tree.sizeAll ts + 1) b >>= f) := by
    rw [← bind_assoc]
    exact (htree b).bind hf
  unfold importItem
  refine .bind (d := .shut) inferInstance fun _ => .bind (d := .shut) inferInstance fun b => ?_
  exact htree (!b) fun tree => inferInstance

instance {v : Visibility} : InStep us .all s n .shut .shut (staticItem g v) (staticItem g' v) := by
  unfold staticItem
  infer_instance

instance : InStep us .all s n .shut .shut constantName constantName := by
  unfold constantName
  infer_instance

instance : InStep us .all s n .spent .spent (valueAfterEqual g) (valueAfterEqual g') := by
  unfold valueAfterEqual
  infer_instance

instance {v : Visibility} {text : String} :
    InStep us .all s n .spent .shut (constantRest g v b text) (constantRest g' v b text) := by
  unfold constantRest
  infer_instance

instance {v : Visibility} :
    InStep us .all s n .shut .shut (constantItem g v b) (constantItem g' v b) := by
  unfold constantItem
  infer_instance

instance {v : Visibility} {place : ConditionsPlace} :
    InStep us .all s n .shut .shut (typeParts g v b place) (typeParts g' v b place) := by
  unfold typeParts
  infer_instance

instance : Agrees .fewer s (variant g) (variant g') := by
  unfold variant
  infer_instance

instance {v : Visibility} : InStep us .all s n .shut .spent (enumItem g v) (enumItem g' v) := by
  unfold enumItem
  infer_instance

instance {v : Visibility} : InStep us .all s n .shut .spent (unionItem g v) (unionItem g' v) := by
  unfold unionItem
  infer_instance

instance : InStep us .all s n .shut .spent macroItem macroItem := by
  unfold macroItem
  infer_instance

instance {ts : Left us .shut} :
    Alike (startsInvocation ts.tokens) (startsInvocation (ts.tokens ++ us)) := by
  unfold startsInvocation
  infer_instance

instance {call : Invocation} {text : Option String} :
    InStep us .all s n .spent .spent (closeInvocation call text) (closeInvocation call text) := by
  unfold closeInvocation
  infer_instance

instance : InStep us .all s n .shut .spent (invocationItem b) (invocationItem b) := by
  unfold invocationItem
  infer_instance

end ZonedAccessors.Grammar
