import Mathlib.Data.List.Find
import ZonedAccessors.Grammar.Expr
import ZonedAccessors.Proofs.Grammar.Follow.Pattern

/-!
Expressions are read in step.
-/

namespace ZonedAccessors.Grammar

open Token Syntax

set_option synthInstance.maxSize 20000
set_option synthInstance.maxHeartbeats 200000

variable {α : Type} {us : Source} [Neutral us] {s n : Nat} {g g' : Inner} [Nested s g g'] {b b' : Bool}

/-! Operators. -/

/-- The first of some marks that stands here. -/
theorem find?_isMark {marks : List α} {f : α → String} (hf : ∀ a ∈ marks, Written (f a))
    {ts : Source} (h : Edge.spent.Admits us ts) :
    marks.find? (fun a => isMark (f a) (ts ++ us)) = marks.find? (fun a => isMark (f a) ts) :=
  List.find?_congr fun a ha => by
    have := hf a ha
    exact (h.alike (isMark (f a)) (isMark (f a))).symm

theorem written_operators : ∀ o ∈ operators, Written o.1 := by
  have hwritten : ∀ o ∈ operators, o.1.toList ≠ [] := by decide
  exact fun o ho => ⟨hwritten o ho⟩

theorem operatorAt_append {ts : Source} (h : Edge.spent.Admits us ts) :
    operatorAt (ts ++ us) = operatorAt ts := find?_isMark written_operators h

instance {ts : Left us .spent} : Alike (isAssign ts.tokens) (isAssign (ts.tokens ++ us)) := by
  unfold isAssign
  infer_instance

theorem bindingAt_append {ts : Source} (h : Edge.spent.Admits us ts) :
    bindingAt (ts ++ us) = bindingAt ts := by
  unfold bindingAt
  rw [operatorAt_append h, ← h.alike isAssign isAssign, ← h.alike (isMark "..") (isMark ".."),
    ← h.alike (isWord "as") (isWord "as")]

instance {base : Binding} : InStep us .fewer s n .shut .spent (operand g b base) (operand g' b base) := by
  unfold operand
  refine .bind (d := .spent) inferInstance fun right => ?_
  refine .fuelled_with (fun t m k ht ih left => ?_) right
  constructor
  intro c hc he
  unfold tighten
  rw [run_rest_bind, run_rest_bind, show (c.before us).rest = c.rest ++ us from rfl,
    bindingAt_append he]
  refine .ite rfl ?_ (.found he (.refl _))
  have hclimb : InStep us .all t m .spent .spent (g.climb b (bindingAt c.rest) left)
      (g'.climb b (bindingAt c.rest) left) := .at (fun n => Nested.climb us n ..) ht
  refine (hclimb.run c hc he).bind fun more c₁ _ h₁ hl => ?_
  rw [run_rest_bind, run_rest_bind, show (c₁.before us).rest = c₁.rest ++ us from rfl]
  simp only [List.length_append, Nat.add_right_cancel_iff]
  split
  · exact .found h₁ (.refl _)
  · rename_i hne
    have hle := hl.rest.length_le
    exact (ih more).run c₁ (hc.fewer hl (by omega)) h₁

instance {ts : Left us .shut} : Alike (endsRange b ts.tokens) (endsRange b (ts.tokens ++ us)) := by
  unfold endsRange
  infer_instance

instance {closed : Bool} :
    InStep us .fewer s n .shut .spent (rangeEnd g b closed) (rangeEnd g' b closed) := by
  unfold rangeEnd
  infer_instance

instance : InStep us .all s n .spent .spent checkCast checkCast := by
  unfold checkCast checkCast.refuseForm
  infer_instance

instance {base : Binding} {left : Expr} :
    InStep us .all s n .spent .spent (climb g b base left) (climb g' b base left) := by
  unfold climb
  refine .fuelled_with (fun t m k ht ih left => ?_) left
  have := Nested.mono ‹_› ht
  unfold climbWithin
  refine .ite ⟨rfl⟩ inferInstance (.rest fun ts => ?_)
  rw [operatorAt_append ts.admits]
  cases hoperator : operatorAt ts.tokens with
  | none => infer_instance
  | some operator =>
      have : Written operator.1 := written_operators _ (List.mem_of_find?_eq_some hoperator)
      infer_instance

/-! Blocks. -/

instance : InStep us .all s n .shut .shut labelIf labelIf := by
  unfold labelIf
  infer_instance

instance : InStep us .fewer s n .spent .spent (plainBlock g) (plainBlock g') := by
  unfold plainBlock
  infer_instance

instance : InStep us .all s n .shut .spent (conditional g) (conditional g') := by
  unfold conditional
  refine .fuelled fun t m k ht ih => ?_
  have := Nested.mono ‹_› ht
  unfold conditionalFrom
  infer_instance

instance {label : Option String} :
    InStep us .all s n .shut .spent (forever g label) (forever g' label) := by
  unfold forever
  infer_instance

instance {label : Option String} :
    InStep us .all s n .shut .spent (whilst g label) (whilst g' label) := by
  unfold whilst
  infer_instance

instance {label : Option String} :
    InStep us .all s n .shut .spent (each g label) (each g' label) := by
  unfold each
  infer_instance

instance : Agrees .fewer s (arm g) (arm g') := by
  unfold arm
  infer_instance

instance : InStep us .all s n .shut .spent (selection g) (selection g') := by
  unfold selection
  infer_instance

instance : InStep us .all s n .shut .spent (unsafeBlock g) (unsafeBlock g') := by
  unfold unsafeBlock
  infer_instance

instance : InStep us .all s n .shut .spent (tryBlock g) (tryBlock g') := by
  unfold tryBlock
  infer_instance

/-- What reads a block has read a word before. -/
theorem run_asyncBlock {c : Cursor} (hc : c.size ≤ s) (he : Edge.shut.Admits us c.rest)
    (hword : isWord "async" c.rest = true) :
    Outcome us .spent c ((asyncBlock g).run c) ((asyncBlock g').run (c.before us)) := by
  have hcovers : Reach.all.Covers s c.rest.length c := ⟨hc, Nat.le_refl _⟩
  unfold asyncBlock wordsIf
  rw [bind_assoc, bind_assoc]
  refine .keywordIf he (he.alike _ _) (fun c₁ hl hlt h₁ => ?_) fun hno => ?_
  · exact InStep.run c₁ (hcovers.fewer hl hlt) h₁
  · rw [hword] at hno
    cases hno

instance {label : Option String} :
    InStep us .all s n .spent .spent (bareBlock g label) (bareBlock g' label) := by
  unfold bareBlock
  infer_instance

instance : InStep us .all s n .shut .spent (labelled g) (labelled g') := by
  unfold labelled
  infer_instance

instance {ts : Left us .shut} : Alike (startsBinder ts.tokens) (startsBinder (ts.tokens ++ us)) := by
  unfold startsBinder
  infer_instance

instance {ts : Left us .shut} : Alike (startsBlock ts.tokens) (startsBlock (ts.tokens ++ us)) := by
  unfold startsBlock
  infer_instance

instance : InStep us .all s n .shut .spent (blockExpr g) (blockExpr g') := by
  unfold blockExpr
  infer_instance

/-! Groups. -/

instance : InStep us .all s n .spent .shut (parenExpr g) (parenExpr g') := by
  unfold parenExpr
  refine .inside (.bind inferInstance fun (items, trailing) => ?_) (.inr (by simp))
  dsimp only
  split <;> infer_instance

instance : InStep us .all s n .spent .shut (bracketExpr g) (bracketExpr g') := by
  unfold bracketExpr
  infer_instance

instance : Agrees .fewer s (fieldValue g) (fieldValue g') := by
  unfold fieldValue
  infer_instance

instance {m : Nat} : Agrees .fewer s (fieldsFrom g m) (fieldsFrom g' m) := by
  induction m with
  | zero => exact inferInstanceAs (Agrees .fewer s (refuse _) (refuse _))
  | succ m ih =>
      unfold fieldsFrom
      infer_instance

instance {p : TyPath} : InStep us .all s n .spent .spent (structExpr g p) (structExpr g' p) := by
  unfold structExpr
  infer_instance

instance : InStep us .all s n .shut .spent (pathExpr g b) (pathExpr g' b) := by
  unfold pathExpr
  refine .bind (d := .spent) inferInstance fun p => .rest fun ts => ?_
  rw [← ts.admits.alike isInvoked isInvoked]
  dsimp only
  split <;> infer_instance

/-! Closures and jumps. -/

instance {ts : Left us .shut} : Alike (startsClosure ts.tokens) (startsClosure (ts.tokens ++ us)) := by
  unfold startsClosure
  infer_instance

instance : InStep us .fewer s n .shut .spent (closureInput g) (closureInput g') := by
  have hpattern : InStep us .fewer s n .shut .spent g.pattern g'.pattern := inferInstance
  unfold closureInput
  refine .bind (d := .shut) inferInstance fun as => hpattern.bind fun p => ?_
  refine .rest fun ts => .ite inferInstance inferInstance ?_
  split <;> infer_instance

instance : InStep us .all s n .shut .spent (closure g b) (closure g' b) := by
  have hinputs : InStep us .fewer s n .shut .spent (listed (isMark "|") "," (closureInput g))
      (listed (isMark "|") "," (closureInput g')) := inferInstance
  have hmark : InStep us .fewer s n .spent .shut (mark "|") (mark "|") := inferInstance
  unfold closure
  refine .bind (d := .shut) inferInstance fun binder => .bind (d := .shut) inferInstance fun texts => ?_
  refine .bind_eats (d := .shut) inferInstance fun _ => hinputs.bind fun (inputs, trailing) => ?_
  refine hmark.bind fun _ => ?_
  unfold output
  rw [bind_assoc, bind_assoc]
  refine .markIf ?_ ?_
  · simp only [if_true, bind_assoc, pure_bind]
    infer_instance
  · simp only [Bool.false_eq_true, if_false, pure_bind]
    infer_instance

instance {ts : Left us .shut} : Alike (startsExpr ts.tokens) (startsExpr (ts.tokens ++ us)) := by
  unfold startsExpr
  infer_instance

instance {wanted wanted' : Bool} [Alike wanted wanted'] :
    InStep us .fewer s n .shut .spent (valueIf g wanted) (valueIf g' wanted') := by
  unfold valueIf
  infer_instance

instance : InStep us .all s n .shut .spent (breakExpr g b) (breakExpr g' b) := by
  unfold breakExpr
  infer_instance

instance {word : String} : InStep us .all s n .shut .spent (jump g word) (jump g' word) := by
  unfold jump
  infer_instance

instance : InStep us .all s n .shut .shut continueExpr continueExpr := by
  unfold continueExpr
  infer_instance

instance : InStep us .all s n .shut .spent (becomeExpr g) (becomeExpr g') := by
  unfold becomeExpr
  infer_instance

instance : InStep us .all s n .shut .spent (letExpr g b) (letExpr g' b) := by
  unfold letExpr
  infer_instance

/-! Atoms and what is attached to them. -/

instance {ts : Left us .shut} : Alike (startsPathExpr ts.tokens) (startsPathExpr (ts.tokens ++ us)) := by
  unfold startsPathExpr
  infer_instance

instance : InStep us .all s n .shut .spent (atom g b) (atom g' b) := by
  have hliteral : InStep us .all s n .shut .shut literalText literalText := inferInstance
  unfold atom
  refine .rest_ite (fun c hc he _ => (hliteral.run c hc he).bind fun _ _ _ h _ => .found h.spent (.refl _))
    (.rest_ite (fun c hc he hword => ?_) inferInstance)
  exact run_asyncBlock hc.size he (Bool.and_eq_true_iff.mp hword).1

instance {e : Expr} : InStep us .all s n .shut .spent (methodOrField g e) (methodOrField g' e) := by
  unfold methodOrField
  infer_instance

instance {place : Span} {written : String} :
    InStep us .all s n .shut .shut (positionsAt place written) (positionsAt place written) := by
  unfold positionsAt
  infer_instance

/-- A literal that is no integer. -/
def isFraction (ts : Source) : Bool := (afterLiteral ts).any fun l => !isInteger l.1.2

theorem isFraction_append {ts : Source} (h : Edge.spent.Admits us ts) :
    isFraction (ts ++ us) = isFraction ts := by
  unfold isFraction
  rw [afterLiteral_append h, Option.any_map]

/-- Behind a minus no position stands. -/
theorem run_positionsIf_punct {m : Char} {joint : Bool} {place : Span} {ts : Source} {c : Cursor}
    (h : c.rest = .punct m joint place :: ts) :
    if isFraction c.rest = true then ∃ fault, positionsIf.run c = .error fault
    else positionsIf.run c = pure (none, c) := by
  unfold positionsIf isFraction
  rw [run_rest_bind, h]
  by_cases hm : m = '-'
  · subst hm
    rcases ts with _ | ⟨t, vs⟩
    · rfl
    · cases t with
      | literal text place' =>
          by_cases hnumber : literal text = .number
          · cases hinteger : isInteger text with
            | true => simp [afterLiteral, hnumber, hinteger]
            | false =>
                simp only [afterLiteral, hnumber, hinteger, if_true, Option.any_some, Bool.not_false,
                  decide_true, Bool.and_true]
                exact Fails.failed c
          · simp [afterLiteral, hnumber]
      | _ => rfl
  · rcases ts with _ | ⟨t, vs⟩
    · simp [afterLiteral]
    · cases t <;> simp [afterLiteral, hm]

theorem run_positionsIf_of_punct {m : Char} {joint : Bool} {place : Span} {ts : Source} {c : Cursor}
    (he : Edge.shut.Admits us c.rest) (h : c.rest = .punct m joint place :: ts) :
    Outcome us .shut c (positionsIf.run c) (positionsIf.run (c.before us)) := by
  have hbefore : (c.before us).rest = .punct m joint place :: (ts ++ us) := by
    rw [Cursor.before, h]
    rfl
  have hrun := run_positionsIf_punct h
  have hrun' := run_positionsIf_punct hbefore
  rw [show (c.before us).rest = c.rest ++ us from rfl, isFraction_append he.spent] at hrun'
  cases hfraction : isFraction c.rest with
  | true =>
      rw [if_pos hfraction] at hrun hrun'
      obtain ⟨fault, hfault⟩ := hrun
      obtain ⟨fault', hfault'⟩ := hrun'
      rw [hfault, hfault']
      exact .failed
  | false =>
      rw [if_neg (by rw [hfraction]; nofun)] at hrun hrun'
      rw [hrun, hrun']
      exact .found he (.refl c)

instance : InStep us .all s n .shut .shut positionsIf positionsIf := by
  unfold positionsIf
  refine .front (fun _ => inferInstance) fun t ts c hc he hts => ?_
  have hrest : Edge.shut.Admits us c.rest := hts ▸ he
  have hsuffix : ts <:+ c.rest := by
    rw [hts]
    exact List.suffix_cons _ _
  cases t with
  | literal text place =>
      have hpositions : InStep us .all s n .shut .shut (some <$> positionsAt place text)
          (some <$> positionsAt place text) := inferInstance
      refine .ite rfl (.advance hsuffix ?_) (.found hrest (.refl _))
      exact hpositions.run _ (hc.later ⟨hsuffix, id, rfl⟩) (he.tail (by simp))
  | punct m joint place =>
      have hrun := run_positionsIf_of_punct hrest hts
      unfold positionsIf at hrun
      rw [run_rest_bind, run_rest_bind, show (c.before us).rest = c.rest ++ us from rfl, hts] at hrun
      exact hrun
  | _ => exact .found hrest (.refl _)

/-- The point is read first. -/
instance (priority := high) {e : Expr} {k k' : Expr → Reader Expr}
    [∀ x, InStep us .fewer s n .spent .spent (k x) (k' x)] :
    InStep us .all s n .spent .spent (dotted g e >>= k) (dotted g' e >>= k') := by
  have hpositions : InStep us .fewer s n .shut .shut positionsIf positionsIf := inferInstance
  unfold dotted
  simp only [bind_assoc]
  refine .bind_eats (d := .shut) inferInstance fun _ => hpositions.bind fun found => ?_
  cases found <;> infer_instance

instance {e : Expr} : InStep us .all s n .spent .spent (trailers g e) (trailers g' e) := by
  unfold trailers
  refine .fuelled_with (fun t m k ht ih e => ?_) e
  have := Nested.mono ‹_› ht
  unfold trailersWithin
  infer_instance

instance {before : Source} {as : Attributes} : InStep us .all s n .shut .spent
    (attached g b before as) (attached g' b (before ++ us) as) := by
  have htrailers (e : Expr) : InStep us .all s n .spent .spent (trailers g e) (trailers g' e) :=
    inferInstance
  unfold attached
  refine .rest fun start => .bind (d := .spent) inferInstance fun e => (htrailers e).bind fun e => ?_
  split
  · infer_instance
  · split <;> infer_instance

instance : InStep us .all s n .shut .spent (unary g b) (unary g' b) := by
  unfold unary
  refine .rest fun before => .bind (d := .shut) inferInstance fun as => .rest fun ts => ?_
  refine .ite inferInstance inferInstance ?_
  have hwritten : ∀ text ∈ ["*", "!", "-"], Written text := by
    simp only [List.forall_mem_cons, List.not_mem_nil]
    exact ⟨inferInstance, inferInstance, inferInstance, nofun⟩
  have hfind : ["*", "!", "-"].find? (isMark · (ts.tokens ++ us)) =
      ["*", "!", "-"].find? (isMark · ts.tokens) := find?_isMark (f := id) hwritten ts.admits.spent
  rw [hfind]
  cases hmark : ["*", "!", "-"].find? (isMark · ts.tokens) with
  | none => infer_instance
  | some text =>
      have := hwritten text (List.mem_of_find?_eq_some hmark)
      infer_instance

instance : InStep us .all s n .shut .spent (expr g b) (expr g' b) := by
  unfold expr
  infer_instance

instance : Agrees .all s (statement g) (statement g') := by
  unfold statement
  infer_instance

end ZonedAccessors.Grammar
