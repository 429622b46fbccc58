import Mathlib.Data.List.TakeWhile
import ZonedAccessors.Proofs.Grammar.Items
import ZonedAccessors.Proofs.Grammar.Values

/-!
Operands and operators between them. An expression is an operand with steps to the right of it: no
step binds more tightly than the one before, and what stands right of an operator holds together
more tightly than the operator. Such expressions are read as what they were printed from.
-/

namespace ZonedAccessors.Syntax

open Token Grammar

def arithmetic : List String := ["+", "-", "*", "/", "%", "^", "&", "|", "<<", ">>"]

def bindingOf (text : String) : Binding :=
  ((operators.find? (·.1 == text)).map (·.2)).getD .lowest

namespace Expr

/-- How tightly it holds together. No operator reaches into an operand. -/
def strength : Expr → Binding
  | .binary text _ _ => bindingOf text
  | _ => .cast

def isArithmetic : Expr → Bool
  | .literal negative _ => !negative
  | .path (.plain p) => p.names?.any ModPath.isTidy
  | .paren inner => inner.isArithmetic
  | .unary sign inner =>
      ['*', '!', '-'].contains sign && inner.isArithmetic && inner.strength == .cast
  | .binary text left right =>
      arithmetic.contains text && left.isArithmetic && right.isArithmetic &&
        decide (bindingOf text ≤ left.strength) && decide (bindingOf text < right.strength)
  | _ => false

/-- The operand on the very left. -/
def head : Expr → Expr
  | .binary _ left _ => left.head
  | e => e

/-- The operators that follow it, each with what stands right of it. -/
def steps : Expr → List (String × Expr)
  | .binary text left right => left.steps ++ [(text, right)]
  | _ => []

end Expr

/-- Braces around one value. -/
def Expr.isArithmeticBlock : Expr → Bool
  | .block [] none [] [.expr e false] => e.isArithmetic && !startsItem e.tokens.placed
  | _ => false

def stepsTokens (ss : List (String × Expr)) : Tokens := ss.flatMap fun s => op s.1 ++ s.2.tokens

def stepped (ss : List (String × Expr)) (e : Expr) : Expr :=
  ss.foldl (fun left s => .binary s.1 left s.2) e

theorem Expr.tokens_eq_steps (e : Expr) : e.tokens = e.head.tokens ++ stepsTokens e.steps := by
  fun_induction Expr.head e with
  | case1 text left right ih =>
      simp [Expr.tokens, Expr.steps, stepsTokens, ih]
  | case2 e hleaf =>
      cases e with
      | binary => exact absurd rfl (hleaf _ _ _)
      | _ => simp [Expr.steps, stepsTokens]

theorem Expr.stepped_steps (e : Expr) : stepped e.steps e.head = e := by
  fun_induction Expr.head e with
  | case1 text left right ih =>
      rw [Expr.steps, stepped, List.foldl_append]
      exact congrArg (Expr.binary text · right) ih
  | case2 e hleaf =>
      cases e with
      | binary => exact absurd rfl (hleaf _ _ _)
      | _ => rfl

end ZonedAccessors.Syntax

namespace ZonedAccessors.Grammar

open Token Syntax

variable {g : Inner} {us vs : Source} {text : String} {base b : Binding} {e : Expr}
  {ss : List (String × Expr)} {fuel : Nat}

/-! One operator. -/

/-- What does not depend on the tokens behind an operator. -/
structure IsOperator (text : String) : Prop where
  strong : Binding.comparison < bindingOf text
  weak : bindingOf text < Binding.cast
  operatorAt (us : Source) :
    operatorAt ((op text).placed ++ us) = some (text, bindingOf text)
  follows (us : Source) : Follows true ((op text).placed ++ us)
  call (us : Source) : isMark "!" ((op text).placed ++ us) = false
  reads (us : Source) : Reads (mark text) ((op text).placed ++ us) () us
  written : 0 < (op text).placed.length

theorem isOperator_of_arithmetic (h : text ∈ arithmetic) : IsOperator text := by
  simp only [arithmetic, List.mem_cons, List.not_mem_nil, or_false] at h
  rcases h with rfl | rfl | rfl | rfl | rfl | rfl | rfl | rfl | rfl | rfl <;>
    exact ⟨by decide, by decide, fun _ => rfl,
      fun _ => ⟨rfl, rfl, rfl, rfl, rfl, rfl, rfl, rfl, rfl, rfl⟩, fun _ => rfl, fun _ _ => rfl,
      by decide⟩

theorem IsOperator.bindingAt (h : IsOperator text) (us : Source) :
    bindingAt ((op text).placed ++ us) = bindingOf text := by
  rw [Grammar.bindingAt, h.operatorAt]

/-- Behind an operand the expression ends, or an operator stands. -/
inductive Resumes : Source → Prop
  | closes {us : Source} : Closes true us → Resumes us
  | op {text : String} (us : Source) : IsOperator text → Resumes ((op text).placed ++ us)

theorem Closes.bindingAt (h : Closes true us) : bindingAt us = .lowest := by
  cases h <;> rfl

namespace Resumes

theorem follows (h : Resumes us) : Follows true us := by
  cases h with
  | closes h => exact h.follows
  | op us h => exact h.follows us

theorem reads_climbWithin (h : Resumes us) (hbase : bindingAt us < base) :
    Reads (climbWithin g true base (fuel + 1) e) us e us := by
  cases h with
  | closes h => exact h.reads_climbWithin base fuel
  | op us h =>
      rw [h.bindingAt] at hbase
      unfold climbWithin
      cases hrange : e.isRange with
      | true => exact .yes rfl (reads_pure _)
      | false =>
          refine .no rfl (.peek ?_)
          rw [h.operatorAt]
          dsimp only
          rw [if_pos hbase]
          exact reads_pure _

end Resumes

/-- What stands right of the operator is read, where nothing that binds more tightly follows. -/
structure ReadsStep (g : Inner) (s : String × Expr) : Prop where
  operator : IsOperator s.1
  right {us : Source} : Resumes us → bindingAt us ≤ bindingOf s.1 →
    Reads (operand g true (bindingOf s.1)) (s.2.tokens.placed ++ us) s.2 us

/-! Several operators. -/

theorem placed_steps_cons (s : String × Expr) (ss : List (String × Expr)) (us : Source) :
    (stepsTokens (s :: ss)).placed ++ us =
      (op s.1).placed ++ (s.2.tokens.placed ++ ((stepsTokens ss).placed ++ us)) := by
  simp only [stepsTokens, List.flatMap_cons, placed_append, List.append_assoc]

theorem resumes_steps (hss : ∀ s ∈ ss, ReadsStep g s) (hus : Resumes us) :
    Resumes ((stepsTokens ss).placed ++ us) := by
  cases ss with
  | nil => exact hus
  | cons s ss =>
      rw [placed_steps_cons]
      exact .op _ (hss s List.mem_cons_self).operator

theorem bindingAt_steps (hss : ∀ s ∈ ss, ReadsStep g s) {P : Binding → Prop}
    (hsteps : ∀ s ∈ ss.head?, P (bindingOf s.1)) (hus : P (bindingAt us)) :
    P (bindingAt ((stepsTokens ss).placed ++ us)) := by
  cases ss with
  | nil => exact hus
  | cons s ss =>
      rw [placed_steps_cons, (hss s List.mem_cons_self).operator.bindingAt]
      exact hsteps s rfl

theorem length_steps (hss : ∀ s ∈ ss, ReadsStep g s) (us : Source) :
    ss.length + us.length ≤ ((stepsTokens ss).placed ++ us).length := by
  induction ss with
  | nil => exact Nat.le_of_eq (Nat.zero_add _)
  | cons s ss ih =>
      obtain ⟨hs, hss⟩ := List.forall_mem_cons.mp hss
      have hwritten := hs.operator.written
      have hmore := ih hss
      rw [placed_steps_cons, List.length_append, List.length_append, List.length_cons]
      omega

theorem placed_steps_append (ss ts : List (String × Expr)) (us : Source) :
    (stepsTokens (ss ++ ts)).placed ++ us =
      (stepsTokens ss).placed ++ ((stepsTokens ts).placed ++ us) := by
  rw [stepsTokens, List.flatMap_append, placed_append, List.append_assoc]
  rfl

theorem isRange_stepped (ss : List (String × Expr)) (he : e.isRange = false) :
    (stepped ss e).isRange = false := by
  induction ss generalizing e with
  | nil => exact he
  | cons s ss ih => exact ih rfl

/-- Operators that bind tightly enough are taken one after the other, up to where `us` stops it. -/
theorem reads_climbWithin_steps (hss : ∀ s ∈ ss, ReadsStep g s)
    (horder : ss.Pairwise fun s t => bindingOf t.1 ≤ bindingOf s.1)
    (hbase : ∀ s ∈ ss, base ≤ bindingOf s.1) (hus : Resumes us)
    (hnext : ∀ s ∈ ss, bindingAt us ≤ bindingOf s.1)
    (hstop : ∀ fuel e, Reads (climbWithin g true base (fuel + 1) e) us e us)
    (he : e.isRange = false) (hfuel : ss.length < fuel) :
    Reads (climbWithin g true base fuel e) ((stepsTokens ss).placed ++ us) (stepped ss e) us := by
  induction ss generalizing e fuel with
  | nil =>
      obtain ⟨fuel, rfl⟩ := Nat.exists_eq_succ_of_ne_zero (Nat.ne_zero_of_lt hfuel)
      exact hstop fuel e
  | cons s ss ih =>
      obtain ⟨fuel, rfl⟩ := Nat.exists_eq_succ_of_ne_zero (Nat.ne_zero_of_lt hfuel)
      obtain ⟨hs, hss⟩ := List.forall_mem_cons.mp hss
      obtain ⟨hafter, horder⟩ := List.pairwise_cons.mp horder
      obtain ⟨hbase, hbases⟩ := List.forall_mem_cons.mp hbase
      obtain ⟨hnext, hnexts⟩ := List.forall_mem_cons.mp hnext
      have hcomparison : (decide (bindingOf s.1 = .comparison) && e.isComparison) = false := by
        simp [Nat.ne_of_gt hs.operator.strong]
      have hright := hs.right (resumes_steps hss hus)
        (bindingAt_steps hss (P := (· ≤ bindingOf s.1))
          (fun t ht => hafter t (List.mem_of_mem_head? ht)) hnext)
      have hmore := ih hss horder hbases hnexts (e := .binary s.1 e s.2) rfl
        (Nat.lt_of_succ_lt_succ hfuel)
      rw [placed_steps_cons]
      unfold climbWithin
      refine .no he (.peek ?_)
      rw [hs.operator.operatorAt]
      dsimp only
      rw [if_neg (Nat.not_lt.mpr hbase)]
      exact .no hcomparison ((hs.operator.reads _).bind (hright.bind hmore))

/-- The next operators, those as strong as the first of them, are taken by one climb. -/
theorem reads_climb_steps (hss : ∀ s ∈ ss, ReadsStep g s)
    (horder : ss.Pairwise fun s t => bindingOf t.1 ≤ bindingOf s.1)
    (hbase : ∀ s ∈ ss, base ≤ bindingOf s.1) (hus : Resumes us) (hnext : bindingAt us < base)
    (he : e.isRange = false) :
    Reads (climb g true base e) ((stepsTokens ss).placed ++ us) (stepped ss e) us := by
  have hlength := length_steps hss us
  refine .peek (reads_climbWithin_steps hss horder hbase hus (fun s hs => ?_)
    (fun fuel e => hus.reads_climbWithin hnext) he (by omega))
  exact Nat.le_trans (Nat.le_of_lt hnext) (hbase s hs)

/-- A climb stops before the first operator that is weaker than the one it began with. -/
theorem exists_weaker (s : String × Expr) (ss : List (String × Expr)) :
    ∃ near far, ss = near ++ far ∧ (∀ t ∈ s :: near, bindingOf s.1 ≤ bindingOf t.1) ∧
      ∀ t ∈ far.head?, bindingOf t.1 < bindingOf s.1 := by
  let strong : String × Expr → Bool := fun t => decide (bindingOf s.1 ≤ bindingOf t.1)
  refine ⟨ss.takeWhile strong, ss.dropWhile strong, List.takeWhile_append_dropWhile.symm, ?_, ?_⟩
  · refine List.forall_mem_cons.mpr ⟨Nat.le_refl _, fun t ht => ?_⟩
    simpa [strong] using List.mem_takeWhile_imp ht
  · intro t ht
    have hweak := List.head?_dropWhile_not strong ss
    rw [Option.mem_def.mp ht] at hweak
    simpa [strong] using hweak

theorem reads_tighten_stop (hb : Binding.assign < b) (hus : bindingAt us ≤ b) :
    Reads (tighten g true b (fuel + 1) e) us e us := by
  have hstop : (decide (b < bindingAt us) ||
      (decide (b = bindingAt us) && decide (b = .assign))) = false := by
    simp [Nat.not_lt.mpr hus, Nat.ne_of_gt hb]
  exact .peek (.no hstop (reads_pure _))

theorem reads_tighten_more (hb : b < bindingAt us) {e' e'' : Expr}
    (hclimb : Reads (climb g true (bindingAt us) e) us e' vs) (hlt : vs.length < us.length)
    {ws : Source} (h : Reads (tighten (above g) true b fuel e') vs e'' ws) :
    Reads (tighten (above g) true b (fuel + 1) e) us e'' ws := by
  have hmore : (decide (b < bindingAt us) ||
      (decide (b = bindingAt us) && decide (b = .assign))) = true := by
    simp [hb]
  have hcontinue : Reads (if vs.length = us.length then pure e'
      else tighten (above g) true b fuel e') vs e'' ws := by
    rw [if_neg (Nat.ne_of_lt hlt)]
    exact h
  exact .peek (.yes hmore (hclimb.bind (.peek hcontinue)))

/-- What binds more tightly than `b` is taken in several climbs, one for each strength. -/
theorem reads_tighten (hb : Binding.assign < b) (hss : ∀ s ∈ ss, ReadsStep g s)
    (horder : ss.Pairwise fun s t => bindingOf t.1 ≤ bindingOf s.1)
    (hover : ∀ s ∈ ss, b < bindingOf s.1) (hus : Resumes us) (hnext : bindingAt us ≤ b)
    (he : e.isRange = false) (hfuel : ss.length < fuel) :
    Reads (tighten (above g) true b fuel e) ((stepsTokens ss).placed ++ us) (stepped ss e) us := by
  induction fuel generalizing ss e with
  | zero => exact absurd hfuel (Nat.not_lt_zero _)
  | succ fuel ih =>
      cases ss with
      | nil => exact reads_tighten_stop hb hnext
      | cons s ss =>
          obtain ⟨near, far, rfl, hnear, hfar⟩ := exists_weaker s ss
          rw [← List.cons_append] at hss horder hover hfuel ⊢
          obtain ⟨hnears, hfars⟩ := List.forall_mem_append.mp hss
          obtain ⟨hover, hovers⟩ := List.forall_mem_append.mp hover
          obtain ⟨horderNear, horderFar, -⟩ := List.pairwise_append.mp horder
          have hstrong : b < bindingOf s.1 := hover s List.mem_cons_self
          have hweak : bindingAt ((stepsTokens far).placed ++ us) < bindingOf s.1 :=
            bindingAt_steps hfars (P := (· < bindingOf s.1)) hfar (Nat.lt_of_le_of_lt hnext hstrong)
          have hclimb := reads_climb_steps hnears horderNear hnear (resumes_steps hfars hus) hweak
            he
          have hlength := length_steps hnears ((stepsTokens far).placed ++ us)
          have hat : bindingAt ((stepsTokens (s :: near)).placed ++
              ((stepsTokens far).placed ++ us)) = bindingOf s.1 := by
            rw [placed_steps_cons, (hnears s List.mem_cons_self).operator.bindingAt]
          rw [← hat] at hstrong hclimb
          rw [List.length_cons] at hlength
          rw [placed_steps_append, stepped, List.foldl_append]
          refine reads_tighten_more hstrong hclimb (by omega) ?_
          refine ih hfars horderFar hovers (isRange_stepped _ he) ?_
          rw [List.length_append, List.length_cons] at hfuel
          omega

/-! Operands and expressions. -/

/-- Every part of an expression is read where it stands. -/
structure ReadsSpine (g : Inner) (e : Expr) : Prop where
  operand : ReadsOperand g true e.head.tokens e.head
  written : e.head.tokens ≠ []
  closed : e.head.isRange = false
  steps : ∀ s ∈ e.steps, ReadsStep g s
  order : e.steps.Pairwise fun s t => bindingOf t.1 ≤ bindingOf s.1
  strong : ∀ s ∈ e.steps, e.strength ≤ bindingOf s.1

namespace ReadsSpine

variable {e' : Expr}

theorem reads_operand (h : ReadsSpine g e) (hb : Binding.assign < b) (hstrength : b < e.strength)
    (hus : Resumes us) (hnext : bindingAt us ≤ b) :
    Reads (Grammar.operand (above g) true b) (e.tokens.placed ++ us) e us := by
  have hhead : Reads ((above g).unary true)
      (e.head.tokens.placed ++ ((stepsTokens e.steps).placed ++ us)) e.head
      ((stepsTokens e.steps).placed ++ us) := h.operand _ (resumes_steps h.steps hus).follows
  have hlength := length_steps h.steps us
  have htighten := reads_tighten hb h.steps h.order
    (fun s hs => Nat.lt_of_lt_of_le hstrength (h.strong s hs)) hus hnext h.closed
    (Nat.lt_succ_of_le (Nat.le_trans (Nat.le_add_right _ _) hlength))
  rw [e.stepped_steps] at htighten
  rw [e.tokens_eq_steps, placed_append, List.append_assoc]
  exact hhead.bind (.peek htighten)

theorem reads_climb (h : ReadsSpine g e) (hus : Closes true us) :
    Reads (climb g true .lowest e.head) ((stepsTokens e.steps).placed ++ us) e us := by
  have hlength := length_steps h.steps us
  have hsteps : Reads (climb g true .lowest e.head) ((stepsTokens e.steps).placed ++ us)
      (stepped e.steps e.head) us :=
    .peek (reads_climbWithin_steps h.steps h.order (fun _ _ => Nat.zero_le _) (.closes hus)
      (fun _ _ => by rw [hus.bindingAt]; exact Nat.zero_le _)
      (fun fuel e => hus.reads_climbWithin _ fuel) h.closed (by omega))
  rwa [e.stepped_steps] at hsteps

theorem readsExpr (h : ReadsSpine g e) : ReadsExpr g true e.tokens e := by
  intro us hus
  rw [e.tokens_eq_steps, placed_append, List.append_assoc]
  exact (h.operand _ (resumes_steps h.steps (.closes hus)).follows).bind (h.reads_climb hus)

theorem binary (htext : IsOperator text) (h : ReadsSpine (above g) e) (h' : ReadsSpine g e')
    (hstrength : bindingOf text ≤ e.strength) (hstrength' : bindingOf text < e'.strength) :
    ReadsSpine (above g) (.binary text e e') where
  operand := h.operand
  written := h.written
  closed := h.closed
  steps := by
    refine List.forall_mem_append.mpr ⟨h.steps, List.forall_mem_singleton.mpr ⟨htext, ?_⟩⟩
    intro us hus hnext
    have hb : Binding.assign < bindingOf text := Nat.lt_trans (by decide) htext.strong
    exact h'.reads_operand hb hstrength' hus hnext
  order := by
    refine List.pairwise_append.mpr ⟨h.order, List.pairwise_singleton _ _, fun s hs t ht => ?_⟩
    rw [List.mem_singleton.mp ht]
    exact Nat.le_trans hstrength (h.strong s hs)
  strong := by
    refine List.forall_mem_append.mpr ⟨fun s hs => ?_, List.forall_mem_singleton.mpr ?_⟩
    · exact Nat.le_trans hstrength (h.strong s hs)
    · exact Nat.le_refl _

theorem of_operand (h : ReadsOperand g true e.tokens e) (hwritten : e.tokens ≠ [])
    (hhead : e.head = e) (hsteps : e.steps = []) (hclosed : e.isRange = false) :
    ReadsSpine g e where
  operand := by rwa [hhead]
  written := by rwa [hhead]
  closed := by rwa [hhead]
  steps := by simp [hsteps]
  order := by simp [hsteps]
  strong := by simp [hsteps]

theorem literal (text : String) : ReadsSpine g (.literal false text) := by
  refine .of_operand (fun us hus => ?_) (List.cons_ne_nil _ _) rfl rfl rfl
  exact reads_unary rfl rfl rfl (fun _ => rfl) (.peek (hus.reads_trailers _)) rfl

theorem path {m : ModPath} (hm : m.isTidy = true) : ReadsSpine g (.path (.plain m.toPath)) := by
  have hreadable : ModPath.Readable m := ModPath.readable_of_tidy hm
  have htokens : (Expr.path (.plain m.toPath)).tokens = m.tokens := m.tokens_toPath
  refine .of_operand ?_ ?_ rfl rfl rfl
  · rw [htokens]
    exact readsOperand_path hreadable.readsPath
  · intro hnil
    have hfront : PathFront (m.tokens.placed ++ []) := hreadable.pathFront rfl
    rw [← htokens, hnil] at hfront
    exact hfront.ne_nil rfl

theorem isEmpty_tokens (h : ReadsSpine g e) : e.tokens.isEmpty = false := by
  rw [List.isEmpty_eq_false_iff, e.tokens_eq_steps]
  exact List.append_ne_nil_of_left_ne_nil h.written _

theorem paren (h : ReadsSpine g e) : ReadsSpine (above g) (.paren e) := by
  refine .of_operand (fun us hus => ?_) (List.cons_ne_nil _ _) rfl rfl rfl
  have hitem : Reads (listed List.isEmpty "," ((above g).expr true)) e.tokens.placed ([e], false)
      [] := reads_one rfl h.isEmpty_tokens h.readsExpr
  have hparen : Reads (parenExpr (above g)) ((parens e.tokens).placed ++ us) (.paren e) us :=
    Reads.inside (hitem.bind (reads_pure _))
  exact reads_unary rfl rfl rfl (fun closing => hparen closing) (.peek (hus.reads_trailers _)) rfl

theorem unary {sign : Char} (hsign : sign ∈ ['*', '!', '-']) (h : ReadsSpine g e)
    (hhead : e.head = e) : ReadsSpine (above g) (.unary sign e) := by
  have hoperand : ReadsOperand g true e.tokens e := by
    rw [← hhead]
    exact h.operand
  refine .of_operand (fun us hus => ?_) (List.cons_ne_nil _ _) rfl rfl rfl
  have htokens : (Expr.unary sign e).tokens.placed ++ us =
      .punct sign false ⟨0, 0⟩ :: (e.tokens.placed ++ us) := rfl
  have hinner : Reads ((above g).unary true) (e.tokens.placed ++ us) e us := hoperand us hus
  rw [htokens]
  generalize e.tokens.placed ++ us = vs at hinner
  have hmark {w : String} {m : Char} (hw : w.toList = [m]) :
      Reads (mark w) (.punct m false ⟨0, 0⟩ :: vs) () vs :=
    fun _ => run_mark_iff.mpr ⟨vs, by simp [hw, afterMark], rfl⟩
  simp only [List.mem_cons, List.not_mem_nil, or_false] at hsign
  rcases hsign with rfl | rfl | rfl <;>
    exact .peek ((reads_attributes rfl).bind (.peek (.no rfl
      ((hmark rfl).bind (hinner.bind (reads_pure _))))))

end ReadsSpine

theorem head_of_strength (he : e.isArithmetic = true) (h : e.strength = Binding.cast) :
    e.head = e := by
  cases e with
  | binary text left right =>
      simp only [Expr.isArithmetic, Bool.and_eq_true, List.contains_iff_mem] at he
      exact absurd h (Nat.ne_of_lt (isOperator_of_arithmetic he.1.1.1.1).weak)
  | _ => rfl

theorem exists_readsSpine_above {n : Nat}
    (h : ∀ m, n ≤ m → ReadsSpine (above (level m)) e) :
    ∃ n, ∀ m, n ≤ m → ReadsSpine (level m) e := by
  refine ⟨n + 1, fun m hm => ?_⟩
  obtain ⟨m, rfl⟩ := Nat.exists_eq_succ_of_ne_zero (Nat.ne_zero_of_lt hm)
  exact h m (Nat.le_of_succ_le_succ hm)

/-- By induction on the expression: its parts are read at some level, and it one level above. -/
theorem exists_readsSpine (he : e.isArithmetic = true) :
    ∃ n, ∀ m, n ≤ m → ReadsSpine (level m) e := by
  fun_induction Expr.isArithmetic e with
  | case1 negative text =>
      obtain rfl : negative = false := by simpa using he
      exact ⟨0, fun _ _ => .literal text⟩
  | case2 p =>
      obtain ⟨m, hm, htidy⟩ := (Option.any_eq_true ..).mp he
      obtain rfl := Path.eq_toPath_of_names? hm
      exact ⟨0, fun _ _ => .path htidy⟩
  | case3 inner ih =>
      obtain ⟨n, hn⟩ := ih he
      exact exists_readsSpine_above fun m hm => (hn m hm).paren
  | case4 sign inner ih =>
      simp only [Bool.and_eq_true, beq_iff_eq, List.contains_iff_mem] at he
      obtain ⟨⟨hsign, hinner⟩, hstrength⟩ := he
      obtain ⟨n, hn⟩ := ih hinner
      have hhead : inner.head = inner := head_of_strength hinner hstrength
      exact exists_readsSpine_above fun m hm => (hn m hm).unary hsign hhead
  | case5 text left right ih ih' =>
      simp only [Bool.and_eq_true, List.contains_iff_mem, decide_eq_true_eq] at he
      obtain ⟨⟨⟨⟨htext, hleft⟩, hright⟩, hstrength⟩, hstrength'⟩ := he
      obtain ⟨n, hn⟩ := ih hleft
      obtain ⟨n', hn'⟩ := ih' hright
      refine exists_readsSpine_above (n := n + n') fun m hm => ?_
      have hlefts : ReadsSpine (above (level m)) left := hn (m + 1) (by omega)
      have hrights : ReadsSpine (level m) right := hn' m (by omega)
      exact hlefts.binary (isOperator_of_arithmetic htext) hrights hstrength hstrength'
  | case6 => cases he

theorem readsBack_arithmetic (he : e.isArithmetic = true) : e.ReadsBack := by
  obtain ⟨n, hn⟩ := exists_readsSpine he
  let m := n + 2 * Tree.sizeAll e.tokens + 1
  have hexpr : Reads (expr (level m) true) (e.tokens.placed ++ []) e [] :=
    (hn m (by omega)).readsExpr [] .nil
  rw [List.append_nil] at hexpr
  exact readsBack_of_level (n := m + 1) (by omega) hexpr

/-! Braces around one value. -/

/-- A statement that begins so is an expression, unless it is an item. -/
structure OpensExpr (us : Source) : Prop where
  hash : isMark "#" us = false
  semicolon : isMark ";" us = false
  binding : isWord "let" us = false
  block : startsBlock us = false
  path : ∃ found, Reads behindPath us found us ∧ found.all (!isMark "!" ·.2) = true

theorem Resumes.isCall_eq_false (h : Resumes us) : isMark "!" us = false := by
  cases h with
  | closes h => cases h <;> rfl
  | op us h => exact h.call us

theorem opensExpr (he : e.isArithmetic = true) (hus : Resumes us) :
    OpensExpr (e.tokens.placed ++ us) := by
  fun_induction Expr.isArithmetic e generalizing us with
  | case1 negative text =>
      obtain rfl : negative = false := by simpa using he
      have hpath : Refuses modPath ((Expr.literal false text).tokens.placed ++ us) :=
        fun _ => ⟨_, rfl⟩
      exact ⟨rfl, rfl, rfl, rfl, none, hpath.reads_behindPath, rfl⟩
  | case2 p =>
      obtain ⟨m, hm, htidy⟩ := (Option.any_eq_true ..).mp he
      obtain rfl := Path.eq_toPath_of_names? hm
      have hreadable : ModPath.Readable m := ModPath.readable_of_tidy htidy
      have htokens : (Expr.path (.plain m.toPath)).tokens = m.tokens := m.tokens_toPath
      have hfront : PathFront (m.tokens.placed ++ us) := hreadable.pathFront hus.follows.hash
      have hpath : Reads modPath (m.tokens.placed ++ us) m us := hreadable.reads hus.follows.colons
      rw [htokens]
      exact ⟨hfront.isMark_eq_false rfl, hfront.isMark_eq_false rfl,
        hfront.isWord_eq_false (by decide) (by decide), hfront.startsBlock_eq_false, some (m, us),
        reads_behindPath hpath, by simpa using hus.isCall_eq_false⟩
  | case3 inner ih =>
      have hpath : Refuses modPath ((Expr.paren inner).tokens.placed ++ us) := fun _ => ⟨_, rfl⟩
      exact ⟨rfl, rfl, rfl, rfl, none, hpath.reads_behindPath, rfl⟩
  | case4 sign inner ih =>
      simp only [Bool.and_eq_true, List.contains_iff_mem, List.mem_cons, List.not_mem_nil,
        or_false] at he
      have htokens : (Expr.unary sign inner).tokens.placed ++ us =
          .punct sign false ⟨0, 0⟩ :: (inner.tokens.placed ++ us) := rfl
      rw [htokens]
      generalize inner.tokens.placed ++ us = vs
      rcases he.1.1 with rfl | rfl | rfl <;>
        exact ⟨rfl, rfl, rfl, rfl, none, Refuses.reads_behindPath fun _ => ⟨_, rfl⟩, rfl⟩
  | case5 text left right ih ih' =>
      simp only [Bool.and_eq_true, List.contains_iff_mem] at he
      have htokens : (Expr.binary text left right).tokens.placed ++ us =
          left.tokens.placed ++ ((op text).placed ++ (right.tokens.placed ++ us)) := by
        rw [Expr.tokens, placed_append, placed_append, List.append_assoc, List.append_assoc]
      rw [htokens]
      exact ih he.1.1.1.2 (.op _ (isOperator_of_arithmetic he.1.1.1.1))
  | case6 => cases he

theorem isOrdinary_arithmetic (he : e.isArithmetic = true) : e.isOrdinary = true := by
  cases e with
  | invocation | attributed | range | verbatim => cases he
  | _ => rfl

theorem ReadsSpine.readsBody (h : ReadsSpine g e) (he : e.isArithmetic = true)
    (hitem : startsItem e.tokens.placed = false) :
    ReadsBody g e.tokens.placed [.expr e false] := by
  have hopens : OpensExpr (e.tokens.placed ++ []) := opensExpr he (.closes .nil)
  have hhead : Reads (Grammar.unary g true) e.tokens.placed e.head
      ((stepsTokens e.steps).placed ++ []) := by
    have hoperand := h.operand _ (resumes_steps h.steps (.closes .nil)).follows
    rwa [← List.append_assoc, ← placed_append, ← e.tokens_eq_steps, List.append_nil] at hoperand
  rw [List.append_nil] at hopens
  obtain ⟨found, hpath, hcall⟩ := hopens.path
  have hstatement : Reads (statement g) e.tokens.placed e [] :=
    reads_statement hopens.hash hopens.block hhead (h.reads_climb .nil)
  have hend : Reads (markIf ";") [] false [] := fun _ => rfl
  have hstmt : Reads (stmt g) e.tokens.placed (.expr e false) [] := by
    refine reads_stmt hopens.hash hpath hcall fun start => ?_
    unfold stmt.ordinary
    exact .no hopens.binding (.no hitem (reads_exprStmt hstatement (isOrdinary_arithmetic he) hend))
  have hne : List.isEmpty e.tokens.placed = false := (isEmpty_placed _).trans h.isEmpty_tokens
  refine .cons hne hopens.semicolon hstmt (Bool.and_false _) ?_ .nil
  exact List.length_pos_iff.mpr (List.isEmpty_eq_false_iff.mp hne)

theorem reads_bareBlock {ss : List Stmt} {p : Span} (hus : startsInner us = false)
    (h : ReadsBody g us ss) :
    Reads (expr (above g) true) [.group .brace us p] (.block [] none [] ss) [] := by
  have hblock : Reads (bareBlock (above g) none) [.group .brace us p] (.block [] none [] ss) [] :=
    (reads_braced hus h rfl).bind (reads_pure _)
  have hatom : Reads (atom (above g) true) [.group .brace us p] (.block [] none [] ss) [] :=
    fun closing => hblock closing
  have hend : Closes true [] := .nil
  have hunary : Reads (Grammar.unary (above g) true) [.group .brace us p] (.block [] none [] ss)
      [] := reads_unary rfl rfl rfl hatom (.peek (hend.follows.reads_trailers _)) rfl
  exact hunary.bind (hend.reads_climb _)

theorem readsBack_arithmeticBlock (he : e.isArithmeticBlock = true) : e.ReadsBack := by
  unfold Expr.isArithmeticBlock at he
  split at he
  · rename_i e
    simp only [Bool.and_eq_true, Bool.not_eq_true'] at he
    obtain ⟨he, hitem⟩ := he
    have htokens : (Expr.block [] none [] [.expr e false]).tokens = braces e.tokens := by
      simp [Expr.tokens, labelTokens, wordsTokens, innerTokens, stmtsTokens, Stmt.tokens]
    have hinner : startsInner e.tokens.placed = false := by
      have hopens : OpensExpr (e.tokens.placed ++ []) := opensExpr he (.closes .nil)
      rw [List.append_nil] at hopens
      rw [startsInner, hopens.hash, Bool.false_and]
    obtain ⟨n, hn⟩ := exists_readsSpine he
    let m := n + 2 * Tree.sizeAll (braces e.tokens)
    have hbody : ReadsBody (level m) e.tokens.placed [.expr e false] :=
      (hn m (Nat.le_add_right _ _)).readsBody he hitem
    refine readsBack_of_level (n := m + 2) ?_ ?_
    · rw [htokens]
      omega
    · rw [htokens]
      exact reads_bareBlock hinner hbody
  · cases he

end ZonedAccessors.Grammar

namespace ZonedAccessors.Syntax

open Grammar

/-- Sums and products of literals and names, also in braces. -/
def Values.arithmetic : Values where
  holds e := e.isArithmetic || e.isArithmeticBlock
  readsBack h := ((Bool.or_eq_true ..).mp h).elim readsBack_arithmetic readsBack_arithmeticBlock

end ZonedAccessors.Syntax
