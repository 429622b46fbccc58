import ZonedAccessors.Accessor.Template
import Mathlib.Tactic.Tauto

/-!
The fields that accessors take from `self`: the two that store the date, and those that the tokens
of the target take by themselves.
-/

namespace ZonedAccessors

open Token

/-- Where a reading of tokens stands: behind `self`, behind `self.`, or elsewhere. -/
inductive Stand where
  | away
  | owner
  | dot
  deriving DecidableEq, Repr

def Stand.after {σ : Type} : Stand → Token.Tree σ → Stand
  | _, .ident "self" _ => .owner
  | .owner, .punct '.' _ _ => .dot
  | _, _ => .away

def Stand.found {σ : Type} : Stand → Token.Tree σ → List String
  | .dot, .ident name _ => [name]
  | _, _ => []

mutual

def ownFieldsWithin {σ : Type} : Token.Tree σ → List String
  | .group _ body _ => ownFieldsFrom .away body
  | _ => []

def ownFieldsFrom {σ : Type} (s : Stand) : List (Token.Tree σ) → List String
  | [] => []
  | t :: ts => s.found t ++ ownFieldsWithin t ++ ownFieldsFrom (s.after t) ts

end

/-- Each name that stands behind `self.`, at any depth. -/
def ownFields {σ : Type} (ts : List (Token.Tree σ)) : List String := ownFieldsFrom .away ts

theorem ownFieldsFrom_append {σ : Type} (s : Stand) (xs ys : List (Token.Tree σ)) :
    ownFieldsFrom s (xs ++ ys) = ownFieldsFrom s xs ++ ownFieldsFrom (xs.foldl Stand.after s) ys := by
  induction xs generalizing s with
  | nil => rfl
  | cons x xs ih => simp [ownFieldsFrom, ih]

section Standing

variable {σ : Type} (s : Stand) (t : Token.Tree σ) (d : Delimiter) (body : List (Token.Tree σ)) (text : String)
  (c : Char) (joint : Bool) (place : σ)

@[simp] theorem Stand.after_group : s.after (.group d body place) = .away := by
  cases s <;> rfl

@[simp] theorem Stand.after_self : s.after (.ident "self" place) = .owner := by
  cases s <;> rfl

@[simp] theorem Stand.after_dot : Stand.owner.after (.punct '.' joint place) = .dot := rfl

theorem Stand.after_ident (h : text ≠ "self") : s.after (.ident text place) = .away := by
  unfold after
  split <;> simp_all

theorem Stand.after_punct (h : c ≠ '.') : s.after (.punct c joint place) = .away := by
  unfold after
  split <;> simp_all

@[simp] theorem Stand.found_away : Stand.away.found t = [] := rfl

@[simp] theorem Stand.found_owner : Stand.owner.found t = [] := rfl

@[simp] theorem Stand.found_dot : Stand.dot.found (.ident text place) = [text] := rfl

@[simp] theorem Stand.found_group : s.found (.group d body place) = [] := by
  cases s <;> rfl

@[simp] theorem Stand.found_punct : s.found (.punct c joint place) = [] := by
  cases s <;> rfl

end Standing

/-- Tokens that take no field from `self`, and leave nothing open for the next ones. -/
def Quiet (ts : Tokens) : Prop := ownFields ts = [] ∧ ts.foldl Stand.after .away = .away

namespace Template

theorem ownFieldsFrom_doc (s : Stand) (text : String) (ts : Tokens) :
    ownFieldsFrom s (doc text ++ ts) = ownFieldsFrom .away ts := by
  simp [doc, op, marks, brackets, enclose, word, lit, ownFieldsFrom, ownFieldsWithin,
    Stand.after_punct, Stand.after_ident]

theorem ownFieldsFrom_mustUse (ts : Tokens) :
    ownFieldsFrom .away (mustUse ++ ts) = ownFieldsFrom .away ts := by
  simp [mustUse, op, marks, brackets, enclose, word, ownFieldsFrom, ownFieldsWithin,
    Stand.after_punct]

theorem ownFields_function {t : Target} (hv : Quiet t.visibility) (name : String)
    (inputs output body : Tokens) :
    ownFieldsFrom .away (function t name inputs output body) =
      ownFields inputs ++ ownFields output ++ ownFields body := by
  have hv₁ : ownFieldsFrom .away t.visibility = [] := hv.1
  simp [function, ownFieldsFrom_append, hv₁, hv.2, ownFieldsFrom, word, parens, braces, enclose,
    ownFieldsWithin, Stand.after_ident, ownFields]

variable {t : Target} (hv : Quiet t.visibility) (a : Accessor) (f : String) (s : Stand)
include hv

theorem mem_ownFields_getter : f ∈ ownFieldsFrom s (getter t a) ↔
    f = a.utcField ∨ f = a.tzField ∨ f ∈ ownFields t.runtime := by
  cases hn : a.nullable <;> cases hp : a.policy <;>
    simp only [getter, hn, hp, List.append_assoc, ownFieldsFrom_doc, ownFieldsFrom_mustUse,
      ownFields_function hv, List.mem_append]
  all_goals
    simp [ownFields, ownFieldsFrom_append, ownFieldsFrom, ownFieldsWithin, receiver, date, optionOf,
      option, core, bothSet, some, none, runtime, pair, own, op, marks, word, parens, braces, enclose,
      Stand.after_punct, Stand.after_ident]
    tauto

theorem mem_ownFields_setter : f ∈ ownFieldsFrom s (setter t a) ↔
    f = a.utcField ∨ f = a.tzField ∨ f ∈ ownFields t.runtime := by
  cases hn : a.nullable <;>
    simp only [setter, hn, Bool.false_eq_true, if_false, if_true, ownFieldsFrom_doc,
      ownFields_function hv, List.mem_append]
  all_goals
    simp [ownFields, ownFieldsFrom_append, ownFieldsFrom, ownFieldsWithin, setterInputs, takeApart,
      assign, date, optionOf, option, core, some, runtime, pair, own, op, marks, word, parens, braces,
      enclose, Stand.after_punct, Stand.after_ident]
    tauto

end Template

theorem mem_ownFields_pair {t : Target} (hv : Quiet t.visibility) (a : Accessor) (f : String)
    (s : Stand) : f ∈ ownFieldsFrom s (t.pair a) ↔
      f = a.utcField ∨ f = a.tzField ∨ f ∈ ownFields t.runtime := by
  rw [Target.pair, ownFieldsFrom_append, List.mem_append, Template.mem_ownFields_getter hv,
    Template.mem_ownFields_setter hv, or_self]

/-! The parts of a struct that are written before its accessors. -/

def Dotless (ts : Tokens) : Prop :=
  ∀ t ∈ ts, (∃ w, t = .ident w ()) ∨ ∃ c joint, t = .punct c joint () ∧ c ≠ '.'

theorem Dotless.append {xs ys : Tokens} (hx : Dotless xs) (hy : Dotless ys) :
    Dotless (xs ++ ys) := by
  intro t ht
  exact (List.mem_append.mp ht).elim (hx t) (hy t)

theorem dotless_nil : Dotless [] := by
  intro t ht
  cases ht

theorem dotless_word (w : String) : Dotless (word w) := by
  intro t ht
  exact .inl ⟨w, List.mem_singleton.mp ht⟩

theorem dotless_marks {cs : List Char} (h : '.' ∉ cs) : Dotless (marks cs) := by
  intro t ht
  induction cs with
  | nil => cases ht
  | cons c cs ih =>
      simp only [List.mem_cons, not_or] at h
      have hc : c ≠ '.' := fun he => h.1 he.symm
      cases cs with
      | nil => exact .inr ⟨c, false, List.mem_singleton.mp ht, hc⟩
      | cons d cs =>
          rcases List.mem_cons.mp ht with rfl | ht
          · exact .inr ⟨c, true, rfl, hc⟩
          · exact ih h.2 ht

theorem dotless_op {text : String} (h : '.' ∉ text.toList) : Dotless (op text) := dotless_marks h

theorem dotless_lifetime (name : String) : Dotless (lifetime name) := by
  intro t ht
  rcases List.mem_cons.mp ht with rfl | ht
  · exact .inr ⟨_, _, rfl, by decide⟩
  · exact .inl ⟨name, List.mem_singleton.mp ht⟩

theorem dotless_flatMap {α : Type} {xs : List α} {g : α → Tokens} (h : ∀ x ∈ xs, Dotless (g x)) :
    Dotless (xs.flatMap g) := by
  intro t ht
  obtain ⟨x, hx, ht⟩ := List.mem_flatMap.mp ht
  exact h x hx t ht

theorem Dotless.ownFieldsFrom_eq {ts : Tokens} (h : Dotless ts) {s : Stand} (hs : s ≠ .dot) :
    ownFieldsFrom s ts = [] ∧ ts.foldl Stand.after s ≠ .dot := by
  induction ts generalizing s with
  | nil => exact ⟨rfl, hs⟩
  | cons t ts ih =>
      have hstep : s.found t = [] ∧ ownFieldsWithin t = [] ∧ s.after t ≠ .dot := by
        rcases h t (by simp) with ⟨w, rfl⟩ | ⟨c, joint, rfl, hc⟩
        · refine ⟨by cases s <;> simp_all, by simp [ownFieldsWithin], ?_⟩
          by_cases hw : w = "self"
          · simp [hw]
          · simp [Stand.after_ident _ _ _ hw]
        · exact ⟨by simp, by simp [ownFieldsWithin], by simp [Stand.after_punct _ _ _ _ hc]⟩
      obtain ⟨hrest, hlast⟩ := ih (fun u hu => h u (by simp [hu])) hstep.2.2
      exact ⟨by simp [ownFieldsFrom, hstep, hrest], hlast⟩

open Syntax

theorem dotless_separated {sep : Tokens} (hsep : Dotless sep) (trailing : Bool)
    {items : List Tokens} (h : ∀ x ∈ items, Dotless x) : Dotless (separated sep trailing items) := by
  induction items with
  | nil => exact dotless_nil
  | cons x xs ih =>
      have hx : Dotless x := h x (by simp)
      cases xs with
      | nil =>
          refine hx.append ?_
          split
          · exact hsep
          · exact dotless_nil
      | cons y xs => exact (hx.append hsep).append (ih fun z hz => h z (by simp [hz]))

theorem dotless_modPath (p : ModPath) : Dotless p.tokens := by
  have hcolons : Dotless (op "::") := dotless_op (by decide)
  refine Dotless.append ?_ (dotless_separated hcolons false ?_)
  · split
    · exact hcolons
    · exact dotless_nil
  · intro x hx
    obtain ⟨n, -, rfl⟩ := List.mem_map.mp hx
    exact dotless_word n

theorem dotless_arranged (trailing : Bool) {items : List (Bool × Tokens)}
    (h : ∀ i ∈ items, Dotless i.2) : Dotless (arranged trailing items) := by
  have hcomma : Dotless (op ",") := dotless_op (by decide)
  have hitem : ∀ i ∈ withCommas trailing items, Dotless (closeItem (i.1.2, i.2)) := by
    intro i hi
    have hmem : i.1 ∈ items := by
      rw [← map_fst_withCommas trailing items]
      exact List.mem_map_of_mem hi
    refine (h i.1 hmem).append ?_
    split
    · exact hcomma
    · exact dotless_nil
  have hpart (p : (Bool × Tokens) × Bool → Bool) : Dotless
      ((((withCommas trailing items).filter p).map fun i => (i.1.2, i.2)).flatMap closeItem) := by
    refine dotless_flatMap fun x hx => ?_
    obtain ⟨i, hi, rfl⟩ := List.mem_map.mp hx
    exact hitem i (List.mem_filter.mp hi).1
  refine ((hpart _).append ?_).append (hpart _)
  split
  · exact dotless_nil
  · exact hcomma

theorem dotless_arguments (g : Generics) : Dotless g.argumentTokens := by
  unfold Generics.argumentTokens
  split
  · exact dotless_nil
  · refine ((dotless_op (by decide)).append (dotless_arranged _ ?_)).append (dotless_op (by decide))
    intro i hi
    obtain ⟨p, -, rfl⟩ := List.mem_map.mp hi
    cases p with
    | lifetime as n bs trailing => exact dotless_lifetime n
    | type as n bs trailing d => exact dotless_word n
    | value as n t d => exact dotless_word n

theorem quiet_visibility (v : Visibility) : Quiet v.tokens := by
  cases v with
  | inherited => exact ⟨rfl, rfl⟩
  | everywhere => exact ⟨rfl, rfl⟩
  | restricted written p =>
      have hin : Dotless (wordIf written "in" ++ p.tokens) := by
        refine Dotless.append ?_ (dotless_modPath p)
        cases written
        · exact dotless_nil
        · exact dotless_word "in"
      have hbody := (hin.ownFieldsFrom_eq (s := .away) (by decide)).1
      refine ⟨?_, ?_⟩
      · simp [Visibility.tokens, word, parens, enclose, ownFields, ownFieldsFrom, ownFieldsWithin, hbody]
      · simp [Visibility.tokens, word, parens, enclose]

theorem foldl_after_angles (body : Tokens) (s : Stand) :
    (angles body).foldl Stand.after s = .away := by
  simp [angles, op, marks, Stand.after_punct]

theorem foldl_after_parameters (g : Generics) :
    g.parameterTokens.foldl Stand.after .away = .away := by
  unfold Generics.parameterTokens
  split
  · rfl
  · rename_i ps trailing
    cases ps with
    | nil => rfl
    | cons p ps =>
        rw [List.map_cons, Generics.tokens]
        · exact foldl_after_angles _ _
        · exact List.cons_ne_nil _ _

theorem ownFieldsFrom_conditions (c : Conditions) {s : Stand} (hs : s ≠ .dot) :
    ownFieldsFrom s c.tokens = ownFields c.tokens := by
  obtain ⟨ps, trailing⟩ := c
  cases ps with
  | nil => rfl
  | cons p ps => cases s <;> simp_all [Conditions.tokens, ownFields, ownFieldsFrom, word, Stand.after_ident]

/-- What a struct brings along may take fields from `self` as well, in a constant for instance. -/
theorem mem_ownFields_block (s : Struct) (r : Option Path) (a : Accessor) (f : String) :
    f ∈ ownFields ((Target.ofStruct s r).block [a]) ↔ f = a.utcField ∨ f = a.tzField ∨
      f ∈ ownFields s.generics.parameterTokens ∨ f ∈ ownFields s.conditions.tokens ∨
      f ∈ ownFields (runtimeTokens r) := by
  have hself : Dotless (word s.name ++ s.generics.argumentTokens) :=
    (dotless_word s.name).append (dotless_arguments s.generics)
  obtain ⟨hname, hlast⟩ := hself.ownFieldsFrom_eq (s := .away) (by decide)
  have hheader : ownFields (Target.ofStruct s r).header =
      ownFields s.generics.parameterTokens ++ ownFields s.conditions.tokens := by
    have hfront : ownFieldsFrom .away (word "impl") = [] := rfl
    have himpl : (word "impl").foldl Stand.after .away = .away := rfl
    rw [ownFields, Target.header, Target.ofStruct, List.append_assoc (word "impl"),
      List.append_assoc (word "impl"), ownFieldsFrom_append, himpl, List.append_assoc,
      ownFieldsFrom_append, foldl_after_parameters, ownFieldsFrom_append, hname,
      ownFieldsFrom_conditions _ hlast, hfront]
    rfl
  have hpair : f ∈ ownFields ((Target.ofStruct s r).pair a) ↔
      f = a.utcField ∨ f = a.tzField ∨ f ∈ ownFields (runtimeTokens r) :=
    mem_ownFields_pair (quiet_visibility s.visibility) a f .away
  have hbraces (s' : Stand) (body : Tokens) : ownFieldsFrom s' (braces body) = ownFields body := by
    simp [braces, enclose, ownFieldsFrom, ownFieldsWithin, ownFields]
  rw [Target.block, ownFields, ownFieldsFrom_append, hbraces, ← ownFields, hheader, Target.body,
    List.flatMap_singleton, List.mem_append, List.mem_append, hpair]
  tauto

end ZonedAccessors
