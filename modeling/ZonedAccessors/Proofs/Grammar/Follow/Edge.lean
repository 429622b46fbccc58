import ZonedAccessors.Grammar.Type
import ZonedAccessors.Proofs.Grammar.Reader

/-!
What a reader sees of a text that has more behind it. A text that ends in braces hides what follows,
as long as that begins with the word of a block: no test of the next tokens can tell it from the end.
-/

namespace ZonedAccessors.Grammar

open Token

variable {us ts : Source} {text : String}

/-! What may follow, and what may be left before it. -/

/-- Behind a text there is nothing, or a block. -/
class Neutral (us : Source) : Prop where
  starts : us = [] ∨ ∃ place vs, us = .ident "impl" place :: vs

theorem neutral_starts (us : Source) [h : Neutral us] :
    us = [] ∨ ∃ place vs, us = .ident "impl" place :: vs := h.starts

instance : Neutral [] := ⟨.inl rfl⟩

def IsShut (ts : Source) : Prop := ∃ front body place, ts = front ++ [.group .brace body place]

/-- What is left of a text that ends in braces: the braces at least, or maybe nothing. -/
inductive Edge where
  | shut
  | spent

/-- Where nothing follows, any tokens may be left. -/
def Edge.Admits (us ts : Source) : Edge → Prop
  | .shut => us = [] ∨ IsShut ts
  | .spent => us = [] ∨ ts = [] ∨ IsShut ts

structure Left (us : Source) (e : Edge) where
  tokens : Source
  admits : e.Admits us tokens

theorem Edge.admits_nil (e : Edge) (ts : Source) : e.Admits [] ts := by
  cases e <;> exact .inl rfl

theorem Edge.Admits.spent {e : Edge} (h : e.Admits us ts) : Edge.spent.Admits us ts := by
  cases e with
  | shut => exact h.imp_right .inr
  | spent => exact h

theorem Edge.Admits.of_shut {e : Edge} (h : Edge.shut.Admits us ts) : e.Admits us ts := by
  cases e with
  | shut => exact h
  | spent => exact h.spent

theorem isShut_cons {t : Token.Tree Span} : IsShut (t :: ts) ↔
    (∃ body place, t = .group .brace body place ∧ ts = []) ∨ IsShut ts := by
  constructor
  · rintro ⟨front, body, place, h⟩
    cases front with
    | nil =>
        rw [List.nil_append, List.cons.injEq] at h
        exact .inl ⟨body, place, h⟩
    | cons x front =>
        rw [List.cons_append, List.cons.injEq] at h
        exact .inr ⟨front, body, place, h.2⟩
  · rintro (⟨body, place, rfl, rfl⟩ | ⟨front, body, place, rfl⟩)
    · exact ⟨[], body, place, rfl⟩
    · exact ⟨t :: front, body, place, rfl⟩

theorem IsShut.ne_nil (h : IsShut ts) : ts ≠ [] := by
  obtain ⟨front, body, place, rfl⟩ := h
  simp

/-- A token that is no group has more behind it. -/
theorem Edge.Admits.tail {t : Token.Tree Span} {e : Edge} (h : e.Admits us (t :: ts))
    (ht : ∀ d body place, t ≠ .group d body place) : Edge.shut.Admits us ts := by
  rcases h.spent with rfl | hnil | hshut
  · exact .inl rfl
  · cases hnil
  · rcases isShut_cons.mp hshut with ⟨body, place, rfl, -⟩ | hshut
    · exact absurd rfl (ht .brace body place)
    · exact .inr hshut

/-- Behind a group there may be nothing, if it is in braces. -/
theorem Edge.Admits.behind_group {d : Delimiter} {body : Source} {place : Span} {e : Edge}
    (h : e.Admits us (.group d body place :: ts)) :
    Edge.spent.Admits us ts ∧ (d ≠ .brace → Edge.shut.Admits us ts) := by
  rcases h.spent with rfl | hnil | hshut
  · exact ⟨.inl rfl, fun _ => .inl rfl⟩
  · cases hnil
  · rcases isShut_cons.mp hshut with ⟨body, place, heq, rfl⟩ | hshut
    · cases heq
      exact ⟨.inr (.inl rfl), fun hd => absurd rfl hd⟩
    · exact ⟨.inr (.inr hshut), fun _ => .inr hshut⟩

/-- What is left is one group, or begins with a token that another one follows. -/
theorem Edge.Admits.shape (h : Edge.spent.Admits us ts) : us = [] ∨ ts = [] ∨
    (∃ body place, ts = [.group .brace body place]) ∨ ∃ t t' vs, ts = t :: t' :: vs := by
  rcases h with h | h | h
  · exact .inl h
  · exact .inr (.inl h)
  · match ts, h with
    | t :: t' :: vs, _ => exact .inr (.inr (.inr ⟨t, t', vs, rfl⟩))
    | [t], h =>
        rcases isShut_cons.mp h with ⟨body, place, rfl, -⟩ | hnil
        · exact .inr (.inr (.inl ⟨body, place, rfl⟩))
        · exact absurd rfl hnil.ne_nil
    | [], h => exact absurd rfl h.ne_nil

/-- Two tokens hold all of a lifetime. -/
theorem skipped_cons_append (t t' : Token.Tree Span) (vs us : Source) :
    skipped (t :: t' :: vs ++ us) = skipped (t :: t' :: vs) ++ us := by
  cases t with
  | punct m joint place =>
      by_cases hm : m = '\''
      · subst hm
        cases joint <;> cases t' <;> rfl
      · cases t' <;> simp [skipped, hm]
  | _ => rfl

theorem isLifetime_cons_append (t t' : Token.Tree Span) (vs us : Source) :
    isLifetime (t :: t' :: vs ++ us) = isLifetime (t :: t' :: vs) := by
  cases t with
  | punct m joint place =>
      by_cases hm : m = '\''
      · subst hm
        cases joint <;> cases t' <;> rfl
      · cases t' <;> simp [isLifetime, hm]
  | _ => rfl

theorem skipped_append (h : Edge.shut.Admits us ts) : skipped (ts ++ us) = skipped ts ++ us := by
  rcases h.spent.shape with rfl | rfl | ⟨body, place, rfl⟩ | ⟨t, t', vs, rfl⟩
  · simp
  · rcases h with rfl | h
    · rfl
    · exact absurd rfl h.ne_nil
  · rfl
  · exact skipped_cons_append t t' vs us

/-- Only behind a group may nothing be left. -/
theorem skipped_admits (h : Edge.shut.Admits us ts) : Edge.spent.Admits us (skipped ts) ∧
    ((∀ d, isGroup d ts = false) → Edge.shut.Admits us (skipped ts)) := by
  fun_cases skipped ts with
  | case1 place text place' vs =>
      have hvs : Edge.shut.Admits us vs := (h.tail (by simp)).tail (by simp)
      exact ⟨hvs.spent, fun _ => hvs⟩
  | case2 t vs hlifetime =>
      cases t with
      | group d body place =>
          refine ⟨h.behind_group.1, fun hgroup => ?_⟩
          have := hgroup d
          simp [isGroup] at this
      | _ => exact ⟨(h.tail (by simp)).spent, fun _ => h.tail (by simp)⟩
  | case3 =>
      rcases h with rfl | h
      · exact ⟨.inl rfl, fun _ => .inl rfl⟩
      · exact absurd rfl h.ne_nil

/-! Operators. -/

class Written (text : String) : Prop where
  ne_nil : text.toList ≠ []

instance (c : Char) (cs : List Char) : Written (no_index (String.ofList (c :: cs))) := ⟨by simp⟩

theorem afterMark_append [Neutral us] (c : Char) (cs : List Char) (h : Edge.spent.Admits us ts) :
    afterMark (c :: cs) (ts ++ us) = (afterMark (c :: cs) ts).map (· ++ us) ∧
      ∀ vs, afterMark (c :: cs) ts = some vs → Edge.shut.Admits us vs := by
  induction cs generalizing c ts with
  | nil =>
      cases ts with
      | nil => rcases neutral_starts us with rfl | ⟨place, vs, rfl⟩ <;> simp [afterMark]
      | cons t ts =>
          cases t with
          | punct m joint place =>
              have htail := h.tail (by simp)
              simp only [List.cons_append, afterMark]
              split <;> simp [htail]
          | _ => simp [afterMark]
  | cons c' cs ih =>
      cases ts with
      | nil => rcases neutral_starts us with rfl | ⟨place, vs, rfl⟩ <;> simp [afterMark]
      | cons t ts =>
          cases t with
          | punct m joint place =>
              have htail := ih (c := c') (h.tail (by simp)).spent
              simp only [List.cons_append, afterMark]
              split
              · exact htail
              · simp
          | _ => simp [afterMark]

/-! Tests. -/

/-- Two answers to one test. -/
class Alike (b b' : Bool) : Prop where
  eq : b = b'

class Foreign (text : String) : Prop where
  ne : text ≠ "impl"

instance : Foreign "as" := ⟨by decide⟩
instance : Foreign "async" := ⟨by decide⟩
instance : Foreign "const" := ⟨by decide⟩
instance : Foreign "else" := ⟨by decide⟩
instance : Foreign "extern" := ⟨by decide⟩
instance : Foreign "fn" := ⟨by decide⟩
instance : Foreign "for" := ⟨by decide⟩
instance : Foreign "in" := ⟨by decide⟩
instance : Foreign "move" := ⟨by decide⟩
instance : Foreign "mut" := ⟨by decide⟩
instance : Foreign "self" := ⟨by decide⟩
instance : Foreign "static" := ⟨by decide⟩
instance : Foreign "trait" := ⟨by decide⟩
instance : Foreign "unsafe" := ⟨by decide⟩
instance : Foreign "use" := ⟨by decide⟩
instance : Foreign "where" := ⟨by decide⟩

section Tests

variable {a a' b b' : Bool} {e : Edge}

instance : Alike b b := ⟨rfl⟩

instance [ha : Alike a a'] [hb : Alike b b'] : Alike (a || b) (a' || b') := ⟨by rw [ha.eq, hb.eq]⟩

instance [h : Alike b b'] : Alike (!b) (!b') := ⟨by rw [h.eq]⟩

instance {f f' : String → Bool} : Alike ([].any f) ([].any f') := ⟨rfl⟩

instance {f f' : String → Bool} {texts : List String} [h : Alike (f text) (f' text)]
    [hs : Alike (texts.any f) (texts.any f')] :
    Alike ((text :: texts).any f) ((text :: texts).any f') := by
  constructor
  rw [List.any_cons, List.any_cons, h.eq, hs.eq]

theorem Edge.Admits.alike (h : e.Admits us ts) (test test' : Source → Bool)
    [ha : ∀ ts : Left us e, Alike (test ts.tokens) (test' (ts.tokens ++ us))] :
    test ts = test' (ts ++ us) := (ha ⟨ts, h⟩).eq

/-- A test is alike where some token is left, and where the word of a block answers as the end. -/
theorem alike_of_front {test : Source → Bool} (ts : Left us e)
    (hcons : ∀ t vs, test (t :: vs ++ us) = test (t :: vs))
    (hword : ∀ place vs, e = .shut ∨ test (.ident "impl" place :: vs) = test []) [Neutral us] :
    Alike (test ts.tokens) (test (ts.tokens ++ us)) := by
  constructor
  obtain ⟨ts, h⟩ := ts
  cases ts with
  | cons t vs => exact (hcons t vs).symm
  | nil =>
      rcases neutral_starts us with rfl | ⟨place, vs, rfl⟩
      · rfl
      · rcases hword place vs with rfl | hword
        · rcases h with h | h
          · cases h
          · exact absurd rfl h.ne_nil
        · exact hword.symm

variable [Neutral us] (ts : Left us e) (vs : Left us .shut)

instance [h : Written text] : Alike (isMark text ts.tokens) (isMark text (ts.tokens ++ us)) := by
  constructor
  unfold isMark
  obtain ⟨c, cs, hcs⟩ := List.exists_cons_of_ne_nil h.ne_nil
  rw [hcs, (afterMark_append _ _ ts.admits.spent).1, Option.isSome_map]

instance : Alike (isWord text vs.tokens) (isWord text (vs.tokens ++ us)) :=
  alike_of_front vs (fun t _ => by cases t <;> rfl) fun _ _ => .inl rfl

instance [h : Foreign text] : Alike (isWord text ts.tokens) (isWord text (ts.tokens ++ us)) :=
  alike_of_front ts (fun t _ => by cases t <;> rfl) fun _ _ => .inr (by simpa [isWord] using h.ne.symm)

instance : Alike (isName ts.tokens) (isName (ts.tokens ++ us)) :=
  alike_of_front ts (fun t _ => by cases t <;> rfl) fun _ _ => .inr rfl

instance : Alike (isAnyName vs.tokens) (isAnyName (vs.tokens ++ us)) :=
  alike_of_front vs (fun t _ => by cases t <;> rfl) fun _ _ => .inl rfl

instance : Alike (List.isEmpty vs.tokens) (List.isEmpty (vs.tokens ++ us)) :=
  alike_of_front vs (fun _ _ => rfl) fun _ _ => .inl rfl

instance {d : Delimiter} : Alike (isGroup d ts.tokens) (isGroup d (ts.tokens ++ us)) :=
  alike_of_front ts (fun t _ => by cases t <;> rfl) fun _ _ => .inr rfl

theorem isLifetime_append {ts : Source} (h : Edge.spent.Admits us ts) :
    isLifetime (ts ++ us) = isLifetime ts := by
  rcases h.shape with rfl | rfl | ⟨body, place, rfl⟩ | ⟨t, t', vs, rfl⟩
  · rw [List.append_nil]
  · rcases neutral_starts us with rfl | ⟨place, vs, rfl⟩ <;> rfl
  · rfl
  · exact isLifetime_cons_append t t' vs us

theorem afterLiteral_append {ts : Source} (h : Edge.spent.Admits us ts) :
    afterLiteral (ts ++ us) = (afterLiteral ts).map fun (l, p, vs) => (l, p, vs ++ us) := by
  rcases h.shape with rfl | rfl | ⟨body, place, rfl⟩ | ⟨t, t', vs, rfl⟩
  · simp
  · rcases neutral_starts us with rfl | ⟨place, vs, rfl⟩ <;> rfl
  · rfl
  · cases t with
    | punct m joint place =>
        by_cases hm : m = '-'
        · subst hm
          cases t' with
          | literal text place =>
              simp only [afterLiteral, List.cons_append]
              split <;> rfl
          | _ => rfl
        · cases t' <;> simp [afterLiteral, hm]
    | ident text place =>
        simp only [afterLiteral, List.cons_append]
        split <;> rfl
    | _ => rfl

instance : Alike (isLifetime ts.tokens) (isLifetime (ts.tokens ++ us)) :=
  ⟨(isLifetime_append ts.admits.spent).symm⟩

instance : Alike (isLiteral ts.tokens) (isLiteral (ts.tokens ++ us)) := by
  constructor
  unfold isLiteral
  rw [afterLiteral_append ts.admits.spent, Option.isSome_map]

/-! What stands behind the first token, and behind the second one. -/

/-- A test that is alike wherever a text is left or has ended. -/
class Blind (us : Source) (test : Source → Bool) : Prop where
  eq : ∀ ts, Edge.spent.Admits us ts → test ts = test (ts ++ us)

omit [Neutral us] in
instance {test : Source → Bool}
    [h : ∀ ts : Left us .spent, Alike (test ts.tokens) (test (ts.tokens ++ us))] : Blind us test :=
  ⟨fun ts hts => (h ⟨ts, hts⟩).eq⟩

omit [Neutral us] in
instance {test : Source → Bool} [h : Blind us test] :
    Alike (second test vs.tokens) (second test (vs.tokens ++ us)) := by
  constructor
  unfold second
  rw [skipped_append vs.admits]
  exact h.eq _ (skipped_admits vs.admits).1

omit [Neutral us] in
theorem alike_third {test : Source → Bool} [h : Blind us test]
    (hgroup : ∀ d, isGroup d vs.tokens = false) :
    Alike (third test vs.tokens) (third test (vs.tokens ++ us)) := by
  have hskipped := (skipped_admits vs.admits).2 hgroup
  constructor
  unfold third
  rw [skipped_append vs.admits, skipped_append hskipped]
  exact h.eq _ (skipped_admits hskipped).1

/-- Where the answer is yes, the first token is no group. -/
class Opens (b : Bool) (ts : Source) : Prop where
  not_group : b = true → ∀ d, isGroup d ts = false

theorem isMark_group [h : Written text] {d : Delimiter} {body ts : Source} {place : Span} :
    isMark text (.group d body place :: ts) = false := by
  obtain ⟨c, cs, hcs⟩ := List.exists_cons_of_ne_nil h.ne_nil
  unfold isMark
  rw [hcs]
  cases cs <;> rfl

instance [Written text] {ts : Source} : Opens (isMark text ts) ts := by
  constructor
  intro hmark d
  cases ts with
  | nil => rfl
  | cons t ts =>
      cases t with
      | group d body place =>
          rw [isMark_group] at hmark
          cases hmark
      | _ => rfl

instance {ts : Source} : Opens (isWord text ts) ts := by
  constructor
  intro hword d
  obtain ⟨place, more, rfl⟩ := isWord_iff.mp hword
  rfl

instance {ts : Source} [h : Opens a ts] : Opens (a && b) ts :=
  ⟨fun hab => h.not_group (Bool.and_eq_true_iff.mp hab).1⟩

/-- Alike wherever the answer to another test is yes. -/
class AlikeIf (c b b' : Bool) : Prop where
  eq : c = true → b = b'

section

variable {c : Bool}

instance (priority := low) [h : Alike b b'] : AlikeIf c b b' := ⟨fun _ => h.eq⟩

instance [ha : AlikeIf c a a'] [hb : AlikeIf c b b'] : AlikeIf c (a && b) (a' && b') :=
  ⟨fun hc => by rw [ha.eq hc, hb.eq hc]⟩

instance [ha : AlikeIf c a a'] [hb : AlikeIf c b b'] : AlikeIf c (a || b) (a' || b') :=
  ⟨fun hc => by rw [ha.eq hc, hb.eq hc]⟩

instance [h : AlikeIf c b b'] : AlikeIf c (!b) (!b') := ⟨fun hc => by rw [h.eq hc]⟩

omit [Neutral us] in
instance {test : Source → Bool} [h : Opens c vs.tokens] [Blind us test] :
    AlikeIf c (third test vs.tokens) (third test (vs.tokens ++ us)) :=
  ⟨fun hc => (alike_third vs (h.not_group hc)).eq⟩

instance (priority := high) [ha : Alike a a'] [hb : AlikeIf a b b'] : Alike (a && b) (a' && b') := by
  constructor
  rw [← ha.eq]
  cases a with
  | false => rfl
  | true => rw [hb.eq rfl]

end

end Tests

end ZonedAccessors.Grammar
