import ZonedAccessors.Proofs.Grammar.Follow.Rules

/-!
Single steps: tokens, groups, and repetition.
-/

namespace ZonedAccessors.Grammar

open Token

variable {α β : Type} {us : Source}

/-! Tokens. -/

theorem Outcome.of_ok {e : Edge} {c : Cursor} {x y : Except Fault (α × Cursor)}
    (h : ∀ a c', x = .ok (a, c') → y = .ok (a, c'.before us) ∧ e.Admits us c'.rest ∧ Later c c')
    (h' : ∀ b, y = .ok b → ∃ a, x = .ok a) : Outcome us e c x y := by
  cases x with
  | ok found =>
      obtain ⟨hy, hadmits, hlater⟩ := h found.1 found.2 rfl
      rw [hy]
      exact .found hadmits hlater
  | error fault =>
      cases y with
      | ok b =>
          obtain ⟨a, ha⟩ := h' b rfl
          cases ha
      | error fault' => exact .failed

/-- What `p` finds, and what it leaves, depends on the tokens alone. -/
def Takes (p : Reader α) (k : Source → α → Source → Prop) : Prop :=
  ∀ c a c', p.run c = .ok (a, c') ↔ ∃ ts, k c.rest a ts ∧ c' = { c with rest := ts }

/-- What is found before `us` is found without it. -/
structure Carries (us : Source) (e e' : Edge) (k : Source → α → Source → Prop) : Prop where
  forth : ∀ ts a vs, e.Admits us ts → k ts a vs →
    vs <:+ ts ∧ e'.Admits us vs ∧ k (ts ++ us) a (vs ++ us)
  back : ∀ ts a vs, e.Admits us ts → k (ts ++ us) a vs → ∃ vs, k ts a vs

theorem Takes.follows {p : Reader α} {k : Source → α → Source → Prop} {r : Reach} {s n : Nat}
    {e e' : Edge} (h : Takes p k) (hk : Carries us e e' k) : InStep us r s n e e' p p := by
  constructor
  intro c _ he
  refine .of_ok (fun a c' hrun => ?_) fun ⟨a, c'⟩ hrun => ?_
  · obtain ⟨vs, hvs, rfl⟩ := (h c a c').mp hrun
    obtain ⟨hsuffix, hadmits, hbefore⟩ := hk.forth c.rest a vs he hvs
    exact ⟨(h (c.before us) a _).mpr ⟨vs ++ us, hbefore, rfl⟩, hadmits, hsuffix, id, rfl⟩
  · obtain ⟨vs, hvs, -⟩ := (h (c.before us) a c').mp hrun
    obtain ⟨vs', hvs'⟩ := hk.back c.rest a vs he hvs
    exact ⟨_, (h c a _).mpr ⟨vs', hvs', rfl⟩⟩

theorem Takes.eats {p : Reader α} {k : Source → α → Source → Prop} (h : Takes p k)
    (hk : ∀ ts a vs, k ts a vs → vs.length < ts.length) : Eats p := by
  constructor
  intro c a c' hrun
  obtain ⟨vs, hvs, rfl⟩ := (h c a c').mp hrun
  exact hk _ _ _ hvs

theorem takes_mark (text : String) :
    Takes (mark text) fun ts _ vs => afterMark text.toList ts = some vs :=
  fun _ _ _ => run_mark_iff

/-- The names that `good` accepts. -/
def NameAt (good : String → Prop) (ts : Source) (n : String) (vs : Source) : Prop :=
  good n ∧ ∃ place, ts = .ident n place :: vs

theorem takes_anyName : Takes anyName (NameAt fun _ => True) := by
  intro c n c'
  rw [run_anyName_iff]
  constructor
  · rintro ⟨place, vs, hvs, rfl⟩
    exact ⟨vs, ⟨trivial, place, hvs⟩, rfl⟩
  · rintro ⟨vs, ⟨-, place, hvs⟩, rfl⟩
    exact ⟨place, vs, hvs, rfl⟩

theorem takes_name : Takes name (NameAt fun n => isKeyword n = false) := by
  intro c n c'
  rw [run_name_iff]
  constructor
  · rintro ⟨hn, place, vs, hvs, rfl⟩
    exact ⟨vs, ⟨hn, place, hvs⟩, rfl⟩
  · rintro ⟨vs, ⟨hn, place, hvs⟩, rfl⟩
    exact ⟨hn, place, vs, hvs, rfl⟩

theorem takes_keyword (text : String) :
    Takes (keyword text) fun ts _ vs => ∃ place, ts = .ident text place :: vs := by
  intro c n c'
  rw [run_keyword_iff]
  constructor
  · rintro ⟨place, vs, hvs, rfl⟩
    exact ⟨vs, ⟨place, hvs⟩, rfl⟩
  · rintro ⟨vs, ⟨place, hvs⟩, rfl⟩
    exact ⟨place, vs, hvs, rfl⟩

/-- A reader that looks at what is left, and takes as `k` says or else fails. -/
theorem Takes.of_rest {f : Source → Reader α} {k : Source → α → Source → Prop}
    (hk : ∀ ts a vs, k ts a vs → ∀ c, (f ts).run c = .ok (a, { c with rest := vs }))
    (hno : ∀ ts, (∀ a vs, ¬ k ts a vs) → Fails (f ts)) : Takes (rest >>= f) k := by
  intro c a c'
  rw [run_rest_bind]
  constructor
  · intro hrun
    by_cases h : ∃ a vs, k c.rest a vs
    · obtain ⟨a', vs, hvs⟩ := h
      rw [hk _ _ _ hvs] at hrun
      cases hrun
      exact ⟨vs, hvs, rfl⟩
    · simp only [not_exists] at h
      obtain ⟨fault, hfault⟩ := (hno _ h).failed c
      rw [hfault] at hrun
      cases hrun
  · rintro ⟨vs, hvs, rfl⟩
    exact hk _ _ _ hvs c

theorem takes_literalText :
    Takes literalText fun ts l vs => ∃ place, afterLiteral ts = some (l, place, vs) := by
  refine .of_rest ?_ fun ts hno => ?_
  · rintro ts l vs ⟨place, h⟩ c
    rw [h]
    rfl
  · split
    · rename_i l place vs h
      exact absurd ⟨place, h⟩ (hno l vs)
    · infer_instance

theorem takes_anyGroup : Takes anyGroup fun ts t vs => ∃ d body place,
    ts = .group d body place :: vs ∧ t = (Tree.group d body place).relabel fun _ => () := by
  refine .of_rest ?_ fun ts hno => ?_
  · rintro _ _ vs ⟨d, body, place, rfl, rfl⟩ c
    rfl
  · split
    · rename_i d body place vs
      exact absurd ⟨d, body, place, rfl, rfl⟩ (hno _ vs)
    · infer_instance

theorem takes_lifetimeName : Takes lifetimeName fun ts n vs => ∃ place place',
    ts = .punct '\'' true place :: .ident n place' :: vs := by
  refine .of_rest ?_ fun ts hno => ?_
  · rintro _ n vs ⟨place, place', rfl⟩ c
    rfl
  · split
    · rename_i place n place' vs
      exact absurd ⟨place, place', rfl⟩ (hno n vs)
    · infer_instance

theorem afterLiteral_suffix {l : Bool × String} {ts vs : Source} {place : Span} (he : Edge.spent.Admits us ts)
    (h : afterLiteral ts = some (l, place, vs)) : vs <:+ ts ∧ Edge.shut.Admits us vs := by
  unfold afterLiteral at h
  split at h
  · cases h
    exact ⟨List.suffix_cons _ _, he.tail (by simp)⟩
  · split at h
    · cases h
      exact ⟨List.suffix_cons _ _, he.tail (by simp)⟩
    · cases h
  · split at h
    · cases h
      exact ⟨(List.suffix_cons _ _).trans (List.suffix_cons _ _), (he.tail (by simp)).tail (by simp)⟩
    · cases h
  · cases h

section Tokens

variable [Neutral us] {r : Reach} {s n : Nat} {e e' : Edge} {text : String} {ts vs : Source}

/-- Of the first token it can be said whether it is the word of a block. -/
theorem Edge.Admits.front {t : Token.Tree Span} (h : e.Admits us ts) (heq : ts ++ us = t :: vs)
    (ht : e = .shut ∨ ∀ place, t ≠ .ident "impl" place) : ∃ ws, ts = t :: ws := by
  cases ts with
  | cons t' ts =>
      rw [List.cons_append, List.cons.injEq] at heq
      exact ⟨ts, by rw [heq.1]⟩
  | nil =>
      rw [List.nil_append] at heq
      rcases neutral_starts us with rfl | ⟨place, ws, rfl⟩
      · cases heq
      · cases heq
        rcases ht with rfl | ht
        · rcases h with h | h
          · cases h
          · exact absurd rfl h.ne_nil
        · exact absurd rfl (ht place)

theorem carries_ident (hword : e = .shut ∨ text ≠ "impl") :
    Carries us e .shut fun ts (_ : α) vs => ∃ place, ts = .ident text place :: vs where
  forth := by
    rintro ts a vs h ⟨place, rfl⟩
    exact ⟨List.suffix_cons _ _, h.tail (by simp), place, rfl⟩
  back := by
    rintro ts a vs h ⟨place, heq⟩
    obtain ⟨ws, hws⟩ := h.front heq (hword.imp_right fun hne place' hplace => by
      cases hplace
      exact hne rfl)
    exact ⟨ws, place, hws⟩

theorem carries_nameAt {good : String → Prop} (hword : e = .shut ∨ ¬ good "impl") :
    Carries us e .shut (NameAt good) where
  forth := by
    rintro ts n vs h ⟨hn, place, rfl⟩
    exact ⟨List.suffix_cons _ _, h.tail (by simp), hn, place, rfl⟩
  back := by
    rintro ts n vs h ⟨hn, place, heq⟩
    obtain ⟨ws, hws⟩ := h.front heq (hword.imp_right fun himpl place' hplace => by
      cases hplace
      exact himpl hn)
    exact ⟨ws, hn, place, hws⟩

instance : InStep us r s n .shut .shut anyName anyName :=
  takes_anyName.follows (carries_nameAt (.inl rfl))

instance : InStep us r s n .spent .shut name name := takes_name.follows (carries_nameAt (.inr (by decide)))

instance : InStep us r s n .shut .shut (keyword text) (keyword text) :=
  (takes_keyword text).follows (carries_ident (.inl rfl))

instance [h : Foreign text] : InStep us r s n .spent .shut (keyword text) (keyword text) :=
  (takes_keyword text).follows (carries_ident (.inr h.ne))

instance [h : Written text] : InStep us r s n .spent .shut (mark text) (mark text) := by
  obtain ⟨c, cs, hcs⟩ := List.exists_cons_of_ne_nil h.ne_nil
  refine (takes_mark text).follows ⟨fun ts _ vs he hvs => ?_, fun ts _ vs he hvs => ?_⟩
  · rw [hcs] at hvs ⊢
    obtain ⟨happend, hadmits⟩ := afterMark_append c cs he
    exact ⟨afterMark_suffix hvs, hadmits vs hvs, by rw [happend, hvs]; rfl⟩
  · rw [hcs] at hvs ⊢
    rw [(afterMark_append c cs he).1] at hvs
    obtain ⟨ws, hws, -⟩ := Option.map_eq_some_iff.mp hvs
    exact ⟨ws, hws⟩

instance {texts : List String} : InStep us r s n .shut .shut (anyNameOr texts) (anyNameOr texts) := by
  unfold anyNameOr
  refine .rest fun ts => .ite ⟨?_⟩ inferInstance inferInstance
  exact congrArg texts.any (funext fun text => ts.admits.alike (isWord text) (isWord text))

instance : InStep us r s n .spent .shut literalText literalText := by
  refine takes_literalText.follows ⟨?_, ?_⟩
  · rintro ts l vs he ⟨place, hvs⟩
    obtain ⟨hsuffix, hshut⟩ := afterLiteral_suffix he hvs
    exact ⟨hsuffix, hshut, place, by rw [afterLiteral_append he, hvs]; rfl⟩
  · rintro ts l vs he ⟨place, hvs⟩
    rw [afterLiteral_append he] at hvs
    obtain ⟨⟨l', place', ws⟩, hws, heq⟩ := Option.map_eq_some_iff.mp hvs
    cases heq
    exact ⟨ws, _, hws⟩

instance : InStep us r s n .spent .spent anyGroup anyGroup := by
  refine takes_anyGroup.follows ⟨?_, ?_⟩
  · rintro ts t vs he ⟨d, body, place, rfl, rfl⟩
    exact ⟨List.suffix_cons _ _, he.behind_group.1, d, body, place, rfl, rfl⟩
  · rintro ts t vs he ⟨d, body, place, heq, rfl⟩
    obtain ⟨ws, hws⟩ := he.front heq (.inr (by simp))
    exact ⟨ws, d, body, place, hws, rfl⟩

instance : InStep us r s n .spent .shut lifetimeName lifetimeName := by
  refine takes_lifetimeName.follows ⟨?_, ?_⟩
  · rintro ts n vs he ⟨place, place', rfl⟩
    exact ⟨(List.suffix_cons _ _).trans (List.suffix_cons _ _), (he.tail (by simp)).tail (by simp), place,
      place', rfl⟩
  · rintro ts n vs he ⟨place, place', heq⟩
    obtain ⟨ws, rfl⟩ := he.front heq (.inr (by simp))
    rw [List.cons_append, List.cons.injEq] at heq
    obtain ⟨ws', rfl⟩ := (he.tail (by simp)).front heq.2 (.inl rfl)
    exact ⟨ws', place, place', rfl⟩

end Tokens

/-! What is eaten. -/

theorem afterMark_length {c : Char} {cs : List Char} {ts vs : Source}
    (h : afterMark (c :: cs) ts = some vs) : vs.length < ts.length := by
  cases ts with
  | nil => cases cs <;> cases h
  | cons t ts =>
      cases t with
      | punct m joint place =>
          have hsuffix : vs <:+ ts := by
            cases cs with
            | nil =>
                simp only [afterMark, Option.ite_none_right_eq_some, Option.some.injEq] at h
                exact h.2 ▸ List.suffix_rfl
            | cons c' cs =>
                simp only [afterMark, Option.ite_none_right_eq_some] at h
                exact afterMark_suffix h.2
          exact Nat.lt_succ_of_le hsuffix.length_le
      | _ => cases cs <;> cases h

instance {text : String} [h : Written text] : Eats (mark text) := by
  refine (takes_mark text).eats fun ts _ vs hvs => ?_
  obtain ⟨c, cs, hcs⟩ := List.exists_cons_of_ne_nil h.ne_nil
  rw [hcs] at hvs
  exact afterMark_length hvs

theorem length_lt_of_cons {t : Token.Tree Span} {ts vs : Source} (h : ts = t :: vs) :
    vs.length < ts.length := by
  rw [h]
  exact Nat.lt_succ_self _

instance : Eats anyName := takes_anyName.eats fun _ _ _ ⟨_, _, h⟩ => length_lt_of_cons h

instance : Eats name := takes_name.eats fun _ _ _ ⟨_, _, h⟩ => length_lt_of_cons h

instance {text : String} : Eats (keyword text) :=
  (takes_keyword text).eats fun _ _ _ ⟨_, h⟩ => length_lt_of_cons h

instance : Eats anyGroup := takes_anyGroup.eats fun _ _ _ ⟨_, _, _, h, _⟩ => length_lt_of_cons h

instance : Eats lifetimeName := takes_lifetimeName.eats fun _ _ _ ⟨_, _, h⟩ => by
  rw [h, List.length_cons, List.length_cons]
  omega

instance {f : Source → Reader α} [h : ∀ ts, Eats (f ts)] : Eats (rest >>= f) :=
  ⟨fun c _ _ hrun => (h c.rest).shorter _ _ _ hrun⟩

instance {b : Bool} {p q : Reader α} [hp : Eats p] [hq : Eats q] :
    Eats (if b = true then p else q) := by
  cases b
  · exact hq
  · exact hp

instance (priority := low) {p : Reader α} [h : Fails p] : Eats p := by
  constructor
  intro c a c' hrun
  obtain ⟨fault, hfault⟩ := h.failed c
  rw [hfault] at hrun
  cases hrun

instance {p : Reader α} {f : α → β} [h : Eats p] : Eats (p >>= fun a => pure (f a)) := by
  constructor
  intro c b c' hrun
  obtain ⟨a, c₁, ha, hb⟩ := run_bind_iff.mp hrun
  cases hb
  exact h.shorter _ _ _ ha

instance {texts : List String} : Eats (anyNameOr texts) := by
  unfold anyNameOr
  infer_instance

/-! Tests that take what they look for. -/

section Choices

variable [Neutral us] {r : Reach} {s n : Nat} {e e' : Edge} {text : String} {f g : Bool → Reader β}

theorem InStep.markIf [h : Written text] (hyes : InStep us .fewer s n .shut e' (f true) (g true))
    (hno : InStep us r s n e e' (f false) (g false)) :
    InStep us r s n e e' (markIf text >>= f) (markIf text >>= g) := by
  constructor
  intro c hc he
  obtain ⟨d, ds, hds⟩ := List.exists_cons_of_ne_nil h.ne_nil
  obtain ⟨happend, hadmits⟩ := afterMark_append d ds he.spent
  rw [StateT.run_bind, StateT.run_bind, run_markIf, run_markIf, hds]
  rw [show (c.before us).rest = c.rest ++ us from rfl, happend]
  cases hvs : afterMark (d :: ds) c.rest with
  | none => exact hno.run c hc he
  | some vs =>
      have hlater : Later c { c with rest := vs } := ⟨afterMark_suffix hvs, id, rfl⟩
      have hfewer := hc.fewer hlater (afterMark_length hvs)
      exact (hyes.run { c with rest := vs } hfewer (hadmits vs hvs)).later hlater

omit [Neutral us] in
theorem Outcome.keywordIf {c : Cursor} (he : e.Admits us c.rest)
    (hword : isWord text c.rest = isWord text (c.rest ++ us))
    (hyes : ∀ c₁, Later c c₁ → c₁.rest.length < c.rest.length → Edge.shut.Admits us c₁.rest →
      Outcome us e' c₁ ((f true).run c₁) ((g true).run (c₁.before us)))
    (hno : isWord text c.rest = false →
      Outcome us e' c ((f false).run c) ((g false).run (c.before us))) :
    Outcome us e' c ((keywordIf text >>= f).run c) ((keywordIf text >>= g).run (c.before us)) := by
  rw [StateT.run_bind, StateT.run_bind, run_keywordIf, run_keywordIf,
    show (c.before us).rest = c.rest ++ us from rfl, ← hword]
  cases h : isWord text c.rest with
  | false => exact hno h
  | true =>
      obtain ⟨place, vs, hvs⟩ := isWord_iff.mp h
      rw [hvs] at he
      have hlater : Later c { c with rest := vs } := ⟨hvs ▸ List.suffix_cons _ _, id, rfl⟩
      rw [hvs]
      exact (hyes { c with rest := vs } hlater (length_lt_of_cons hvs) (he.tail (by simp))).later hlater

omit [Neutral us] in
/-- The answer is the same, and yes leaves a token less. -/
theorem InStep.keywordIf (hyes : InStep us .fewer s n .shut e' (f true) (g true))
    (hno : InStep us r s n e e' (f false) (g false))
    (hword : ∀ ts : Left us e, Alike (isWord text ts.tokens) (isWord text (ts.tokens ++ us))) :
    InStep us r s n e e' (keywordIf text >>= f) (keywordIf text >>= g) := by
  constructor
  intro c hc he
  exact .keywordIf he (he.alike _ _) (fun c₁ hl hlt h₁ => hyes.run c₁ (hc.fewer hl hlt) h₁)
    fun _ => hno.run c hc he

instance (priority := high) [Written text]
    [hyes : InStep us .fewer s n .shut e' (f true) (g true)]
    [hno : InStep us r s n e e' (f false) (g false)] :
    InStep us r s n e e' (Grammar.markIf text >>= f) (Grammar.markIf text >>= g) := hyes.markIf hno

instance (priority := high) [hyes : InStep us .fewer s n .shut e' (f true) (g true)]
    [hno : InStep us r s n .shut e' (f false) (g false)] :
    InStep us r s n .shut e' (Grammar.keywordIf text >>= f) (Grammar.keywordIf text >>= g) :=
  hyes.keywordIf hno fun _ => inferInstance

instance [Written text] :
    InStep us r s n e e (Grammar.markIf text) (Grammar.markIf text) := by
  rw [← bind_pure (Grammar.markIf text)]
  infer_instance

instance : InStep us r s n .shut .shut (Grammar.keywordIf text) (Grammar.keywordIf text) := by
  rw [← bind_pure (Grammar.keywordIf text)]
  infer_instance

instance (priority := high) [Foreign text]
    [hyes : InStep us .fewer s n .shut e' (f true) (g true)]
    [hno : InStep us r s n .spent e' (f false) (g false)] :
    InStep us r s n .spent e' (Grammar.keywordIf text >>= f) (Grammar.keywordIf text >>= g) :=
  hyes.keywordIf hno fun _ => inferInstance

instance (priority := high) [Written text] [hyes : Agrees .fewer s (f true) (g true)]
    [hno : Agrees r s (f false) (g false)] :
    Agrees r s (Grammar.markIf text >>= f) (Grammar.markIf text >>= g) :=
  have (n : Nat) := hyes.follows (n := n)
  InStep.agrees fun _ => .markIf inferInstance hno.follows

instance (priority := high) [hyes : Agrees .fewer s (f true) (g true)]
    [hno : Agrees r s (f false) (g false)] :
    Agrees r s (Grammar.keywordIf text >>= f) (Grammar.keywordIf text >>= g) :=
  have (n : Nat) := hyes.follows (n := n)
  have hword (ts : Left [] .spent) : Alike (isWord text ts.tokens) (isWord text (ts.tokens ++ [])) :=
    ⟨by rw [List.append_nil]⟩
  InStep.agrees fun _ => .keywordIf inferInstance hno.follows hword

end Choices

/-! Groups. -/

section Groups

variable {r : Reach} {s n : Nat} {e e' : Edge} {p q : Reader α} {d : Delimiter} {c : Cursor}

theorem run_inside_of_group {inner ts : Source} {place : Span}
    (h : c.rest = .group d inner place :: ts) : (inside d p).run c =
      match p.run ⟨inner, some place.tail, c.leftover⟩ with
      | .ok (a, c₁) => .ok (a, ⟨ts, c.closing, c₁.leftover.or (leftoverOf (some d) c₁.rest)⟩)
      | .error fault => .error fault := by
  cases c with
  | mk rest closing leftover =>
      cases h
      unfold inside
      rw [run_get_bind]
      simp only [if_true, StateT.run_bind, StateT.run_monadLift]
      cases p.run ⟨inner, some place.tail, leftover⟩ <;> rfl

theorem run_inside_of_not (h : ∀ inner place ts, c.rest ≠ .group d inner place :: ts) :
    ∃ fault, (inside d p).run c = .error fault := by
  cases hrun : (inside d p).run c with
  | error fault => exact ⟨fault, rfl⟩
  | ok found =>
      obtain ⟨inner, place, ts, -, hrest, -⟩ := run_inside_iff.mp hrun
      exact absurd hrest (h inner place ts)

theorem InStep.inside [Neutral us] (h : Agrees .fewer s p q)
    (he' : e' = .spent ∨ d ≠ .brace) : InStep us r s n .spent e' (inside d p) (inside d q) := by
  constructor
  intro c hc he
  by_cases hgroup : ∃ inner place ts, c.rest = .group d inner place :: ts
  · obtain ⟨inner, place, ts, hrest⟩ := hgroup
    have hbefore : (c.before us).rest = .group d inner place :: (ts ++ us) := by
      rw [show (c.before us).rest = c.rest ++ us from rfl, hrest]
      rfl
    have hsize : Reach.fewer.Bounds s (Cursor.size ⟨inner, some place.tail, c.leftover⟩) := by
      have := hc.size.all
      unfold Cursor.size at this
      rw [hrest, Tree.sizeAll, Tree.size] at this
      show Tree.sizeAll inner < s
      change _ ≤ s at this
      omega
    rw [run_inside_of_group hrest, run_inside_of_group hbefore]
    rw [hrest] at he
    have hinner := h.run _ hsize
    rw [show (c.before us).leftover = c.leftover from rfl]
    generalize p.run ⟨inner, some place.tail, c.leftover⟩ = x at hinner
    generalize q.run ⟨inner, some place.tail, c.leftover⟩ = y at hinner
    cases hinner with
    | failed => exact .failed
    | @found a c₁ _ hlater =>
        rw [c₁.before_nil]
        refine .found (d := ⟨ts, _, _⟩) ?_ ⟨hrest ▸ List.suffix_cons _ _, fun hsome => ?_, rfl⟩
        · rcases he' with rfl | hd
          · exact he.behind_group.1
          · exact (he.behind_group.2 hd).of_shut
        · have := hlater.leftover hsome
          cases hleft : c₁.leftover with
          | none =>
              rw [hleft] at this
              cases this
          | some fault => rfl
  · have hno : ∀ inner place ts, c.rest ≠ .group d inner place :: ts :=
      fun inner place ts heq => hgroup ⟨inner, place, ts, heq⟩
    obtain ⟨fault, hfault⟩ := run_inside_of_not (p := p) hno
    obtain ⟨fault', hfault'⟩ := run_inside_of_not (p := q) (c := c.before us)
      fun inner place ts heq => by
        obtain ⟨ws, hws⟩ := he.front heq (.inr (by simp))
        exact hno inner place ws hws
    rw [hfault, hfault']
    exact .failed

instance [Neutral us] [h : Agrees .fewer s p q] :
    InStep us r s n .spent .spent (inside d p) (inside d q) := .inside h (.inl rfl)

instance [Neutral us] [h : Agrees .fewer s p q] :
    InStep us r s n .spent .shut (inside .paren p) (inside .paren q) := .inside h (.inr (by simp))

instance [Neutral us] [h : Agrees .fewer s p q] :
    InStep us r s n .spent .shut (inside .bracket p) (inside .bracket q) := .inside h (.inr (by simp))

instance : Eats (inside d p) := by
  constructor
  intro c a c' hrun
  obtain ⟨inner, place, ts, c₁, hrest, -, rfl⟩ := run_inside_iff.mp hrun
  exact length_lt_of_cons hrest

end Groups

/-! The cursor. -/

section Cursors

variable {r : Reach} {s n : Nat} {e e' : Edge} {p q : Reader α}

theorem InStep.get {f g : Cursor → Reader β}
    (h : ∀ c, e.Admits us c.rest → InStep us r s n e e' (f c) (g (c.before us))) :
    InStep us r s n e e' (get >>= f) (get >>= g) :=
  ⟨fun c hc he => (h c he).run c hc he⟩

instance {f g : Cursor → Reader β} [h : ∀ c : Cursor, InStep us r s n e e' (f c) (g (c.before us))] :
    InStep us r s n e e' (get >>= f) (get >>= g) := .get fun c _ => h c

/-- A reader that looks at the first token. -/
theorem InStep.front {f g : Source → Reader β}
    (hnil : us = [] → InStep [] r s n .shut e' (f []) (g []))
    (hcons : ∀ t ts c, r.Covers s n c → Edge.shut.Admits us (t :: ts) → c.rest = t :: ts →
      Outcome us e' c ((f (t :: ts)).run c) ((g (t :: (ts ++ us))).run (c.before us))) :
    InStep us r s n .shut e' (Grammar.rest >>= f) (Grammar.rest >>= g) := by
  constructor
  intro c hc he
  rw [run_rest_bind, run_rest_bind, show (c.before us).rest = c.rest ++ us from rfl]
  cases hts : c.rest with
  | nil =>
      rw [hts] at he
      rcases he with rfl | he
      · exact (hnil rfl).run c hc (.inl rfl)
      · exact absurd rfl he.ne_nil
  | cons t ts => exact hcons t ts c hc (hts ▸ he) hts

theorem Outcome.advance {c : Cursor} {ts : Source} {f g : Unit → Reader β}
    (h : ts <:+ c.rest)
    (hf : Outcome us e' { c with rest := ts } ((f ()).run { c with rest := ts })
      ((g ()).run (Cursor.before { c with rest := ts } us))) :
    Outcome us e' c ((advance ts >>= f).run c) ((advance (ts ++ us) >>= g).run (c.before us)) :=
  hf.later ⟨h, id, rfl⟩

theorem place_before {c : Cursor} (h : Edge.shut.Admits us c.rest) :
    (c.before us).place = c.place := by
  rcases h with rfl | h
  · rw [c.before_nil]
  · obtain ⟨t, ts, hts⟩ := List.exists_cons_of_ne_nil h.ne_nil
    simp only [Cursor.place, Cursor.before, hts, List.cons_append]

instance : Agrees r s (advance []) (advance []) :=
  ⟨fun _ _ => .found (Edge.admits_nil .spent []) ⟨List.nil_suffix, id, rfl⟩⟩

instance [h : Agrees r s p q] : Agrees r s (attempt p) (attempt q) := by
  constructor
  intro c hc
  have hout := h.run c hc
  unfold attempt
  simp only [StateT.run] at hout ⊢
  generalize p c = x at hout
  generalize q c = y at hout
  cases hout with
  | @found a c' ha hl => exact .found ha hl
  | failed =>
      have hfound := Outcome.found (a := (none : Option α)) (Edge.admits_nil .spent c.rest) (.refl c)
      rw [c.before_nil] at hfound
      exact hfound

instance (priority := high) {p q : Reader α} {f g : Option α → Reader β} [hp : Agrees r s p q]
    [hnone : Agrees r s (f none) (g none)] [hsome : ∀ a, Agrees r s (f (some a)) (g (some a))] :
    Agrees r s (attempt p >>= f) (attempt q >>= g) :=
  .bind inferInstance fun
    | none => hnone
    | some a => hsome a

end Cursors

theorem isGroup_iff {d : Delimiter} {ts : Source} :
    isGroup d ts = true ↔ ∃ body place vs, ts = .group d body place :: vs := by
  constructor
  · intro h
    match ts, h with
    | .group d' body place :: vs, h =>
        obtain rfl : d = d' := by simpa [isGroup] using h
        exact ⟨body, place, vs, rfl⟩
  · rintro ⟨body, place, vs, rfl⟩
    simp [isGroup]

instance [Neutral us] {d : Delimiter} : InStep us r s n .spent .spent (groupIf d) (groupIf d) := by
  constructor
  intro c _ he
  have halike := he.alike (isGroup d) (isGroup d)
  unfold groupIf
  rw [run_rest_bind, run_rest_bind, show (c.before us).rest = c.rest ++ us from rfl, ← halike]
  cases h : isGroup d c.rest with
  | false => exact .found he (.refl c)
  | true =>
      obtain ⟨body, place, ts, hts⟩ := isGroup_iff.mp h
      have hsuffix : ts <:+ c.rest := by
        rw [hts]
        exact List.suffix_cons _ _
      show Outcome us .spent c ((rest >>= _).run c) ((rest >>= _).run (c.before us))
      rw [run_rest_bind, run_rest_bind,
        show (c.before us).rest = c.rest ++ us from rfl, hts]
      rw [hts] at he
      exact .advance hsuffix (.found he.behind_group.1 (.refl _))

instance [Neutral us] {d : Delimiter} : InStep us r s n .spent .spent (skipGroup d) (skipGroup d) := by
  unfold skipGroup
  infer_instance

/-- A reader that is chosen by the next tokens. -/
theorem InStep.rest_ite {test test' : Source → Bool} {p q : Reader β} {f g : Source → Reader β}
    [∀ ts : Left us e, Alike (test ts.tokens) (test' (ts.tokens ++ us))]
    (hp : ∀ c, r.Covers s n c → e.Admits us c.rest → test c.rest = true →
      Outcome us e' c (p.run c) (q.run (c.before us)))
    (h : InStep us r s n e e' (Grammar.rest >>= f) (Grammar.rest >>= g)) :
    InStep us r s n e e' (Grammar.rest >>= fun ts => if test ts = true then p else f ts)
      (Grammar.rest >>= fun ts => if test' ts = true then q else g ts) := by
  constructor
  intro c hc he
  rw [run_rest_bind, run_rest_bind, show (c.before us).rest = c.rest ++ us from rfl,
    ← he.alike test test']
  split
  · exact hp c hc he ‹_›
  · exact h.run c hc he

/-! The tokens something was read from. -/

section Captured

variable {r : Reach} {s n : Nat} {e e' : Edge} {p q : Reader α}

theorem take_before (ts vs us : Source) :
    (ts ++ us).take ((ts ++ us).length - (vs ++ us).length) = ts.take (ts.length - vs.length) := by
  rw [List.length_append, List.length_append, Nat.add_sub_add_right,
    List.take_append_of_le_length (Nat.sub_le _ _)]

instance [hp : InStep us r s n e e' p q] : InStep us r s n e e' (captured p) (captured q) := by
  constructor
  intro c hc he
  unfold captured
  rw [run_rest_bind, run_rest_bind]
  refine (hp.run c hc he).bind fun a c' _ ha _ => ?_
  rw [run_rest_bind, run_rest_bind]
  simp only [Cursor.before, take_before]
  exact .found ha (.refl _)

instance {p q : Reader Unit} [InStep us r s n e e' p q] :
    InStep us r s n e e' (capturedTokens p) (capturedTokens q) := by
  unfold capturedTokens
  exact .bind (d := e') inferInstance fun _ => inferInstance

instance {ts : Source} : InStep us r s n e e (between ts) (between (ts ++ us)) := by
  constructor
  intro c _ he
  unfold between
  rw [run_rest_bind, run_rest_bind]
  simp only [Cursor.before, take_before]
  exact .found he (.refl _)

instance {ts : Source} : Agrees r s (between ts) (between ts) := by
  constructor
  intro c _
  unfold between
  rw [run_rest_bind]
  have hfound := Outcome.found (a := ts.take (ts.length - c.rest.length)) (d := c)
    (Edge.admits_nil .spent _) (.refl _)
  rw [c.before_nil] at hfound
  exact hfound

end Captured

/-! Repetition. -/

section Repetition

variable [Neutral us] {r : Reach} {s n : Nat} {e : Edge} {p q : Reader α} {sep : String}
  {stop stop' : Source → Bool}

omit [Neutral us] in
theorem alike_of_left [h : ∀ ts : Left us e, Alike (stop ts.tokens) (stop' (ts.tokens ++ us))]
    (ts : Left us .shut) : Alike (stop ts.tokens) (stop' (ts.tokens ++ us)) :=
  h ⟨ts.tokens, ts.admits.of_shut⟩

instance [Written sep] [hitem : ∀ n, InStep us r s n .shut e p q]
    [hstop : ∀ ts : Left us e, Alike (stop ts.tokens) (stop' (ts.tokens ++ us))] :
    InStep us r s n .shut e (listed stop sep p) (listed stop' sep q) := by
  have hshut := alike_of_left (h := hstop)
  unfold listed
  refine .rest fun ts => .ite inferInstance inferInstance (.fuelled fun t m k ht ih => ?_)
  have hitem := InStep.at (k := m) hitem ht
  unfold listedFrom
  cases e <;> infer_instance

instance (priority := high) [Written sep] [hitem : ∀ n, InStep us r s n .shut e p q]
    [hstop : ∀ ts : Left us .shut, Alike (stop ts.tokens) (stop' (ts.tokens ++ us))] :
    InStep us r s n .shut e (rest >>= fun ts => chainedFrom stop sep p (ts.length + 1))
      (rest >>= fun ts => chainedFrom stop' sep q (ts.length + 1)) := by
  refine .fuelled fun t m k ht ih => ?_
  have hitem := InStep.at (k := m) hitem ht
  unfold chainedFrom
  cases e <;> infer_instance

instance (priority := high) {f g : List α × Bool → Reader β} [Written sep]
    [hitem : ∀ n, InStep us r s n .shut .shut p q]
    [hstop : ∀ ts : Left us .shut, Alike (stop ts.tokens) (stop' (ts.tokens ++ us))]
    [hf : ∀ found, InStep us r s n .shut e (f found) (g found)] :
    InStep us r s n .shut e (rest >>= fun ts => chainedFrom stop sep p (ts.length + 1) >>= f)
      (rest >>= fun ts => chainedFrom stop' sep q (ts.length + 1) >>= g) := .fuelled_bind inferInstance hf

instance [Written sep] [hitem : ∀ n, InStep us r s n .shut e p q]
    [hstop : ∀ ts : Left us .shut, Alike (stop ts.tokens) (stop' (ts.tokens ++ us))] :
    InStep us r s n .shut e (chained stop sep p) (chained stop' sep q) := by
  unfold chained
  infer_instance

/-- Items that begin with a mark. -/
instance {f g : Unit → Reader α} [Written sep]
    [hf : ∀ n u, InStep us .fewer s n .shut e (f u) (g u)]
    [hmore : ∀ ts : Left us e, Alike (stop ts.tokens) (stop' (ts.tokens ++ us))] :
    InStep us r s n e e (many stop (mark sep >>= f)) (many stop' (mark sep >>= g)) := by
  unfold many
  refine .fuelled fun t m k ht ih => ?_
  have hf (u : Unit) : InStep us .fewer t m .shut e (f u) (g u) := (hf m u).shrink ht.all
  unfold manyFrom
  simp only [bind_assoc]
  cases e <;> infer_instance

/-! Where nothing follows both have the same fuel. -/

omit [Neutral us] in
instance [h : Agrees r s p q] (n : Nat) : Agrees r s (manyFrom stop p n) (manyFrom stop q n) := by
  induction n with
  | zero => exact inferInstanceAs (Agrees r s (refuse _) (refuse _))
  | succ n ih =>
      unfold manyFrom
      infer_instance

omit [Neutral us] in
instance [h : Agrees r s p q] : Agrees r s (many stop p) (many stop q) := by
  unfold many
  infer_instance

omit [Neutral us] in
instance [Written sep] [h : Agrees r s p q] (n : Nat) :
    Agrees r s (listedFrom stop sep p n) (listedFrom stop sep q n) := by
  induction n with
  | zero => exact inferInstanceAs (Agrees r s (refuse _) (refuse _))
  | succ n ih =>
      unfold Grammar.listedFrom
      infer_instance

omit [Neutral us] in
instance [Written sep] [h : Agrees r s p q] : Agrees r s (listed stop sep p) (listed stop sep q) := by
  unfold listed
  infer_instance

end Repetition

section Lists

variable [Neutral us] {r : Reach} {s n : Nat} {e : Edge} {p q : Reader α} {d : Delimiter}

omit [Neutral us] in
instance {f g : β → Reader α} [h : ∀ b, InStep us r s n e e (f b) (g b)] (bs : List β) :
    InStep us r s n e e (bs.mapM f) (bs.mapM g) := by
  induction bs with
  | nil => exact .pure []
  | cons b bs ih =>
      rw [List.mapM_cons, List.mapM_cons]
      exact (h b).bind fun a => ih.bind fun as => .pure (a :: as)

instance : Eats (inCommas d p) := inferInstanceAs (Eats (inside d _))

instance [Agrees .fewer s p q] : InStep us r s n .spent .spent (inCommas d p) (inCommas d q) := by
  unfold inCommas
  infer_instance

instance [Agrees .fewer s p q] :
    InStep us r s n .spent .shut (inCommas .paren p) (inCommas .paren q) := by
  unfold inCommas
  infer_instance

instance [∀ n, InStep us .fewer s n .shut .spent p q] :
    InStep us .all s n .spent .shut (angled p) (angled q) := by
  unfold angled
  infer_instance

instance : InStep us r s n .shut .shut (lifetimeIf) (lifetimeIf) := by
  unfold lifetimeIf
  infer_instance

end Lists

end ZonedAccessors.Grammar
