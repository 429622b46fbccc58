import ZonedAccessors.Proofs.Grammar.Follow.Edge
import ZonedAccessors.Proofs.Grammar.Head

/-!
Two readers in step: one reads some tokens, the other the same tokens with more behind them. They
find the same and stop at the same token, or both fail.
-/

namespace ZonedAccessors.Grammar

open Token

variable {α β : Type} {us : Source}

/-! Cursors. -/

def Cursor.size (c : Cursor) : Nat := Tree.sizeAll c.rest

def Cursor.before (c : Cursor) (us : Source) : Cursor := { c with rest := c.rest ++ us }

theorem Cursor.before_nil (c : Cursor) : c.before [] = c := by
  unfold Cursor.before
  rw [List.append_nil]

/-- What reading does to a cursor: it moves on in its text, and a fault that was noted stays. -/
structure Later (c c' : Cursor) : Prop where
  rest : c'.rest <:+ c.rest
  leftover : c.leftover.isSome → c'.leftover.isSome
  closing : c'.closing = c.closing

theorem Later.refl (c : Cursor) : Later c c := ⟨List.suffix_rfl, id, rfl⟩

theorem Later.trans {c c' c'' : Cursor} (h : Later c c') (h' : Later c' c'') : Later c c'' :=
  ⟨h'.rest.trans h.rest, h'.leftover ∘ h.leftover, h'.closing.trans h.closing⟩

theorem Later.size_le {c c' : Cursor} (h : Later c c') : c'.size ≤ c.size := by
  obtain ⟨front, hfront⟩ := h.rest
  unfold Cursor.size
  rw [← hfront, Tree.sizeAll_append]
  omega

theorem Later.size_lt {c c' : Cursor} (h : Later c c')
    (hlt : c'.rest.length < c.rest.length) : c'.size < c.size := by
  obtain ⟨front, hfront⟩ := h.rest
  unfold Cursor.size
  rw [← hfront, Tree.sizeAll_append]
  cases front with
  | nil =>
      rw [← hfront] at hlt
      exact absurd hlt (Nat.lt_irrefl _)
  | cons t front =>
      have hpos : 0 < t.size := by cases t <;> rw [Tree.size] <;> omega
      rw [Tree.sizeAll]
      omega

/-- How much may be left for two readers to be compared. -/
inductive Reach where
  | all
  | fewer

def Reach.Bounds (m : Nat) : Reach → Nat → Prop
  | .all, n => n ≤ m
  | .fewer, n => n < m

/-- At most `s` tokens, nested ones included, and at most `n` that are not nested. -/
structure Reach.Covers (r : Reach) (s n : Nat) (c : Cursor) : Prop where
  size : r.Bounds s c.size
  length : r.Bounds n c.rest.length

theorem Reach.Bounds.mono {k m n : Nat} {r : Reach} (h : r.Bounds k n) (hm : m ≤ n) :
    r.Bounds k m := by
  cases r with
  | all => exact Nat.le_trans hm h
  | fewer => exact Nat.lt_of_le_of_lt hm h

theorem Reach.Bounds.all {k n : Nat} {r : Reach} (h : r.Bounds k n) : Reach.all.Bounds k n := by
  cases r with
  | all => exact h
  | fewer => exact Nat.le_of_lt h

namespace Reach.Covers

variable {s n : Nat} {r : Reach} {c c' : Cursor}

theorem later (h : r.Covers s n c) (hl : Later c c') : r.Covers s n c' :=
  ⟨h.size.mono hl.size_le, h.length.mono hl.rest.length_le⟩

theorem all (h : r.Covers s n c) : Reach.all.Covers s n c := ⟨h.size.all, h.length.all⟩

theorem fewer (h : r.Covers s n c) (hl : Later c c') (hlt : c'.rest.length < c.rest.length) :
    Reach.fewer.Covers s n c' :=
  ⟨Nat.lt_of_lt_of_le (hl.size_lt hlt) h.size.all, Nat.lt_of_lt_of_le hlt h.length.all⟩

end Reach.Covers

/-! Outcomes. -/

/-- Both fail, or both find the same and leave the same before what follows. -/
inductive Outcome (us : Source) (e : Edge) (c : Cursor) :
    Except Fault (α × Cursor) → Except Fault (α × Cursor) → Prop
  | found {a : α} {d : Cursor} : e.Admits us d.rest → Later c d →
      Outcome us e c (.ok (a, d)) (.ok (a, d.before us))
  | failed {f f' : Fault} : Outcome us e c (.error f) (.error f')

namespace Outcome

variable {e e' : Edge} {c c' : Cursor} {x y : Except Fault (α × Cursor)}

theorem mono (h : Outcome us e c x y) (he : ∀ ts, e.Admits us ts → e'.Admits us ts) :
    Outcome us e' c x y := by
  cases h with
  | found ha hl => exact .found (he _ ha) hl
  | failed => exact .failed

theorem later (h : Outcome us e c' x y) (hc : Later c c') : Outcome us e c x y := by
  cases h with
  | found ha hl => exact .found ha (hc.trans hl)
  | failed => exact .failed

/-- What is read next may be read from where the first reader began. -/
theorem bind_from {p q : Reader α} {f g : α → Reader β}
    (h : Outcome us e c (p.run c) (q.run (c.before us)))
    (hf : ∀ a c', p.run c = .ok (a, c') → e.Admits us c'.rest → Later c c' →
      Outcome us e' c ((f a).run c') ((g a).run (c'.before us))) :
    Outcome us e' c ((p >>= f).run c) ((q >>= g).run (c.before us)) := by
  rw [StateT.run_bind, StateT.run_bind]
  generalize hx : p.run c = x at h
  generalize q.run (c.before us) = y at h
  cases h with
  | found ha hl => exact hf _ _ hx ha hl
  | failed => exact .failed

theorem bind {p q : Reader α} {f g : α → Reader β}
    (h : Outcome us e c (p.run c) (q.run (c.before us)))
    (hf : ∀ a c', p.run c = .ok (a, c') → e.Admits us c'.rest → Later c c' →
      Outcome us e' c' ((f a).run c') ((g a).run (c'.before us))) :
    Outcome us e' c ((p >>= f).run c) ((q >>= g).run (c.before us)) :=
  h.bind_from fun a c' hrun ha hl => (hf a c' hrun ha hl).later hl

theorem ite_of {b b' : Bool} {p p' q q' : Reader α} {d d' : Cursor} (hb : b = b')
    (h : b = true → Outcome us e c (p.run d) (q.run d'))
    (h' : b = false → Outcome us e c (p'.run d) (q'.run d')) :
    Outcome us e c ((if b = true then p else p').run d)
      ((if b' = true then q else q').run d') := by
  rw [← hb]
  cases b with
  | true => exact h rfl
  | false => exact h' rfl

theorem ite {b b' : Bool} {p p' q q' : Reader α} {d d' : Cursor} (hb : b = b')
    (h : Outcome us e c (p.run d) (q.run d')) (h' : Outcome us e c (p'.run d) (q'.run d')) :
    Outcome us e c ((if b = true then p else p').run d)
      ((if b' = true then q else q').run d') := ite_of hb (fun _ => h) fun _ => h'

end Outcome

/-! Readers. -/

class InStep (us : Source) (r : Reach) (s n : Nat) (e e' : Edge) (p q : Reader α) : Prop where
  run : ∀ c, r.Covers s n c → e.Admits us c.rest →
    Outcome us e' c (p.run c) (q.run (c.before us))

/-- In step where nothing follows. -/
class Agrees (r : Reach) (s : Nat) (p q : Reader α) : Prop where
  run : ∀ c, r.Bounds s c.size → Outcome [] .spent c (p.run c) (q.run c)

class Eats (p : Reader α) : Prop where
  shorter : ∀ c a c', p.run c = .ok (a, c') → c'.rest.length < c.rest.length

section Rules

variable {r : Reach} {s n : Nat} {e d e' : Edge} {p p' q q' : Reader α} {f g : α → Reader β}

theorem InStep.agrees (h : ∀ n, InStep [] r s n e e' p q) : Agrees r s p q := by
  constructor
  intro c hc
  have hcovers : r.Covers s (c.rest.length + 1) c := by
    refine ⟨hc, ?_⟩
    cases r with
    | all => exact Nat.le_succ _
    | fewer => exact Nat.lt_succ_self _
  have hrun := (h _).run c hcovers (e.admits_nil _)
  rw [c.before_nil] at hrun
  exact hrun.mono fun _ h => h.spent

theorem Agrees.follows (h : Agrees r s p q) : InStep [] r s n .spent .spent p q := by
  constructor
  intro c hc _
  rw [c.before_nil]
  exact h.run c hc.size

theorem Agrees.fewer (h : Agrees r s p q) : Agrees .fewer s p q :=
  ⟨fun c hc => h.run c (by cases r with
    | all => exact Nat.le_of_lt hc
    | fewer => exact hc)⟩

theorem InStep.bind (hp : InStep us r s n e d p q)
    (hf : ∀ a, InStep us r s n d e' (f a) (g a)) : InStep us r s n e e' (p >>= f) (q >>= g) := by
  constructor
  intro c hc he
  exact (hp.run c hc he).bind fun a c' _ ha hl => (hf a).run c' (hc.later hl) ha

/-- Behind a token fewer are left. -/
theorem InStep.bind_eats [Eats p] (hp : InStep us r s n e d p q)
    (hf : ∀ a, InStep us .fewer s n d e' (f a) (g a)) : InStep us r s n e e' (p >>= f) (q >>= g) := by
  constructor
  intro c hc he
  exact (hp.run c hc he).bind fun a c' hrun ha hl =>
    (hf a).run c' (hc.fewer hl (Eats.shorter _ _ _ hrun)) ha

theorem InStep.later_of_ok {c c' : Cursor} {a : α} (h : InStep us r s n e e' p q)
    (hc : r.Covers s n c) (he : e.Admits us c.rest) (hrun : p.run c = .ok (a, c')) :
    Later c c' := by
  have hout := h.run c hc he
  rw [hrun] at hout
  generalize q.run (c.before us) = y at hout
  cases hout with
  | found _ hlater => exact hlater

theorem InStep.rest {f g : Source → Reader β}
    (h : ∀ ts : Left us e, InStep us r s n e e' (f ts.tokens) (g (ts.tokens ++ us))) :
    InStep us r s n e e' (rest >>= f) (rest >>= g) := by
  constructor
  intro c hc he
  exact (h ⟨c.rest, he⟩).run c hc he

theorem Agrees.bind_from {c : Cursor} (hp : Agrees r s p q) (hc : r.Bounds s c.size)
    (hf : ∀ a c', Later c c' → Outcome [] .spent c ((f a).run c') ((g a).run c')) :
    Outcome [] .spent c ((p >>= f).run c) ((q >>= g).run c) := by
  have hrun : Outcome [] .spent c (p.run c) (q.run (c.before [])) := by
    rw [c.before_nil]
    exact hp.run c hc
  have hbind : Outcome [] .spent c ((p >>= f).run c) ((q >>= g).run (c.before [])) := by
    refine hrun.bind_from fun a c' _ _ hl => ?_
    rw [c'.before_nil]
    exact hf a c' hl
  rwa [c.before_nil] at hbind

theorem Agrees.bind (hp : Agrees r s p q) (hf : ∀ a, Agrees r s (f a) (g a)) :
    Agrees r s (p >>= f) (q >>= g) :=
  InStep.agrees fun _ => hp.follows.bind fun a => (hf a).follows

theorem Agrees.bind_eats [Eats p] (hp : Agrees .all s p q)
    (hf : ∀ a, Agrees .fewer s (f a) (g a)) : Agrees .all s (p >>= f) (q >>= g) :=
  InStep.agrees fun _ => hp.follows.bind_eats fun a => (hf a).follows

theorem Agrees.rest {f g : Source → Reader β} (h : ∀ ts, Agrees r s (f ts) (g ts)) :
    Agrees r s (rest >>= f) (rest >>= g) :=
  ⟨fun c hc => (h c.rest).run c hc⟩

theorem InStep.pure (a : α) : InStep us r s n e e (pure a) (pure a) :=
  ⟨fun c _ he => .found he (.refl c)⟩

theorem InStep.ite {b b' : Bool} (hb : Alike b b') (h : InStep us r s n e e' p q)
    (h' : InStep us r s n e e' p' q') :
    InStep us r s n e e' (if b = true then p else p') (if b' = true then q else q') := by
  rw [← hb.eq]
  cases b with
  | true => exact h
  | false => exact h'

/-- Either of two readers, and what follows both. -/
theorem InStep.ite_bind {b b' : Bool} (hb : Alike b b') (h : InStep us r s n e d p q)
    (h' : InStep us r s n e d p' q') (hf : ∀ a, InStep us r s n d e' (f a) (g a)) :
    InStep us r s n e e' (if b = true then p >>= f else p' >>= f)
      (if b' = true then q >>= g else q' >>= g) := .ite hb (h.bind hf) (h'.bind hf)

theorem InStep.map {h : α → β} (hp : InStep us r s n e e' p q) :
    InStep us r s n e e' (h <$> p) (h <$> q) := by
  rw [map_eq_pure_bind, map_eq_pure_bind]
  exact hp.bind fun a => .pure (h a)

/-! The rules as instances, which take a reader apart from left to right. -/

instance [hp : InStep us r s n e .shut p q] [hf : ∀ a, InStep us r s n .shut e' (f a) (g a)] :
    InStep us r s n e e' (p >>= f) (q >>= g) := hp.bind hf

instance (priority := low) [hp : InStep us r s n e .spent p q]
    [hf : ∀ a, InStep us r s n .spent e' (f a) (g a)] :
    InStep us r s n e e' (p >>= f) (q >>= g) := hp.bind hf

instance (priority := high) [Eats p] [hp : InStep us .all s n e .spent p q]
    [hf : ∀ a, InStep us .fewer s n .spent e' (f a) (g a)] :
    InStep us .all s n e e' (p >>= f) (q >>= g) := hp.bind_eats hf

instance (priority := high) [Eats p] [hp : InStep us .all s n e .shut p q]
    [hf : ∀ a, InStep us .fewer s n .shut e' (f a) (g a)] :
    InStep us .all s n e e' (p >>= f) (q >>= g) := hp.bind_eats hf

instance {f g : Source → Reader β}
    [h : ∀ ts : Left us e, InStep us r s n e e' (f ts.tokens) (g (ts.tokens ++ us))] :
    InStep us r s n e e' (rest >>= f) (rest >>= g) := .rest h

instance (a : α) : InStep us r s n e e (pure a) (pure a) := .pure a

instance (a : α) : InStep us r s n .shut e (pure a) (pure a) :=
  ⟨fun c _ he => .found he.of_shut (.refl c)⟩

instance {b b' : Bool} {x y : α} [hb : Alike b b'] : InStep us r s n e e
    (pure (if b = true then x else y)) (pure (if b' = true then x else y)) := by
  rw [hb.eq]
  exact .pure _

instance {b b' : Bool} [hb : Alike b b'] [h : InStep us r s n e e' p q]
    [h' : InStep us r s n e e' p' q'] :
    InStep us r s n e e' (if b = true then p else p') (if b' = true then q else q') := .ite hb h h'

instance {c : Prop} {_ : Decidable c} [h : InStep us r s n e e' p q]
    [h' : InStep us r s n e e' p' q'] :
    InStep us r s n e e' (if c then p else p') (if c then q else q') := by
  split
  · exact h
  · exact h'

instance {k : α → β} [hp : InStep us r s n e e' p q] : InStep us r s n e e' (k <$> p) (k <$> q) :=
  hp.map

/-! An answer that is known. -/

instance (priority := high) [h : InStep us r s n e e' p q] :
    InStep us r s n e e' (if true = true then p else p') (if true = true then q else q') := h

instance (priority := high) [h : InStep us r s n e e' p' q'] :
    InStep us r s n e e' (if false = true then p else p') (if false = true then q else q') := h

instance (priority := high) [h : InStep us r s n e e' p' q'] :
    InStep us r s n e e' (if (!true) = true then p else p') (if (!true) = true then q else q') := h

instance (priority := high) [h : InStep us r s n e e' p q] :
    InStep us r s n e e' (if (!false) = true then p else p') (if (!false) = true then q else q') := h

instance (priority := high) [h : Agrees r s p q] :
    Agrees r s (if true = true then p else p') (if true = true then q else q') := h

instance (priority := high) [h : Agrees r s p' q'] :
    Agrees r s (if false = true then p else p') (if false = true then q else q') := h

instance (priority := high) [h : Agrees r s p' q'] :
    Agrees r s (if (!true) = true then p else p') (if (!true) = true then q else q') := h

instance (priority := high) [h : Agrees r s p q] :
    Agrees r s (if (!false) = true then p else p') (if (!false) = true then q else q') := h

/-- The fuel of a repetition lasts, as a token is read each time. -/
theorem InStep.fuelled_with {γ : Type} {x y : Nat → γ → Reader α}
    (h : ∀ t m k, r.Bounds s t → (∀ i, InStep us .fewer t m e e' (x m i) (y k i)) →
      ∀ i, InStep us .all t m e e' (x (m + 1) i) (y (k + 1) i)) (i : γ) :
    InStep us r s n e e' (Grammar.rest >>= fun ts => x (ts.length + 1) i)
      (Grammar.rest >>= fun ts => y (ts.length + 1) i) := by
  have hrun : ∀ m k i c, m ≤ k → c.rest.length < m → r.Bounds s c.size → e.Admits us c.rest →
      Outcome us e' c ((x m i).run c) ((y k i).run (c.before us)) := by
    intro m
    induction m with
    | zero => exact fun _ _ _ _ hm => absurd hm (Nat.not_lt_zero _)
    | succ m ih =>
        intro k i c hk hm hc he
        obtain ⟨k, rfl⟩ := Nat.exists_eq_succ_of_ne_zero (Nat.ne_zero_of_lt hk)
        refine (h c.size m k hc (fun j => ⟨fun c' hc' he' => ?_⟩) i).run c
          ⟨Nat.le_refl _, Nat.le_of_lt_succ hm⟩ he
        exact ih k j c' (Nat.le_of_succ_le_succ hk) hc'.length (hc.mono (Nat.le_of_lt hc'.size)) he'
  constructor
  intro c hc he
  rw [run_rest_bind, run_rest_bind]
  exact hrun _ _ i c (by simp [Cursor.before]) (Nat.lt_succ_self _) hc.size he

theorem InStep.fuelled {x y : Nat → Reader α}
    (h : ∀ t m k, r.Bounds s t → InStep us .fewer t m e e' (x m) (y k) →
      InStep us .all t m e e' (x (m + 1)) (y (k + 1))) :
    InStep us r s n e e' (Grammar.rest >>= fun ts => x (ts.length + 1))
      (Grammar.rest >>= fun ts => y (ts.length + 1)) :=
  fuelled_with (x := fun m (_ : Unit) => x m) (y := fun k _ => y k)
    (fun t m k ht ih _ => h t m k ht (ih ())) ()

theorem InStep.fuelled_bind {x y : Nat → Reader α}
    (h : InStep us r s n e d (Grammar.rest >>= fun ts => x (ts.length + 1))
      (Grammar.rest >>= fun ts => y (ts.length + 1)))
    (hf : ∀ a, InStep us r s n d e' (f a) (g a)) :
    InStep us r s n e e' (Grammar.rest >>= fun ts => x (ts.length + 1) >>= f)
      (Grammar.rest >>= fun ts => y (ts.length + 1) >>= g) := by
  rw [← bind_assoc, ← bind_assoc]
  exact h.bind hf

/-- What is compared however long a text is, is compared at each size below. -/
theorem InStep.at {t k : Nat} (h : ∀ n, InStep us r s n e e' p q) (ht : r.Bounds s t) :
    InStep us .all t k e e' p q := by
  constructor
  intro c hc he
  refine (h (c.rest.length + 1)).run c ⟨ht.mono hc.size, ?_⟩ he
  cases r with
  | all => exact Nat.le_succ _
  | fewer => exact Nat.lt_succ_self _

theorem InStep.zero : InStep us .fewer 0 n e e' p q :=
  ⟨fun _ hc => absurd hc.size (Nat.not_lt_zero _)⟩

theorem Agrees.zero : Agrees .fewer 0 p q := ⟨fun _ hc => absurd hc (Nat.not_lt_zero _)⟩

theorem InStep.fewer_succ (h : InStep us .all s n e e' p q) : InStep us .fewer (s + 1) n e e' p q :=
  ⟨fun c hc he => h.run c ⟨Nat.le_of_lt_succ hc.size, Nat.le_of_lt hc.length⟩ he⟩

theorem InStep.shrink {t : Nat} (h : InStep us .fewer s n e e' p q) (ht : t ≤ s) :
    InStep us .fewer t n e e' p q :=
  ⟨fun c hc he => h.run c ⟨Nat.lt_of_lt_of_le hc.size ht, hc.length⟩ he⟩

theorem Agrees.fewer_succ (h : Agrees .all s p q) : Agrees .fewer (s + 1) p q :=
  ⟨fun c hc => h.run c (Nat.le_of_lt_succ hc)⟩

theorem Agrees.shrink {t : Nat} (h : Agrees .fewer s p q) (ht : t ≤ s) : Agrees .fewer t p q :=
  ⟨fun c hc => h.run c (Nat.lt_of_lt_of_le hc ht)⟩

/-! Less is known. -/

instance (priority := low) [h : InStep us r s n e .shut p q] : InStep us r s n e .spent p q :=
  ⟨fun c hc he => (h.run c hc he).mono fun _ => Edge.Admits.spent⟩

instance (priority := low) [h : InStep us r s n .spent e p q] : InStep us r s n .shut e p q :=
  ⟨fun c hc he => h.run c hc he.spent⟩

instance (priority := low) [h : InStep us .all s n e e' p q] : InStep us .fewer s n e e' p q :=
  ⟨fun c hc he => h.run c hc.all he⟩

/-! As above where nothing follows. -/

instance (priority := low) [h : ∀ n, InStep [] r s n .shut .spent p q] : Agrees r s p q :=
  InStep.agrees h

instance (priority := low) [h : Agrees .all s p q] : Agrees .fewer s p q := h.fewer

instance [hp : Agrees r s p q] [hf : ∀ a, Agrees r s (f a) (g a)] :
    Agrees r s (p >>= f) (q >>= g) := hp.bind hf

instance (priority := high) [Eats p] [hp : Agrees .all s p q]
    [hf : ∀ a, Agrees .fewer s (f a) (g a)] : Agrees .all s (p >>= f) (q >>= g) := hp.bind_eats hf

instance {f g : Source → Reader β} [h : ∀ ts, Agrees r s (f ts) (g ts)] :
    Agrees r s (rest >>= f) (rest >>= g) := .rest h

instance (a : α) : Agrees r s (pure a) (pure a) :=
  InStep.agrees fun _ => InStep.pure (e := .spent) a

instance {c : Prop} {_ : Decidable c} [h : Agrees r s p q] [h' : Agrees r s p' q'] :
    Agrees r s (if c then p else p') (if c then q else q') := by
  split
  · exact h
  · exact h'

instance {k : α → β} [hp : Agrees r s p q] : Agrees r s (k <$> p) (k <$> q) :=
  InStep.agrees fun _ => hp.follows.map

/-! Faults. -/

class Fails (p : Reader α) : Prop where
  failed : ∀ c, ∃ f, p.run c = .error f

instance {c : Complaint} : Fails (refuse c : Reader α) := ⟨fun _ => ⟨_, rfl⟩⟩

instance {options : List String} : Fails (refuseOptions options : Reader α) := ⟨fun _ => ⟨_, rfl⟩⟩

instance {place : Option Span} {c : Complaint} : Fails (refuseAt place c : Reader α) :=
  ⟨fun _ => ⟨_, rfl⟩⟩

instance : Fails (refuseWhole : Reader α) := by
  constructor
  intro c
  unfold refuseWhole
  rw [run_rest_bind]
  split <;> exact ⟨_, rfl⟩

instance [h : Fails p] : Fails (p >>= f) := by
  constructor
  intro c
  obtain ⟨fault, hfault⟩ := h.failed c
  exact ⟨fault, by rw [StateT.run_bind, hfault]; rfl⟩

instance {b : Bool} [h : Fails p] [h' : Fails q] : Fails (if b = true then p else q) := by
  cases b
  · exact h'
  · exact h

instance (priority := low) [h : ∀ a, Fails (f a)] : Fails (p >>= f) := by
  constructor
  intro c
  cases hrun : p.run c with
  | error fault => exact ⟨fault, by rw [StateT.run_bind, hrun]; rfl⟩
  | ok found =>
      obtain ⟨fault, hfault⟩ := (h found.1).failed found.2
      exact ⟨fault, by rw [StateT.run_bind, hrun]; exact hfault⟩

theorem Outcome.of_fails {c d d' : Cursor} (h : Fails p) (h' : Fails q) :
    Outcome us e c (p.run d) (q.run d') := by
  obtain ⟨fault, hfault⟩ := h.failed d
  obtain ⟨fault', hfault'⟩ := h'.failed d'
  rw [hfault, hfault']
  exact .failed

theorem InStep.failed [h : Fails p] [h' : Fails q] : InStep us r s n e e' p q := by
  constructor
  intro c _ _
  exact .of_fails h h'

instance (priority := low) [Fails p] [Fails q] : InStep us r s n e e' p q := .failed

instance (priority := high) [Fails p] [Fails q] : InStep us r s n e e' (p >>= f) (q >>= g) := .failed

end Rules

end ZonedAccessors.Grammar
