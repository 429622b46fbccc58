import ZonedAccessors.Grammar.Level
import ZonedAccessors.Proofs.Grammar.Reader

/-!
Readings that leave no fault behind. They hold wherever the tokens stand, so they are put together
without regard to what encloses them.
-/

namespace ZonedAccessors.Grammar

open Token

variable {α β : Type} {p q : Reader α} {us vs : Source} {a : α} {b : β}

/-- Of `us` this takes `a` and leaves `vs`. -/
def Reads (p : Reader α) (us : Source) (a : α) (vs : Source) : Prop :=
  ∀ closing, p.run ⟨us, closing, none⟩ = .ok (a, ⟨vs, closing, none⟩)

def Refuses (p : Reader α) (us : Source) : Prop :=
  ∀ closing, ∃ fault, p.run ⟨us, closing, none⟩ = .error fault

/-! Steps from left to right. -/

theorem reads_pure (a : α) : Reads (pure a) us a us := fun _ => rfl

theorem Reads.bind {f : α → Reader β} {ws : Source} (hp : Reads p us a vs)
    (hf : Reads (f a) vs b ws) : Reads (p >>= f) us b ws :=
  fun closing => (run_bind_of_ok (hp closing)).trans (hf closing)

theorem Reads.peek {f : Source → Reader β} (h : Reads (f us) us b vs) :
    Reads (rest >>= f) us b vs := h

theorem Reads.state {f : Cursor → Reader β}
    (h : ∀ closing, Reads (f ⟨us, closing, none⟩) us b vs) : Reads (get >>= f) us b vs :=
  fun closing => h closing closing

theorem Reads.yes {c : Bool} (hc : c = true) (h : Reads p us a vs) :
    Reads (if c = true then p else q) us a vs := by
  rw [if_pos hc]
  exact h

theorem Reads.no {c : Bool} (hc : c = false) (h : Reads q us a vs) :
    Reads (if c = true then p else q) us a vs := by
  rw [if_neg (by simp [hc])]
  exact h

theorem Reads.captured (h : Reads p us a vs) :
    Reads (captured p) us (a, us.take (us.length - vs.length)) vs :=
  .peek (h.bind (.peek (reads_pure _)))

theorem Reads.attempt (h : Reads p us a vs) : Reads (attempt p) us (some a) vs := by
  intro closing
  unfold Grammar.attempt
  rw [StateT.run, h closing]

theorem Refuses.attempt (h : Refuses p us) : Reads (attempt p) us none us := by
  intro closing
  obtain ⟨fault, hfault⟩ := h closing
  unfold Grammar.attempt
  rw [StateT.run, hfault]

theorem Reads.inside {d : Delimiter} {inner : Source} {place : Span} (h : Reads p inner a []) :
    Reads (inside d p) (.group d inner place :: us) a us :=
  fun _ => run_inside_iff.mpr ⟨inner, place, us, _, rfl, h _, rfl⟩

theorem Reads.readAll (h : Reads p us a []) : readAll p us = .ok a := readAll_of_run (h none)

/-! Names. -/

theorem isWord_eq_false {n w : String} (hn : isKeyword n = false) (hw : isKeyword w = true)
    {place : Span} {ts : Source} : isWord w (.ident n place :: ts) = false := by
  simp only [isWord, beq_eq_false_iff_ne]
  rintro rfl
  rw [hn] at hw
  cases hw

theorem reads_name {n : String} (hn : isKeyword n = false) {place : Span} :
    Reads name (.ident n place :: us) n us :=
  fun _ => run_name_iff.mpr ⟨hn, place, us, rfl, rfl⟩

/-! Repetition. -/

theorem length_lt_append (h : 0 < us.length) : vs.length < (us ++ vs).length := by
  rw [List.length_append]
  exact Nat.lt_add_of_pos_left h

inductive ReadsMany (more : Source → Bool) (item : Reader α) : Source → List α → Source → Prop
  | nil {ts : Source} : more ts = false → ReadsMany more item ts [] ts
  | cons {ts rs ws : Source} {x : α} {xs : List α} : more ts = true → Reads item ts x rs →
      rs.length < ts.length → ReadsMany more item rs xs ws → ReadsMany more item ts (x :: xs) ws

theorem ReadsMany.reads {more : Source → Bool} {item : Reader α} {as : List α}
    (h : ReadsMany more item us as vs) : Reads (many more item) us as vs := by
  -- each item takes a token, so any fuel beyond the number of tokens is enough
  have hfrom (fuel : Nat) (hfuel : us.length < fuel) :
      Reads (manyFrom more item fuel) us as vs := by
    induction h generalizing fuel with
    | nil hstop =>
        obtain ⟨fuel, rfl⟩ := Nat.exists_eq_succ_of_ne_zero (Nat.ne_zero_of_lt hfuel)
        unfold manyFrom
        exact .peek (.no hstop (reads_pure _))
    | cons hmore hitem hlt _ ih =>
        obtain ⟨fuel, rfl⟩ := Nat.exists_eq_succ_of_ne_zero (Nat.ne_zero_of_lt hfuel)
        unfold manyFrom
        exact .peek (.yes hmore (hitem.bind ((ih fuel (by omega)).bind (reads_pure _))))
  exact .peek (hfrom _ (Nat.lt_succ_self _))

inductive ReadsListed (stop : Source → Bool) (sep : String) (item : Reader α) :
    Source → List α → Source → Prop
  | one {ts rs : Source} {x : α} : Reads item ts x rs → stop rs = true →
      ReadsListed stop sep item ts [x] rs
  | cons {ts rs rs' ws : Source} {x : α} {xs : List α} : Reads item ts x rs → stop rs = false →
      Reads (mark sep) rs () rs' → stop rs' = false → rs'.length < ts.length →
      ReadsListed stop sep item rs' xs ws → ReadsListed stop sep item ts (x :: xs) ws

theorem ReadsListed.reads {stop : Source → Bool} {sep : String} {item : Reader α} {as : List α}
    (h : ReadsListed stop sep item us as vs) (hus : stop us = false) :
    Reads (listed stop sep item) us (as, false) vs := by
  have hfrom (fuel : Nat) (hfuel : us.length < fuel) :
      Reads (listedFrom stop sep item fuel) us (as, false) vs := by
    induction h generalizing fuel with
    | one hitem hstop =>
        obtain ⟨fuel, rfl⟩ := Nat.exists_eq_succ_of_ne_zero (Nat.ne_zero_of_lt hfuel)
        unfold listedFrom
        exact hitem.bind (.peek (.yes hstop (reads_pure _)))
    | cons hitem hstop hsep hmore hlt _ ih =>
        obtain ⟨fuel, rfl⟩ := Nat.exists_eq_succ_of_ne_zero (Nat.ne_zero_of_lt hfuel)
        unfold listedFrom
        refine hitem.bind (.peek (.no hstop (hsep.bind (.peek (.no hmore ?_)))))
        exact (ih hmore fuel (by omega)).bind (reads_pure _)
  exact .peek (.no hus (.peek (hfrom _ (Nat.lt_succ_self _))))

end ZonedAccessors.Grammar
