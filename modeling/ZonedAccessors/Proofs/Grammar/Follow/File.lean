import ZonedAccessors.Proofs.Grammar.Follow.Level
import ZonedAccessors.Proofs.Grammar.Items

/-!
The items of a file. Those of two texts of blocks, one behind the other, are those of the first text
and then those of the second.
-/

namespace ZonedAccessors.Grammar

open Token Syntax

variable {α : Type} {us ts : Source} {s : Nat} {p q : Reader α} {xs ys zs : List α}

/-- At the beginning of a text. -/
def Cursor.at (ts : Source) : Cursor := ⟨ts, none, none⟩

/-- What `p` reads moves on in its text. -/
def Moves (s : Nat) (p : Reader α) : Prop :=
  ∀ c a c', c.size ≤ s → p.run c = .ok (a, c') → Later c c'

theorem Agrees.moves (h : Agrees .all s p q) : Moves s p := by
  intro c a c' hc hrun
  have hout := h.run c hc
  rw [hrun] at hout
  generalize q.run c = y at hout
  cases hout with
  | found _ hlater => exact hlater

/-- A text that `p` reads up to its end without leaving anything out. -/
inductive Sequence (p : Reader α) : Source → List α → Prop
  | nil : Sequence p [] []
  | cons {ts us : Source} {x : α} {xs : List α} (hts : ts ≠ [])
      (hrun : p.run (.at ts) = .ok (x, .at us)) (hrest : Sequence p us xs) :
      Sequence p ts (x :: xs)

theorem Sequence.of_cons {x : α} (h : Sequence p ts (x :: xs)) :
    ∃ us, p.run (.at ts) = .ok (x, .at us) ∧ Sequence p us xs := by
  cases h with
  | cons _ hrun hrest => exact ⟨_, hrun, hrest⟩

theorem Sequence.unique (h : Sequence p ts xs) (h' : Sequence p ts ys) : xs = ys := by
  induction h generalizing ys with
  | nil =>
      cases h' with
      | nil => rfl
      | cons hts => exact absurd rfl hts
  | cons hts hrun _ ih =>
      cases h' with
      | nil => exact absurd rfl hts
      | cons _ hrun' hrest =>
          rw [hrun] at hrun'
          cases hrun'
          rw [ih hrest]

/-- An item that reads nothing would be followed by itself without end. -/
theorem Sequence.head_lt {x : α} (hp : Moves s p) (hs : Tree.sizeAll ts ≤ s) (hts : ts ≠ [])
    (hrun : p.run (.at ts) = .ok (x, .at us)) (hrest : Sequence p us xs) : us.length < ts.length := by
  have hlater : Later (.at ts) (.at us) := hp (.at ts) x (.at us) hs hrun
  refine Nat.lt_of_le_of_ne hlater.rest.length_le fun heq => ?_
  obtain rfl : us = ts := hlater.rest.eq_of_length heq
  have := (Sequence.cons hts hrun hrest).unique hrest
  exact absurd (congrArg List.length this) (Nat.succ_ne_self _)

theorem Sequence.length_le (hp : Moves s p) (h : Sequence p ts xs) (hs : Tree.sizeAll ts ≤ s) :
    xs.length ≤ ts.length := by
  induction h with
  | nil => exact Nat.le_refl _
  | @cons ts us x xs hne hrun hrest ih =>
      have hlater : Later (.at ts) (.at us) := hp (.at ts) x (.at us) hs hrun
      exact Nat.lt_of_le_of_lt (ih (Nat.le_trans hlater.size_le hs)) (hrest.head_lt hp hs hne hrun)

/-! Items as long as tokens are left. -/

theorem run_manyFrom_of_sequence (h : Sequence p ts xs) {m : Nat} (hm : xs.length < m) :
    (manyFrom (fun ts => !ts.isEmpty) p m).run (.at ts) = .ok (xs, .at []) := by
  induction h generalizing m with
  | nil =>
      obtain ⟨m, rfl⟩ := Nat.exists_eq_succ_of_ne_zero (Nat.ne_zero_of_lt hm)
      rfl
  | @cons ts us x xs hne hrun _ ih =>
      obtain ⟨m, rfl⟩ := Nat.exists_eq_succ_of_ne_zero (Nat.ne_zero_of_lt hm)
      have hmore : (!ts.isEmpty) = true := by simpa using hne
      unfold manyFrom
      rw [run_rest_bind, show (Cursor.at ts).rest = ts from rfl, if_pos hmore, run_bind_of_ok hrun,
        run_bind_of_ok (ih (Nat.lt_of_succ_lt_succ hm))]
      rfl

theorem sequence_of_run_manyFrom (hp : Agrees .all s p p) {m : Nat} {c' : Cursor}
    (hs : Tree.sizeAll ts ≤ s) (hclean : c'.leftover = none)
    (h : (manyFrom (fun ts => !ts.isEmpty) p m).run (.at ts) = .ok (xs, c')) :
    Sequence p ts xs ∧ c' = .at [] := by
  induction m generalizing ts xs with
  | zero => cases h
  | succ m ih =>
      unfold manyFrom at h
      rw [run_rest_bind, show (Cursor.at ts).rest = ts from rfl] at h
      by_cases hts : ts = []
      · rw [hts] at h ⊢
        cases h
        exact ⟨.nil, rfl⟩
      · rw [if_pos (by simpa using hts)] at h
        obtain ⟨x, c₁, hx, h⟩ := run_bind_iff.mp h
        obtain ⟨xs', c₂, hxs, h⟩ := run_bind_iff.mp h
        cases h
        have hlater : Later (.at ts) c₁ := hp.moves (.at ts) x c₁ hs hx
        have hsize : c₁.size ≤ s := Nat.le_trans hlater.size_le hs
        have hmany : Agrees .all s (manyFrom (fun ts => !ts.isEmpty) p m)
            (manyFrom (fun ts => !ts.isEmpty) p m) := inferInstance
        have hbehind : Later c₁ c' := hmany.moves c₁ xs' c' hsize hxs
        obtain ⟨us, closing, leftover⟩ := c₁
        obtain rfl : closing = none := hlater.closing
        obtain rfl : leftover = none := by
          cases leftover with
          | none => rfl
          | some fault =>
              have := hbehind.leftover rfl
              rw [hclean] at this
              cases this
        obtain ⟨hrest, rfl⟩ := ih hsize hxs
        exact ⟨.cons hts hx hrest, rfl⟩

/-! One text behind another. -/

theorem Edge.Admits.shut_of_ne_nil (h : Edge.spent.Admits us ts) (hts : ts ≠ []) :
    Edge.shut.Admits us ts :=
  h.imp_right fun h => h.resolve_left hts

theorem Sequence.append (hpq : ∀ n, InStep us .all s n .shut .spent p q)
    (hs : Tree.sizeAll ts ≤ s) (he : Edge.spent.Admits us ts) (h : Sequence p ts xs)
    (hys : Sequence q us ys) : Sequence q (ts ++ us) (xs ++ ys) := by
  induction h with
  | nil => exact hys
  | @cons ts vs x xs hts hrun _ ih =>
      have hout := (hpq ts.length).run (.at ts) ⟨hs, Nat.le_refl _⟩ (he.shut_of_ne_nil hts)
      rw [hrun] at hout
      generalize hq : q.run ((Cursor.at ts).before us) = y at hout
      cases hout with
      | found hadmits hlater =>
          have hvs := ih (Nat.le_trans hlater.size_le hs) hadmits
          exact .cons (by simp [hts]) hq hvs

theorem Sequence.of_append (hpq : ∀ n, InStep us .all s n .shut .spent p q)
    (hs : Tree.sizeAll ts ≤ s) (he : Edge.spent.Admits us ts) (h : Sequence q (ts ++ us) zs) :
    ∃ xs ys, zs = xs ++ ys ∧ Sequence p ts xs ∧ Sequence q us ys := by
  induction zs generalizing ts with
  | nil =>
      generalize hws : ts ++ us = ws at h
      cases h
      obtain ⟨rfl, rfl⟩ := List.append_eq_nil_iff.mp hws
      exact ⟨[], [], rfl, .nil, .nil⟩
  | cons z zs ih =>
      by_cases hts : ts = []
      · subst hts
        exact ⟨[], z :: zs, rfl, .nil, h⟩
      · obtain ⟨ws, hrun, hrest⟩ := h.of_cons
        have hout := (hpq ts.length).run (.at ts) ⟨hs, Nat.le_refl _⟩ (he.shut_of_ne_nil hts)
        rw [show (Cursor.at ts).before us = .at (ts ++ us) from rfl, hrun] at hout
        generalize hp : p.run (.at ts) = found at hout
        generalize hws : (.ok (z, .at ws) : Except Fault (α × Cursor)) = found' at hout
        cases hout with
        | failed => cases hws
        | @found x c' hadmits hlater =>
            obtain ⟨vs, closing, leftover⟩ := c'
            cases hws
            obtain ⟨xs, ys, rfl, hxs, hys⟩ := ih (Nat.le_trans hlater.size_le hs) hadmits hrest
            exact ⟨z :: xs, ys, rfl, .cons hts hp hxs, hys⟩

/-- Two readers that are in step read the same items. -/
theorem sequence_congr (hpq : ∀ n, InStep [] .all s n .shut .spent p q)
    (hs : Tree.sizeAll ts ≤ s) : Sequence p ts xs ↔ Sequence q ts xs := by
  constructor
  · intro h
    have := h.append hpq hs (Edge.admits_nil _ _) .nil
    rwa [List.append_nil, List.append_nil] at this
  · intro h
    rw [← List.append_nil ts] at h
    obtain ⟨xs, ys, rfl, hxs, hys⟩ := Sequence.of_append hpq hs (Edge.admits_nil _ _) h
    cases hys with
    | nil => rwa [List.append_nil]
    | cons hne => exact absurd rfl hne

/-! Files. -/

theorem readAll_iff {a : α} : readAll p ts = .ok a ↔
    ∃ c', p.run (.at ts) = .ok (a, c') ∧ c'.leftover = none ∧ c'.rest = [] := by
  unfold readAll
  rw [show (⟨ts, none, none⟩ : Cursor) = .at ts from rfl]
  cases p.run (.at ts) with
  | error fault => simp
  | ok found =>
      obtain ⟨b, ⟨rest, closing, leftover⟩⟩ := found
      cases leftover with
      | some fault => simp
      | none => cases rest <;> simp [leftoverOf]

theorem follows_item {n m k : Nat} [Neutral us] (hn : 2 * s < n) (hm : 2 * s < m) :
    InStep us .all s k .shut .spent (level n).item (level m).item := by
  obtain ⟨n, rfl⟩ := Nat.exists_eq_succ_of_ne_zero (Nat.ne_zero_of_lt hn)
  obtain ⟨m, rfl⟩ := Nat.exists_eq_succ_of_ne_zero (Nat.ne_zero_of_lt hm)
  have hbelow : Nested s (level n) (level m) :=
    nested_level (Nat.le_of_lt_succ hn) (Nat.le_of_lt_succ hm)
  exact inferInstanceAs (InStep us .all s k .shut .spent (item (level n)) (item (level m)))

theorem agrees_item {n : Nat} (hn : 2 * s < n) : Agrees .all s (level n).item (level n).item :=
  InStep.agrees fun _ => follows_item hn hn

/-- A text that begins with a block has no attributes of its own. -/
theorem run_file [Neutral ts] (g : Inner) : (file g).run (.at ts) =
    ((fun is => ([], is)) <$> many (fun ts => !ts.isEmpty) g.item).run (.at ts) := by
  have hstart : startsInner ts = false := by
    rcases neutral_starts ts with rfl | ⟨place, vs, rfl⟩ <;> rfl
  have hinner : (innerAttributes g).run (.at ts) = .ok ([], .at ts) :=
    (ReadsMany.nil hstart).reads none
  unfold file items
  rw [run_bind_of_ok hinner]
  rfl

theorem readAll_file_iff [Neutral ts] {inner : Attributes} {is : List Item} {n : Nat}
    (hn : 2 * Tree.sizeAll ts < n) : readAll (file (level n)) ts = .ok (inner, is) ↔
      inner = [] ∧ Sequence (level n).item ts is := by
  rw [readAll_iff]
  constructor
  · rintro ⟨c', hrun, hclean, -⟩
    rw [run_file] at hrun
    obtain ⟨is', hmany, heq⟩ := run_map_iff.mp hrun
    cases heq
    unfold many at hmany
    rw [run_rest_bind] at hmany
    exact ⟨rfl, (sequence_of_run_manyFrom (agrees_item hn) (Nat.le_refl _) hclean hmany).1⟩
  · rintro ⟨rfl, his⟩
    have hlength := his.length_le (agrees_item hn).moves (Nat.le_refl _)
    refine ⟨.at [], ?_, rfl, rfl⟩
    rw [run_file]
    refine run_map_iff.mpr ⟨is, ?_, rfl⟩
    unfold many
    rw [run_rest_bind]
    exact run_manyFrom_of_sequence his (Nat.lt_succ_of_le hlength)

/-- What is read at some level that is high enough is what the file holds. -/
theorem read_file_of_level [Neutral ts] {inner : Attributes} {is : List Item} {n : Nat}
    (hn : 2 * Tree.sizeAll ts < n) (h : readAll (file (level n)) ts = .ok (inner, is)) :
    read file ts = .ok (inner, is) := by
  have hstep (k : Nat) : InStep [] .all (Tree.sizeAll ts) k .shut .spent (level n).item
      (level (4 * Tree.sizeAll ts + 8)).item := follows_item hn (by omega)
  rw [readAll_file_iff hn, sequence_congr hstep (Nat.le_refl _)] at h
  exact (readAll_file_iff (by omega)).mpr h

instance [Neutral ts] [Neutral us] : Neutral (ts ++ us) where
  starts := by
    rcases neutral_starts ts with rfl | ⟨place, vs, rfl⟩
    · exact neutral_starts us
    · exact .inr ⟨place, vs ++ us, rfl⟩

/-- A file of some blocks and then others holds what is read of the first and of the others. -/
theorem read_file_append [Neutral ts] [Neutral us] (he : Edge.spent.Admits us ts)
    {inner : Attributes} {is : List Item} : read file (ts ++ us) = .ok (inner, is) ↔
      inner = [] ∧ ∃ xs ys, is = xs ++ ys ∧ read file ts = .ok ([], xs) ∧
        read file us = .ok ([], ys) := by
  have hsize := Tree.sizeAll_append ts us
  have hts (k : Nat) : InStep us .all (Tree.sizeAll ts) k .shut .spent
      (level (4 * Tree.sizeAll ts + 8)).item (level (4 * Tree.sizeAll (ts ++ us) + 8)).item :=
    follows_item (by omega) (by omega)
  have hus (k : Nat) : InStep [] .all (Tree.sizeAll us) k .shut .spent
      (level (4 * Tree.sizeAll us + 8)).item (level (4 * Tree.sizeAll (ts ++ us) + 8)).item :=
    follows_item (by omega) (by omega)
  unfold read
  rw [readAll_file_iff (by omega)]
  refine and_congr_right fun _ => ⟨fun h => ?_, ?_⟩
  · obtain ⟨xs, ys, rfl, hxs, hys⟩ := Sequence.of_append hts (Nat.le_refl _) he h
    rw [← sequence_congr hus (Nat.le_refl _)] at hys
    exact ⟨xs, ys, rfl, (readAll_file_iff (by omega)).mpr ⟨rfl, hxs⟩,
      (readAll_file_iff (by omega)).mpr ⟨rfl, hys⟩⟩
  · rintro ⟨xs, ys, rfl, hxs, hys⟩
    obtain ⟨-, hxs⟩ := (readAll_file_iff (by omega)).mp hxs
    obtain ⟨-, hys⟩ := (readAll_file_iff (by omega)).mp hys
    rw [sequence_congr hus (Nat.le_refl _)] at hys
    exact hxs.append hts (Nat.le_refl _) he hys

end ZonedAccessors.Grammar
