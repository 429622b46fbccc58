import Mathlib.Data.List.Basic
import ZonedAccessors.Proofs.Grammar.Tidy
import ZonedAccessors.Syntax.Tokens

/-!
Lists with separators are read as what they were made from, with a separator behind the last item or
without. Lifetimes that stand first are printed where they stand.
-/

namespace ZonedAccessors.Syntax

open Token

variable {α : Type} {sep : Tokens} {trailing : Bool}

theorem separated_cons (sep : Tokens) (trailing : Bool) (x : Tokens) (xs : List Tokens) :
    ∃ ts, separated sep trailing (x :: xs) = x ++ ts := by
  cases xs with
  | nil => exact ⟨_, rfl⟩
  | cons y ys => exact ⟨_, List.append_assoc ..⟩

theorem commas_cons {xs : List Tokens} (h : (!xs.isEmpty || trailing) = true)
    (x : Tokens) : commas trailing (x :: xs) = x ++ (op "," ++ commas trailing xs) := by
  cases xs with
  | nil =>
      obtain rfl : trailing = true := by simpa using h
      rfl
  | cons => exact List.append_assoc ..

theorem length_le_separated (hsep : 0 < sep.length) (trailing : Bool) (x : Tokens) (xs : List Tokens) :
    xs.length ≤ (separated sep trailing (x :: xs)).length := by
  induction xs generalizing x with
  | nil => exact Nat.zero_le _
  | cons y ys ih =>
      have := ih y
      simp only [separated, List.length_append, List.length_cons] at this ⊢
      omega

theorem size_le_separated {x : Tokens} {xs : List Tokens} (hx : x ∈ xs) :
    Tree.sizeAll x ≤ Tree.sizeAll (separated sep trailing xs) := by
  fun_induction separated sep trailing xs with
  | case1 => cases hx
  | case2 y =>
      obtain rfl := List.mem_singleton.mp hx
      rw [Tree.sizeAll_append]
      exact Nat.le_add_right _ _
  | case3 y ys _ ih =>
      rw [Tree.sizeAll_append, Tree.sizeAll_append]
      rcases List.mem_cons.mp hx with rfl | hx
      · omega
      · exact Nat.le_trans (ih hx) (Nat.le_add_left _ _)

/-! Lifetimes first. -/

theorem withCommas_concat (xs : List α) (x : α) :
    withCommas trailing (xs ++ [x]) = xs.map (·, true) ++ [(x, trailing)] := by
  induction xs with
  | nil => rfl
  | cons y ys ih =>
      rw [List.cons_append, withCommas, ih]
      · rfl
      · simp

def closed (ts : Tokens) : Tokens := ts ++ op ","

theorem commas_concat (xs : List Tokens) (x : Tokens) :
    commas trailing (xs ++ [x]) = xs.flatMap closed ++ closeItem (x, trailing) := by
  induction xs with
  | nil => rfl
  | cons y ys ih =>
      rw [List.cons_append, commas_cons (by simp), ih, List.flatMap_cons]
      simp [closed]

theorem commas_true (xs : List Tokens) : commas true xs = xs.flatMap closed := by
  rcases List.eq_nil_or_concat' xs with rfl | ⟨ys, y, rfl⟩
  · rfl
  · rw [commas_concat, List.flatMap_append]
    simp [closed, closeItem]

theorem flatMap_closeItem (xs : List Tokens) :
    (xs.map (·, true)).flatMap closeItem = xs.flatMap closed := List.flatMap_map ..

/-- Two parts of a list, with a comma between them if none ends the first. -/
def joined (first others : List (Tokens × Bool)) : Tokens :=
  first.flatMap closeItem ++ (if first.getLast?.all (·.2) || others.isEmpty then [] else op ",") ++
    others.flatMap closeItem

/-- The last item stays the last one. -/
theorem joined_concat_right (xs ys : List Tokens) (y : Tokens) :
    joined (xs.map (·, true)) (ys.map (·, true) ++ [(y, trailing)]) =
      commas trailing (xs ++ ys ++ [y]) := by
  have hlast : (xs.map (·, true)).getLast?.all (·.2) = true := by
    rw [List.getLast?_map]
    cases xs.getLast? <;> rfl
  rw [joined, hlast, Bool.true_or, if_pos rfl, List.append_nil, List.flatMap_append,
    flatMap_closeItem, flatMap_closeItem, commas_concat, List.flatMap_append]
  simp

/-- The last item comes to stand before others, where a comma follows it. -/
theorem joined_concat_left (xs ys : List Tokens) (x : Tokens) :
    joined (xs.map (·, true) ++ [(x, trailing)]) (ys.map (·, true)) =
      commas (trailing || !ys.isEmpty) (xs ++ x :: ys) := by
  rw [joined, List.flatMap_append, flatMap_closeItem, flatMap_closeItem, List.getLast?_concat]
  cases ys with
  | nil =>
      rw [commas_concat]
      simp
  | cons y ys =>
      rw [List.isEmpty_cons, Bool.not_false, Bool.or_true, commas_true, List.flatMap_append]
      cases trailing <;> simp [closeItem, closed]

/-- Marked items first, and both in their order. -/
def marked (items : List (Bool × α)) : List (Bool × α) :=
  items.filter (·.1) ++ items.filter (!·.1)

/-- Whether a comma follows the last item once the marked ones are first. A marked one that was last
leaves its place to one behind which a comma stood. -/
def commaAfter (trailing : Bool) (marks : List Bool) : Bool :=
  trailing || marks.getLast?.getD false && marks.any (!·)

theorem arranged_eq_commas_marked (items : List (Bool × Tokens)) :
    arranged trailing items =
      commas (commaAfter trailing (items.map (·.1))) ((marked items).map (·.2)) := by
  rcases List.eq_nil_or_concat' items with rfl | ⟨xs, ⟨mark, ts⟩, rfl⟩
  · rfl
  · have hpart (f : Bool → Bool) :
        ((withCommas trailing (xs ++ [(mark, ts)])).filter (f ·.1.1)).map (fun i => (i.1.2, i.2)) =
          (((xs.filter (f ·.1)).map (·.2)).map (·, true)) ++
            if f mark then [(ts, trailing)] else [] := by
      rw [withCommas_concat, List.filter_append, List.map_append, List.filter_map, List.map_map]
      cases h : f mark <;> simp [Function.comp_def, h]
    have hparts : arranged trailing (xs ++ [(mark, ts)]) = joined _ _ :=
      congrArg₂ joined (hpart id) (hpart not)
    rw [hparts]
    cases mark with
    | true =>
      have hothers : (!((xs.filter (not ·.1)).map (·.2)).isEmpty) = xs.any (!·.1) := by
        rw [Bool.eq_iff_iff]
        simp
      rw [if_pos (by rfl), if_neg (by simp), List.append_nil, joined_concat_left, hothers]
      simp [commaAfter, marked, Function.comp_def]
    | false =>
      rw [if_neg (by simp), if_pos (by rfl), List.append_nil, joined_concat_right]
      simp [commaAfter, marked]

theorem filter_append_of_marksFirst {f : α → Bool} {xs : List α}
    (h : marksFirst (xs.map f) = true) : xs.filter f ++ xs.filter (!f ·) = xs := by
  induction xs with
  | nil => rfl
  | cons x xs ih =>
      cases hx : f x with
      | true =>
          rw [marksFirst, List.map_cons, hx, List.dropWhile_cons_of_pos rfl] at h
          simp [hx, ih h]
      | false =>
          -- behind the first item without a mark nothing is marked
          rw [marksFirst, List.map_cons, hx, List.dropWhile_cons_of_neg (by simp)] at h
          have hall : ∀ y ∈ x :: xs, f y = false := by simpa [hx] using h
          have hnone : (x :: xs).filter f = [] := by simpa using hall
          have hevery : (x :: xs).filter (!f ·) = x :: xs := by simpa using hall
          rw [hnone, hevery, List.nil_append]

theorem commaAfter_of_marksFirst {marks : List Bool} (h : marksFirst marks = true) :
    commaAfter trailing marks = trailing := by
  have hsplit : marks.filter id ++ marks.filter (!id ·) = marks := by
    refine filter_append_of_marksFirst ?_
    rwa [List.map_id]
  cases hothers : marks.filter (!id ·) with
  | nil =>
      have hall : marks.any (!·) = false := by simpa using hothers
      rw [commaAfter, hall, Bool.and_false, Bool.or_false]
  | cons y ys =>
      -- the last mark is one of those behind the marked ones
      have hlast : marks.getLast?.getD false = false := by
        obtain ⟨z, hz⟩ : ∃ z, (marks.filter (!id ·)).getLast? = some z :=
          ⟨_, by rw [hothers, List.getLast?_cons]⟩
        have hmark : z = false := by
          simpa using (List.mem_filter.mp (List.mem_of_getLast? hz)).2
        rw [← hsplit, List.getLast?_append, hz, hmark]
        rfl
      rw [commaAfter, hlast, Bool.false_and, Bool.or_false]

/-- Where lifetimes stand first, nothing is moved and no comma is added. -/
theorem arranged_eq_commas {items : List (Bool × Tokens)}
    (h : marksFirst (items.map (·.1)) = true) :
    arranged trailing items = commas trailing (items.map (·.2)) := by
  rw [arranged_eq_commas_marked, commaAfter_of_marksFirst h, marked, filter_append_of_marksFirst h]

end ZonedAccessors.Syntax

namespace ZonedAccessors.Grammar

open Token Syntax

variable {α γ : Type} {item : Reader α} {stop : Source → Bool} {follows : Source → Prop}
  {sep : String} {trailing : Bool} {tok : γ → Tokens} {val : γ → α} {xs : List γ} {us : Source}

/-- An item of a list: it does not end the list, and is read before what may follow it. -/
structure ReadsItem (item : Reader α) (stop : Source → Bool) (follows : Source → Prop) (ts : Tokens)
    (a : α) : Prop where
  starts : ∀ vs, stop (ts.placed ++ vs) = false
  reads : ∀ vs, follows vs → Reads item (ts.placed ++ vs) a vs

theorem ReadsItem.starts_separated {x : γ} (h : ReadsItem item stop follows (tok x) (val x)) :
    stop ((separated (op sep) trailing ((x :: xs).map tok)).placed ++ us) = false := by
  obtain ⟨ts, hts⟩ := separated_cons (op sep) trailing (tok x) (xs.map tok)
  rw [List.map_cons, hts, placed_append, List.append_assoc]
  exact h.starts _

theorem length_placed (ts : Tokens) : ts.placed.length = ts.length := by
  induction ts with
  | nil => rfl
  | cons t ts ih => exact congrArg Nat.succ ih

theorem reads_listedFrom {x : γ} (hxs : ∀ y ∈ x :: xs, ReadsItem item stop follows (tok y) (val y))
    (hcomma : ∀ vs, follows ((op ",").placed ++ vs) ∧ stop ((op ",").placed ++ vs) = false)
    (hus : follows us) (hstop : stop us = true) {fuel : Nat} (hfuel : xs.length < fuel) :
    Reads (listedFrom stop "," item fuel)
      ((commas trailing ((x :: xs).map tok)).placed ++ us) ((x :: xs).map val, trailing) us := by
  have hmark (vs : Source) : Reads (mark ",") ((op ",").placed ++ vs) () vs := fun _ => rfl
  obtain ⟨fuel, rfl⟩ := Nat.exists_eq_succ_of_ne_zero (Nat.ne_zero_of_lt hfuel)
  have hx := hxs x List.mem_cons_self
  unfold listedFrom
  induction xs generalizing x fuel with
  | nil =>
      cases trailing with
      | false =>
          rw [List.map_cons, List.map_nil, commas, separated, if_neg Bool.false_ne_true,
            List.append_nil]
          exact (hx.reads us hus).bind (.peek (.yes hstop (reads_pure _)))
      | true =>
          rw [List.map_cons, List.map_nil, commas, separated, if_pos rfl, placed_append,
            List.append_assoc]
          refine (hx.reads _ (hcomma us).1).bind (.peek (.no (hcomma us).2 ((hmark us).bind ?_)))
          exact .peek (.yes hstop (reads_pure _))
  | cons y ys ih =>
      have hys : ∀ z ∈ y :: ys, ReadsItem item stop follows (tok z) (val z) :=
        fun z hz => hxs z (List.mem_cons_of_mem _ hz)
      have hy := hys y List.mem_cons_self
      obtain ⟨fuel, rfl⟩ := Nat.exists_eq_succ_of_ne_zero (Nat.ne_zero_of_lt (Nat.lt_of_succ_lt_succ hfuel))
      have hmore := ih hys fuel (Nat.lt_of_succ_lt_succ hfuel) hy
      change Reads _ ((tok x ++ op "," ++ commas trailing ((y :: ys).map tok)).placed ++ us) _ us
      rw [placed_append, placed_append, List.append_assoc, List.append_assoc]
      refine (hx.reads _ (hcomma _).1).bind (.peek (.no (hcomma _).2 ((hmark _).bind ?_)))
      refine .peek (.no hy.starts_separated ?_)
      unfold listedFrom
      exact hmore.bind (reads_pure _)

theorem reads_listed (hxs : ∀ x ∈ xs, ReadsItem item stop follows (tok x) (val x))
    (hcomma : ∀ vs, follows ((op ",").placed ++ vs) ∧ stop ((op ",").placed ++ vs) = false)
    (hus : follows us) (hstop : stop us = true) (htrailing : endsWell xs trailing = true) :
    Reads (listed stop "," item) ((commas trailing (xs.map tok)).placed ++ us)
      (xs.map val, trailing) us := by
  cases xs with
  | nil =>
      obtain rfl : trailing = false := by simpa [endsWell] using htrailing
      exact .peek (.yes hstop (reads_pure _))
  | cons x xs =>
      have hlength : xs.length ≤ ((commas trailing ((x :: xs).map tok)).placed ++ us).length := by
        have hwritten : 0 < (op ",").length := by decide
        have := length_le_separated hwritten trailing (tok x) (xs.map tok)
        rw [List.length_map] at this
        rw [List.length_append, length_placed]
        exact Nat.le_trans this (Nat.le_add_right _ _)
      refine .peek (.no (hxs x List.mem_cons_self).starts_separated (.peek ?_))
      exact reads_listedFrom hxs hcomma hus hstop (Nat.lt_succ_of_le hlength)

/-- A separator that some readers look for. -/
structure Separates (sep : String) (follows : Source → Prop) : Prop where
  written : 0 < (op sep).length
  reads : ∀ vs, Reads (markIf sep) ((op sep).placed ++ vs) true vs
  follows : ∀ vs, follows ((op sep).placed ++ vs)

theorem reads_chainedFrom_separated {x : γ}
    (hxs : ∀ y ∈ x :: xs, ReadsItem item stop follows (tok y) (val y))
    (hsep : Separates sep follows) (hus : follows us) (hmark : isMark sep us = false)
    (hstop : trailing = true → stop us = true) {fuel : Nat} (hfuel : xs.length < fuel) :
    Reads (chainedFrom stop sep item fuel)
      ((separated (op sep) trailing ((x :: xs).map tok)).placed ++ us)
      ((x :: xs).map val, trailing) us := by
  obtain ⟨fuel, rfl⟩ := Nat.exists_eq_succ_of_ne_zero (Nat.ne_zero_of_lt hfuel)
  have hx := hxs x List.mem_cons_self
  unfold chainedFrom
  induction xs generalizing x fuel with
  | nil =>
      cases trailing with
      | false =>
          rw [List.map_cons, List.map_nil, separated, if_neg Bool.false_ne_true, List.append_nil]
          exact (hx.reads us hus).bind ((reads_markIf_false hmark).bind (.yes rfl (reads_pure _)))
      | true =>
          rw [List.map_cons, List.map_nil, separated, if_pos rfl, placed_append, List.append_assoc]
          refine (hx.reads _ (hsep.follows us)).bind ((hsep.reads us).bind (.no rfl ?_))
          exact .peek (.yes (hstop rfl) (reads_pure _))
  | cons y ys ih =>
      have hys : ∀ z ∈ y :: ys, ReadsItem item stop follows (tok z) (val z) :=
        fun z hz => hxs z (List.mem_cons_of_mem _ hz)
      have hy := hys y List.mem_cons_self
      obtain ⟨fuel, rfl⟩ := Nat.exists_eq_succ_of_ne_zero (Nat.ne_zero_of_lt (Nat.lt_of_succ_lt_succ hfuel))
      have hmore := ih hys fuel (Nat.lt_of_succ_lt_succ hfuel) hy
      change Reads _ ((tok x ++ op sep ++
        separated (op sep) trailing ((y :: ys).map tok)).placed ++ us) _ us
      rw [placed_append, placed_append, List.append_assoc, List.append_assoc]
      refine (hx.reads _ (hsep.follows _)).bind ((hsep.reads _).bind (.no rfl ?_))
      refine .peek (.no hy.starts_separated ?_)
      unfold chainedFrom
      exact hmore.bind (reads_pure _)

/-- The number of tokens is fuel enough. -/
theorem reads_chainedFrom_length {x : γ}
    (hxs : ∀ y ∈ x :: xs, ReadsItem item stop follows (tok y) (val y))
    (hsep : Separates sep follows) (hus : follows us) (hmark : isMark sep us = false)
    (hstop : trailing = true → stop us = true) :
    Reads (do chainedFrom stop sep item ((← rest).length + 1))
      ((separated (op sep) trailing ((x :: xs).map tok)).placed ++ us)
      ((x :: xs).map val, trailing) us := by
  have hlength := length_le_separated hsep.written trailing (tok x) (xs.map tok)
  rw [List.length_map] at hlength
  refine .peek (reads_chainedFrom_separated hxs hsep hus hmark hstop (Nat.lt_succ_of_le ?_))
  rw [List.length_append, length_placed]
  exact Nat.le_trans hlength (Nat.le_add_right _ _)

theorem reads_chained (hxs : ∀ x ∈ xs, ReadsItem item stop follows (tok x) (val x))
    (hsep : Separates sep follows) (hus : follows us) (hmark : isMark sep us = false)
    (hstop : stop us = true) (htrailing : endsWell xs trailing = true) :
    Reads (chained stop sep item) ((separated (op sep) trailing (xs.map tok)).placed ++ us)
      (xs.map val, trailing) us := by
  cases xs with
  | nil =>
      obtain rfl : trailing = false := by simpa [endsWell] using htrailing
      exact .peek (.yes hstop (reads_pure _))
  | cons x xs =>
      refine .peek (.no (hxs x List.mem_cons_self).starts_separated ?_)
      exact reads_chainedFrom_length hxs hsep hus hmark fun _ => hstop

end ZonedAccessors.Grammar
