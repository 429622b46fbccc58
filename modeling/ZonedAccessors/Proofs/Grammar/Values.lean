import ZonedAccessors.Proofs.Grammar.Attributes
import ZonedAccessors.Proofs.Grammar.Follow.Level

/-!
Values that are read back at one level are read at every level that is high enough, and where braces
stand for a value as well.
-/

namespace ZonedAccessors.Grammar

open Token Syntax

variable {g : Inner} {us vs : Source} {known : Values} {s : Nat}

theorem InStep.reads {α : Type} {p q : Reader α} {a : α} {e e' : Edge}
    (h : InStep [] .fewer s (us.length + 1) e e' p q) (hs : Tree.sizeAll us < s)
    (hp : Reads p us a vs) : Reads q us a vs := by
  intro closing
  have hrun := h.run ⟨us, closing, none⟩ ⟨hs, Nat.lt_succ_self _⟩ (e.admits_nil _)
  rw [Cursor.before_nil, hp closing] at hrun
  generalize q.run ⟨us, closing, none⟩ = found at hrun
  cases hrun with
  | found => rw [Cursor.before_nil]

theorem readsBack_of_level {e : Expr} {n : Nat} (hn : 2 * Tree.sizeAll e.tokens + 2 ≤ n)
    (h : Reads ((level n).expr true) e.tokens.placed e []) : e.ReadsBack := by
  have hsize : Tree.sizeAll e.tokens.placed = Tree.sizeAll e.tokens := Tree.sizeAll_relabelAll _ _
  have hnested : Nested (Tree.sizeAll e.tokens + 1) (level n)
      (level (2 * Tree.sizeAll e.tokens + 2)) := nested_level (by omega) (by omega)
  exact (hnested.expr [] _ true).reads (by omega) h

/-- Two levels for each token are enough. -/
theorem reads_level {e : Expr} (he : e.ReadsBack) {n : Nat}
    (hn : 2 * Tree.sizeAll e.tokens + 2 ≤ n) :
    Reads ((level n).expr true) e.tokens.placed e [] := by
  have hsize : Tree.sizeAll e.tokens.placed = Tree.sizeAll e.tokens := Tree.sizeAll_relabelAll _ _
  have hnested : Nested (Tree.sizeAll e.tokens + 1)
      (level (2 * Tree.sizeAll e.tokens + 2)) (level n) := nested_level (by omega) (by omega)
  exact (hnested.expr [] _ true).reads (by omega) he

/-- Braces that are read as an expression are read alike where nothing but braces may stand. -/
theorem reads_braced_of_expr {inner : Attributes} {body : List Stmt} {ts : Source} {p : Span}
    (h : Reads (expr g true) [.group .brace ts p] (.block [] none inner body) []) :
    Reads (braced g) (.group .brace ts p :: us) (inner, body) us := by
  intro closing
  obtain ⟨e₁, c₁, hunary, hclimb⟩ := run_bind_iff.mp (h closing)
  have hattached : (attached g true [.group .brace ts p] []).run
      ⟨[.group .brace ts p], closing, none⟩ = .ok (e₁, c₁) := hunary
  unfold attached at hattached
  rw [run_rest_bind] at hattached
  obtain ⟨e₂, c₂, hatom, hwithin⟩ := run_bind_iff.mp hattached
  have hblock : (bareBlock g none).run ⟨[.group .brace ts p], closing, none⟩ = .ok (e₂, c₂) := hatom
  obtain ⟨⟨inner', body'⟩, c₃, hbraced, hpure⟩ := run_bind_iff.mp hblock
  cases hpure
  unfold braced at hbraced
  obtain ⟨_, _, _, c₄, hrest, hbody, rfl⟩ := run_inside_iff.mp hbraced
  cases hrest
  generalize hclean : c₄.leftover.or (leftoverOf (some .brace) c₄.rest) = leftover at hwithin
  cases hwithin
  cases hclimb
  exact run_inside_iff.mpr ⟨ts, p, us, c₄, rfl, hbody, by rw [hclean]⟩

theorem readsValues_level {n : Nat} (hn : 2 * s + 1 ≤ n) : ReadsValues known s (level n) where
  value {e} he hs := by
    rw [Values.covers, Bool.or_eq_true] at he
    rcases he with he | he
    · obtain ⟨n, rfl⟩ := Nat.exists_eq_succ_of_ne_zero (Nat.ne_zero_of_lt hn)
      exact reads_simple he
    · exact reads_level (known.readsBack he) (by omega)
  braced {e us} hbraced he hs := by
    have hexpr : Reads ((level (n + 1)).expr true) e.tokens.placed e [] :=
      reads_level (known.readsBack he) (by omega)
    obtain ⟨inner, body, rfl⟩ := Expr.exists_of_isBraced hbraced
    exact .peek (.no rfl (.no rfl (.yes rfl ((reads_braced_of_expr hexpr).bind (reads_pure _)))))

end ZonedAccessors.Grammar
