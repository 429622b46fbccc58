import ZonedAccessors.Grammar.Level
import ZonedAccessors.Proofs.Grammar.Follow.Item

/-!
Levels that are high enough for a text read it alike.
-/

namespace ZonedAccessors.Grammar

open Token Syntax

/-- A level reads one token more than the level below it, once types and items do so below. -/
theorem Adjacent.above {s : Nat} {g g' : Inner} [Adjacent s g g'] :
    Nested (s + 1) (above g) (above g') where
  type us n _ plus := .fewer_succ <|
    inferInstanceAs (InStep us .all s n .shut .spent (type g plus) (type g' plus))
  argument us n _ := .fewer_succ <|
    inferInstanceAs (InStep us .all s n .shut .spent (argument g) (argument g'))
  parameter us n _ := .fewer_succ <|
    inferInstanceAs (InStep us .all s n .shut .spent (parameter g) (parameter g'))
  expr us n _ structs := .fewer_succ <|
    inferInstanceAs (InStep us .all s n .shut .spent (expr g structs) (expr g' structs))
  unary us n _ structs := .fewer_succ <|
    inferInstanceAs (InStep us .all s n .shut .spent (unary g structs) (unary g' structs))
  climb us n _ structs b left := .fewer_succ <|
    inferInstanceAs (InStep us .all s n .spent .spent (climb g structs b left) (climb g' structs b left))
  statement := .fewer_succ <| inferInstanceAs (Agrees .all s (statement g) (statement g'))
  pattern us n _ := .fewer_succ <|
    inferInstanceAs (InStep us .all s n .shut .spent (pattern g) (pattern g'))
  block us n _ := .fewer_succ <|
    inferInstanceAs (InStep us .all s n .spent .spent (block g) (block g'))
  body := .fewer_succ (Agrees.body (r := .all) inferInstance)
  item := .fewer_succ <| inferInstanceAs (Agrees .all s (item g) (item g'))

theorem Nested.adjacent {s : Nat} {g g' : Inner} (h : Nested s g g')
    (h' : Nested s (above g) (above g')) : Adjacent s (above g) (above g') where
  toNested := h'
  type_all us n _ plus :=
    inferInstanceAs (InStep us .all s n .shut .spent (Grammar.type g plus) (Grammar.type g' plus))
  item_all := inferInstanceAs (Agrees .all s (Grammar.item g) (Grammar.item g'))

theorem Nested.zero (g g' : Inner) : Nested 0 g g' where
  type _ _ _ _ := .zero
  argument _ _ _ := .zero
  parameter _ _ _ := .zero
  expr _ _ _ _ := .zero
  unary _ _ _ _ := .zero
  climb _ _ _ _ _ _ := .zero
  statement := .zero
  pattern _ _ _ := .zero
  block _ _ _ := .zero
  body := .zero
  item := .zero

/-- Two levels for each token are enough. -/
theorem nested_level {s n m : Nat} (hn : 2 * s ≤ n) (hm : 2 * s ≤ m) :
    Nested s (level n) (level m) := by
  induction s generalizing n m with
  | zero => exact .zero _ _
  | succ s ih =>
      obtain ⟨n, rfl⟩ : ∃ n', n = n' + 2 := ⟨n - 2, by omega⟩
      obtain ⟨m, rfl⟩ : ∃ m', m = m' + 2 := ⟨m - 2, by omega⟩
      have hbelow : Nested s (level n) (level m) := ih (by omega) (by omega)
      have hadjacent : Adjacent s (level (n + 1)) (level (m + 1)) :=
        hbelow.adjacent (ih (n := n + 1) (m := m + 1) (by omega) (by omega))
      exact hadjacent.above

end ZonedAccessors.Grammar
