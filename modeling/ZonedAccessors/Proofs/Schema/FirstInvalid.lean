import ZonedAccessors.Proofs.Attribute.FirstFailure
import ZonedAccessors.Proofs.Schema.Composition

/-!
Much can be wrong with a schema at once. What is told is the first of it from the top; only where
nothing is wrong by itself can what was put together be unreadable.
-/

namespace ZonedAccessors

open Attribute (First Nameless nameless_iff bind_error_iff_first exists_first_iff
  first_singleton_iff not_first_nil)

/-- What an entry says and can be wrong by itself. -/
inductive Clause where
  | type (path : String)
  | visibility (owner text : String)
  | runtime (path : String)
  | field (f : DateField)
  deriving DecidableEq, Repr

/-- What is told of a clause repeats its text; of a blank name there is none to repeat. -/
def Clause.Fails : Clause → DeclarationError → Prop
  | .type path, r => Grammar.tyPathOfText path = none ∧ r = .invalidType path
  | .visibility owner text, r =>
      Grammar.visibilityOfText text = none ∧ r = .invalidVisibility owner text
  | .runtime path, r => Grammar.pathOfText path = none ∧ r = .invalidRuntime path
  | .field f, r => Nameless f.name r

theorem Clause.Fails.ne_unreadable {c : Clause} {r : DeclarationError} (h : c.Fails r)
    (reason : String) : r ≠ .unreadable reason := by
  rintro rfl
  cases c with
  | type | visibility | runtime => cases h.2
  | field => cases h

variable {e : TypeEntry} {r : DeclarationError}

namespace TypeEntry

/-- Above the fields. -/
def head (e : TypeEntry) : List Clause :=
  .type e.name :: (e.visibility.toList.map (.visibility e.name) ++ e.runtime.toList.map .runtime)

def clauses (e : TypeEntry) : List Clause := e.head ++ e.fields.map .field

theorem readType_error_iff : e.readType = .error r ↔ First Clause.Fails [.type e.name] r := by
  rw [first_singleton_iff, readType, Clause.Fails]
  cases Grammar.tyPathOfText e.name <;> simp [eq_comm]

theorem readVisibility_error_iff : e.readVisibility = .error r ↔
    First Clause.Fails (e.visibility.toList.map (.visibility e.name)) r := by
  unfold readVisibility
  cases e.visibility with
  | none => simp [not_first_nil]
  | some text =>
      rw [Option.toList_some, List.map_singleton, first_singleton_iff, Clause.Fails]
      cases hread : Grammar.visibilityOfText text <;> simp [hread, eq_comm]

theorem readPath_error_iff {runtime : Option String} : readPath runtime = .error r ↔
    First Clause.Fails (runtime.toList.map .runtime) r := by
  unfold readPath
  cases runtime with
  | none => simp [not_first_nil]
  | some text =>
      rw [Option.toList_some, List.map_singleton, first_singleton_iff, Clause.Fails]
      cases hread : Grammar.pathOfText text <;> simp [hread, eq_comm]

theorem target_error_iff : e.target = .error r ↔ First Clause.Fails e.head r := by
  have hrest (p : Syntax.TyPath) : (do
      let v ← e.readVisibility
      let runtime ← readPath e.runtime
      return Target.ofType (.path p) v runtime) = Except.error r ↔
        First Clause.Fails (e.visibility.toList.map (.visibility e.name) ++
          e.runtime.toList.map .runtime) r := by
    refine bind_error_iff_first (fun _ => readVisibility_error_iff) fun v _ => ?_
    rw [← readPath_error_iff]
    cases readPath e.runtime <;> simp [bind, Except.bind, pure, Except.pure]
  exact bind_error_iff_first (fun _ => readType_error_iff) fun p _ => hrest p

end TypeEntry

theorem DateField.accessors_error_iff {fs : List DateField} : DateField.accessors fs = .error r ↔
    First Clause.Fails (fs.map .field) r := by
  induction fs generalizing r with
  | nil => simp [accessors, not_first_nil]
  | cons f fs ih =>
      have hfield (r : DeclarationError) : f.accessor = .error r ↔
          First Clause.Fails [.field f] r := by
        rw [first_singleton_iff, Clause.Fails, nameless_iff]
      have hfields (a : Accessor) : (do
          let as ← accessors fs
          return a :: as) = Except.error r ↔ First Clause.Fails (fs.map .field) r := by
        rw [← ih]
        cases accessors fs <;> simp [bind, Except.bind, pure, Except.pure]
      exact bind_error_iff_first hfield fun a _ => hfields a

theorem TypeEntry.block_error_iff : e.block = .error r ↔ First Clause.Fails e.clauses r := by
  refine bind_error_iff_first (fun _ => target_error_iff) fun t _ => ?_
  rw [← DateField.accessors_error_iff]
  cases DateField.accessors e.fields <;> simp [bind, Except.bind, pure, Except.pure]

namespace Schema

variable {s : Schema}

/-- From the top, without the types that have no fields. -/
def clauses (s : Schema) : List Clause := s.active.flatMap TypeEntry.clauses

theorem mem_clauses_iff {c : Clause} :
    c ∈ s.clauses ↔ ∃ e ∈ s, e.fields ≠ [] ∧ c ∈ e.clauses := by
  simp [clauses, active, and_assoc]

theorem blocks_error_iff : s.blocks = .error r ↔ First Clause.Fails s.clauses r := by
  unfold blocks clauses
  induction s.active generalizing r with
  | nil => simp [blocksOf, not_first_nil]
  | cons e es ih =>
      rw [blocksOf, List.flatMap_cons]
      refine bind_error_iff_first (fun _ => TypeEntry.block_error_iff) fun b _ => ?_
      rw [← ih]
      cases blocksOf es <;> simp [bind, Except.bind, pure, Except.pure]

/-- Past the blocks only reading them back can fail. -/
theorem render_of_blocks {ts : Token.Tokens} (h : s.blocks = .ok ts) :
    (∃ source, s.render = .ok source) ∨ ∃ reason, s.render = .error (.unreadable reason) := by
  have hparsed : s.parsed = readBlocks ts := by
    rw [parsed, h]
    rfl
  rw [render, hparsed, readBlocks]
  cases Grammar.read Grammar.file ts.placed with
  | error f => exact .inr ⟨f.message, rfl⟩
  | ok found => exact .inl ⟨_, rfl⟩

theorem render_of_blocks_error (h : s.blocks = .error r) : s.render = .error r := by
  rw [render, parsed, h]
  rfl

/-- Of the clauses that are wrong the first is told, with its own text; those of a type without
fields are never told. Where none is wrong there is a source, or the blocks are not readable. -/
theorem render_tells_first_invalid (s : Schema) :
    (∀ r, First Clause.Fails s.clauses r ↔
      s.render = .error r ∧ ∀ reason, r ≠ .unreadable reason) ∧
    ((∃ r, First Clause.Fails s.clauses r) ↔
      ∃ e ∈ s, e.fields ≠ [] ∧ ∃ c ∈ e.clauses, ∃ r, c.Fails r) ∧
    ((∀ e ∈ s, e.fields ≠ [] → ∀ c ∈ e.clauses, ∀ r, ¬ c.Fails r) →
      (∃ source, s.render = .ok source) ∨ ∃ reason, s.render = .error (.unreadable reason)) := by
  have hsome : (∃ r, First Clause.Fails s.clauses r) ↔
      ∃ e ∈ s, e.fields ≠ [] ∧ ∃ c ∈ e.clauses, ∃ r, c.Fails r := by
    rw [exists_first_iff]
    simp only [mem_clauses_iff]
    tauto
  refine ⟨fun r => ⟨fun h => ?_, fun ⟨hrender, hreadable⟩ => ?_⟩, hsome, fun hnone => ?_⟩
  · obtain ⟨c, -, hc⟩ := h.exists_mem
    exact ⟨render_of_blocks_error (blocks_error_iff.mpr h), hc.ne_unreadable⟩
  · cases hblocks : s.blocks with
    | error r' =>
        rw [render_of_blocks_error hblocks, Except.error.injEq] at hrender
        rw [← hrender]
        exact blocks_error_iff.mp hblocks
    | ok ts =>
        rcases render_of_blocks hblocks with ⟨source, hok⟩ | ⟨reason, herror⟩
        · rw [hok] at hrender
          cases hrender
        · rw [herror, Except.error.injEq] at hrender
          exact absurd hrender.symm (hreadable reason)
  · cases hblocks : s.blocks with
    | error r =>
        obtain ⟨e, he, hfields, c, hc, r', hfails⟩ := hsome.mp ⟨r, blocks_error_iff.mp hblocks⟩
        exact absurd hfails (hnone e he hfields c hc r')
    | ok ts => exact render_of_blocks hblocks

/-- The first type has no fields and nothing is said of it; in the second the runtime is first. -/
example : Schema.render [⟨"not a type", some "public", none, []⟩,
    ⟨"Log", some "pub", some "no such::", [⟨"", false, .local⟩, ⟨"type", true, .error⟩]⟩] =
      .error (.invalidRuntime "no such::") := by
  decide +kernel

end Schema

end ZonedAccessors
