import ZonedAccessors.Proofs.Accessor.Identifiers
import ZonedAccessors.Proofs.Schema.Composition
import ZonedAccessors.Proofs.Schema.Paths

/-!
What a schema is laid out from, where its types can stand behind `impl` and its runtimes before what
is called: one block for each type that has fields. With other paths the tokens of a block need not
be read back as that block, or at all.
-/

namespace ZonedAccessors

open Token Grammar Syntax

namespace TypeEntry

variable {known : Values} {e : TypeEntry} {p : TyPath} {r : Path} {v : Visibility}
  {as : List Accessor}

/-- The runtime of an entry, by default a crate of its own. -/
def RunsAt (e : TypeEntry) (r : Path) : Prop :=
  readPath e.runtime = .ok none ∧ r = .ofName "region_field" ∨ readPath e.runtime = .ok (some r)

/-- The type, the visibility, the runtime and the accessors that a valid entry gives. -/
structure Gives (e : TypeEntry) (p : TyPath) (v : Visibility) (r : Path) (as : List Accessor) :
    Prop where
  type : e.readType = .ok p
  visibility : e.readVisibility = .ok v
  runtime : e.RunsAt r
  accessors : DateField.accessors e.fields = .ok as

/-- A valid entry whose two paths are read where they are put as they are read on their own. -/
structure Plain (known : Values) (e : TypeEntry) (p : TyPath) (v : Visibility) (r : Path)
    (as : List Accessor) : Prop extends Gives e p v r as where
  typeTidy : p.isTidyTarget known = true
  runtimeTidy : r.isTidyRuntime known = true

/-- A block for the type an entry names, with no parameters, a getter and a setter for each field
in it, both as visible as the entry says. -/
def StandsFor (e : TypeEntry) (i : Item) : Prop :=
  ∃ p v r as, e.Gives p v r as ∧
    i = .impl [] .none (.path p) .empty []
      (as.flatMap fun a => [a.getterItem v r, a.setterItem v r])

theorem readVisibility_named (h : e.readVisibility = .ok v) : Visibility.Named v := by
  unfold readVisibility at h
  split at h
  · cases h
    trivial
  · split at h
    · rename_i text _ v' htext
      cases h
      unfold visibilityOfText Grammar.ofText at htext
      split at htext
      · cases htext
      · rename_i ts hts
        obtain ⟨c, hrun⟩ := run_of_readAll (toOption_eq_some_iff.mp htext)
        exact (visibility_named hrun (ofText_lexed hts)).1
    · cases h

theorem isKeyword_of_accessors {fs : List DateField} (h : DateField.accessors fs = .ok as) :
    ∀ a ∈ as, isKeyword a.name = false := by
  induction fs generalizing as with
  | nil => cases h; nofun
  | cons f fs ih =>
      obtain ⟨a, ha, h⟩ := bind_ok_iff.mp h
      obtain ⟨as, has, h⟩ := bind_ok_iff.mp h
      cases h
      intro b hb
      rcases List.mem_cons.mp hb with rfl | hb
      · exact (DateField.accessor_identifier ha).notKeyword
      · exact ih has b hb

theorem RunsAt.readPath (h : e.RunsAt r) : ∃ p, TypeEntry.readPath e.runtime = .ok p ∧
    runtimeTokens p = r.tokens := by
  rcases h with ⟨hread, rfl⟩ | hread
  · exact ⟨none, hread, rfl⟩
  · exact ⟨some r, hread, rfl⟩

/-- The block of such an entry is read back as what the entry stands for. -/
theorem Plain.read_block (h : e.Plain known p v r as) : ∃ ts, e.block = .ok ts ∧
    read file ts.placed = .ok ([], [.impl [] .none (.path p) .empty []
      (as.flatMap fun a => [a.getterItem v r, a.setterItem v r])]) := by
  obtain ⟨q, hread, hruntime⟩ := h.runtime.readPath
  let t : Target := .ofType (.path p) v q
  have hruntime : t.runtime = r.tokens := hruntime
  have hblock : e.block = .ok (t.block as) := by
    simp only [block, target, h.type, h.visibility, hread, h.accessors, bind, Except.bind, pure,
      Except.pure, t]
  have hneutral : Neutral (t.block as).placed := t.neutral_block as
  -- high enough for the type, the runtime and the block as a whole
  let n := 2 * Tree.sizeAll p.tokens + 2 * Tree.sizeAll r.tokens +
    2 * Tree.sizeAll (t.block as).placed + 1
  have hwrites : Writes n t v r :=
    { visibility := rfl
      restricted := readVisibility_named h.visibility
      runtime := fun hm => by
        rw [hruntime]
        exact readsPath_of_tidy h.runtimeTidy (by omega)
      opens := fun hk => by
        rw [hruntime]
        exact opensStatement_to h.runtimeTidy hk }
  have hitem : Reads (item (level (n + 5))) ((t.block as).placed ++ []) (.impl [] .none (.path p)
      .empty [] (as.flatMap fun a => [a.getterItem v r, a.setterItem v r])) [] :=
    hwrites.reads_block rfl rfl (fun _ => implFront_of_tidy h.typeTidy)
      (fun _ => reads_target h.typeTidy (by omega)) (isKeyword_of_accessors h.accessors)
  rw [List.append_nil] at hitem
  have hitems : ReadsMany (fun ts => !ts.isEmpty) (level (n + 6)).item (t.block as).placed
      [_] [] := .cons rfl hitem (Nat.succ_pos _) (.nil rfl)
  refine ⟨t.block as, hblock, read_file_of_level (n := n + 6) (by omega) (Reads.readAll ?_)⟩
  exact reads_items rfl hitems

/-- Whether an entry is such an entry, as a test. -/
def isPlain (known : Values) (e : TypeEntry) : Bool :=
  e.readType.toOption.any (·.isTidyTarget known) && e.readVisibility.isOk &&
    (readPath e.runtime).toOption.any
      (fun r => (r.getD (.ofName "region_field")).isTidyRuntime known) &&
    (DateField.accessors e.fields).isOk

theorem isPlain_iff : e.isPlain known = true ↔ ∃ p v r as, e.Plain known p v r as := by
  simp only [isPlain, Bool.and_eq_true, Option.any_eq_true, toOption_eq_some_iff]
  constructor
  · rintro ⟨⟨⟨⟨p, hp, htarget⟩, hv⟩, q, hq, hruntime⟩, has⟩
    obtain ⟨v, hv⟩ := exists_of_isOk hv
    obtain ⟨as, has⟩ := exists_of_isOk has
    refine ⟨p, v, q.getD (.ofName "region_field"), as, ⟨hp, hv, ?_, has⟩, htarget, hruntime⟩
    cases q with
    | none => exact .inl ⟨hq, rfl⟩
    | some r => exact .inr hq
  · rintro ⟨p, v, r, as, ⟨hp, hv, hr, has⟩, htarget, hruntime⟩
    rw [hv, has]
    refine ⟨⟨⟨⟨p, hp, htarget⟩, rfl⟩, ?_⟩, rfl⟩
    rcases hr with ⟨hq, rfl⟩ | hq
    · exact ⟨none, hq, hruntime⟩
    · exact ⟨some r, hq, hruntime⟩

end TypeEntry

namespace Schema

variable {known : Values}

/-- Each entry stands for a block, and the blocks do not disturb each other. -/
theorem read_blocksOf {es : List TypeEntry}
    (h : ∀ e ∈ es, ∃ p v r as, e.Plain known p v r as) : ∃ ts is, blocksOf es = .ok ts ∧
      read file ts.placed = .ok ([], is) ∧ List.Forall₂ TypeEntry.StandsFor es is := by
  induction es with
  | nil => exact ⟨[], [], rfl, rfl, .nil⟩
  | cons e es ih =>
      obtain ⟨us, is, hus, hreads, his⟩ := ih fun e he => h e (List.mem_cons_of_mem _ he)
      obtain ⟨p, v, r, as, he⟩ := h e List.mem_cons_self
      obtain ⟨ts, hts, hread⟩ := he.read_block
      obtain ⟨t, as', rfl⟩ := TypeEntry.block_cases hts
      have hneutral : Neutral (t.block as').placed := t.neutral_block as'
      have hneutral' : Neutral us.placed := (blocksOf_shape hus).1
      refine ⟨_, _ :: is, blocksOf_cons_iff.mpr ⟨_, _, hts, hus, rfl⟩, ?_,
        .cons ⟨p, v, r, as, he.toGives, rfl⟩ his⟩
      rw [placed_append]
      exact (read_file_append (.inr (.inr (t.isShut_block as')))).mpr
        ⟨rfl, _, is, rfl, hread, hreads⟩

theorem readBlocks_of_plain {s : Schema} (h : ∀ e ∈ s.active, ∃ p v r as, e.Plain known p v r as) :
    ∃ ts items, s.blocks = .ok ts ∧ readBlocks ts = .ok ([], items) ∧
      List.Forall₂ TypeEntry.StandsFor s.active items := by
  obtain ⟨ts, items, hts, hread, hitems⟩ := read_blocksOf h
  exact ⟨ts, items, hts, readBlocks_ok_iff.mpr hread, hitems⟩

/-- A type with one field, for the runs below. -/
def single (type : String) (runtime : Option String) : TypeEntry :=
  ⟨type, none, runtime, [⟨"x", false, .local⟩]⟩

/-- A type without arguments and one with, and a runtime of each kind. -/
def applied : Schema := [single "Log" none, single "Log<[u8; 2 * 8]>" (some "a::<b>")]

theorem plain_applied (e : TypeEntry) (he : e ∈ active applied) :
    ∃ p v r as, e.Plain .arithmetic p v r as :=
  have hall : (active applied).all (TypeEntry.isPlain .arithmetic) = true := by decide +kernel
  TypeEntry.isPlain_iff.mp (List.all_eq_true.mp hall e he)

/-- Where all paths are read as they are written the file holds a block for each type that has
fields, in order. -/
theorem parsed_stands (s : Schema) (h : ∀ e ∈ s.active, ∃ p v r as, e.Plain known p v r as) :
    ∃ items, s.parsed = .ok ([], items) ∧
      List.Forall₂ TypeEntry.StandsFor s.active items := by
  obtain ⟨ts, items, hts, hread, hitems⟩ := readBlocks_of_plain h
  exact ⟨items, by simp only [parsed, hts, hread, bind, Except.bind], hitems⟩

theorem parsed_stands_log : ∃ items, parsed applied = .ok ([], items) ∧
    List.Forall₂ TypeEntry.StandsFor (active applied) items :=
  parsed_stands applied plain_applied

/-- A type seen through another is read back as parameters of the block and a type of its own. -/
theorem parsed_projected : (single "<T>::A" none).readType.isOk = true ∧
    (Schema.parsed [single "<T>::A" none]).toOption.any (fun f => match f.2 with
      | [.impl _ (.over [.type _ "T" _ _ _] false) (.path (.plain ⟨true, [.plain "A"]⟩)) ..] => true
      | _ => false) = true := by
  decide +kernel

theorem render_ok_of_plain (s : Schema) (h : ∀ e ∈ s.active, ∃ p v r as, e.Plain known p v r as) :
    ∃ text, s.render = .ok text := by
  obtain ⟨ts, items, hts, hread, -⟩ := readBlocks_of_plain h
  refine ⟨header ++ "\n" ++ Layout.render (Layout.file [] items), ?_⟩
  simp only [render, parsed, hts, hread, bind, Except.bind, pure, Except.pure]

theorem render_ok_of_plain_log : ∃ text, render applied = .ok text :=
  render_ok_of_plain applied plain_applied

/-- Arguments at the end of the path of a runtime are fine in a type, and cannot be called. -/
theorem render_applied_runtime : (single "Log" (some "a<b>")).block.isOk = true ∧
      Schema.render [single "Log" (some "a<b>")] =
        .error (.unreadable "comparison operators cannot be chained") := by
  decide +kernel

end Schema

end ZonedAccessors
