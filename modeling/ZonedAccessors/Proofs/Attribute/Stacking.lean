import ZonedAccessors.Proofs.Attribute.Acceptance
import ZonedAccessors.Proofs.Grammar.Operators
import ZonedAccessors.Proofs.Grammar.Structs
import Mathlib.Data.List.Perm.Basic

/-!
Attributes one above the other: what each of them adds to a struct does not depend on the others.
-/

namespace ZonedAccessors.Syntax

variable {known : Values}

theorem Field.isTidy_unplaced (f : Field) : f.unplaced.isTidy known = f.isTidy known := rfl

theorem Struct.isTidy_unplaced {s : Struct} (h : s.isTidy known = true) :
    s.unplaced.isTidy known = true := by
  simp only [Struct.isTidy, Bool.and_eq_true] at h ⊢
  refine ⟨h.1, ?_⟩
  unfold Struct.unplaced
  cases hshape : s.shape with
  | named fields trailing =>
      have htidy := h.2
      simp only [hshape, Shape.isTidy, Bool.and_eq_true] at htidy
      simpa [Shape.unplaced, Shape.isTidy, endsWell, Function.comp_def, Field.isTidy_unplaced]
        using htidy
  | positional | unit =>
      rw [hshape] at h
      cases h.2

theorem Struct.toItem_unplaced (s : Struct) : s.unplaced.toItem = s.toItem := by
  have hfields (fields : List Field) :
      (fields.map Field.unplaced).map Field.toItem = fields.map Field.toItem := by
    rw [List.map_map]
    rfl
  cases hshape : s.shape <;>
    simp [Struct.toItem, Struct.unplaced, hshape, Shape.unplaced, Shape.fields, Shape.style,
      Shape.trailing, hfields, -List.map_map]

theorem Struct.tokens_unplaced (s : Struct) : s.unplaced.tokens = s.tokens := by
  rw [Struct.tokens, Struct.tokens, Struct.toItem_unplaced]

end ZonedAccessors.Syntax

namespace ZonedAccessors.Attribute

open Token Grammar Syntax

variable {s : Struct} {item other : Source} {known : Values}

/-- What can be seen of an expansion: its tokens, or what is wrong. -/
def outcome (r : Except Refusal Expansion) : Except String Tokens :=
  (r.map Expansion.tokens).mapError Refusal.message

/-- The blocks of attributes that are expanded one after the other, each on the struct that the one
before it has left. -/
def expandStack : List Source → Source → Except Refusal (List Tokens)
  | [], _ => .ok []
  | options :: stack, item => do
      let e ← expand options item
      let blocks ← expandStack stack e.struct.tokens.placed
      return e.block :: blocks

theorem readStruct_tokens (h : s.isTidy known = true) :
    readStruct s.tokens.placed = .ok s.unplaced := by
  rw [readStruct, read_declared_tokens h]

theorem findField_unplaced (name : String) (fields : List Syntax.Field) :
    findField name (fields.map Field.unplaced) = (findField name fields).map Field.unplaced := by
  rw [findField, List.find?_map]
  rfl

theorem checkField_unplaced (fields : List Syntax.Field) (a : Accessor) (blame : Span)
    (name : String) :
    (checkField s.unplaced (fields.map Field.unplaced) a blame name).mapError Refusal.message =
      (checkField s fields a blame name).mapError Refusal.message := by
  unfold checkField
  rw [findField_unplaced]
  cases findField name fields with
  | none => rfl
  | some f => cases hn : a.nullable <;> cases ho : isOptional f.type <;>
      simp [Field.unplaced, ho, refuseItem, Except.mapError, Refusal.message]

theorem mapError_bind {ε δ α β : Type} (f : ε → δ) (x : Except ε α) (k : α → Except ε β) :
    (x >>= k).mapError f = x.mapError f >>= fun a => (k a).mapError f := by
  cases x <;> rfl

theorem check_of_shape {fields : List Syntax.Field} {trailing : Bool} {a : Accessor} {blame : Span}
    (h : s.shape = .named fields trailing) : check s a blame =
      checkField s fields a blame a.utcField >>= fun _ => checkField s fields a blame a.tzField := by
  rw [check, Struct.fields, h]
  rfl

/-- Only the places in a struct change what is said of it, and no message shows a place. -/
theorem check_unplaced (s : Struct) (a : Accessor) (blame : Span) :
    (check s.unplaced a blame).mapError Refusal.message =
      (check s a blame).mapError Refusal.message := by
  cases hshape : s.shape with
  | named fields trailing =>
      have hunplaced : s.unplaced.shape = .named (fields.map Field.unplaced) trailing := by
        rw [Struct.unplaced, hshape]
        rfl
      rw [check_of_shape hunplaced, check_of_shape hshape]
      simp only [mapError_bind, checkField_unplaced]
  | positional | unit =>
      simp only [check, Struct.fields, Struct.unplaced, hshape, Shape.unplaced]
      rfl

theorem expand_of_readStruct (h : readStruct item = .ok s) (options : Source) :
    expand options item = do
      let o ← Options.read options
      let f ← o.field
      let a ← match f.accessor with
        | .ok a => .ok a
        | .error e => refuseAt o.name.place (.declaration e)
      check s a o.name.place
      return ⟨s, .ofStruct s o.runtime, a⟩ := by
  simp only [expand, h]
  rfl

theorem ofStruct_unplaced (s : Struct) (runtime : Option Syntax.Path) :
    Target.ofStruct s.unplaced runtime = Target.ofStruct s runtime := rfl

/-- Reading a struct again moves its parts, and nothing more can be told from what follows. -/
theorem expand_unplaced (h : readStruct item = .ok s) (h' : readStruct other = .ok s.unplaced)
    (options : Source) : (expand options other).mapError Refusal.message =
      ((expand options item).map fun e => { e with struct := s.unplaced }).mapError
        Refusal.message := by
  rw [expand_of_readStruct h, expand_of_readStruct h']
  cases ho : Options.read options with
  | error => rfl
  | ok o =>
  cases hf : o.field with
  | error => simp only [bind, Except.bind, Except.map, hf]
  | ok f =>
  cases ha : f.accessor with
  | error e => simp only [bind, Except.bind, Except.map, hf, ha, refuseAt]
  | ok a =>
  have hcheck := check_unplaced s a o.name.place
  cases hc : check s a o.name.place <;> cases hc' : check s.unplaced a o.name.place <;>
    simp_all [bind, Except.bind, Except.map, Except.mapError, pure, Except.pure, ofStruct_unplaced]

theorem struct_of_expand {options : Source} {e : Expansion} (h : expand options item = .ok e) :
    readStruct item = .ok e.struct := by
  obtain ⟨o, s, a, -, hs, -, rfl⟩ := expand_ok_iff.mp h
  exact hs

theorem outcome_unplaced (h : readStruct item = .ok s) (h' : readStruct other = .ok s.unplaced)
    (options : Source) : outcome (expand options other) = outcome (expand options item) := by
  have hsame := expand_unplaced h h' options
  cases he : expand options item with
  | error r =>
      cases he' : expand options other <;>
        simp_all [outcome, Except.map, Except.mapError]
  | ok e =>
      have hstruct : e.struct = s := Except.ok.inj ((struct_of_expand he).symm.trans h)
      cases he' : expand options other <;>
        simp_all [outcome, Except.map, Except.mapError, Expansion.tokens, Expansion.block,
          Struct.tokens_unplaced]

/-- The block that an attribute adds to an item. -/
def Adds (item options : Source) (block : Tokens) : Prop :=
  ∃ e, expand options item = .ok e ∧ e.block = block

theorem adds_unplaced_iff (h : readStruct item = .ok s) (h' : readStruct other = .ok s.unplaced)
    {options : Source} {block : Tokens} : Adds other options block ↔ Adds item options block := by
  have hsame := expand_unplaced h h' options
  unfold Adds
  cases he : expand options item <;> cases he' : expand options other <;>
    simp_all [Except.map, Except.mapError, Expansion.block]

/-- A stack adds what each of its attributes adds to the struct alone. -/
theorem expandStack_ok_iff {stack : List Source} {blocks : List Tokens}
    (h : readStruct item = .ok s) (htidy : s.isTidy known = true) :
    expandStack stack item = .ok blocks ↔ List.Forall₂ (Adds item) stack blocks := by
  induction stack generalizing item s blocks with
  | nil => simp [expandStack, eq_comm]
  | cons options stack ih =>
      -- what is left is the same struct, so the rest adds to it what it adds to the item
      have hleft : readStruct s.tokens.placed = .ok s.unplaced := readStruct_tokens htidy
      have hsame : Adds s.tokens.placed = Adds item := by
        funext options block
        exact propext (adds_unplaced_iff h hleft)
      have hrest (rest : List Tokens) : expandStack stack s.tokens.placed = .ok rest ↔
          List.Forall₂ (Adds item) stack rest := by
        rw [ih hleft (Struct.isTidy_unplaced htidy), hsame]
      rw [List.forall₂_cons_left_iff]
      constructor
      · intro hstack
        obtain ⟨e, he, hstack⟩ := bind_ok_iff.mp hstack
        obtain ⟨rest, hr, hstack⟩ := bind_ok_iff.mp hstack
        cases hstack
        have hstruct : e.struct = s := Except.ok.inj ((struct_of_expand he).symm.trans h)
        rw [hstruct] at hr
        exact ⟨e.block, rest, ⟨e, he, rfl⟩, (hrest rest).mp hr, rfl⟩
      · rintro ⟨_, rest, ⟨e, he, rfl⟩, hr, rfl⟩
        have hstruct : e.struct = s := Except.ok.inj ((struct_of_expand he).symm.trans h)
        refine bind_ok_iff.mpr ⟨e, he, bind_ok_iff.mpr ⟨rest, ?_, rfl⟩⟩
        rw [hstruct]
        exact (hrest rest).mpr hr

/-- Attributes on a tidy struct do not see each other: an expansion leaves a struct that is read as
the one it was given and on which every other attribute does what it did before, so that a stack
adds the same blocks in every order. -/
theorem expand_independent (hread : readStruct item = .ok s) (htidy : s.isTidy known = true) :
    (∀ options e, expand options item = .ok e → e.struct = s ∧
      readStruct e.struct.tokens.placed = .ok s.unplaced ∧
      ∀ others, outcome (expand others e.struct.tokens.placed) = outcome (expand others item)) ∧
    ∀ stack reordered blocks, stack.Perm reordered → expandStack stack item = .ok blocks →
      ∃ blocks', expandStack reordered item = .ok blocks' ∧ blocks.Perm blocks' := by
  constructor
  · intro options e he
    have hstruct : e.struct = s := Except.ok.inj ((struct_of_expand he).symm.trans hread)
    rw [hstruct]
    have hleft : readStruct s.tokens.placed = .ok s.unplaced := readStruct_tokens htidy
    exact ⟨rfl, hleft, outcome_unplaced hread hleft⟩
  · intro stack reordered blocks hperm hstack
    have hblocks : List.Forall₂ (Adds item) stack blocks := (expandStack_ok_iff hread htidy).mp hstack
    obtain ⟨blocks', hblocks', hperm'⟩ := List.perm_comp_forall₂ hperm.symm hblocks
    exact ⟨blocks', (expandStack_ok_iff hread htidy).mpr hblocks', hperm'.symm⟩

def written (text : String) : Source := (Token.ofText text).getD []

theorem expand_independent_log :
    let item := written "pub struct Log<'a, T = i64, const N: usize = 4> where T: From<u8> \x7b
      #[skip] start_utc: Option<T>, start_tz: Option<i32>, end_utc: T, end_tz: i32,
      tag: &'a [u8; 4 * (N + 1)], rest: Tail<\x7b N * 2 \x7d> \x7d"
    let start := written "\"start\", nullable = true"
    let finish := written "\"end\", fallback = \"error\""
    ∃ e blocks blocks', expand start item = .ok e ∧
      outcome (expand finish e.struct.tokens.placed) = outcome (expand finish item) ∧
      expandStack [start, finish] item = .ok blocks ∧
      expandStack [finish, start] item = .ok blocks' ∧ blocks.Perm blocks' := by
  intro item start finish
  -- one evaluation, so that the text is read once
  have hruns : ((readStruct item).toOption.any (Struct.isTidy .arithmetic) &&
      (expand start item).isOk && (expand finish item).isOk) = true := by
    decide +kernel
  simp only [Bool.and_eq_true] at hruns
  obtain ⟨⟨htidy, hstart⟩, hfinish⟩ := hruns
  obtain ⟨s, hs, htidy⟩ := (Option.any_eq_true ..).mp htidy
  rw [toOption_eq_some_iff] at hs
  obtain ⟨e, he⟩ := exists_of_isOk hstart
  obtain ⟨e', he'⟩ := exists_of_isOk hfinish
  have hstack : expandStack [start, finish] item = .ok [e.block, e'.block] :=
    (expandStack_ok_iff hs htidy).mpr (.cons ⟨e, he, rfl⟩ (.cons ⟨e', he', rfl⟩ .nil))
  obtain ⟨hone, horder⟩ := expand_independent hs htidy
  obtain ⟨blocks', hblocks', hperm⟩ := horder _ [finish, start] _ (.swap _ _ _) hstack
  exact ⟨e, _, blocks', he, (hone start e he).2.2 finish, hstack, hblocks', hperm⟩

def saysOnly (message : String) : Except String Tokens → Bool
  | .error m => m == message
  | .ok _ => false

theorem saysOnly_iff {message : String} {r : Except String Tokens} :
    saysOnly message r = true ↔ r = .error message := by
  cases r <;> simp [saysOnly]

/-- Arguments are printed with lifetimes in front; an optional field whose type stood in front of
one is then optional no more. -/
theorem outcome_lifetimeBehind :
    let item := written
      "struct L \x7b x_utc: Option<T, 'a>, x_tz: Option<i32>, y_utc: T, y_tz: i32 \x7d"
    let options := written "\"x\", nullable = true"
    (expand options item).isOk = true ∧ ∃ e, expand (written "\"y\"") item = .ok e ∧
      outcome (expand options e.struct.tokens.placed) =
        .error "`x_utc` must be an `Option` because `x` is nullable" := by
  intro item options
  have hruns : ((expand options item).isOk && (expand (written "\"y\"") item).toOption.any fun e =>
      saysOnly "`x_utc` must be an `Option` because `x` is nullable"
        (outcome (expand options e.struct.tokens.placed))) = true := by
    decide +kernel
  rw [Bool.and_eq_true] at hruns
  obtain ⟨e, he, hmessage⟩ := (Option.any_eq_true ..).mp hruns.2
  exact ⟨hruns.1, e, toOption_eq_some_iff.mp he, saysOnly_iff.mp hmessage⟩

end ZonedAccessors.Attribute
