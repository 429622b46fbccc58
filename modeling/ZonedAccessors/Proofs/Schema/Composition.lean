import Mathlib.Data.List.Forall2
import ZonedAccessors.Proofs.Grammar.Standing
import ZonedAccessors.Schema.Render

/-!
The text of a schema is put together from the texts of its types, one below the other.
-/

namespace ZonedAccessors

open Token Grammar Syntax

/-! Blocks begin with their word and end in braces. -/

theorem Target.neutral_block (t : Target) (as : List Accessor) : Neutral (t.block as).placed :=
  ⟨.inr ⟨_, _, rfl⟩⟩

theorem Target.isShut_block (t : Target) (as : List Accessor) : IsShut (t.block as).placed := by
  unfold Target.block
  rw [placed_append]
  exact ⟨t.header.placed, _, _, rfl⟩

theorem TypeEntry.block_cases {e : TypeEntry} {ts : Tokens} (h : e.block = .ok ts) :
    ∃ (t : Target) (as : List Accessor), ts = t.block as := by
  obtain ⟨t, -, h⟩ := bind_ok_iff.mp h
  obtain ⟨as, -, h⟩ := bind_ok_iff.mp h
  cases h
  exact ⟨t, as, rfl⟩

namespace Schema

theorem blocksOf_cons_iff {e : TypeEntry} {es : List TypeEntry} {ts : Tokens} :
    blocksOf (e :: es) = .ok ts ↔
      ∃ b bs, e.block = .ok b ∧ blocksOf es = .ok bs ∧ ts = b ++ bs := by
  rw [blocksOf, bind_ok_iff]
  refine exists_congr fun b => ?_
  rw [bind_ok_iff]
  constructor
  · rintro ⟨hb, bs, hbs, h⟩
    cases h
    exact ⟨bs, hb, hbs, rfl⟩
  · rintro ⟨bs, hb, hbs, rfl⟩
    exact ⟨hb, bs, hbs, rfl⟩

theorem blocksOf_shape {es : List TypeEntry} {ts : Tokens} (h : blocksOf es = .ok ts) :
    Neutral ts.placed ∧ (ts.placed = [] ∨ IsShut ts.placed) := by
  induction es generalizing ts with
  | nil =>
      cases h
      exact ⟨inferInstanceAs (Neutral []), .inl rfl⟩
  | cons e es ih =>
      obtain ⟨b, bs, hb, hbs, rfl⟩ := blocksOf_cons_iff.mp h
      obtain ⟨t, as, rfl⟩ := TypeEntry.block_cases hb
      obtain ⟨hneutral, hshut⟩ := ih hbs
      have hblock : Neutral (t.block as).placed := t.neutral_block as
      rw [placed_append]
      refine ⟨inferInstance, .inr ?_⟩
      rcases hshut with hnil | ⟨front, body, place, hfront⟩
      · rw [hnil, List.append_nil]
        exact t.isShut_block as
      · rw [hfront]
        exact ⟨(t.block as).placed ++ front, body, place, (List.append_assoc ..).symm⟩

theorem blocksOf_append {es fs : List TypeEntry} {ts : Tokens} :
    blocksOf (es ++ fs) = .ok ts ↔
      ∃ a b, blocksOf es = .ok a ∧ blocksOf fs = .ok b ∧ ts = a ++ b := by
  induction es generalizing ts with
  | nil => simp [blocksOf]
  | cons e es ih =>
      rw [List.cons_append]
      simp only [blocksOf_cons_iff, ih]
      constructor
      · rintro ⟨b, _, hb, ⟨bs, cs, hbs, hcs, rfl⟩, rfl⟩
        exact ⟨b ++ bs, cs, ⟨b, bs, hb, hbs, rfl⟩, hcs, (List.append_assoc ..).symm⟩
      · rintro ⟨_, cs, ⟨b, bs, hb, hbs, rfl⟩, hcs, rfl⟩
        exact ⟨b, bs ++ cs, hb, ⟨bs, cs, hbs, hcs, rfl⟩, List.append_assoc ..⟩

/-! What is read back. -/

theorem readBlocks_ok_iff {ts : Tokens} {found : Attributes × List Item} :
    readBlocks ts = .ok found ↔ read file ts.placed = .ok found := by
  unfold readBlocks
  cases read file ts.placed with
  | error f => simp
  | ok found => simp

variable {s t : Schema} {source body : String} {is : List Item}

/-- The tokens of the blocks are read back as these items. -/
def Holds (s : Schema) (is : List Item) : Prop :=
  ∃ ts, s.blocks = .ok ts ∧ read file ts.placed = .ok ([], is)

theorem parsed_ok_iff {inner : Attributes} :
    s.parsed = .ok (inner, is) ↔ inner = [] ∧ s.Holds is := by
  rw [parsed, bind_ok_iff]
  simp only [readBlocks_ok_iff]
  constructor
  · rintro ⟨ts, hts, hread⟩
    have hneutral := (blocksOf_shape hts).1
    obtain ⟨rfl, -⟩ := (readAll_file_iff (by omega)).mp hread
    exact ⟨rfl, ts, hts, hread⟩
  · rintro ⟨rfl, h⟩
    exact h

theorem Holds.standing (h : s.Holds is) : ∀ i ∈ is, Layout.Standing i := by
  obtain ⟨ts, hts, hread⟩ := h
  have hneutral := (blocksOf_shape hts).1
  exact standing_of_read_file hread

theorem holds_append : Holds (s ++ t) is ↔ ∃ xs ys, is = xs ++ ys ∧ s.Holds xs ∧ t.Holds ys := by
  unfold Holds blocks
  rw [active_append]
  constructor
  · rintro ⟨ts, hts, hread⟩
    obtain ⟨a, b, ha, hb, rfl⟩ := blocksOf_append.mp hts
    obtain ⟨hneutral, hshut⟩ := blocksOf_shape ha
    have hneutral' := (blocksOf_shape hb).1
    rw [placed_append] at hread
    obtain ⟨-, xs, ys, rfl, hxs, hys⟩ := (read_file_append (.inr hshut)).mp hread
    exact ⟨xs, ys, rfl, ⟨a, ha, hxs⟩, b, hb, hys⟩
  · rintro ⟨xs, ys, rfl, ⟨a, ha, hxs⟩, b, hb, hys⟩
    obtain ⟨hneutral, hshut⟩ := blocksOf_shape ha
    have hneutral' := (blocksOf_shape hb).1
    refine ⟨a ++ b, blocksOf_append.mpr ⟨a, b, ha, hb, rfl⟩, ?_⟩
    rw [placed_append]
    exact (read_file_append (.inr hshut)).mpr ⟨rfl, xs, ys, rfl, hxs, hys⟩

/-! The text below the header. -/

def Renders (s : Schema) (body : String) : Prop := s.render = .ok (header ++ "\n" ++ body)

/-- The texts of items that stand on lines of their own. -/
def linesOf (is : List Item) : String := String.join (is.map fun i => Layout.lineText (Layout.item i))

theorem render_eq_ok_iff : s.render = .ok source ↔
    ∃ is, s.Holds is ∧ source = header ++ "\n" ++ linesOf is := by
  rw [render, bind_ok_iff]
  constructor
  · rintro ⟨⟨inner, is⟩, hparsed, h⟩
    cases h
    obtain ⟨rfl, his⟩ := parsed_ok_iff.mp hparsed
    exact ⟨is, his, by rw [Layout.render_file his.standing, linesOf]⟩
  · rintro ⟨is, his, rfl⟩
    refine ⟨([], is), parsed_ok_iff.mpr ⟨rfl, his⟩, ?_⟩
    rw [linesOf, ← Layout.render_file his.standing]
    rfl

theorem renders_iff : s.Renders body ↔ ∃ is, s.Holds is ∧ body = linesOf is := by
  unfold Renders
  rw [render_eq_ok_iff]
  simp only [String.append_right_inj]

theorem render_eq_ok_iff_renders : s.render = .ok source ↔
    ∃ body, s.Renders body ∧ source = header ++ "\n" ++ body := by
  simp only [render_eq_ok_iff, renders_iff]
  constructor
  · rintro ⟨is, his, rfl⟩
    exact ⟨linesOf is, ⟨is, his, rfl⟩, rfl⟩
  · rintro ⟨_, ⟨is, his, rfl⟩, rfl⟩
    exact ⟨is, his, rfl⟩

theorem linesOf_append (xs ys : List Item) : linesOf (xs ++ ys) = linesOf xs ++ linesOf ys := by
  rw [linesOf, List.map_append, String.join_append]
  rfl

theorem renders_append : Renders (s ++ t) body ↔
    ∃ a b, s.Renders a ∧ t.Renders b ∧ body = a ++ b := by
  simp only [renders_iff, holds_append]
  constructor
  · rintro ⟨_, ⟨xs, ys, rfl, hxs, hys⟩, rfl⟩
    exact ⟨linesOf xs, linesOf ys, ⟨xs, hxs, rfl⟩, ⟨ys, hys, rfl⟩, linesOf_append xs ys⟩
  · rintro ⟨_, _, ⟨xs, hxs, rfl⟩, ⟨ys, hys, rfl⟩, rfl⟩
    exact ⟨xs ++ ys, ⟨xs, ys, rfl, hxs, hys⟩, (linesOf_append xs ys).symm⟩

theorem renders_nil : Renders [] body ↔ body = "" := by
  have hrender : Schema.render [] = .ok (header ++ "\n" ++ "") := rfl
  rw [Renders, hrender, Except.ok.injEq, String.append_right_inj]
  exact eq_comm

/-- The text of a schema is that of its types, each as if it stood alone. -/
theorem renders_iff_each : s.Renders body ↔
    ∃ texts, List.Forall₂ (fun e text => Renders [e] text) s texts ∧ body = String.join texts := by
  induction s generalizing body with
  | nil => simp [renders_nil]
  | cons e s ih =>
      rw [show e :: s = [e] ++ s from rfl, renders_append]
      simp only [ih]
      constructor
      · rintro ⟨a, b, ha, ⟨texts, htexts, rfl⟩, rfl⟩
        exact ⟨a :: texts, .cons ha htexts, (String.join_cons ..).symm⟩
      · rintro ⟨texts, htexts, rfl⟩
        cases htexts with
        | @cons _ a _ texts ha htexts =>
            exact ⟨a, String.join texts, ha, ⟨texts, htexts, rfl⟩, String.join_cons ..⟩

/-- A type without fields is passed over. -/
theorem render_insert_noFields (name : String) (visibility runtime : Option String) :
    render (s ++ ⟨name, visibility, runtime, []⟩ :: t) = render (s ++ t) := by
  have hactive : Schema.active (s ++ ⟨name, visibility, runtime, []⟩ :: t) =
      Schema.active (s ++ t) := by
    simp [active]
  rw [render, render, parsed, parsed, blocks, blocks, hactive]

/-- Rendering goes type by type: a schema in two parts has a source if both have one, and then it is
the header with the two bodies below it; the body of a schema joins the bodies of its types, whatever
stands beside them; a type without fields adds nothing, even if nothing in it is valid. -/
theorem render_compositional (s t : Schema) :
    ((render (s ++ t)).isOk = (s.render.isOk && t.render.isOk)) ∧
      (∀ source, render (s ++ t) = .ok source ↔
        ∃ a b, s.Renders a ∧ t.Renders b ∧ source = header ++ "\n" ++ a ++ b) ∧
      (∀ source, s.render = .ok source ↔
        ∃ texts, List.Forall₂ (fun e text => Renders [e] text) s texts ∧
          source = header ++ "\n" ++ String.join texts) ∧
      ∀ name visibility runtime,
        render (s ++ ⟨name, visibility, runtime, []⟩ :: t) = render (s ++ t) := by
  have hsource (source : String) : render (s ++ t) = .ok source ↔
      ∃ a b, s.Renders a ∧ t.Renders b ∧ source = header ++ "\n" ++ a ++ b := by
    rw [render_eq_ok_iff_renders]
    simp only [renders_append]
    constructor
    · rintro ⟨_, ⟨a, b, ha, hb, rfl⟩, rfl⟩
      exact ⟨a, b, ha, hb, (String.append_assoc ..).symm⟩
    · rintro ⟨a, b, ha, hb, rfl⟩
      exact ⟨a ++ b, ⟨a, b, ha, hb, rfl⟩, String.append_assoc ..⟩
  refine ⟨?_, hsource, fun source => ?_, render_insert_noFields⟩
  · rw [Bool.eq_iff_iff, Bool.and_eq_true]
    constructor
    · intro h
      obtain ⟨source, hok⟩ := exists_of_isOk h
      obtain ⟨a, b, ha, hb, -⟩ := (hsource source).mp hok
      rw [ha, hb]
      exact ⟨rfl, rfl⟩
    · rintro ⟨hs, ht⟩
      obtain ⟨x, hx⟩ := exists_of_isOk hs
      obtain ⟨y, hy⟩ := exists_of_isOk ht
      obtain ⟨a, ha, -⟩ := render_eq_ok_iff_renders.mp hx
      obtain ⟨b, hb, -⟩ := render_eq_ok_iff_renders.mp hy
      rw [(hsource _).mpr ⟨a, b, ha, hb, rfl⟩]
      rfl
  · rw [render_eq_ok_iff_renders]
    constructor
    · rintro ⟨body, hbody, rfl⟩
      obtain ⟨texts, htexts, rfl⟩ := renders_iff_each.mp hbody
      exact ⟨texts, htexts, rfl⟩
    · rintro ⟨texts, htexts, rfl⟩
      exact ⟨String.join texts, renders_iff_each.mpr ⟨texts, htexts, rfl⟩, rfl⟩

end Schema

end ZonedAccessors
