import ZonedAccessors.Layout.Print

/-!
Items laid out one below the other. Each ends its line, and what is below a line is drawn as if
nothing stood above it.
-/

namespace ZonedAccessors.Layout

open Token Syntax

variable {w : String} {p : Pen} {frame : Frame} {follow after : Nat} {d : Doc} {ds es : Docs}

/-! What is written stays, and does not count for what is drawn after it. -/

namespace Pen

/-- With a text above. -/
def below (w : String) (p : Pen) : Pen := { p with written := w ++ p.written }

theorem put_below (s : String) : (p.below w).put s = (p.put s).below w := by
  simp only [put, below, String.append_assoc]

theorem putChars_below (cs : List Char) : (p.below w).putChars cs = (p.putChars cs).below w := by
  unfold putChars
  split
  · rfl
  · exact put_below _

theorem newline_below (offset : Int) : (p.below w).newline offset = (p.newline offset).below w := by
  simp only [newline, below, String.append_assoc]

theorem breakLine_below (g : Gap) : (p.below w).breakLine g = (p.breakLine g).below w := by
  unfold breakLine
  rw [putChars_below, newline_below, putChars_below]

theorem leave_below (g : Gap) : (p.below w).leave g = (p.leave g).below w := by
  unfold leave
  split
  · rfl
  · simp only [below, String.append_assoc]

theorem space_below (g : Gap) : (p.below w).space frame follow g = (p.space frame follow g).below w := by
  unfold space
  rw [leave_below, breakLine_below, show (p.below w).room = p.room from rfl]
  exact (apply_ite (below w) _ _ _).symm

theorem putChars_indent (cs : List Char) : (p.putChars cs).indent = p.indent := by
  unfold putChars
  split <;> rfl

theorem leave_indent (g : Gap) : (p.leave g).indent = p.indent := by
  unfold leave
  split <;> rfl

theorem breakLine_indent (g : Gap) : (p.breakLine g).indent = p.indent := by
  unfold breakLine
  rw [putChars_indent, newline, putChars_indent]

theorem space_indent (g : Gap) : (p.space frame follow g).indent = p.indent := by
  have hindent (stays : Bool) : (if stays then p.leave g else p.breakLine g).indent = p.indent := by
    cases stays with
    | true => exact leave_indent g
    | false => exact breakLine_indent g
  exact hindent _

end Pen

mutual

theorem draw_below (d : Doc) (frame : Frame) (follow : Nat) (p : Pen) :
    d.draw frame follow (p.below w) = (d.draw frame follow p).below w := by
  cases d with
  | text s => exact Pen.put_below s
  | gap g => exact Pen.space_below g
  | strut => rfl
  | box consistent indent body =>
      simp only [Doc.draw, show (p.below w).room = p.room from rfl,
        show (p.below w).indent = p.indent from rfl]
      split
      · have hbody := drawAll_below body (.broken consistent) follow
          { p with indent := p.indent + indent }
        exact congrArg (fun q : Pen => { q with indent := p.indent }) hbody
      · exact drawAll_below body .flat follow p

theorem drawAll_below (ds : Docs) (frame : Frame) (after : Nat) (p : Pen) :
    drawAll frame after ds (p.below w) = (drawAll frame after ds p).below w := by
  cases ds with
  | nil => rfl
  | cons d ds =>
      rw [drawAll, draw_below d, drawAll_below ds, ← drawAll]

end

mutual

theorem draw_indent (d : Doc) (frame : Frame) (follow : Nat) (p : Pen) :
    (d.draw frame follow p).indent = p.indent := by
  cases d with
  | text s => rfl
  | gap g => exact Pen.space_indent g
  | strut => rfl
  | box consistent indent body =>
      rw [Doc.draw]
      split
      · rfl
      · exact drawAll_indent body .flat follow p

theorem drawAll_indent (ds : Docs) (frame : Frame) (after : Nat) (p : Pen) :
    (drawAll frame after ds p).indent = p.indent := by
  cases ds with
  | nil => rfl
  | cons d ds => rw [drawAll, drawAll_indent ds, draw_indent d]

end

theorem lead_append : lead after (ds ++ es) = lead (lead after es) ds := by
  induction ds with
  | nil => rfl
  | cons d ds ih =>
      cases d with
      | gap g => rfl
      | _ => simp only [List.cons_append, lead, ih]

theorem drawAll_append : drawAll frame after (ds ++ es) p =
    drawAll frame after es (drawAll frame (lead after es) ds p) := by
  induction ds generalizing p with
  | nil => rfl
  | cons d ds ih => rw [List.cons_append, drawAll, drawAll, lead_append, ih]

theorem widthAll_append : widthAll (ds ++ es) = widthAll ds + widthAll es := by
  induction ds with
  | nil => rw [List.nil_append, widthAll, Nat.zero_add]
  | cons d ds ih => rw [List.cons_append, widthAll, widthAll, ih, Nat.add_assoc]

/-! Lines. -/

/-- Something, and then a line break. -/
def EndsLine (ds : Docs) : Prop := ∃ d front, ds = d :: front ++ [hard]

/-- The text of what stands on lines of its own. -/
def lineText (ds : Docs) : String := (drawAll (.broken true) 0 ds Pen.start).written

theorem endsLine_iff : EndsLine ds ↔ ∃ front, front ≠ [] ∧ ds = front ++ [hard] := by
  constructor
  · rintro ⟨d, front, rfl⟩
    exact ⟨d :: front, List.cons_ne_nil _ _, rfl⟩
  · rintro ⟨front, hne, rfl⟩
    obtain ⟨d, front, rfl⟩ := List.exists_cons_of_ne_nil hne
    exact ⟨d, front, rfl⟩

theorem endsLine_of_ne_nil (h : ds ≠ []) : EndsLine (ds ++ [hard]) := endsLine_iff.mpr ⟨ds, h, rfl⟩

theorem EndsLine.behind (h : EndsLine es) : EndsLine (ds ++ es) := by
  obtain ⟨front, hne, rfl⟩ := endsLine_iff.mp h
  rw [← List.append_assoc]
  exact endsLine_of_ne_nil (List.append_ne_nil_of_right_ne_nil _ hne)

theorem EndsLine.widthAll (h : EndsLine ds) : endless ≤ widthAll ds := by
  obtain ⟨d, front, rfl⟩ := h
  rw [widthAll_append]
  exact Nat.le_add_left _ _

/-- Behind a line break the pen stands as at the beginning. -/
theorem draw_hard (follow : Nat) (hp : p.indent = 0) :
    hard.draw (.broken true) follow p = Pen.start.below (p.written ++ "\n") := by
  obtain ⟨written, room, indent, pending⟩ := p
  obtain rfl : indent = 0 := hp
  have hroom : max margin leastRoom = margin := by decide
  simp [hard, noGap, Doc.draw, Pen.space, Pen.breakLine, Pen.putChars, Pen.newline, Pen.below,
    Pen.start, hroom]

theorem EndsLine.drawAll_eq (h : EndsLine ds) :
    drawAll (.broken true) after ds Pen.start = Pen.start.below (lineText ds) := by
  obtain ⟨front, -, rfl⟩ := endsLine_iff.mp h
  have hline (after : Nat) : drawAll (.broken true) after (front ++ [hard]) Pen.start =
      Pen.start.below ((drawAll (.broken true) 0 front Pen.start).written ++ "\n") := by
    rw [drawAll_append]
    exact draw_hard after (drawAll_indent front _ _ _)
  rw [lineText, hline, hline]
  simp [Pen.below, Pen.start]

theorem EndsLine.lineText_append (h : EndsLine ds) : lineText (ds ++ es) = lineText ds ++ lineText es := by
  unfold lineText
  rw [drawAll_append, h.drawAll_eq, drawAll_below]
  rfl

/-- A box that a line break stands in is broken. -/
theorem EndsLine.render_box (h : EndsLine ds) : render (box 0 ds) = lineText ds := by
  have hwide := h.widthAll
  obtain ⟨d, front, rfl⟩ := h
  have hbox : box 0 (d :: front ++ [hard]) = [.box true 0 (d :: front ++ [hard])] := by
    have hsettled : settled (d :: front ++ [hard]) = d :: front ++ [hard] := by
      unfold settled
      rw [List.getLast?_concat]
      rfl
    unfold box enclosed
    split
    · rename_i g heq
      have := congrArg List.length heq
      simp at this
    · rw [hsettled]
  have hroom : Pen.start.room < Layout.widthAll (d :: front ++ [hard]) + (0 : Nat) := by
    have : Pen.start.room = 89 := rfl
    have : endless = 65535 := rfl
    omega
  rw [hbox, render, drawAll, drawAll, lead, Doc.draw, if_pos hroom]
  rfl

/-! Items. -/

/-- Whether there is any text. -/
def HasText (ds : Docs) : Prop := ∃ s, .text s ∈ ds

@[simp]
theorem hasText_cons (s : String) (ds : Docs) : HasText (.text s :: ds) := ⟨s, List.mem_cons_self⟩

@[simp]
theorem hasText_append : HasText (ds ++ es) ↔ HasText ds ∨ HasText es := by
  unfold HasText
  simp only [List.mem_append]
  exact exists_or

theorem box_ne_nil {indent : Int} (h : HasText ds) : box indent ds ≠ [] := by
  unfold box enclosed
  split
  · obtain ⟨s, hs⟩ := h
    simp at hs
  · exact List.cons_ne_nil _ _

theorem endsLine_box {indent : Int} (h : HasText ds) : EndsLine (box indent ds ++ [hard]) :=
  endsLine_of_ne_nil (box_ne_nil h)

theorem endsLine_declaration (head body : Docs) : EndsLine (declaration head body) :=
  EndsLine.behind ⟨.text "\x7d", [], rfl⟩

/-- Whether it stands on lines of its own wherever it is. -/
def Standing : Item → Prop
  | .field .. | .variant .. => False
  | .invocation call _ => ∃ d body place, call.body = .group d body place
  | .attributed _ i => Standing i
  | .verbatim ts => ts ≠ []
  | _ => True

theorem invocation_ne_nil {call : Invocation} {name : Option String} {ended : Bool}
    (h : ∃ d body place, call.body = .group d body place) : invocation call name ended ≠ [] := by
  obtain ⟨path, body⟩ := call
  obtain ⟨d, body, place, rfl⟩ := h
  unfold invocation
  split
  · simp [rules]
  · simp
  · rename_i hgroup heq _
    cases heq
    exact absurd rfl (hgroup d body place)

theorem trees_ne_nil {isMatcher tight : Bool} {b : Before} {ts : Tokens} (h : ts ≠ []) :
    trees isMatcher b tight ts ≠ [] := by
  obtain ⟨t, ts, rfl⟩ := List.exists_cons_of_ne_nil h
  have ht : tree isMatcher t ≠ [] := by
    cases t with
    | group d body place =>
        cases d with
        | brace => cases body <;> simp [tree, grouped]
        | _ => simp [tree, grouped]
    | _ => simp [tree]
  rw [trees]
  simp [ht]

theorem endsLine_item : ∀ i, Standing i → EndsLine (item i)
  | .constant .., _ => endsLine_box (by simp)
  | .static .., _ => endsLine_box (by simp)
  | .function _ _ _ _ _ _ _ _ _ none, _ => endsLine_box (by simp)
  | .function _ _ _ _ _ _ _ _ _ (some _), _ => endsLine_declaration _ _
  | .submodule .., _ => endsLine_box (by simp)
  | .enclosed .., _ => endsLine_declaration _ _
  | .foreign .., _ => endsLine_declaration _ _
  | .crate .., _ => EndsLine.behind ⟨.text ";", [], rfl⟩
  | .imports .., _ => EndsLine.behind ⟨.text ";", [], rfl⟩
  | .struct _ _ _ _ .named _ _, _ => endsLine_declaration _ _
  | .struct _ _ _ _ .positional _ _, _ => endsLine_box (by simp)
  | .struct _ _ _ _ .absent _ _, _ => endsLine_box (by simp)
  | .enum .., _ => endsLine_declaration _ _
  | .union .., _ => endsLine_declaration _ _
  | .trait .., _ => endsLine_declaration _ _
  | .traitAlias .., _ => endsLine_box (by simp)
  | .type _ _ _ _ _ _ true none _, _ => endsLine_box (by simp)
  | .type _ _ _ _ _ _ true (some _) _, _ => endsLine_box (by simp)
  | .type _ _ _ _ _ _ false _ _, _ => endsLine_box (by simp)
  | .impl .., _ => endsLine_declaration _ _
  | .implTrait .., _ => endsLine_declaration _ _
  | .invocation .., h => endsLine_of_ne_nil (invocation_ne_nil h)
  | .attributed as i, h => (endsLine_item i h).behind
  | .verbatim .., h => endsLine_of_ne_nil (trees_ne_nil h)

theorem lineText_items {is : List Item} (h : ∀ i ∈ is, Standing i) :
    lineText (items is) = String.join (is.map fun i => lineText (item i)) := by
  induction is with
  | nil => rfl
  | cons i is ih =>
      have hi : EndsLine (item i) := endsLine_item i (h i List.mem_cons_self)
      have his := ih fun j hj => h j (List.mem_cons_of_mem i hj)
      rw [show items (i :: is) = item i ++ items is from rfl, hi.lineText_append, his, List.map_cons,
        String.join_cons]

theorem endsLine_items {is : List Item} (h : ∀ i ∈ is, Standing i) (hne : is ≠ []) :
    EndsLine (items is) := by
  induction is with
  | nil => exact absurd rfl hne
  | cons i is ih =>
      have hi : EndsLine (item i) := endsLine_item i (h i List.mem_cons_self)
      change EndsLine (item i ++ items is)
      cases is with
      | nil => exact (List.append_nil (item i)).symm ▸ hi
      | cons j is =>
          exact (ih (fun k hk => h k (List.mem_cons_of_mem i hk)) (List.cons_ne_nil j is)).behind

/-- Items that stand on lines of their own are laid out one by one. -/
theorem render_file {is : List Item} (h : ∀ i ∈ is, Standing i) :
    render (file [] is) = String.join (is.map fun i => lineText (item i)) := by
  by_cases hne : is = []
  · rw [hne]
    rfl
  · rw [← lineText_items h]
    exact (endsLine_items h hne).render_box

end ZonedAccessors.Layout
