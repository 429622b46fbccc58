import Mathlib.Data.List.TakeWhile
import ZonedAccessors.Proofs.Files.Walk

/-!
A path taken apart from the back. Its directory and the name in it lead where the path leads, and
only a path that ends in no name cannot be taken apart.
-/

namespace ZonedAccessors

namespace FilePath

variable {cs ds name rest : List Char}

/-! Pieces. -/

theorem pieces_append (cs ds : List Char) : pieces (cs ++ '/' :: ds) = pieces cs ++ pieces ds := by
  induction cs with
  | nil => rfl
  | cons c cs ih =>
      simp only [List.cons_append, pieces, ih]
      split
      · rfl
      · obtain ⟨p, ps, hp⟩ := List.exists_cons_of_ne_nil (pieces_ne_nil cs)
        simp only [hp, List.cons_append]

theorem pieces_of_notMem (h : '/' ∉ cs) : pieces cs = [cs] := by
  induction cs with
  | nil => rfl
  | cons c cs ih =>
      rw [List.mem_cons, not_or] at h
      simp only [pieces, if_neg (Ne.symm h.1), ih h.2]

theorem component_eq_none_iff : component cs = none ↔ cs = [] ∨ cs = ['.'] := by
  unfold component
  split <;> simp_all

theorem component_of_ne (hnil : cs ≠ []) (hhere : cs ≠ ['.']) (hup : cs ≠ ['.', '.']) :
    component cs = some (.name (String.ofList cs)) := by
  unfold component
  split
  · exact absurd rfl hnil
  · exact absurd rfl hhere
  · exact absurd rfl hup
  · rfl

/-- What the pieces lead through. -/
def route (cs : List Char) : List Component := (pieces cs).filterMap component

theorem route_append (cs ds : List Char) : route (cs ++ '/' :: ds) = route cs ++ route ds := by
  rw [route, pieces_append, List.filterMap_append, ← route, ← route]

theorem route_of_notMem (h : '/' ∉ cs) : route cs = (component cs).toList := by
  rw [route, pieces_of_notMem h, List.filterMap_cons]
  cases component cs <;> rfl

/-! The start. -/

theorem starting_eq_nil (hhere : cs ≠ ['.']) (hslash : ∀ rest, cs ≠ '.' :: '/' :: rest) :
    starting cs = [] := by
  unfold starting
  split
  · rename_i more hpieces
    by_cases hmem : '/' ∈ cs
    · obtain ⟨piece, rest, rfl, hpiece⟩ := List.eq_append_cons_of_mem hmem
      rw [pieces_append, pieces_of_notMem hpiece] at hpieces
      obtain ⟨rfl, -⟩ := List.cons_eq_cons.mp hpieces
      exact absurd rfl (hslash rest)
    · rw [pieces_of_notMem hmem] at hpieces
      exact absurd (List.cons_eq_cons.mp hpieces).1 hhere
  · rfl

theorem componentsOf_lead (cs : List Char) :
    componentsOf cs = componentsOf (lead cs).1 ++ route (lead cs).2 := by
  fun_cases lead cs with
  | case1 | case2 | case3 => rfl
  | case4 cs hroot hhere hslash =>
      unfold componentsOf
      split
      · exact absurd rfl (hroot _)
      · rw [starting_eq_nil hhere hslash]
        rfl

/-- A part of what follows the start does not change it. -/
theorem lead_of_prefix (h : ds <+: (lead cs).2) (hhere : ds ≠ ['.']) :
    lead ((lead cs).1 ++ ds) = ((lead cs).1, ds) := by
  revert h
  fun_cases lead cs with
  | case1 cs => exact fun _ => rfl
  | case2 =>
      intro h
      rw [List.prefix_nil.mp h]
      rfl
  | case3 cs =>
      intro h
      rcases List.prefix_cons_iff.mp h with rfl | ⟨rest, rfl, -⟩
      · rfl
      · rfl
  | case4 cs hroot _ hslash =>
      -- only a lone dot could be a start of the part and not of the whole
      rintro ⟨more, rfl⟩
      rw [List.nil_append]
      unfold lead
      split
      · exact absurd rfl (hroot _)
      · exact absurd rfl hhere
      · exact absurd rfl (hslash _)
      · rfl

theorem route_ne_nil (hroot : ∀ rest, cs ≠ '/' :: rest) (hnil : cs ≠ []) (hhere : cs ≠ ['.'])
    (hslash : ∀ rest, cs ≠ '.' :: '/' :: rest) : route cs ≠ [] := by
  by_cases hmem : '/' ∈ cs
  · obtain ⟨piece, rest, rfl, hpiece⟩ := List.eq_append_cons_of_mem hmem
    have hsome : component piece ≠ none := by
      rw [Ne, component_eq_none_iff, not_or]
      exact ⟨fun h => hroot rest (by rw [h]; rfl), fun h => hslash rest (by rw [h]; rfl)⟩
    rw [route_append, route_of_notMem hpiece]
    simp [hsome]
  · have hsome : component cs ≠ none := by
      rw [Ne, component_eq_none_iff, not_or]
      exact ⟨hnil, hhere⟩
    rw [route_of_notMem hmem]
    simpa using hsome

/-- Every path but the empty one leads through something. -/
theorem componentsOf_ne_nil (h : cs ≠ []) : componentsOf cs ≠ [] := by
  rw [componentsOf_lead]
  revert h
  fun_cases lead cs with
  | case1 | case2 | case3 => simp [componentsOf, starting, pieces]
  | case4 cs hroot hhere hslash =>
      intro hnil
      exact List.append_ne_nil_of_right_ne_nil _ (route_ne_nil hroot hnil hhere hslash)

/-! From the back. -/

theorem route_trim (back : List Char) : route (trim back).reverse = route back.reverse := by
  fun_induction trim back with
  | case1 back ih =>
      rw [ih, List.reverse_cons, route_append]
      exact (List.append_nil _).symm
  | case2 => rfl
  | case3 back ih =>
      rw [ih, List.reverse_cons, List.reverse_cons, List.append_assoc]
      exact (List.append_nil _).symm.trans (route_append back.reverse ['.']).symm
  | case4 => rfl

theorem trim_ne_dot (back : List Char) : trim back ≠ ['.'] := by
  fun_induction trim back with
  | case1 back ih => exact ih
  | case2 => simp
  | case3 back ih => exact ih
  | case4 back _ hhere _ => exact hhere

theorem isSeparator_of_notMem (h : '/' ∉ cs) : ∀ c ∈ cs, (!isSeparator c) = true := by
  intro c hc
  simp only [isSeparator, Bool.not_eq_true', beq_eq_false_iff_ne, ne_eq]
  rintro rfl
  exact h hc

theorem lastName_of_notMem (h : '/' ∉ cs) : lastName cs = (cs, []) := by
  have hall := isSeparator_of_notMem h
  rw [lastName, List.takeWhile_eq_self_iff.mpr hall, List.dropWhile_eq_nil_iff.mpr hall]
  rfl

theorem lastName_append (h : '/' ∉ cs) (rest : List Char) :
    lastName (cs ++ '/' :: rest) = (cs, trim rest) := by
  have hall := isSeparator_of_notMem h
  rw [lastName, List.takeWhile_append_of_pos hall, List.dropWhile_append_of_pos hall]
  simp [isSeparator, trim]

theorem notMem_lastName (back : List Char) : '/' ∉ (lastName back).1 := by
  by_cases hmem : '/' ∈ back
  · obtain ⟨name, rest, rfl, hname⟩ := List.eq_append_cons_of_mem hmem
    rwa [lastName_append hname]
  · rwa [lastName_of_notMem hmem]

theorem lastName_suffix (back : List Char) : (lastName back).2 <:+ back :=
  (trim_suffix _).trans (List.dropWhile_suffix _)

theorem route_lastName (back : List Char) :
    route back.reverse =
      route (lastName back).2.reverse ++ (component (lastName back).1.reverse).toList := by
  by_cases hmem : '/' ∈ back
  · obtain ⟨name, rest, rfl, hname⟩ := List.eq_append_cons_of_mem hmem
    have hname' : '/' ∉ name.reverse := by rwa [List.mem_reverse]
    rw [lastName_append hname, route_trim, List.reverse_append, List.reverse_cons,
      List.append_assoc, List.singleton_append, route_append, route_of_notMem hname']
  · have hmem' : '/' ∉ back.reverse := by rwa [List.mem_reverse]
    rw [lastName_of_notMem hmem, route_of_notMem hmem']
    rfl

/-- What is left ends in a word that is no single dot, unless nothing is left. -/
theorem trim_eq_nil_or_lastName (back : List Char) :
    trim back = [] ∨ (lastName (trim back)).1 ≠ [] ∧ (lastName (trim back)).1 ≠ ['.'] := by
  fun_induction trim back with
  | case1 back ih => exact ih
  | case2 => exact .inl rfl
  | case3 back ih => exact ih
  | case4 back hroot hhere hslash =>
      by_cases hmem : '/' ∈ back
      · obtain ⟨name, rest, rfl, hname⟩ := List.eq_append_cons_of_mem hmem
        rw [lastName_append hname]
        refine .inr ⟨?_, ?_⟩
        · rintro rfl
          exact hroot rest rfl
        · rintro rfl
          exact hslash rest rfl
      · rw [lastName_of_notMem hmem]
        by_cases hnil : back = []
        · exact .inl hnil
        · exact .inr ⟨hnil, hhere⟩

/-! Taken apart. -/

/-- A path leads through what stands before its last name, and then to the name. -/
theorem componentsOf_lastName (h : lastName (trim (lead cs).2.reverse) = (name, rest)) :
    componentsOf cs =
      componentsOf ((lead cs).1 ++ rest.reverse) ++ (component name.reverse).toList := by
  have hrest : rest = (lastName (trim (lead cs).2.reverse)).2 := by rw [h]
  have hsuffix : rest <:+ (lead cs).2.reverse := by
    rw [hrest]
    exact (lastName_suffix _).trans (trim_suffix _)
  have hprefix : rest.reverse <+: (lead cs).2 := by
    rwa [← List.reverse_suffix, List.reverse_reverse]
  have hhere : rest.reverse ≠ ['.'] := by
    rw [hrest, Ne, List.reverse_eq_iff]
    exact trim_ne_dot _
  have hroute : route (lead cs).2 = route rest.reverse ++ (component name.reverse).toList := by
    have hback := route_lastName (trim (lead cs).2.reverse)
    rwa [route_trim, List.reverse_reverse, h] at hback
  rw [componentsOf_lead, componentsOf_lead ((lead cs).1 ++ rest.reverse),
    lead_of_prefix hprefix hhere, hroute, List.append_assoc]

/-- Nothing, or no name at the end. -/
def Nameless (cs : List Component) : Prop :=
  cs = [] ∨ ∃ c ∈ [Component.root, .here, .up], cs.getLast? = some c

instance (cs : List Component) : Decidable (Nameless cs) := inferInstanceAs (Decidable (_ ∨ _))

theorem not_nameless_concat (cs : List Component) (name : String) :
    ¬ Nameless (cs ++ [.name name]) := by
  simp [Nameless]

theorem nameless_lead (cs : List Char) : Nameless (componentsOf (lead cs).1) := by
  fun_cases lead cs with
  | case1 cs => exact .inr ⟨.root, by simp, rfl⟩
  | case2 => exact .inr ⟨.here, by simp, rfl⟩
  | case3 cs => exact .inr ⟨.here, by simp, rfl⟩
  | case4 cs => exact .inl rfl

/-- A text that stands for what a directory holds. -/
structure IsName (name : String) : Prop where
  nonempty : name ≠ ""
  noSeparator : '/' ∉ name.toList
  notHere : name ≠ "."
  notUp : name ≠ ".."

theorem isName_ofList (hmem : '/' ∉ cs) (hnil : cs ≠ []) (hhere : cs ≠ ['.'])
    (hup : cs ≠ ['.', '.']) : IsName (String.ofList cs) where
  nonempty h := hnil (String.ofList_injective h)
  noSeparator := by rwa [String.toList_ofList]
  notHere h := hhere (String.ofList_injective h)
  notUp h := hup (String.ofList_injective h)

theorem splitOf_cases (cs : List Char) :
    splitOf cs = none ∧ Nameless (componentsOf cs) ∨
      ∃ parent name, splitOf cs = some (parent, name) ∧ IsName (String.ofList name) ∧
        componentsOf cs = componentsOf parent ++ [.name (String.ofList name)] := by
  rcases h : lastName (trim (lead cs).2.reverse) with ⟨name, rest⟩
  have hcomponents := componentsOf_lastName h
  have hmem : '/' ∉ name := by
    have hlast := notMem_lastName (trim (lead cs).2.reverse)
    rwa [h] at hlast
  simp only [splitOf, h]
  rcases trim_eq_nil_or_lastName (lead cs).2.reverse with hnil | ⟨hnil, hhere⟩
  · rw [hnil] at h
    obtain ⟨rfl, rfl⟩ := Prod.mk.inj h
    left
    refine ⟨if_pos (.inl rfl), ?_⟩
    rw [hcomponents]
    simpa [component, trim] using nameless_lead cs
  · rw [h] at hnil hhere
    -- two dots read the same from the back
    by_cases hup : name = ['.', '.']
    · subst hup
      left
      refine ⟨if_pos (.inr rfl), ?_⟩
      rw [hcomponents]
      simp [component, Nameless]
    · right
      have hmem' : '/' ∉ name.reverse := by rwa [List.mem_reverse]
      have hnil' : name.reverse ≠ [] := by rwa [Ne, List.reverse_eq_nil_iff]
      have hhere' : name.reverse ≠ ['.'] := fun h => hhere (List.reverse_eq_iff.mp h)
      have hup' : name.reverse ≠ ['.', '.'] := fun h => hup (List.reverse_eq_iff.mp h)
      refine ⟨_, _, if_neg (not_or.mpr ⟨hnil, hup⟩), isName_ofList hmem' hnil' hhere' hup', ?_⟩
      rw [hcomponents, component_of_ne hnil' hhere' hup']
      rfl

/-- The directory and the name in it lead through what the path leads through; where the path is a
bare name, a single dot stands for nothing. -/
structure Splits (path parent name : String) : Prop where
  isName : IsName name
  nonempty : parent ≠ ""
  bare : components path = [.name name] → parent = "."
  nested : components path ≠ [.name name] → components path = components parent ++ [.name name]

theorem Splits.not_nameless {path parent name : String} (h : Splits path parent name) :
    ¬ Nameless (components path) := by
  by_cases hbare : components path = [.name name]
  · rw [hbare]
    exact not_nameless_concat [] name
  · rw [h.nested hbare]
    exact not_nameless_concat _ name

theorem split_cases (path : String) :
    split path = none ∧ Nameless (components path) ∨
      ∃ parent name, split path = some (parent, name) ∧ Splits path parent name := by
  rcases splitOf_cases path.toList with ⟨hnone, hnameless⟩ | ⟨parent, name, hsome, hname, hplace⟩
  · left
    exact ⟨by rw [split, hnone]; rfl, hnameless⟩
  · right
    refine ⟨_, _, by rw [split, hsome]; rfl, ?_⟩
    by_cases hparent : parent = []
    · subst hparent
      exact ⟨hname, by simp, fun _ => rfl, fun hne => absurd hplace hne⟩
    · rw [if_neg hparent]
      refine ⟨hname, fun h => hparent (String.ofList_injective h), fun hbare => ?_, fun _ => ?_⟩
      · have hnil : componentsOf parent = [] := List.append_cancel_right (hplace.symm.trans hbare)
        exact absurd hnil (componentsOf_ne_nil hparent)
      · rw [components, components, String.toList_ofList]
        exact hplace

theorem splits_of_split {path parent name : String} (h : split path = some (parent, name)) :
    Splits path parent name := by
  rcases split_cases path with ⟨hnone, -⟩ | ⟨parent', name', hsome, hsplits⟩
  · rw [hnone] at h
    cases h
  · rw [hsome] at h
    cases h
    exact hsplits

/-- A path is taken apart unless it ends in no name, and what it is taken apart into keeps the
place. -/
theorem split_keeps_place (path : String) :
    (split path = none ↔ Nameless (components path)) ∧
      (¬ Nameless (components path) →
        ∃ parent name, split path = some (parent, name) ∧ Splits path parent name) := by
  rcases split_cases path with ⟨hnone, hnameless⟩ | ⟨parent, name, hsome, hsplits⟩
  · exact ⟨iff_of_true hnone hnameless, fun h => absurd hnameless h⟩
  · have hnot := hsplits.not_nameless
    exact ⟨iff_of_false (by simp [hsome]) hnot, fun _ => ⟨parent, name, hsome, hsplits⟩⟩

theorem split_keeps_place_dots :
    ¬ Nameless (components "/gen//./dates.rs/./") ∧
      split "/gen//./dates.rs/./" = some ("/gen", "dates.rs") ∧
      Splits "/gen//./dates.rs/./" "/gen" "dates.rs" := by
  have hnameless : ¬ Nameless (components "/gen//./dates.rs/./") := by decide +kernel
  have hsplit : split "/gen//./dates.rs/./" = some ("/gen", "dates.rs") := by decide +kernel
  obtain ⟨parent, name, hsome, hsplits⟩ := (split_keeps_place "/gen//./dates.rs/./").2 hnameless
  rw [hsplit] at hsome
  cases hsome
  exact ⟨hnameless, hsplit, hsplits⟩

end FilePath

/-! What a path leads to, by the two parts of it. -/

namespace FileTree

open FilePath (components)

variable {t : FileTree} {path parent name : String}

/-- A bare name stands in the directory at hand. -/
theorem components_of_split (t : FileTree) (h : FilePath.split path = some (parent, name)) :
    ∃ front, components path = front ++ [.name name] ∧
      t.directory front = t.directory (components parent) := by
  have hsplits := FilePath.splits_of_split h
  by_cases hbare : components path = [.name name]
  · refine ⟨[], hbare, ?_⟩
    rw [hsplits.bare hbare]
    rfl
  · exact ⟨components parent, hsplits.nested hbare, rfl⟩

/-- What leads somewhere leads through its directory. -/
theorem directory_of_split (h : FilePath.split path = some (parent, name)) {p : Place}
    (hp : t.walk none maxLinks t.here (components path) = .ok p) :
    ∃ d, t.directory (components parent) = .ok d := by
  obtain ⟨front, hpath, hfront⟩ := components_of_split t h
  rw [hpath] at hp
  obtain ⟨d, hd⟩ := walk_of_append (by simp) hp
  exact ⟨d, by rw [← hfront, directory_ok_iff, hd]⟩

theorem walkFrom_name {d : Location} (hlink : ∀ target, t.get? (name :: d) ≠ some (.link target)) :
    ∃ p, ∀ base follow, t.walkFrom base follow d [.name name] = .ok p := by
  cases hget : t.get? (name :: d) with
  | none => exact ⟨.vacant d name, fun _ follow => walkFrom_vacant hget follow⟩
  | some e =>
      cases e with
      | file b => exact ⟨.file d name b, fun _ _ => by simp [walkFrom, hget]⟩
      | directory => exact ⟨.directory (name :: d), fun _ _ => by simp [walkFrom, hget]⟩
      | link target => exact absurd hget (hlink target)

/-- The name means in the directory what the path means. A link is left out, as it may lead out of
the directory, and the links before it count on the path only. -/
theorem walk_of_split (h : FilePath.split path = some (parent, name)) {d : Location}
    (hd : t.directory (components parent) = .ok d)
    (hlink : ∀ target, t.get? (name :: d) ≠ some (.link target)) :
    t.walk none maxLinks t.here (components path) = t.beneath d name := by
  obtain ⟨front, hpath, hfront⟩ := components_of_split t h
  obtain ⟨p, hp⟩ := walkFrom_name hlink
  rw [← hfront, directory_ok_iff] at hd
  have hbeneath : t.beneath d name = .ok p := hp (some d) _
  rw [hpath, walk_concat (hp none) hd, hbeneath]

end FileTree

end ZonedAccessors
