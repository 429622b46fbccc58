import ZonedAccessors.Accessor.Field
import ZonedAccessors.Proofs.Accessor.Words
import Mathlib.Data.List.Chain
import Mathlib.Data.List.Infix
import Mathlib.Data.List.TakeWhile

/-!
What becomes of a name of ASCII characters: nothing but underscores is lost or added, and they
stand where the name has them or where its case changes.
-/

namespace ZonedAccessors.Name

open Unicode

variable {k : Case} {c p : Char} {cs ds us : List Char}

/-! Names without their underscores. -/

def bare (cs : List Char) : List Char := cs.filter fun c => !isUnderscore c

theorem bare_append (cs ds : List Char) : bare (cs ++ ds) = bare cs ++ bare ds :=
  List.filter_append ..

theorem bare_cons_congr (c : Char) (h : bare cs = bare ds) : bare (c :: cs) = bare (c :: ds) := by
  simp only [bare, List.filter_cons] at h ⊢
  rw [h]

theorem bare_underscores (h : ∀ c ∈ us, isUnderscore c = true) : bare us = [] := by
  simpa [bare] using h

theorem isUnderscore_of_mem_takeWhile (cs : List Char) :
    ∀ c ∈ cs.takeWhile isUnderscore, isUnderscore c = true :=
  List.all_eq_true.mp List.all_takeWhile

theorem bare_dropWhile (cs : List Char) : bare (cs.dropWhile isUnderscore) = bare cs := by
  conv_rhs => rw [← List.takeWhile_append_dropWhile (p := isUnderscore) (l := cs)]
  rw [bare_append, bare_underscores (isUnderscore_of_mem_takeWhile cs), List.nil_append]

theorem isUnderscore_toLower (c : Char) : isUnderscore c.toLower = isUnderscore c := by
  cases hc : c.isUpper with
  | false => rw [toLower_of_not_isUpper hc]
  | true =>
      have hascii : c.toNat < 128 := by
        have hrange : 'A'.val ≤ c.val ∧ c.val ≤ 'Z'.val := of_decide_eq_true hc
        exact Nat.lt_of_le_of_lt (UInt32.le_iff_toNat_le.mp hrange.2) (by decide)
      exact of_ascii (fun c => isUnderscore c.toLower = isUnderscore c) (by decide) hascii

theorem bare_map_toLower (cs : List Char) :
    bare (cs.map Char.toLower) = (bare cs).map Char.toLower := by
  simp only [bare, List.filter_map, Function.comp_def, isUnderscore_toLower]

theorem bare_spaced (h : Worded cs) (k : Case) (gap : Bool) : bare (spaced k gap cs) = bare cs := by
  induction cs generalizing k gap with
  | nil => rfl
  | cons c cs ih =>
      rw [spaced]
      split
      · have hcs : bare (c :: spaced (k.after c) false cs) = bare (c :: cs) :=
          bare_cons_congr c (ih h.tail _ _)
        split
        · exact hcs
        · exact hcs
      · rename_i hc
        obtain rfl := h.eq_underscore (by simpa using hc)
        exact ih h.tail _ _

/-! Underscores of a walk stand alone, and none stands last. -/

theorem ne_underscore (hc : isAlphanumeric c = true) : isUnderscore c = false := by
  rw [Bool.eq_false_iff]
  intro hu
  rw [eq_underscore hu, isAlphanumeric_underscore] at hc
  cases hc

def Apart (c d : Char) : Prop := isUnderscore c = true → isUnderscore d = false

theorem isChain_spaced (k : Case) (gap : Bool) (cs : List Char) :
    (spaced k gap cs).IsChain Apart := by
  induction cs generalizing k gap with
  | nil => exact .nil
  | cons c cs ih =>
      rw [spaced]
      split
      · rename_i hc
        have hne : isUnderscore c = false := ne_underscore hc
        have hcs : (c :: spaced (k.after c) false cs).IsChain Apart :=
          List.isChain_cons.mpr ⟨fun d _ hu => by simp [hne] at hu, ih _ _⟩
        split
        · exact List.isChain_cons.mpr ⟨by simpa [Apart] using fun _ => hne, hcs⟩
        · exact hcs
      · exact ih _ _

theorem getLast?_spaced (k : Case) (gap : Bool) (cs : List Char) :
    ∀ d ∈ (spaced k gap cs).getLast?, isUnderscore d = false := by
  induction cs generalizing k gap with
  | nil => simp [spaced]
  | cons c cs ih =>
      rw [spaced]
      split
      · rename_i hc
        have hrest := ih (k.after c) false
        rw [List.getLast?_append, List.getLast?_cons]
        cases hlast : (spaced (k.after c) false cs).getLast? with
        | none => simpa using ne_underscore hc
        | some d => simpa [hlast] using hrest
      · exact ih _ _

/-! Where a walk stands. -/

/-- The case of the letters behind some characters, if only letters and digits follow them. -/
def Case.track (k : Case) (cs : List Char) : Case :=
  cs.foldl (fun k c => if isAlphanumeric c then k.after c else .none) k

theorem track_concat (k : Case) (cs : List Char) (c : Char) : k.track (cs ++ [c]) =
    if isAlphanumeric c then (k.track cs).after c else .none := by
  simp [Case.track]

theorem track_dropWhile (cs : List Char) :
    Case.none.track (cs.dropWhile isUnderscore) = Case.none.track cs := by
  induction cs with
  | nil => rfl
  | cons c cs ih =>
      cases hc : isUnderscore c with
      | false => rw [List.dropWhile_cons_of_neg (by simp [hc])]
      | true =>
          rw [List.dropWhile_cons_of_pos hc, ih, eq_underscore hc]
          rfl

theorem spaced_behind (hc : isAlphanumeric c = true) (h : Worded us) (k : Case) (gap : Bool) :
    ∃ vs, spaced k gap (us ++ c :: cs) = vs ++ c :: spaced (k.track (us ++ [c])) false cs ∧
      bare vs = bare us := by
  induction us generalizing k gap with
  | nil =>
      refine ⟨if gap || k.parts c cs then ['_'] else [], ?_, ?_⟩
      · simp [spaced, hc, Case.track]
      · split <;> rfl
  | cons d us ih =>
      cases hd : isAlphanumeric d with
      | true =>
          obtain ⟨vs, hvs, hbare⟩ := ih h.tail (k.after d) false
          refine ⟨(if gap || k.parts d (us ++ c :: cs) then ['_'] else []) ++ d :: vs, ?_, ?_⟩
          · simp [spaced, hd, hvs, Case.track]
          · split <;> exact bare_cons_congr d hbare
      | false =>
          obtain ⟨vs, hvs, hbare⟩ := ih h.tail .none true
          obtain rfl := h.eq_underscore hd
          exact ⟨vs, by simp [spaced, hd, hvs, Case.track], hbare⟩

theorem spaced_underscores (hc : isAlphanumeric c = true) (hus : ∀ d ∈ us, d = '_') :
    spaced .none true (us ++ c :: cs) =
      '_' :: c :: spaced (Case.none.track (us ++ [c])) false cs := by
  induction us with
  | nil => simp [spaced, hc, Case.track]
  | cons d us ih =>
      obtain rfl := hus d (by simp)
      exact ih fun e he => hus e (by simp [he])

theorem spaced_gap (hc : isAlphanumeric c = true) (hus : ∀ d ∈ us, d = '_') (k : Case) :
    spaced k false (us ++ c :: cs) =
      (if us ≠ [] ∨ k.parts c cs = true then ['_'] else []) ++
        c :: spaced (k.track (us ++ [c])) false cs := by
  cases us with
  | nil => simp [spaced, hc, Case.track]
  | cons d us =>
      obtain rfl := hus d (by simp)
      rw [if_pos (.inl (by simp))]
      exact spaced_underscores hc fun e he => hus e (by simp [he])

/-! The nearest letter. -/

/-- The last letter, with nothing but digits behind it. -/
def NearestLetter (cs : List Char) (p : Char) : Prop :=
  ∃ front digits, cs = front ++ p :: digits ∧ p.isAlpha = true ∧ ∀ d ∈ digits, d.isDigit = true

theorem nearestLetter_concat : NearestLetter (cs ++ [c]) p ↔
    c.isAlpha = true ∧ p = c ∨ c.isDigit = true ∧ NearestLetter cs p := by
  constructor
  · rintro ⟨front, digits, heq, hp, hdigits⟩
    rcases List.eq_nil_or_concat' digits with rfl | ⟨digits, d, rfl⟩
    · obtain ⟨rfl, hc⟩ := List.append_inj' heq rfl
      obtain rfl : c = p := by simpa using hc
      exact .inl ⟨hp, rfl⟩
    · rw [← List.cons_append, ← List.append_assoc] at heq
      obtain ⟨rfl, hc⟩ := List.append_inj' heq rfl
      obtain rfl : c = d := by simpa using hc
      have hbefore : ∀ d ∈ digits, d.isDigit = true := fun d hd => hdigits d (by simp [hd])
      exact .inr ⟨hdigits c (by simp), front, digits, rfl, hp, hbefore⟩
  · rintro (⟨hc, rfl⟩ | ⟨hc, front, digits, rfl, hp, hdigits⟩)
    · exact ⟨cs, [], rfl, hc, by simp⟩
    · refine ⟨front, digits ++ [c], by simp, hp, fun d hd => ?_⟩
      rcases List.mem_append.mp hd with hd | hd
      · exact hdigits d hd
      · rwa [List.mem_singleton.mp hd]

theorem track_iff (h : IsAscii cs) :
    (Case.none.track cs = .lower ↔ ∃ p, NearestLetter cs p ∧ p.isLower = true) ∧
      (Case.none.track cs = .upper ↔ ∃ p, NearestLetter cs p ∧ p.isUpper = true) := by
  induction cs using List.reverseRecOn with
  | nil => simp [Case.track, NearestLetter]
  | append_singleton cs c ih =>
      have hc : c.toNat < 128 := h c (by simp)
      obtain ⟨hlower, hupper⟩ := ih (h.subset (by simp))
      have hcase : c.isLower = true → c.isUpper = false :=
        of_ascii (fun c => c.isLower = true → c.isUpper = false) (by decide) hc
      have hdigit : c.isDigit = true → c.isAlpha = false :=
        of_ascii (fun c => c.isDigit = true → c.isAlpha = false) (by decide) hc
      have halpha : c.isAlpha = (c.isUpper || c.isLower) := rfl
      have halphanum : c.isAlphanum = (c.isAlpha || c.isDigit) := rfl
      rw [track_concat, Case.after, isAlphanumeric_ascii hc, isLower_ascii hc, isUpper_ascii hc]
      simp only [nearestLetter_concat]
      cases hl : c.isLower <;> cases hu : c.isUpper <;> cases hd : c.isDigit <;> simp_all

/-- Whether a capital begins a word: behind a lower-case letter, or behind a capital and before a
lower-case letter. -/
def CaseChanges (cs : List Char) (y : Char) (after : List Char) : Prop :=
  ∃ p, NearestLetter cs p ∧ (p.isLower = true ∧ y.isUpper = true ∨
    p.isUpper = true ∧ y.isUpper = true ∧ ∃ z ∈ after.head?, z.isLower = true)

theorem parts_track_iff (h : IsAscii us) (hcs : IsAscii (c :: cs)) :
    (Case.none.track us).parts c cs = true ↔ CaseChanges us c cs := by
  have hnext : cs.head?.any isLower = true ↔ ∃ d ∈ cs.head?, d.isLower = true := by
    cases cs with
    | nil => simp
    | cons d ds => simp [isLower_ascii hcs.tail.head]
  obtain ⟨hlower, hupper⟩ := track_iff h
  simp only [Case.parts, Bool.and_eq_true, Bool.or_eq_true, decide_eq_true_eq, hnext, hlower,
    hupper, isUpper_ascii hcs.head]
  constructor
  · rintro ⟨hu, ⟨p, hp, hl⟩ | ⟨⟨p, hp, hpu⟩, hd⟩⟩
    · exact ⟨p, hp, .inl ⟨hl, hu⟩⟩
    · exact ⟨p, hp, .inr ⟨hpu, hu, hd⟩⟩
  · rintro ⟨p, hp, ⟨hl, hu⟩ | ⟨hpu, hu, hd⟩⟩
    · exact ⟨hu, .inl ⟨p, hp, hl⟩⟩
    · exact ⟨hu, .inr ⟨⟨p, hp, hpu⟩, hd⟩⟩

/-! Names with capitals. -/

/-- The characters of a name in lower case, with underscores in front as they were and others as
the walk sets them. -/
def snaked (cs : List Char) : List Char :=
  cs.takeWhile isUnderscore ++ (spaced .none false (cs.dropWhile isUnderscore)).map Char.toLower

theorem exists_body (h : cs.any isUpper = true) (hw : Worded cs) :
    ∃ c body, cs.dropWhile isUnderscore = c :: body ∧ isUnderscore c = false ∧
      isAlphanumeric c = true := by
  cases hbody : cs.dropWhile isUnderscore with
  | nil =>
      obtain ⟨c, hc, hu⟩ := List.any_eq_true.mp h
      rw [eq_underscore (List.dropWhile_eq_nil_iff.mp hbody c hc)] at hu
      exact absurd hu (by decide)
  | cons c body =>
      have hhead := List.head?_dropWhile_not isUnderscore cs
      rw [hbody] at hhead
      have hu : isUnderscore c = false := by simpa using hhead
      have hc : c ∈ cs := (List.dropWhile_sublist _).subset (by rw [hbody]; simp)
      exact ⟨c, body, rfl, hu, (hw c hc).resolve_left (by simp [hu])⟩

theorem toList_normalised {name : String} (h : name.toList.any isUpper = true)
    (hascii : IsAscii name.toList) (hw : Worded name.toList) :
    (normalised name).toList = snaked name.toList := by
  obtain ⟨c, body, hbody, -, hc⟩ := exists_body h hw
  have hb : IsAscii (c :: body) := by
    rw [← hbody]
    exact hascii.subset (List.dropWhile_sublist _).subset
  simp only [normalised, if_pos h, String.toList_ofList, snaked, hbody, snake_eq_spaced hb hc]

theorem isAscii_body (h : IsAscii cs) (gap : Bool) :
    IsAscii (spaced k gap (cs.dropWhile isUnderscore)) :=
  isAscii_spaced (h.subset (List.dropWhile_sublist _).subset) _ _

theorem isAscii_snaked (h : IsAscii cs) : IsAscii (snaked cs) := by
  intro c hc
  rcases List.mem_append.mp hc with hc | hc
  · rw [eq_underscore (isUnderscore_of_mem_takeWhile cs c hc)]
    decide
  · exact (isAscii_body h false).map_toLower c hc

theorem bare_snaked (hw : Worded cs) : bare (snaked cs) = (bare cs).map Char.toLower := by
  have hbody : Worded (cs.dropWhile isUnderscore) := hw.subset (List.dropWhile_sublist _).subset
  rw [snaked, bare_append, bare_underscores (isUnderscore_of_mem_takeWhile cs), List.nil_append,
    bare_map_toLower, bare_spaced hbody, bare_dropWhile]

theorem isUpper_snaked (h : IsAscii cs) : ∀ c ∈ snaked cs, c.isUpper = false := by
  intro c hc
  rcases List.mem_append.mp hc with hc | hc
  · rw [eq_underscore (isUnderscore_of_mem_takeWhile cs c hc)]
    rfl
  · obtain ⟨d, hd, rfl⟩ := List.mem_map.mp hc
    exact isUpper_toLower (isAscii_body h false d hd)

theorem leading_snaked (h : cs.any isUpper = true) (hw : Worded cs) :
    (snaked cs).takeWhile isUnderscore = cs.takeWhile isUnderscore ∧
      (snaked cs).dropWhile isUnderscore =
        (spaced .none false (cs.dropWhile isUnderscore)).map Char.toLower := by
  obtain ⟨c, body, hbody, hu, hc⟩ := exists_body h hw
  have hfront := isUnderscore_of_mem_takeWhile cs
  rw [snaked, List.takeWhile_append_of_pos hfront, List.dropWhile_append_of_pos hfront, hbody,
    spaced_cons hc]
  simp [isUnderscore_toLower, hu]

theorem single_snaked (h : cs.any isUpper = true) (hw : Worded cs) :
    ¬ ['_', '_'] <:+: (snaked cs).dropWhile isUnderscore := by
  intro hinfix
  rw [(leading_snaked h hw).2] at hinfix
  have hchain : ((spaced .none false (cs.dropWhile isUnderscore)).map Char.toLower).IsChain Apart :=
    List.isChain_map_of_isChain Char.toLower
      (fun c d hcd => by simpa [Apart, isUnderscore_toLower] using hcd) (isChain_spaced _ _ _)
  have hpair := hchain.infix hinfix
  simp [Apart, isUnderscore] at hpair

theorem closed_snaked (h : cs.any isUpper = true) (hw : Worded cs) :
    (snaked cs).getLast? ≠ some '_' := by
  obtain ⟨c, body, hbody, -, hc⟩ := exists_body h hw
  obtain ⟨d, hd⟩ : ∃ d, (spaced .none false (c :: body)).getLast? = some d := by
    rw [spaced_cons hc, List.getLast?_cons]
    exact ⟨_, rfl⟩
  have hlast := getLast?_spaced .none false (c :: body) d hd
  rw [← isUnderscore_toLower] at hlast
  rw [snaked, hbody, List.getLast?_append, List.getLast?_map, hd]
  intro heq
  rw [Option.some.inj heq] at hlast
  cases hlast

theorem takeWhile_dropWhile_behind (hc : isUnderscore c = false) (us cs : List Char) :
    (us ++ c :: cs).takeWhile isUnderscore = us.takeWhile isUnderscore ∧
      (us ++ c :: cs).dropWhile isUnderscore = us.dropWhile isUnderscore ++ c :: cs := by
  induction us with
  | nil => simp [hc]
  | cons d us ih => cases hd : isUnderscore d <;> simp [hd, ih]

/-- Where the underscores between two neighbouring letters or digits come from: the name, or a
change of its case. -/
theorem parted_snaked {x y : Char} {u gap v : List Char} (h : IsAscii (u ++ x :: gap ++ y :: v))
    (hw : Worded (u ++ x :: gap ++ y :: v)) (hx : x.isAlphanum = true) (hy : y.isAlphanum = true)
    (hgap : ∀ c ∈ gap, c = '_') : ∃ u' gap' v',
      snaked (u ++ x :: gap ++ y :: v) = u' ++ x.toLower :: gap' ++ y.toLower :: v' ∧
      bare u' = (bare u).map Char.toLower ∧ bare v' = (bare v).map Char.toLower ∧
      (∀ c ∈ gap', c = '_') ∧ (gap' ≠ [] ↔ gap ≠ [] ∨ CaseChanges (u ++ [x]) y v) := by
  have hxa : isAlphanumeric x = true := by rwa [isAlphanumeric_ascii (h x (by simp))]
  have hya : isAlphanumeric y = true := by rwa [isAlphanumeric_ascii (h y (by simp))]
  have hu : Worded u := hw.subset (by simp)
  have hv : Worded v := hw.subset fun c hc => by simp [hc]
  have hbefore : IsAscii (u ++ [x]) := h.subset (by simp)
  have hafter : IsAscii (y :: v) := h.subset fun c hc => by simp at hc ⊢; tauto
  have hleading := takeWhile_dropWhile_behind (ne_underscore hxa) u (gap ++ y :: v)
  have hbody : Worded (u.dropWhile isUnderscore) := hu.subset (List.dropWhile_sublist _).subset
  obtain ⟨vs, hvs, hbare⟩ :=
    spaced_behind hxa hbody .none false
  have htrack : Case.none.track (u.dropWhile isUnderscore ++ [x]) = Case.none.track (u ++ [x]) := by
    simp only [track_concat, track_dropWhile]
  let k := Case.none.track (u ++ [x])
  refine ⟨u.takeWhile isUnderscore ++ vs.map Char.toLower,
    if gap ≠ [] ∨ k.parts y v = true then ['_'] else [],
    (spaced (k.track (gap ++ [y])) false v).map Char.toLower, ?_, ?_, ?_, ?_, ?_⟩
  · rw [snaked, List.append_assoc, List.cons_append, hleading.1, hleading.2, hvs, htrack,
      spaced_gap hya hgap]
    split <;> simp [k, *]
  · rw [bare_append, bare_underscores (isUnderscore_of_mem_takeWhile u), List.nil_append,
      bare_map_toLower, hbare, bare_dropWhile]
  · rw [bare_map_toLower, bare_spaced hv]
  · split <;> simp
  · rw [← parts_track_iff hbefore hafter]
    split <;> simp [k, *]

/-- How an accessor is spelled whose name has capitals. Of `u`, `x`, `gap`, `y` and `v` the name is
made, and `u'` to `v'` are what becomes of them. -/
structure SnakeCase (name accessor : List Char) : Prop where
  lower : ∀ c ∈ accessor, c.isUpper = false
  closed : accessor.getLast? ≠ some '_'
  single : ¬ ['_', '_'] <:+: accessor.dropWhile isUnderscore
  parted : ∀ u x gap y v, name = u ++ x :: gap ++ y :: v → x.isAlphanum = true →
    y.isAlphanum = true → (∀ c ∈ gap, c = '_') → ∃ u' gap' v',
      accessor = u' ++ x.toLower :: gap' ++ y.toLower :: v' ∧
      bare u' = (bare u).map Char.toLower ∧ bare v' = (bare v).map Char.toLower ∧
      (∀ c ∈ gap', c = '_') ∧ (gap' ≠ [] ↔ gap ≠ [] ∨ CaseChanges (u ++ [x]) y v)

theorem snakeCase_snaked (h : cs.any isUpper = true) (hascii : IsAscii cs) (hw : Worded cs) :
    SnakeCase cs (snaked cs) where
  lower := isUpper_snaked hascii
  closed := closed_snaked h hw
  single := single_snaked h hw
  parted u x gap y v heq hx hy hgap := by
    subst heq
    exact parted_snaked hascii hw hx hy hgap

theorem any_isUpper_ascii (h : IsAscii cs) : cs.any isUpper = cs.any Char.isUpper := by
  rw [Bool.eq_iff_iff]
  simp only [List.any_eq_true]
  exact exists_congr fun c => and_congr_right fun hc => by rw [isUpper_ascii (h c hc)]

theorem normalised_of_not_any {name : String} (h : name.toList.any isUpper = false) :
    normalised name = name := by
  simp [normalised, h]

end ZonedAccessors.Name

namespace ZonedAccessors.DateField

open Name Unicode

theorem accessor_spelling {f : DateField} {a : Accessor} (hascii : IsAscii f.name.toList)
    (h : f.accessor = .ok a) :
    bare a.name.toList = bare (f.name.toList.map Char.toLower) ∧
      a.name.toList.takeWhile isUnderscore = f.name.toList.takeWhile isUnderscore ∧
      (f.name.toList.any Char.isUpper = false → a.name = f.name) ∧
      (f.name.toList.any Char.isUpper = true → SnakeCase f.name.toList a.name.toList) := by
  obtain ⟨-, hword, -, rfl⟩ := accessor_ok_iff.mp h
  have hw : Worded f.name.toList := isWordText_iff.mp hword
  simp only [← any_isUpper_ascii hascii]
  cases hupper : f.name.toList.any isUpper with
  | false =>
      have hlower : ∀ c ∈ f.name.toList, c.toLower = c := fun c hc =>
        toLower_of_not_isUpper <| by
          rw [← isUpper_ascii (hascii c hc)]
          exact Bool.eq_false_iff.mpr (List.any_eq_false.mp hupper c hc)
      have hsame : normalised f.name = f.name := normalised_of_not_any hupper
      have hmap : f.name.toList.map Char.toLower = f.name.toList :=
        (List.map_congr_left hlower).trans (List.map_id _)
      exact ⟨by rw [hsame, hmap], by rw [hsame], fun _ => hsame, fun h => nomatch h⟩
  | true =>
      have hlist : (normalised f.name).toList = snaked f.name.toList :=
        toList_normalised hupper hascii hw
      refine ⟨?_, ?_, fun h => (nomatch h), fun _ => ?_⟩
      · rw [hlist, bare_snaked hw, bare_map_toLower]
      · rw [hlist, (leading_snaked hupper hw).1]
      · rw [hlist]
        exact snakeCase_snaked hupper hascii hw

theorem accessor_spelling_acronym :
    accessor ⟨"_HTTPServer2Go", true, .local⟩ = .ok ⟨"_http_server2_go", true, .local⟩ ∧
      bare "_http_server2_go".toList = bare ("_HTTPServer2Go".toList.map Char.toLower) ∧
      SnakeCase "_HTTPServer2Go".toList "_http_server2_go".toList := by
  have haccessor : accessor ⟨"_HTTPServer2Go", true, .local⟩ =
      .ok ⟨"_http_server2_go", true, .local⟩ := by decide +kernel
  have hspelling := accessor_spelling (forall_mem_of_all (by decide)) haccessor
  exact ⟨haccessor, hspelling.1, hspelling.2.2.2 (by decide)⟩

end ZonedAccessors.DateField
