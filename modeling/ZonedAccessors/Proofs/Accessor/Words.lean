import ZonedAccessors.Accessor.Name
import ZonedAccessors.Proofs.Unicode.Ascii
import Mathlib.Data.List.Basic

/-!
Words set apart by underscores, in one walk over a name that keeps only the case of the letters
behind it.
-/

namespace ZonedAccessors.Name

open Unicode

variable {k : Case} {c d : Char} {cs us : List Char}

/-- Letters, digits and underscores. -/
def Worded (cs : List Char) : Prop := ∀ c ∈ cs, isUnderscore c = true ∨ isAlphanumeric c = true

theorem isWordText_iff {name : String} : isWordText name = true ↔ Worded name.toList := by
  simp [isWordText, Worded, List.all_eq_true]

theorem Worded.tail (h : Worded (c :: cs)) : Worded cs := fun d hd => h d (by simp [hd])

theorem Worded.subset {ds : List Char} (h : Worded cs) (hs : ds ⊆ cs) : Worded ds :=
  fun d hd => h d (hs hd)

theorem eq_underscore (h : isUnderscore c = true) : c = '_' := by
  simpa [isUnderscore] using h

theorem isAlphanumeric_underscore : isAlphanumeric '_' = false := by decide

theorem Worded.eq_underscore (h : Worded (c :: cs)) (hc : isAlphanumeric c = false) : c = '_' :=
  Name.eq_underscore ((h c (by simp)).resolve_right (by simp [hc]))

/-! The walk. -/

/-- Whether a word begins with `c`, behind letters of case `k` and before `cs`. -/
def Case.parts (k : Case) (c : Char) (cs : List Char) : Bool :=
  isUpper c && (k = .lower || k = .upper && cs.head?.any isLower)

/-- One underscore wherever a word begins; `gap` tells that underscores stand before. -/
def spaced (k : Case) (gap : Bool) : List Char → List Char
  | [] => []
  | c :: cs =>
      if isAlphanumeric c then
        (if gap || k.parts c cs then ['_'] else []) ++ c :: spaced (k.after c) false cs
      else spaced .none true cs

theorem Case.after_upper (k : Case) (h : isUpper c = true) (hc : isLower c = false) :
    k.after c = .upper := by
  simp [Case.after, h, hc]

theorem Case.after_lower (k : Case) (h : isLower c = true) : k.after c = .lower := by
  simp [Case.after, h]

theorem Case.parts_of_not (h : ¬ (k = .lower && isUpper c) = true) :
    k.parts c cs = (k = .upper && isUpper c && cs.head?.any isLower) := by
  cases k <;> simp_all [Case.parts]

theorem spaced_cons (hc : isAlphanumeric c = true) :
    spaced .none false (c :: cs) = c :: spaced (Case.none.after c) false cs := by
  simp [spaced, hc, Case.parts]

theorem spaced_cons_gap (hc : isAlphanumeric c = true) :
    spaced .none true (c :: cs) = '_' :: spaced .none false (c :: cs) := by
  simp [spaced, hc, Case.parts]

theorem mem_spaced {gap : Bool} (h : d ∈ spaced k gap cs) : d = '_' ∨ d ∈ cs := by
  induction cs generalizing k gap with
  | nil => cases h
  | cons c cs ih =>
      rw [spaced] at h
      split at h
      · rcases List.mem_append.mp h with h | h
        · split at h
          · exact .inl (List.mem_singleton.mp h)
          · cases h
        · rcases List.mem_cons.mp h with rfl | h
          · exact .inr List.mem_cons_self
          · exact (ih h).imp_right (List.mem_cons_of_mem _)
      · exact (ih h).imp_right (List.mem_cons_of_mem _)

theorem isAscii_spaced (h : IsAscii cs) (k : Case) (gap : Bool) : IsAscii (spaced k gap cs) := by
  intro d hd
  rcases mem_spaced hd with rfl | hd
  · decide
  · exact h d hd

/-! The walk over a run of letters and digits, and over several. -/

theorem runs_eq_splitOnP (cs : List Char) : runs cs = cs.splitOnP fun c => !isAlphanumeric c := by
  induction cs with
  | nil => rfl
  | cons c cs ih =>
      rw [runs, List.splitOnP_cons_eq_if_modifyHead, ih]
      cases hs : cs.splitOnP fun c => !isAlphanumeric c with
      | nil => exact absurd hs (List.splitOnP_ne_nil _ _)
      | cons r rs => cases isAlphanumeric c <;> rfl

theorem words_append (us cs : List Char) (h : isAlphanumeric c = false) :
    words (us ++ c :: cs) = words us ++ words cs := by
  simp only [words, runs_eq_splitOnP]
  rw [List.splitOnP_append_cons us cs (by simp [h]), List.flatMap_append]

theorem words_run (h : ∀ c ∈ cs, isAlphanumeric c = true) : words cs = cut .none [] cs := by
  rw [words, runs_eq_splitOnP, List.splitOnP_eq_singleton (by simpa using h)]
  simp

theorem flatMap_cut (k : Case) (word : List Char) (c : Char) (h : IsAscii (c :: cs))
    (hcs : ∀ d ∈ cs, isAlphanumeric d = true) :
    (cut k word (c :: cs)).flatMap ('_' :: ·) =
      '_' :: (word.reverse ++
        (if k = .upper && isUpper c && cs.head?.any isLower then ['_'] else []) ++
          c :: spaced (k.after c) false cs) := by
  induction cs generalizing k word c with
  | nil => simp [cut, spaced]
  | cons d ds ih =>
      have hd : isAlphanumeric d = true := hcs d (by simp)
      have ih (k word) := ih k word d h.tail (fun e he => hcs e (by simp [he]))
      rw [cut]
      split
      · -- a capital behind a lower-case letter: the word ends with `c`
        rename_i hends
        simp only [Bool.and_eq_true, decide_eq_true_eq] at hends
        have hlower : isLower d = false := isLower_of_isUpper h.tail.head hends.2
        rw [List.flatMap_cons, ih]
        simp [spaced, hd, Case.parts, hends, hlower, Case.after_upper]
      · split
        · -- the last of several capitals: the word ends before `c`
          rename_i hends
          simp only [Bool.and_eq_true, decide_eq_true_eq] at hends
          have hupper : isUpper d = false := by
            rw [Bool.eq_false_iff]
            intro hu
            rw [isLower_of_isUpper h.tail.head hu] at hends
            cases hends.2
          have hlower : isLower c = false := isLower_of_isUpper h.head hends.1.2
          rw [List.flatMap_cons, ih]
          simp [spaced, hd, Case.parts, hends, hlower, hupper, Case.after_lower, Case.after_upper]
        · rename_i hbehind hbefore
          rw [ih, List.head?_cons, Option.any_some, if_neg hbefore, spaced, if_pos hd,
            Case.parts_of_not hbehind]
          simp

theorem spaced_append (h : IsAscii (us ++ c :: cs)) (hc : isAlphanumeric c = false)
    (hus : ∀ d ∈ us, isAlphanumeric d = true) (k : Case) (gap : Bool) :
    spaced k gap (us ++ c :: cs) = spaced k gap us ++ spaced .none true cs := by
  induction us generalizing k gap with
  | nil => simp [spaced, hc]
  | cons d us ih =>
      have hd : isAlphanumeric d = true := hus d (by simp)
      have hparts : k.parts d (us ++ c :: cs) = k.parts d us := by
        cases us with
        | nil => simp [Case.parts, isLower_of_not_isAlphanumeric h.tail.head hc]
        | cons => rfl
      rw [List.cons_append, spaced, spaced, if_pos hd, if_pos hd, hparts,
        ih h.tail (fun e he => hus e (by simp [he])), List.append_assoc, List.cons_append]

theorem spaced_run (h : IsAscii cs) (hcs : ∀ c ∈ cs, isAlphanumeric c = true) :
    spaced .none true cs = (words cs).flatMap ('_' :: ·) := by
  rw [words_run hcs]
  cases cs with
  | nil => rfl
  | cons c cs =>
      rw [flatMap_cut .none [] c h fun d hd => hcs d (by simp [hd]),
        spaced_cons_gap (hcs c (by simp)), spaced_cons (hcs c (by simp))]
      rfl

theorem spaced_eq_words (h : IsAscii cs) :
    spaced .none true cs = (words cs).flatMap ('_' :: ·) := by
  induction hn : cs.length using Nat.strongRecOn generalizing cs with
  | ind n ih =>
      subst hn
      have hall : ∀ d ∈ cs.takeWhile isAlphanumeric, isAlphanumeric d = true :=
        List.all_eq_true.mp List.all_takeWhile
      have hsplit := List.takeWhile_append_dropWhile (p := isAlphanumeric) (l := cs)
      have hhead := List.head?_dropWhile_not isAlphanumeric cs
      generalize cs.takeWhile isAlphanumeric = us at hall hsplit
      cases hrest : cs.dropWhile isAlphanumeric with
      | nil =>
          obtain rfl : us = cs := by simpa [hrest] using hsplit
          exact spaced_run h hall
      | cons c rest =>
          rw [hrest] at hhead
          obtain rfl : us ++ c :: rest = cs := by rw [← hrest, hsplit]
          have hc : isAlphanumeric c = false := by simpa using hhead
          have hus : IsAscii us := h.subset (by simp)
          have hmore : IsAscii rest := h.subset fun d hd => by simp [hd]
          have hlt : rest.length < (us ++ c :: rest).length := by
            rw [List.length_append, List.length_cons]
            omega
          rw [spaced_append h hc hall, words_append _ _ hc, List.flatMap_append,
            spaced_run hus hall, ih rest.length hlt hmore rfl]

/-! Words joined in lower case. -/

theorem lowered_ascii (h : IsAscii cs) : lowered cs = cs.map Char.toLower := by
  induction cs with
  | nil => rfl
  | cons c cs ih =>
      have hc := toLower_ascii h.head
      cases cs with
      | nil =>
          have hsigma : c.toNat ≠ 0x3a3 := by
            have hlt := h.head
            omega
          rw [lowered, if_neg hsigma, hc]
          rfl
      | cons d ds =>
          rw [lowered, hc, ih h.tail]
          · rfl
          · simp

theorem cons_intercalate {ws : List (List Char)} (h : ws ≠ []) :
    '_' :: ['_'].intercalate ws = ws.flatMap ('_' :: ·) := by
  induction ws with
  | nil => exact absurd rfl h
  | cons w ws ih =>
      cases ws with
      | nil => simp
      | cons v vs =>
          rw [List.intercalate_cons_cons, List.flatMap_cons, ← ih (by simp)]
          simp

theorem words_lowered (h : IsAscii cs) : ((words cs).map lowered).flatMap ('_' :: ·) =
    (spaced .none true cs).map Char.toLower := by
  have hwords : ∀ w ∈ words cs, IsAscii w := fun w hw c hc => by
    have hmem : c ∈ spaced .none true cs := by
      rw [spaced_eq_words h]
      exact List.mem_flatMap.mpr ⟨w, hw, by simp [hc]⟩
    exact isAscii_spaced h _ _ c hmem
  rw [spaced_eq_words h, List.map_flatMap, List.flatMap_map]
  refine List.flatMap_congr fun w hw => ?_
  rw [lowered_ascii (hwords w hw)]
  rfl

theorem snake_eq_spaced (h : IsAscii (c :: cs)) (hc : isAlphanumeric c = true) :
    snake (c :: cs) = (spaced .none false (c :: cs)).map Char.toLower := by
  have hne : words (c :: cs) ≠ [] := by
    intro hnil
    have hspaced := spaced_eq_words h
    rw [hnil, spaced_cons_gap hc] at hspaced
    cases hspaced
  have hsnake : '_' :: snake (c :: cs) =
      '_' :: (spaced .none false (c :: cs)).map Char.toLower := by
    rw [snake, cons_intercalate (by simpa using hne), words_lowered h, spaced_cons_gap hc]
    rfl
  exact (List.cons.inj hsnake).2

end ZonedAccessors.Name
