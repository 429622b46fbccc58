import ZonedAccessors.Unicode.Letter

/-!
Characters of ASCII, where case and kind are those of the core library.
-/

namespace ZonedAccessors.Unicode

def IsAscii (cs : List Char) : Prop := ∀ c ∈ cs, c.toNat < 128

variable {c : Char} {cs : List Char}

theorem IsAscii.head (h : IsAscii (c :: cs)) : c.toNat < 128 := h c (by simp)

theorem IsAscii.tail (h : IsAscii (c :: cs)) : IsAscii cs := fun d hd => h d (by simp [hd])

theorem IsAscii.subset {ds : List Char} (h : IsAscii cs) (hs : ds ⊆ cs) : IsAscii ds :=
  fun d hd => h d (hs hd)

/-- Decided on the members alone, not on all characters there are. -/
theorem forall_mem_of_all {p : Char → Prop} [DecidablePred p]
    (h : (cs.all fun c => p c) = true) : ∀ c ∈ cs, p c := by
  simpa using h

theorem of_ascii (P : Char → Prop) (h : ∀ n < 128, P (Char.ofNat n)) (hc : c.toNat < 128) :
    P c := by
  have hn := h c.toNat hc
  rwa [Char.ofNat_toNat] at hn

theorem isUpper_ascii (hc : c.toNat < 128) : isUpper c = c.isUpper :=
  of_ascii (fun c => isUpper c = c.isUpper) (by decide) hc

theorem isLower_ascii (hc : c.toNat < 128) : isLower c = c.isLower :=
  of_ascii (fun c => isLower c = c.isLower) (by decide) hc

theorem isAlphanumeric_ascii (hc : c.toNat < 128) : isAlphanumeric c = c.isAlphanum :=
  of_ascii (fun c => isAlphanumeric c = c.isAlphanum) (by decide) hc

theorem isIdentContinue_ascii (hc : c.toNat < 128) :
    isIdentContinue c = (c == '_' || isAlphanumeric c) :=
  of_ascii (fun c => isIdentContinue c = (c == '_' || isAlphanumeric c)) (by decide) hc

theorem toLower_ascii (hc : c.toNat < 128) : toLower c = [c.toLower] :=
  of_ascii (fun c => toLower c = [c.toLower]) (by decide) hc

theorem isLower_of_isUpper (hc : c.toNat < 128) : isUpper c = true → isLower c = false :=
  of_ascii (fun c => isUpper c = true → isLower c = false) (by decide) hc

theorem isLower_of_not_isAlphanumeric (hc : c.toNat < 128) :
    isAlphanumeric c = false → isLower c = false :=
  of_ascii (fun c => isAlphanumeric c = false → isLower c = false) (by decide) hc

theorem isUpper_toLower (hc : c.toNat < 128) : c.toLower.isUpper = false :=
  of_ascii (fun c => c.toLower.isUpper = false) (by decide) hc

theorem toNat_toLower (hc : c.toNat < 128) : c.toLower.toNat < 128 :=
  of_ascii (fun c => c.toLower.toNat < 128) (by decide) hc

theorem IsAscii.map_toLower (h : IsAscii cs) : IsAscii (cs.map Char.toLower) := by
  intro c hc
  obtain ⟨d, hd, rfl⟩ := List.mem_map.mp hc
  exact toNat_toLower (h d hd)

theorem toLower_of_not_isUpper (h : c.isUpper = false) : c.toLower = c := by
  unfold Char.toLower
  rw [dif_neg]
  intro hcapital
  have hupper : c.isUpper = true := decide_eq_true hcapital
  rw [h] at hupper
  cases hupper

end ZonedAccessors.Unicode
