import ZonedAccessors.Proofs.Files.Walk

/-!
Making the directories of a path. What was there stays as it was, and what is new are directories
that the path leads through.
-/

namespace ZonedAccessors.FileTree

open FilePath (Component components asWritten)

variable {t t' t'' : FileTree} {path : List Component}

/-- What is new are directories at the ends of first parts of a path. -/
structure Grows (path : List Component) (t t' : FileTree) : Prop where
  here : t'.here = t.here
  entry : ∀ k, t'.get? k = t.get? k ∨ t.get? k = none ∧ t'.get? k = some .directory ∧
    ∃ cs, cs <+: path ∧ t'.directory cs = .ok k

theorem Grows.refl (path : List Component) (t : FileTree) : Grows path t t :=
  ⟨rfl, fun _ => .inl rfl⟩

theorem Grows.get?_eq (h : Grows path t t') {k : Location} {e : Entry} (hk : t.get? k = some e) :
    t'.get? k = some e := by
  rcases h.entry k with heq | ⟨hnone, -⟩
  · rw [heq, hk]
  · rw [hk] at hnone
    cases hnone

theorem Grows.keeps (h : Grows path t t') : Keeps t t' := ⟨h.here, fun hk _ => h.get?_eq hk⟩

theorem Grows.trans (h : Grows path t t') (h' : Grows path t' t'') : Grows path t t'' := by
  refine ⟨h'.here.trans h.here, fun k => ?_⟩
  rcases h'.entry k with heq' | ⟨hnone', hnew', hpath'⟩
  · rcases h.entry k with heq | ⟨hnone, hnew, cs, hcs, hdirectory⟩
    · exact .inl (heq'.trans heq)
    · exact .inr ⟨hnone, heq'.trans hnew, cs, hcs, h'.keeps.directory hdirectory⟩
  · rcases h.entry k with heq | ⟨-, hnew, -⟩
    · exact .inr ⟨heq ▸ hnone', hnew', hpath'⟩
    · rw [hnew] at hnone'
      cases hnone'

theorem makeDirectory_cases {cs : List Component} (h : t.makeDirectory cs = .ok t') :
    ∃ l n, cs = cs.dropLast ++ [.name n] ∧ t.directory cs.dropLast = .ok l ∧
      t.get? (n :: l) = none ∧ t' = t.put l n .directory := by
  unfold makeDirectory at h
  obtain ⟨l, hl, h⟩ := bind_ok_iff.mp h
  split at h
  · rename_i n hlast
    split at h
    · rename_i hnone
      cases h
      obtain ⟨ds, rfl⟩ := List.getLast?_eq_some_iff.mp hlast
      exact ⟨l, n, by simp, hl, Option.isNone_iff_eq_none.mp hnone, rfl⟩
    · cases h
  · cases h

theorem makeDirectory_grows {cs : List Component} (hcs : cs <+: path)
    (h : t.makeDirectory cs = .ok t') : Grows path t t' := by
  obtain ⟨l, n, heq, hl, hnone, rfl⟩ := makeDirectory_cases h
  have hkeeps : Keeps t (t.put l n .directory) := keeps_put _ (by simp [hnone])
  have hnew : (t.put l n .directory).get? (n :: l) = some .directory := by simp [get?_put]
  refine ⟨rfl, fun k => ?_⟩
  by_cases hk : k = n :: l
  · subst hk
    refine .inr ⟨hnone, hnew, cs, hcs, ?_⟩
    rw [directory_ok_iff, heq]
    exact walk_becomes hkeeps (.made hnew)
      (walk_concat (walkFrom_vacant hnone) (directory_ok_iff.mp hl))
  · exact .inl (by rw [get?_put, if_neg hk])

theorem makeAll_grows {all : List (List Component)} (hall : ∀ cs ∈ all, cs <+: path) :
    Grows path t (t.makeAll all).1 := by
  induction all with
  | nil => exact .refl path t
  | cons cs outer ih =>
      have hcs : cs <+: path := hall cs (by simp)
      have houter := ih fun ds hds => hall ds (by simp [hds])
      unfold makeAll
      cases hmade : t.makeDirectory cs with
      | ok t' => exact makeDirectory_grows hcs hmade
      | error e =>
          cases e with
          | notFound =>
              simp only
              rcases hrest : t.makeAll outer with ⟨t', _ | ⟨⟩⟩
              · rwa [hrest] at houter
              · rw [hrest] at houter
                simp only
                cases hagain : t'.makeDirectory cs with
                | ok t'' => exact houter.trans (makeDirectory_grows hcs hagain)
                | error e => exact houter
          | _ => exact .refl path t

theorem isPrefix_of_mem_ancestors {cs ds : List Component} (h : ds ∈ ancestors cs) : ds <+: cs := by
  obtain ⟨n, -, rfl⟩ := List.mem_map.mp h
  exact List.take_prefix _ _

theorem makeDirectories_grows (t : FileTree) (parent : String) :
    Grows (asWritten parent) t (t.makeDirectories parent).1 := by
  refine makeAll_grows fun cs hcs => ?_
  rcases List.mem_cons.mp hcs with rfl | hcs
  · exact List.prefix_rfl
  · have hwritten : components parent <+: asWritten parent := List.prefix_append _ _
    exact ((isPrefix_of_mem_ancestors hcs).trans (List.dropLast_prefix _)).trans hwritten

/-! Where the directories are there already. -/

theorem makeDirectory_of_directory {cs : List Component} {d : Location}
    (h : t.directory cs = .ok d) : t.makeDirectory cs = .error .alreadyExists := by
  have hwalk := directory_ok_iff.mp h
  unfold makeDirectory
  rcases List.eq_nil_or_concat cs with rfl | ⟨ds, c, rfl⟩
  · rfl
  · rw [List.concat_eq_append] at hwalk ⊢
    obtain ⟨k, hk⟩ := walk_of_append (by simp) hwalk
    rw [List.dropLast_concat, directory_ok_iff.mpr hk, List.getLast?_concat]
    cases c with
    | name n =>
        have hthere : (t.get? (n :: k)).isNone = false := by
          rw [Option.isNone_eq_false_iff, Option.isSome_iff_ne_none]
          intro hnone
          rw [walk_concat (walkFrom_vacant hnone) hk] at hwalk
          cases hwalk
        simp [bind, Except.bind, hthere]
    | _ => rfl

theorem makeDirectories_of_directory {parent : String} {d : Location}
    (h : t.directory (components parent) = .ok d) : t.makeDirectories parent = (t, .ok ()) := by
  have hwritten := directory_asWritten h
  unfold makeDirectories makeAll
  rw [makeDirectory_of_directory hwritten]
  simp only [isDirectory, hwritten, if_true]

/-- The file that a path denotes, whether or not it is there, once the directories before it are. -/
def denoted (t : FileTree) (path : String) : Option (Location × String) :=
  match FilePath.split path with
  | none => none
  | some (parent, name) =>
      let made := (t.makeDirectories parent).1
      match made.directory (components parent) >>= (made.beneath · name) with
      | .ok (.file l n _) => some (l, n)
      | .ok (.vacant l n) => some (l, n)
      | _ => none

theorem denoted_eq_some {path parent name : String} {d l : Location} {n : String} {p : Place}
    (hsplit : FilePath.split path = some (parent, name))
    (hd : (t.makeDirectories parent).1.directory (components parent) = .ok d)
    (hp : (t.makeDirectories parent).1.beneath d name = .ok p)
    (hplace : p = .vacant l n ∨ ∃ b, p = .file l n b) : t.denoted path = some (l, n) := by
  have hwalk : (t.makeDirectories parent).1.directory (components parent) >>=
      ((t.makeDirectories parent).1.beneath · name) = .ok p := bind_ok_iff.mpr ⟨d, hd, hp⟩
  unfold denoted
  simp only [hsplit, hwalk]
  rcases hplace with rfl | ⟨b, rfl⟩
  · rfl
  · rfl

/-- No directory is missing before a file that is there. -/
theorem denoted_of_file {path parent name : String} {d l : Location} {n : String} {b : ByteArray}
    (hsplit : FilePath.split path = some (parent, name))
    (hd : t.directory (components parent) = .ok d) (hp : t.beneath d name = .ok (.file l n b)) :
    t.denoted path = some (l, n) := by
  have hgrows := makeDirectories_grows t parent
  have hfile : t.get? (n :: l) = some (.file b) := (beneath_ends hp).1
  exact denoted_eq_some hsplit (hgrows.keeps.directory hd)
    (hgrows.keeps.beneath (.file b (hgrows.get?_eq hfile)) hp) (.inr ⟨b, rfl⟩)

/-! Trees that are well formed. -/

/-- All there is stands in a directory. -/
def Grounded (t : FileTree) : Prop :=
  ∀ n l, t.get? (n :: l) ≠ none → t.get? l = some .directory

theorem Grounded.get?_eq_none (ht : Grounded t) {k l : Location} (h : k <:+ l)
    (hk : t.get? k = none) : t.get? l = none := by
  induction l with
  | nil => rwa [List.suffix_nil.mp h] at hk
  | cons n l ih =>
      rcases List.suffix_cons_iff.mp h with rfl | h
      · exact hk
      · cases hget : t.get? (n :: l) with
        | none => rfl
        | some e =>
            have hl : t.get? l = some .directory := ht n l (by simp [hget])
            rw [ih h] at hl
            cases hl

/-- Nothing but directories stands in a new directory. -/
theorem Grows.get?_beneath (h : Grows path t t') (ht : Grounded t) {k l : Location} {e : Entry}
    (hk : t.get? k = none) (hl : k <:+ l) (he : t'.get? l = some e) : e = .directory := by
  rcases h.entry l with heq | ⟨-, hnew, -⟩
  · rw [heq, ht.get?_eq_none hl hk] at he
    cases he
  · rw [hnew] at he
    exact (Option.some.inj he).symm

end ZonedAccessors.FileTree
