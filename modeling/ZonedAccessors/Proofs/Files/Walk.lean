import ZonedAccessors.Files.Disk
import ZonedAccessors.Proofs.Grammar.Reader

/-!
Walks through a tree to which something is added. Directories and links that were there stay, so a
walk that succeeds succeeds again, and ends where it did.
-/

namespace ZonedAccessors

/-- A place is what the tree has there. -/
def Place.At (t : FileTree) : Place → Prop
  | .directory _ => True
  | .file l n b => t.get? (n :: l) = some (.file b)
  | .vacant l n => t.get? (n :: l) = none

/-- A place within a directory, the directory itself included. -/
def Place.Within (l : Location) : Place → Prop
  | .directory k => l <:+ k
  | .file k _ _ => l <:+ k
  | .vacant k _ => l <:+ k

namespace FileTree

open FilePath (Component)

variable {t t' : FileTree} {base : Option Location}

/-- A walk that succeeds, step by step. What `follow` does with a link is left open. That a name is
the last one is told by an equation, as components may be an append. -/
inductive Walks (t : FileTree) (base : Option Location)
    (follow : Location → List Component → Except FileFault Place) :
    Location → List Component → Place → Prop
  | done (l : Location) : Walks t base follow l [] (.directory l)
  | root {l cs p} : base = none → Walks t base follow [] cs p → Walks t base follow l (.root :: cs) p
  | here {l cs p} : Walks t base follow l cs p → Walks t base follow l (.here :: cs) p
  | up {l cs p} : base ≠ some l → Walks t base follow l.tail cs p →
      Walks t base follow l (.up :: cs) p
  | vacant {l n cs} : t.get? (n :: l) = none → cs = [] →
      Walks t base follow l (.name n :: cs) (.vacant l n)
  | enter {l n cs p} : t.get? (n :: l) = some .directory → Walks t base follow (n :: l) cs p →
      Walks t base follow l (.name n :: cs) p
  | file {l n b cs} : t.get? (n :: l) = some (.file b) → cs = [] →
      Walks t base follow l (.name n :: cs) (.file l n b)
  | link {l n target cs p} : t.get? (n :: l) = some (.link target) →
      follow l (steps target ++ cs) = .ok p → Walks t base follow l (.name n :: cs) p

section Walks

variable {follow : Location → List Component → Except FileFault Place} {l : Location}
  {cs : List Component} {p : Place}

theorem walks_of_walkFrom (h : t.walkFrom base follow l cs = .ok p) : Walks t base follow l cs p := by
  fun_induction walkFrom t base follow l cs with
  | case1 l =>
      cases h
      exact .done l
  | case2 => cases h
  | case3 l cs hbase ih => exact .root (by simpa using hbase) (ih h)
  | case4 l cs ih => exact .here (ih h)
  | case5 => cases h
  | case6 l cs hbase ih => exact .up hbase (ih h)
  | case7 l n cs hget hcs =>
      cases h
      exact .vacant hget (List.isEmpty_iff.mp hcs)
  | case8 => cases h
  | case9 l n cs hget ih => exact .enter hget (ih h)
  | case10 l n cs b hget hcs =>
      cases h
      exact .file hget (List.isEmpty_iff.mp hcs)
  | case11 => cases h
  | case12 l n cs target hget => exact .link hget h

theorem Walks.walkFrom (h : Walks t base follow l cs p) : t.walkFrom base follow l cs = .ok p := by
  induction h with
  | done => rfl
  | root hbase _ ih => simpa [FileTree.walkFrom, hbase] using ih
  | here _ ih => exact ih
  | up hbase _ ih => simpa [FileTree.walkFrom, hbase] using ih
  | vacant hget hcs => simp [FileTree.walkFrom, hget, hcs]
  | enter hget _ ih => simpa [FileTree.walkFrom, hget] using ih
  | file hget hcs => simp [FileTree.walkFrom, hget, hcs]
  | link hget hfollow => simpa [FileTree.walkFrom, hget] using hfollow

end Walks

/-- What a walk goes through is still there. -/
structure Keeps (t t' : FileTree) : Prop where
  here : t'.here = t.here
  entry : ∀ {k e}, t.get? k = some e → (∀ b, e ≠ .file b) → t'.get? k = some e

theorem keeps_put {l : Location} {n : String} (e : Entry)
    (h : ∀ e, t.get? (n :: l) = some e → ∃ b, e = .file b) : Keeps t (t.put l n e) := by
  refine ⟨rfl, fun {k e'} hk he' => ?_⟩
  rw [get?_put]
  split
  · rename_i heq
    obtain ⟨b, rfl⟩ := h e' (heq ▸ hk)
    exact absurd rfl (he' b)
  · exact hk

/-- What stands at the end of a walk where the tree is now `t'`. -/
inductive Becomes (t' : FileTree) : Place → Place → Prop
  | directory (l : Location) : Becomes t' (.directory l) (.directory l)
  | file {l : Location} {n : String} (b : ByteArray) {b' : ByteArray} :
      t'.get? (n :: l) = some (.file b') → Becomes t' (.file l n b) (.file l n b')
  | vacant {l : Location} {n : String} :
      t'.get? (n :: l) = none → Becomes t' (.vacant l n) (.vacant l n)
  | filled {l : Location} {n : String} {b : ByteArray} :
      t'.get? (n :: l) = some (.file b) → Becomes t' (.vacant l n) (.file l n b)
  | made {l : Location} {n : String} :
      t'.get? (n :: l) = some .directory → Becomes t' (.vacant l n) (.directory (n :: l))

theorem walkFrom_becomes (h : Keeps t t') {p q : Place} (hpq : Becomes t' p q)
    {follow follow' : Location → List Component → Except FileFault Place}
    (hfollow : ∀ l cs, follow l cs = .ok p → follow' l cs = .ok q)
    {l : Location} {cs : List Component} (hp : t.walkFrom base follow l cs = .ok p) :
    t'.walkFrom base follow' l cs = .ok q := by
  suffices Walks t' base follow' l cs q from this.walkFrom
  replace hp := walks_of_walkFrom hp
  induction hp with
  | done =>
      cases hpq
      exact .done _
  | root hbase _ ih => exact .root hbase (ih hpq hfollow)
  | here _ ih => exact .here (ih hpq hfollow)
  | up hbase _ ih => exact .up hbase (ih hpq hfollow)
  | vacant _ hcs =>
      -- what may have changed there since is decided only at the last name
      subst hcs
      cases hpq with
      | vacant hn => exact .vacant hn rfl
      | filled hn => exact .file hn rfl
      | made hn => exact .enter hn (.done _)
  | enter hget _ ih => exact .enter (h.entry hget (by simp)) (ih hpq hfollow)
  | file _ hcs =>
      cases hpq with
      | file _ hn => exact .file hn hcs
  | link hget hp => exact .link (h.entry hget (by simp)) (hfollow _ _ hp)

theorem walk_becomes (h : Keeps t t') {p q : Place} (hpq : Becomes t' p q) {links : Nat}
    {l : Location} {cs : List Component} (hp : t.walk base links l cs = .ok p) :
    t'.walk base links l cs = .ok q := by
  induction links generalizing l cs with
  | zero =>
      unfold walk at hp ⊢
      exact walkFrom_becomes h hpq (fun _ _ hf => by cases hf) hp
  | succ links ih => exact walkFrom_becomes h hpq (fun _ _ hf => ih hf) hp

theorem directory_ok_iff {cs : List Component} {l : Location} :
    t.directory cs = .ok l ↔ t.walk none maxLinks t.here cs = .ok (.directory l) := by
  unfold directory
  rw [bind_ok_iff]
  constructor
  · rintro ⟨p, hp, hl⟩
    cases p with
    | directory k =>
        cases hl
        exact hp
    | file => cases hl
    | vacant => cases hl
  · intro h
    exact ⟨_, h, rfl⟩

theorem Keeps.directory (h : Keeps t t') {cs : List Component} {l : Location}
    (hl : t.directory cs = .ok l) : t'.directory cs = .ok l := by
  rw [directory_ok_iff] at hl ⊢
  rw [h.here]
  exact walk_becomes h (.directory l) hl

theorem Keeps.beneath (h : Keeps t t') {l : Location} {name : String} {p q : Place}
    (hpq : Becomes t' p q) (hp : t.beneath l name = .ok p) : t'.beneath l name = .ok q :=
  walk_becomes h hpq hp

/-! What a walk ends at. -/

/-- A walk within a directory stays there, and finds what the tree has. -/
def Ends (t : FileTree) (base : Option Location) (p : Place) : Prop :=
  p.At t ∧ ∀ b ∈ base, p.Within b

theorem walkFrom_ends {p : Place}
    {follow : Location → List Component → Except FileFault Place}
    (hfollow : ∀ l cs, (∀ b ∈ base, b <:+ l) → follow l cs = .ok p → Ends t base p)
    {l : Location} {cs : List Component} (hl : ∀ b ∈ base, b <:+ l)
    (hp : t.walkFrom base follow l cs = .ok p) : Ends t base p := by
  replace hp := walks_of_walkFrom hp
  induction hp with
  | done => exact ⟨trivial, hl⟩
  | root hbase _ ih => exact ih hfollow (by simp [hbase])
  | here _ ih => exact ih hfollow hl
  | @up l _ _ hbase _ ih =>
      refine ih hfollow fun b hb => ?_
      have hne : b ≠ l := by
        rintro rfl
        exact hbase hb
      cases l with
      | nil => exact absurd (List.suffix_nil.mp (hl b hb)) hne
      | cons n l => exact (List.suffix_cons_iff.mp (hl b hb)).resolve_left hne
  | vacant hget => exact ⟨hget, hl⟩
  | enter _ _ ih => exact ih hfollow fun b hb => (hl b hb).trans (List.suffix_cons _ _)
  | file hget => exact ⟨hget, hl⟩
  | link _ hp => exact hfollow _ _ hl hp

theorem walk_ends {p : Place} {links : Nat} {l : Location} {cs : List Component}
    (hl : ∀ b ∈ base, b <:+ l) (hp : t.walk base links l cs = .ok p) : Ends t base p := by
  induction links generalizing l cs with
  | zero =>
      unfold walk at hp
      exact walkFrom_ends (fun _ _ _ hf => by cases hf) hl hp
  | succ links ih => exact walkFrom_ends (fun _ _ hl hf => ih hl hf) hl hp

theorem beneath_ends {l : Location} {name : String} {p : Place} (hp : t.beneath l name = .ok p) :
    p.At t ∧ p.Within l := by
  have hl : ∀ b ∈ some l, b <:+ l := by
    rintro b ⟨⟩
    exact List.suffix_rfl
  obtain ⟨hat, hwithin⟩ := walk_ends hl hp
  exact ⟨hat, hwithin l rfl⟩

/-! One more component. -/

theorem walkFrom_concat {c : Component} {k : Location} {q : Place}
    (hq : ∀ follow, t.walkFrom base follow k [c] = .ok q)
    {follow : Location → List Component → Except FileFault Place}
    (hfollow : ∀ l cs, follow l cs = .ok (.directory k) → follow l (cs ++ [c]) = .ok q)
    {l : Location} {cs : List Component} (h : t.walkFrom base follow l cs = .ok (.directory k)) :
    t.walkFrom base follow l (cs ++ [c]) = .ok q := by
  suffices Walks t base follow l (cs ++ [c]) q from this.walkFrom
  generalize hp : Place.directory k = p at h
  replace h := walks_of_walkFrom h
  induction h with
  | done =>
      cases hp
      exact walks_of_walkFrom (hq follow)
  | root hbase _ ih => exact .root hbase (ih hp)
  | here _ ih => exact .here (ih hp)
  | up hbase _ ih => exact .up hbase (ih hp)
  | vacant | file => cases hp
  | enter hget _ ih => exact .enter hget (ih hp)
  | link hget hlink =>
      subst hp
      exact .link hget (by simpa using hfollow _ _ hlink)

theorem walk_concat {c : Component} {k : Location} {q : Place}
    (hq : ∀ follow, t.walkFrom base follow k [c] = .ok q) {links : Nat} {l : Location}
    {cs : List Component} (h : t.walk base links l cs = .ok (.directory k)) :
    t.walk base links l (cs ++ [c]) = .ok q := by
  induction links generalizing l cs with
  | zero =>
      unfold walk at h ⊢
      exact walkFrom_concat hq (fun _ _ hf => by cases hf) h
  | succ links ih => exact walkFrom_concat hq (fun _ _ hf => ih hf) h

theorem walkFrom_vacant {n : String} {k : Location} (hn : t.get? (n :: k) = none)
    (follow : Location → List Component → Except FileFault Place) :
    t.walkFrom base follow k [.name n] = .ok (.vacant k n) := by
  simp [walkFrom, hn]

/-- A walk goes through directories up to its last component. -/
theorem walkFrom_of_append {ds : List Component} (hds : ds ≠ [])
    {follow : Location → List Component → Except FileFault Place}
    (hfollow : ∀ l cs p, follow l (cs ++ ds) = .ok p → ∃ k, follow l cs = .ok (.directory k))
    {l : Location} {cs : List Component} {p : Place}
    (h : t.walkFrom base follow l (cs ++ ds) = .ok p) :
    ∃ k, t.walkFrom base follow l cs = .ok (.directory k) := by
  suffices ∃ k, Walks t base follow l cs (.directory k) from this.imp fun _ hk => hk.walkFrom
  replace h := walks_of_walkFrom h
  induction cs generalizing l with
  | nil => exact ⟨l, .done l⟩
  | cons c cs ih =>
      rw [List.cons_append] at h
      cases h with
      | root hbase h => exact (ih h).imp fun _ hk => .root hbase hk
      | here h => exact (ih h).imp fun _ hk => .here hk
      | up hbase h => exact (ih h).imp fun _ hk => .up hbase hk
      | vacant _ hcs | file _ hcs => exact absurd (List.append_eq_nil_iff.mp hcs).2 hds
      | enter hget h => exact (ih h).imp fun _ hk => .enter hget hk
      | link hget hlink =>
          rw [← List.append_assoc] at hlink
          exact (hfollow _ _ _ hlink).imp fun _ hk => .link hget hk

theorem walk_of_append {ds : List Component} (hds : ds ≠ []) {links : Nat} {l : Location}
    {cs : List Component} {p : Place} (h : t.walk base links l (cs ++ ds) = .ok p) :
    ∃ k, t.walk base links l cs = .ok (.directory k) := by
  induction links generalizing l cs p with
  | zero =>
      unfold walk at h ⊢
      exact walkFrom_of_append hds (fun _ _ _ hf => by cases hf) h
  | succ links ih =>
      refine walkFrom_of_append hds ?_ h
      intro l cs p hf
      exact ih hf

/-- A directory is found by the path that ends in a single dot as well. -/
theorem directory_asWritten {path : String} {d : Location}
    (h : t.directory (FilePath.components path) = .ok d) :
    t.directory (FilePath.asWritten path) = .ok d := by
  unfold FilePath.asWritten
  split
  · rw [directory_ok_iff] at h ⊢
    exact walk_concat (fun _ => rfl) h
  · rwa [List.append_nil]

end FileTree

end ZonedAccessors
