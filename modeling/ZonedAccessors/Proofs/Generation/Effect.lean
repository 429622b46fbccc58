import ZonedAccessors.Generation.Run
import ZonedAccessors.Proofs.Files.Making

/-!
What a generation run does to the files: it writes one file, makes the directories before it, and
leaves everything else alone.
-/

namespace ZonedAccessors.FileTree

open FilePath (components asWritten)

variable {α β : Type}

theorem bind_apply (x : StateM FileTree α) (f : α → StateM FileTree β) (t : FileTree) :
    (x >>= f) t = f (x t).1 (x t).2 := rfl

theorem pure_apply (a : α) (t : FileTree) : (pure a : StateM FileTree α) t = (a, t) := rfl

theorem openDirectory_apply (path : String) (t : FileTree) :
    disk.openDirectory path t = (t.directory (components path), t) := rfl

theorem readIn_apply (d : Location) (name : String) (t : FileTree) :
    disk.readIn d name t = (t.readIn d name, t) := rfl

theorem writeIn_apply (d : Location) (name : String) (b : ByteArray) (t : FileTree) :
    disk.writeIn d name b t = t.written (t.writeIn d name b) := rfl

theorem makeDirectories_apply (path : String) (t : FileTree) :
    disk.makeDirectories path t = ((t.makeDirectories path).2, (t.makeDirectories path).1) := rfl

/-- What a file holds, from its bytes to the place they are at. -/
theorem readIn_ok_iff {t : FileTree} {d : Location} {name : String} {b : ByteArray} :
    t.readIn d name = .ok b ↔ ∃ l n, t.beneath d name = .ok (.file l n b) := by
  unfold readIn
  rw [bind_ok_iff]
  constructor
  · rintro ⟨p, hp, hb⟩
    cases p with
    | file l n b' =>
        cases hb
        exact ⟨l, n, hp⟩
    | directory => cases hb
    | vacant => cases hb
  · rintro ⟨l, n, h⟩
    exact ⟨_, h, rfl⟩

theorem writeIn_ok_iff {t t' : FileTree} {d : Location} {name : String} {b : ByteArray} :
    t.writeIn d name b = .ok t' ↔ ∃ l n, t' = t.put l n (.file b) ∧
      (t.beneath d name = .ok (.vacant l n) ∨ ∃ b', t.beneath d name = .ok (.file l n b')) := by
  unfold writeIn
  rw [bind_ok_iff]
  constructor
  · rintro ⟨p, hp, hb⟩
    cases p with
    | file l n b' =>
        cases hb
        exact ⟨l, n, rfl, .inr ⟨b', hp⟩⟩
    | vacant l n =>
        cases hb
        exact ⟨l, n, rfl, .inl hp⟩
    | directory => cases hb
  · rintro ⟨l, n, rfl, h | ⟨b', h⟩⟩
    · exact ⟨_, h, rfl⟩
    · exact ⟨_, h, rfl⟩

end ZonedAccessors.FileTree

namespace ZonedAccessors.Generation

open FilePath (Component components asWritten)
open FileTree

variable {t t' : FileTree} {path text : String}

/-! Reading. -/

theorem readFile_tree (path : String) (t : FileTree) : (readFile disk path t).2 = t := by
  unfold readFile
  cases FilePath.split path with
  | none => rfl
  | some parts =>
      obtain ⟨parent, name⟩ := parts
      simp only [bind_apply, openDirectory_apply]
      cases t.directory (components parent) with
      | error e => rfl
      | ok d =>
          simp only [bind_apply, readIn_apply]
          cases t.readIn d name with
          | error e => rfl
          | ok b =>
              cases h : String.fromUTF8? b <;> simp only [h, pure_apply]

theorem readFile_ok_iff : (readFile disk path t).1 = .ok text ↔
    ∃ parent name d b, FilePath.split path = some (parent, name) ∧
      t.directory (components parent) = .ok d ∧ t.readIn d name = .ok b ∧
      String.fromUTF8? b = some text := by
  unfold readFile
  constructor
  · intro h
    cases hsplit : FilePath.split path with
    | none =>
        simp only [hsplit] at h
        cases h
    | some parts =>
        obtain ⟨parent, name⟩ := parts
        simp only [hsplit, bind_apply, openDirectory_apply] at h
        cases hd : t.directory (components parent) with
        | error e =>
            simp only [hd] at h
            cases h
        | ok d =>
            simp only [hd, bind_apply, readIn_apply] at h
            cases hb : t.readIn d name with
            | error e =>
                simp only [hb] at h
                cases h
            | ok b =>
                simp only [hb] at h
                cases htext : String.fromUTF8? b with
                | none =>
                    simp only [htext] at h
                    cases h
                | some text' =>
                    simp only [htext] at h
                    cases h
                    exact ⟨parent, name, d, b, rfl, hd, hb, htext⟩
  · rintro ⟨parent, name, d, b, hsplit, hd, hb, htext⟩
    simp only [hsplit, bind_apply, openDirectory_apply, hd, readIn_apply, hb, htext, pure_apply]

/-! Writing. -/

/-- A file was written below the directories that its path asks for. -/
theorem writeFile_cases (path text : String) (t : FileTree) :
    ((∃ f, (writeFile disk path text t).1 = .error f) ∧
      ((writeFile disk path text t).2 = t ∨
        ∃ parent name, FilePath.split path = some (parent, name) ∧
          (writeFile disk path text t).2 = (t.makeDirectories parent).1)) ∨
    ((writeFile disk path text t).1 = .ok () ∧
      ∃ parent name d, FilePath.split path = some (parent, name) ∧
        (t.makeDirectories parent).1.directory (components parent) = .ok d ∧
        (t.makeDirectories parent).1.writeIn d name text.toUTF8 =
          .ok (writeFile disk path text t).2) := by
  unfold writeFile
  cases hsplit : FilePath.split path with
  | none => exact .inl ⟨⟨_, rfl⟩, .inl rfl⟩
  | some parts =>
      obtain ⟨parent, name⟩ := parts
      simp only [bind_apply, makeDirectories_apply]
      cases (t.makeDirectories parent).2 with
      | error e => exact .inl ⟨⟨_, rfl⟩, .inr ⟨parent, name, rfl, rfl⟩⟩
      | ok u =>
          simp only [bind_apply, openDirectory_apply]
          cases hd : (t.makeDirectories parent).1.directory (components parent) with
          | error e => exact .inl ⟨⟨_, rfl⟩, .inr ⟨parent, name, rfl, rfl⟩⟩
          | ok d =>
              simp only [bind_apply, writeIn_apply]
              cases hw : (t.makeDirectories parent).1.writeIn d name text.toUTF8 with
              | error e => exact .inl ⟨⟨_, rfl⟩, .inr ⟨parent, name, rfl, rfl⟩⟩
              | ok t' => exact .inr ⟨rfl, parent, name, d, rfl, hd, hw⟩

theorem present_ok_some_iff {x : Except Failure String} :
    present x = .ok (some text) ↔ x = .ok text := by
  unfold present
  split
  · simp
  · simp
  · simp

/-- The ways an update goes: it fails or finds the text there, and then leaves the tree, or it
writes. -/
theorem update_cases (out : String) (check : Bool) (source : String) (t : FileTree) :
    ((∃ f, (update disk out check source t).1.result = .error f) ∧
      (update disk out check source t).2 = t) ∨
    ((update disk out check source t).1.result = .ok (.upToDate out) ∧
      (readFile disk out t).1 = .ok source ∧ (update disk out check source t).2 = t) ∨
    (check = false ∧
      (update disk out check source t).2 = (writeFile disk out source t).2 ∧
      (update disk out check source t).1.result =
        (writeFile disk out source t).1.map fun _ => .written out) := by
  unfold update
  simp only [readExisting, bind_apply, pure_apply, readFile_tree]
  cases hp : present (readFile disk out t).1 with
  | error f => exact .inl ⟨⟨f, rfl⟩, rfl⟩
  | ok held =>
      simp only
      by_cases hheld : held = some source
      · subst hheld
        rw [if_pos rfl]
        exact .inr (.inl ⟨rfl, present_ok_some_iff.mp hp, rfl⟩)
      · rw [if_neg hheld]
        cases check with
        | true => exact .inl ⟨⟨_, rfl⟩, rfl⟩
        | false =>
            rw [if_neg (by simp), bind_apply]
            refine .inr (.inr ⟨rfl, ?_⟩)
            cases (writeFile disk out source t).1 with
            | error f => exact ⟨rfl, rfl⟩
            | ok u => exact ⟨rfl, rfl⟩

/-! The source of a schema. -/

def sourceOfText (path text : String) : Except Failure String :=
  match Schema.ofText text with
  | .error e => .error (.schema path e)
  | .ok s =>
      match s.render with
      | .error e => .error (.declaration path e)
      | .ok source => .ok source

/-- What the schema at a path is rendered to. -/
def sourceAt (t : FileTree) (path : String) : Except Failure String :=
  (readFile disk path t).1 >>= sourceOfText path

theorem run_of_sourceAt_error {r : Request} {f : Failure} (h : sourceAt t r.schema = .error f) :
    (run disk r t).1.result = .error f ∧ (run disk r t).2 = t := by
  unfold sourceAt at h
  unfold run loadSchema
  simp only [bind_apply]
  cases hread : (readFile disk r.schema t).1 with
  | error e =>
      rw [hread] at h
      cases h
      exact ⟨rfl, readFile_tree _ t⟩
  | ok text =>
      rw [hread] at h
      change sourceOfText r.schema text = .error f at h
      unfold sourceOfText at h
      simp only
      cases hs : Schema.ofText text with
      | error e =>
          simp only [hs] at h
          cases h
          exact ⟨rfl, readFile_tree _ t⟩
      | ok s =>
          simp only [hs] at h
          simp only [pure_apply]
          cases hrender : s.render with
          | error e =>
              simp only [hrender] at h
              cases h
              exact ⟨rfl, readFile_tree _ t⟩
          | ok source =>
              simp only [hrender] at h
              cases h

theorem run_of_sourceAt_ok {r : Request} {source : String} (h : sourceAt t r.schema = .ok source) :
    (run disk r t).1.result = (deliver disk r source t).1.result ∧
      (run disk r t).2 = (deliver disk r source t).2 := by
  obtain ⟨text, hread, h⟩ := bind_ok_iff.mp h
  unfold sourceOfText at h
  cases hs : Schema.ofText text with
  | error e =>
      simp only [hs] at h
      cases h
  | ok s =>
      simp only [hs] at h
      cases hrender : s.render with
      | error e =>
          simp only [hrender] at h
          cases h
      | ok source' =>
          simp only [hrender] at h
          cases h
          unfold run loadSchema
          constructor <;>
            simp only [bind_apply, hread, readFile_tree, hs, pure_apply, hrender]

/-- The ways a run goes: it ends before anything is written, or it writes. -/
theorem run_cases (r : Request) (t : FileTree) :
    ((∃ f, (run disk r t).1.result = .error f) ∧ (run disk r t).2 = t) ∨
    (∃ source, sourceAt t r.schema = .ok source ∧ r.out = none ∧
      (run disk r t).1.result = .ok (.rendered source) ∧ (run disk r t).2 = t) ∨
    (∃ source out, sourceAt t r.schema = .ok source ∧ r.out = some out ∧
      (readFile disk out t).1 = .ok source ∧
      (run disk r t).1.result = .ok (.upToDate out) ∧ (run disk r t).2 = t) ∨
    (∃ source out, sourceAt t r.schema = .ok source ∧ r.out = some out ∧ r.check = false ∧
      (run disk r t).1.result = ((writeFile disk out source t).1.map fun _ => .written out) ∧
      (run disk r t).2 = (writeFile disk out source t).2) := by
  cases hsource : sourceAt t r.schema with
  | error f =>
      obtain ⟨hresult, htree⟩ := run_of_sourceAt_error hsource
      exact .inl ⟨⟨f, hresult⟩, htree⟩
  | ok source =>
      obtain ⟨hresult, htree⟩ := run_of_sourceAt_ok hsource
      rw [hresult, htree]
      unfold deliver
      cases r.out with
      | none => exact .inr (.inl ⟨source, rfl, rfl, rfl, rfl⟩)
      | some out =>
          rcases update_cases out r.check source t with h | ⟨hr, hread, ht⟩ | ⟨hcheck, ht, hr⟩
          · exact .inl h
          · exact .inr (.inr (.inl ⟨source, out, rfl, rfl, hread, hr, ht⟩))
          · exact .inr (.inr (.inr ⟨source, out, rfl, rfl, hcheck, hr, ht⟩))

/-! What becomes of the tree. -/

/-- Nothing but directories is new, and nothing but directories stands in them. -/
structure Spares (t t' : FileTree) : Prop where
  here : t'.here = t.here
  entry : ∀ k, t'.get? k = t.get? k ∨ t.get? k = none ∧ t'.get? k = some .directory
  beneath : t.Grounded → ∀ k l e, t.get? k = none → t'.get? k = some .directory → k <:+ l →
    t'.get? l = some e → e = .directory

theorem Spares.refl (t : FileTree) : Spares t t := by
  refine ⟨rfl, fun _ => .inl rfl, fun _ k l e hnone hnew _ _ => ?_⟩
  rw [hnone] at hnew
  cases hnew

theorem spares_of_grows {cs : List Component} (h : Grows cs t t') : Spares t t' := by
  refine ⟨h.here, fun k => ?_, fun ht k l e hk _ hl he => h.get?_beneath ht hk hl he⟩
  rcases h.entry k with heq | ⟨hnone, hnew, -⟩
  · exact .inl heq
  · exact .inr ⟨hnone, hnew⟩

/-- The name in the parent directory now denotes the file `n` in `l`, beneath that directory, and the
file holds `b`. All else is as it was, but for directories that the way to the parent leads through. -/
structure Wrote (parent name : String) (l : Location) (n : String) (b : ByteArray)
    (t t' : FileTree) : Prop where
  here : t'.here = t.here
  beneath : ∃ d, t'.directory (components parent) = .ok d ∧ d <:+ l ∧
    t'.beneath d name = .ok (.file l n b)
  before : ∀ e, t.get? (n :: l) = some e → ∃ b, e = .file b
  entry : ∀ k, k ≠ n :: l → t'.get? k = t.get? k ∨ t.get? k = none ∧ t'.get? k = some .directory ∧
    ∃ cs, cs <+: asWritten parent ∧ t'.directory cs = .ok k

/-- Where a file is written, a file stood or nothing. -/
theorem keeps_write {l : Location} {n : String} {p : Place} (b : ByteArray) (hp : p.At t)
    (hplace : p = .vacant l n ∨ ∃ b', p = .file l n b') :
    Keeps t (t.put l n (.file b)) ∧ Becomes (t.put l n (.file b)) p (.file l n b) := by
  have hnew : (t.put l n (.file b)).get? (n :: l) = some (.file b) := by simp [get?_put]
  rcases hplace with rfl | ⟨b', rfl⟩
  · have hnone : t.get? (n :: l) = none := hp
    exact ⟨keeps_put _ (by simp [hnone]), .filled hnew⟩
  · have hfile : t.get? (n :: l) = some (.file b') := hp
    refine ⟨keeps_put _ fun e he => ⟨b', ?_⟩, .file b' hnew⟩
    rw [hfile] at he
    exact (Option.some.inj he).symm

theorem writeFile_wrote (h : (writeFile disk path text t).1 = .ok ()) :
    ∃ parent name l n, FilePath.split path = some (parent, name) ∧ t.denoted path = some (l, n) ∧
      Wrote parent name l n text.toUTF8 t (writeFile disk path text t).2 := by
  rcases writeFile_cases path text t with ⟨⟨f, hf⟩, -⟩ | ⟨-, parent, name, d, hsplit, hd, hw⟩
  · rw [hf] at h
    cases h
  obtain ⟨l, n, heq, hplace⟩ := writeIn_ok_iff.mp hw
  rw [heq]
  obtain ⟨p, hbeneath, hp⟩ : ∃ p, (t.makeDirectories parent).1.beneath d name = .ok p ∧
      (p = .vacant l n ∨ ∃ b', p = .file l n b') := by
    rcases hplace with hv | ⟨b', hf⟩
    · exact ⟨_, hv, .inl rfl⟩
    · exact ⟨_, hf, .inr ⟨b', rfl⟩⟩
  refine ⟨parent, name, l, n, hsplit, denoted_eq_some hsplit hd hbeneath hp, ?_⟩
  have hgrows := makeDirectories_grows t parent
  generalize (t.makeDirectories parent).1 = made at hgrows hd hbeneath
  obtain ⟨hat, hwithin⟩ := beneath_ends hbeneath
  obtain ⟨hkeeps, hbecomes⟩ := keeps_write text.toUTF8 hat hp
  have hunder : d <:+ l := by
    rcases hp with rfl | ⟨b', rfl⟩
    · exact hwithin
    · exact hwithin
  refine ⟨hgrows.here, ⟨d, hkeeps.directory hd, hunder, hkeeps.beneath hbecomes hbeneath⟩,
    fun e he => ?_, fun k hk => ?_⟩
  · have hmade := hgrows.get?_eq he
    rcases hp with rfl | ⟨b', rfl⟩
    · rw [show made.get? (n :: l) = none from hat] at hmade
      cases hmade
    · rw [show made.get? (n :: l) = some (.file b') from hat] at hmade
      exact ⟨b', (Option.some.inj hmade).symm⟩
  · rw [get?_put, if_neg hk]
    rcases hgrows.entry k with heq | ⟨hnone, hnew, cs, hcs, hdirectory⟩
    · exact .inl heq
    · exact .inr ⟨hnone, hnew, cs, hcs, hkeeps.directory hdirectory⟩

theorem writeFile_spares {f : Failure} (h : (writeFile disk path text t).1 = .error f) :
    Spares t (writeFile disk path text t).2 := by
  rcases writeFile_cases path text t with ⟨-, heq | ⟨parent, name, -, heq⟩⟩ | ⟨hok, -⟩
  · rw [heq]
    exact .refl t
  · rw [heq]
    exact spares_of_grows (makeDirectories_grows t parent)
  · rw [h] at hok
    cases hok

theorem run_effect (r : Request) (t : FileTree) :
    (r.out = none ∨ r.check = true ∨ (∃ out, (run disk r t).1.result = .ok (.upToDate out)) →
      (run disk r t).2 = t) ∧
    (∀ out, (run disk r t).1.result = .ok (.written out) → r.out = some out ∧
      ∃ parent name l n b, FilePath.split out = some (parent, name) ∧
        t.denoted out = some (l, n) ∧ Wrote parent name l n b t (run disk r t).2) ∧
    (∀ f, (run disk r t).1.result = .error f → Spares t (run disk r t).2) := by
  rcases run_cases r t with ⟨⟨f, hresult⟩, htree⟩ | ⟨source, -, -, hresult, htree⟩ |
    ⟨source, out, -, -, -, hresult, htree⟩ | ⟨source, out, -, hout, hcheck, hresult, htree⟩
  · rw [hresult, htree]
    exact ⟨fun _ => rfl, nofun, fun _ _ => .refl t⟩
  · rw [hresult, htree]
    exact ⟨fun _ => rfl, nofun, nofun⟩
  · rw [hresult, htree]
    exact ⟨fun _ => rfl, nofun, nofun⟩
  · rw [hresult, htree, hout, hcheck]
    cases hwrite : (writeFile disk out source t).1 with
    | error f =>
        refine ⟨?_, nofun, fun _ _ => writeFile_spares hwrite⟩
        rintro (h | h | ⟨out', h⟩)
        · cases h
        · cases h
        · cases h
    | ok u =>
        refine ⟨?_, fun out' h => ?_, nofun⟩
        · rintro (h | h | ⟨out', h⟩)
          · cases h
          · cases h
          · cases h
        · cases h
          obtain ⟨parent, name, l, n, hsplit, hdenoted, hwrote⟩ := writeFile_wrote hwrite
          exact ⟨rfl, parent, name, l, n, _, hsplit, hdenoted, hwrote⟩

end ZonedAccessors.Generation
