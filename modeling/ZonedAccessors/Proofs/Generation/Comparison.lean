import ZonedAccessors.Proofs.Generation.Stability

/-!
How a run compares its source with what the output holds, and what checking has in common with
writing.
-/

namespace ZonedAccessors.Generation

open FilePath (components)
open FileTree

variable {t : FileTree} {schema out parent name source : String} {d : Location} {b : ByteArray}

/-! The run without an output. -/

theorem run_withoutOutput (schema : String) (check : Bool) (t : FileTree) :
    (run disk ⟨schema, none, check⟩ t).1.result = (sourceAt t schema).map .rendered := by
  cases hsource : sourceAt t schema with
  | error f => exact (run_of_sourceAt_error (r := ⟨schema, none, check⟩) hsource).1
  | ok source => exact (run_of_sourceAt_ok (r := ⟨schema, none, check⟩) hsource).1

theorem sourceAt_of_rendered {check : Bool}
    (h : (run disk ⟨schema, none, check⟩ t).1.result = .ok (.rendered source)) :
    sourceAt t schema = .ok source := by
  rw [run_withoutOutput] at h
  cases hsource : sourceAt t schema with
  | error f =>
      rw [hsource] at h
      cases h
  | ok source' =>
      rw [hsource] at h
      cases h
      rfl

theorem exists_rendered {check : Bool}
    (h : (run disk ⟨schema, none, check⟩ t).1.result.isOk = true) :
    ∃ source, (run disk ⟨schema, none, check⟩ t).1.result = .ok (.rendered source) := by
  rw [run_withoutOutput] at h ⊢
  cases hsource : sourceAt t schema with
  | error f =>
      rw [hsource] at h
      cases h
  | ok source => exact ⟨source, rfl⟩

/-! The comparison. -/

theorem update_result (out : String) (check : Bool) (source : String) (t : FileTree) :
    (update disk out check source t).1.result =
      match present (readFile disk out t).1 with
      | .error f => .error f
      | .ok held =>
          if held = some source then .ok (.upToDate out)
          else if check then .error (.stale out)
          else (writeFile disk out source t).1.map fun _ => .written out := by
  unfold update
  simp only [readExisting, bind_apply, pure_apply, readFile_tree]
  cases present (readFile disk out t).1 with
  | error f => rfl
  | ok held =>
      simp only
      split
      · rfl
      · split
        · rfl
        · rw [bind_apply]
          cases (writeFile disk out source t).1 with
          | error f => rfl
          | ok u => rfl

theorem run_result (hsource : sourceAt t schema = .ok source) (out : String) (check : Bool) :
    (run disk ⟨schema, some out, check⟩ t).1.result =
      match present (readFile disk out t).1 with
      | .error f => .error f
      | .ok held =>
          if held = some source then .ok (.upToDate out)
          else if check then .error (.stale out)
          else (writeFile disk out source t).1.map fun _ => .written out :=
  (run_of_sourceAt_ok (r := ⟨schema, some out, check⟩) hsource).1.trans
    (update_result out check source t)

/-- Whatever keeps a file from being written is a fault at some path. -/
theorem writeFile_error {path text : String} {f : Failure}
    (h : (writeFile disk path text t).1 = .error f) : ∃ p fault, f = .file p fault := by
  unfold writeFile at h
  cases hsplit : FilePath.split path with
  | none =>
      simp only [hsplit] at h
      cases h
      exact ⟨_, _, rfl⟩
  | some parts =>
      obtain ⟨parent, name⟩ := parts
      simp only [hsplit, bind_apply, makeDirectories_apply] at h
      cases hmade : (t.makeDirectories parent).2 with
      | error e =>
          simp only [hmade] at h
          cases h
          exact ⟨_, _, rfl⟩
      | ok u =>
          simp only [hmade, bind_apply, openDirectory_apply] at h
          cases hd : (t.makeDirectories parent).1.directory (components parent) with
          | error e =>
              simp only [hd] at h
              cases h
              exact ⟨_, _, rfl⟩
          | ok d =>
              simp only [hd, bind_apply, writeIn_apply] at h
              cases hw : (t.makeDirectories parent).1.writeIn d name text.toUTF8 with
              | error e =>
                  simp only [hw] at h
                  cases h
                  exact ⟨_, _, rfl⟩
              | ok t' =>
                  simp only [hw] at h
                  cases h

/-- A checking run comes to what the other run comes to, or it finds the output out of date and the
other run goes on to write. -/
theorem run_check_agrees (schema out : String) (t : FileTree) :
    ((run disk ⟨schema, some out, true⟩ t).1.result = .ok (.upToDate out) ∧
        (run disk ⟨schema, some out, false⟩ t).1.result = .ok (.upToDate out) ∨
      (∃ f, (run disk ⟨schema, some out, true⟩ t).1.result = .error f ∧
        (run disk ⟨schema, some out, false⟩ t).1.result = .error f) ∨
      (run disk ⟨schema, some out, true⟩ t).1.result = .error (.stale out) ∧
        ∃ source, (run disk ⟨schema, none, false⟩ t).1.result = .ok (.rendered source) ∧
          ((writeFile disk out source t).1 = .ok () ∧
              (run disk ⟨schema, some out, false⟩ t).1.result = .ok (.written out) ∨
            ∃ path fault, (writeFile disk out source t).1 = .error (.file path fault) ∧
              (run disk ⟨schema, some out, false⟩ t).1.result = .error (.file path fault))) ∧
    ∀ check f, (run disk ⟨schema, none, check⟩ t).1.result = .error f →
      (run disk ⟨schema, some out, true⟩ t).1.result = .error f ∧
      (run disk ⟨schema, some out, false⟩ t).1.result = .error f := by
  simp only [run_withoutOutput]
  cases hsource : sourceAt t schema with
  | error f =>
      have hfails (check : Bool) :
          (run disk ⟨schema, some out, check⟩ t).1.result = .error f :=
        (run_of_sourceAt_error (r := ⟨schema, some out, check⟩) hsource).1
      refine ⟨.inr (.inl ⟨f, hfails true, hfails false⟩), fun _ f' hf => ?_⟩
      cases hf
      exact ⟨hfails true, hfails false⟩
  | ok source =>
      refine ⟨?_, fun _ _ hf => by cases hf⟩
      have hresult := run_result hsource out
      cases hread : present (readFile disk out t).1 with
      | error f =>
          simp only [hread] at hresult
          exact .inr (.inl ⟨f, hresult true, hresult false⟩)
      | ok held =>
          simp only [hread] at hresult
          by_cases hheld : held = some source
          · simp only [if_pos hheld] at hresult
            exact .inl ⟨hresult true, hresult false⟩
          · simp only [if_neg hheld] at hresult
            refine .inr (.inr ⟨hresult true, source, rfl, ?_⟩)
            have hwrites := hresult false
            cases hwrite : (writeFile disk out source t).1 with
            | ok u =>
                rw [hwrite] at hwrites
                exact .inl ⟨rfl, hwrites⟩
            | error f =>
                obtain ⟨path, fault, rfl⟩ := writeFile_error hwrite
                rw [hwrite] at hwrites
                exact .inr ⟨path, fault, rfl, hwrites⟩

/-! An output that is there already. -/

theorem beneath_file (h : t.get? (name :: d) = some (.file b)) :
    t.beneath d name = .ok (.file d name b) := by
  change t.walkFrom (some d) _ d [.name name] = _
  simp [walkFrom, h]

/-- Bytes that are no text are not compared with the source. -/
theorem readFile_of_file (hsplit : FilePath.split out = some (parent, name))
    (hd : t.directory (components parent) = .ok d) (hb : t.get? (name :: d) = some (.file b)) :
    (readFile disk out t).1 = match String.fromUTF8? b with
      | none => .error (.file out .notText)
      | some text => .ok text := by
  have hread : t.readIn d name = .ok b := readIn_ok_iff.mpr ⟨d, name, beneath_file hb⟩
  unfold readFile
  simp only [hsplit, bind_apply, openDirectory_apply, hd, readIn_apply, hread]
  cases String.fromUTF8? b with
  | none => rfl
  | some text => rfl

theorem writeFile_of_file (hsplit : FilePath.split out = some (parent, name))
    (hd : t.directory (components parent) = .ok d) (hb : t.get? (name :: d) = some (.file b))
    (text : String) :
    writeFile disk out text t = (.ok (), t.put d name (.file text.toUTF8)) := by
  have hwrite : t.writeIn d name text.toUTF8 = .ok (t.put d name (.file text.toUTF8)) :=
    writeIn_ok_iff.mpr ⟨d, name, rfl, .inr ⟨b, beneath_file hb⟩⟩
  unfold writeFile
  simp only [hsplit, bind_apply, makeDirectories_apply, makeDirectories_of_directory hd,
    openDirectory_apply, hd, writeIn_apply, hwrite]
  rfl

theorem fromUTF8?_of_valid (h : b.IsValidUTF8) :
    ∃ text, String.fromUTF8? b = some text ∧ text.toUTF8 = b :=
  ⟨String.fromUTF8 b h, by simp only [String.fromUTF8?, dif_pos h], rfl⟩

theorem fromUTF8?_of_invalid (h : ¬ b.IsValidUTF8) : String.fromUTF8? b = none := by
  simp only [String.fromUTF8?, dif_neg h]

theorem run_of_notText (hsource : sourceAt t schema = .ok source)
    (hsplit : FilePath.split out = some (parent, name))
    (hd : t.directory (components parent) = .ok d) (hb : t.get? (name :: d) = some (.file b))
    (hinvalid : ¬ b.IsValidUTF8) (check : Bool) :
    (run disk ⟨schema, some out, check⟩ t).1.result = .error (.file out .notText) := by
  rw [run_result hsource, readFile_of_file hsplit hd hb, fromUTF8?_of_invalid hinvalid]
  rfl

/-- Where the output is a file, its bytes decide what a run comes to: the source is left there, other
texts are replaced or out of date, and what is no text is a fault. -/
theorem run_over_file
    (hrendered : (run disk ⟨schema, none, false⟩ t).1.result = .ok (.rendered source))
    (hsplit : FilePath.split out = some (parent, name))
    (hd : t.directory (components parent) = .ok d) (hb : t.get? (name :: d) = some (.file b)) :
    (b = source.toUTF8 → ∀ check,
      (run disk ⟨schema, some out, check⟩ t).1.result = .ok (.upToDate out)) ∧
    (b ≠ source.toUTF8 → b.IsValidUTF8 →
      (run disk ⟨schema, some out, true⟩ t).1.result = .error (.stale out) ∧
      (run disk ⟨schema, some out, false⟩ t).1.result = .ok (.written out) ∧
      (run disk ⟨schema, some out, false⟩ t).2 = t.put d name (.file source.toUTF8)) ∧
    (¬ b.IsValidUTF8 → ∀ check,
      (run disk ⟨schema, some out, check⟩ t).1.result = .error (.file out .notText) ∧
      (run disk ⟨schema, some out, check⟩ t).2 = t) := by
  have hsource := sourceAt_of_rendered hrendered
  refine ⟨?_, fun hne hvalid => ?_, fun hinvalid check => ?_⟩
  · rintro rfl check
    refine (run_upToDate (r := ⟨schema, some out, check⟩) hsource rfl ?_).1
    rw [readFile_of_file hsplit hd hb, fromUTF8?_toUTF8]
  · obtain ⟨text, htext, htoUTF8⟩ := fromUTF8?_of_valid hvalid
    have hother : some text ≠ some source := by
      rintro ⟨⟩
      exact hne htoUTF8.symm
    have hread : present (readFile disk out t).1 = .ok (some text) := by
      rw [readFile_of_file hsplit hd hb, htext]
      rfl
    have hwrite := writeFile_of_file hsplit hd hb source
    have hwritten : (run disk ⟨schema, some out, false⟩ t).1.result = .ok (.written out) := by
      simp [run_result hsource, hread, hother, hwrite, Except.map]
    refine ⟨by simp [run_result hsource, hread, hother], hwritten, ?_⟩
    rcases run_cases ⟨schema, some out, false⟩ t with ⟨⟨f, hf⟩, -⟩ | ⟨_, -, hnone, -⟩ |
      ⟨_, _, -, -, -, hf, -⟩ | ⟨source', out', hsource', hout, -, -, htree⟩
    · rw [hwritten] at hf
      cases hf
    · cases hnone
    · rw [hwritten] at hf
      cases hf
    · cases hout
      obtain rfl : source = source' := by
        rw [hsource] at hsource'
        exact Except.ok.inj hsource'
      rw [htree, hwrite]
  · have hfault := run_of_notText hsource hsplit hd hb hinvalid check
    refine ⟨hfault, ?_⟩
    rcases run_cases ⟨schema, some out, check⟩ t with ⟨-, htree⟩ | ⟨_, -, -, -, htree⟩ |
      ⟨_, _, -, -, -, -, htree⟩ | ⟨source', out', hsource', hout, -, hf, -⟩
    · exact htree
    · exact htree
    · exact htree
    · cases hout
      rw [hfault, writeFile_of_file hsplit hd hb] at hf
      cases hf

/-- The schema beside an output that holds `b`. -/
def treeHolding (b : ByteArray) : FileTree := logTree.put logTree.here "log.rs" (.file b)

theorem run_over_file_text :
    ∃ source, (run disk ⟨"s.toml", none, false⟩ (treeHolding "// old".toUTF8)).1.result =
        .ok (.rendered source) ∧ "// old".toUTF8 ≠ source.toUTF8 ∧
      (run disk ⟨"s.toml", some "log.rs", true⟩ (treeHolding "// old".toUTF8)).1.result =
        .error (.stale "log.rs") ∧
      (run disk ⟨"s.toml", some "log.rs", false⟩ (treeHolding "// old".toUTF8)).1.result =
        .ok (.written "log.rs") ∧
      (run disk ⟨"s.toml", some "log.rs", false⟩ (treeHolding "// old".toUTF8)).2 =
        (treeHolding "// old".toUTF8).put logTree.here "log.rs" (.file source.toUTF8) := by
  have hok : (run disk ⟨"s.toml", none, false⟩ (treeHolding "// old".toUTF8)).1.result.isOk =
      true := by decide +kernel
  have hdirectory : (treeHolding "// old".toUTF8).directory (components ".") =
      .ok logTree.here := rfl
  have hfile : (treeHolding "// old".toUTF8).get? ("log.rs" :: logTree.here) =
      some (.file "// old".toUTF8) := by simp [treeHolding, get?_put]
  obtain ⟨source, hsource⟩ := exists_rendered hok
  have hsplit : FilePath.split "log.rs" = some (".", "log.rs") := by decide +kernel
  obtain ⟨hsame, htext, -⟩ := run_over_file hsource hsplit hdirectory hfile
  have hne : "// old".toUTF8 ≠ source.toUTF8 := by
    intro heq
    have hfails : (run disk ⟨"s.toml", some "log.rs", true⟩
        (treeHolding "// old".toUTF8)).1.result.isOk = false := by decide +kernel
    rw [hsame heq true] at hfails
    cases hfails
  exact ⟨source, hsource, hne, htext hne "// old".isValidUTF8⟩

/-- A byte that no text holds. -/
theorem run_over_byte :
    ∃ source, (run disk ⟨"s.toml", none, false⟩ (treeHolding ⟨#[255]⟩)).1.result =
        .ok (.rendered source) ∧
      FilePath.split "log.rs" = some (".", "log.rs") ∧
      (treeHolding ⟨#[255]⟩).directory (components ".") = .ok logTree.here ∧
      (treeHolding ⟨#[255]⟩).get? ("log.rs" :: logTree.here) = some (.file ⟨#[255]⟩) ∧
      ⟨#[255]⟩ ≠ source.toUTF8 ∧
      ∀ check, (run disk ⟨"s.toml", some "log.rs", check⟩ (treeHolding ⟨#[255]⟩)).1.result =
        .error (.file "log.rs" .notText) := by
  have hok : (run disk ⟨"s.toml", none, false⟩ (treeHolding ⟨#[255]⟩)).1.result.isOk = true := by
    decide +kernel
  have hsplit : FilePath.split "log.rs" = some (".", "log.rs") := by decide +kernel
  have hdirectory : (treeHolding ⟨#[255]⟩).directory (components ".") = .ok logTree.here := rfl
  have hfile : (treeHolding ⟨#[255]⟩).get? ("log.rs" :: logTree.here) = some (.file ⟨#[255]⟩) := by
    simp [treeHolding, get?_put]
  have hinvalid : ¬ ByteArray.IsValidUTF8 ⟨#[255]⟩ := by decide +kernel
  obtain ⟨source, hsource⟩ := exists_rendered hok
  refine ⟨source, hsource, hsplit, hdirectory, hfile, fun heq => ?_,
    run_of_notText (sourceAt_of_rendered hsource) hsplit hdirectory hfile hinvalid⟩
  rw [heq] at hinvalid
  exact hinvalid source.isValidUTF8

end ZonedAccessors.Generation
