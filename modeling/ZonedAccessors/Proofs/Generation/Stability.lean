import ZonedAccessors.Proofs.Generation.Effect

/-!
Runs after a run that succeeded: the output holds the source of the schema, and nothing is written
again.
-/

namespace ZonedAccessors.Generation

open FilePath (components)
open FileTree

variable {t t' : FileTree} {path text parent name : String} {l : Location} {n : String}
  {b : ByteArray}

theorem fromUTF8?_toUTF8 (s : String) : String.fromUTF8? s.toUTF8 = some s := by
  have hvalid : s.toUTF8.IsValidUTF8 := s.isValidUTF8
  simp only [String.fromUTF8?, dif_pos hvalid]
  rfl

/-! What a written tree holds. -/

theorem Wrote.get?_eq (h : Wrote parent name l n b t t') {k : Location} {e : Entry}
    (hk : t.get? k = some e) (hne : k ≠ n :: l) : t'.get? k = some e := by
  rcases h.entry k hne with heq | ⟨hnone, -⟩
  · rw [heq, hk]
  · rw [hk] at hnone
    cases hnone

theorem Wrote.keeps (h : Wrote parent name l n b t t') : Keeps t t' := by
  refine ⟨h.here, fun {k e} hk he => h.get?_eq hk ?_⟩
  rintro rfl
  obtain ⟨b', rfl⟩ := h.before e hk
  exact he b' rfl

theorem Wrote.readFile_self (h : Wrote parent name l n text.toUTF8 t t')
    (hsplit : FilePath.split path = some (parent, name)) :
    (readFile disk path t').1 = .ok text := by
  obtain ⟨d, hd, -, hbeneath⟩ := h.beneath
  exact readFile_ok_iff.mpr ⟨parent, name, d, _, hsplit, hd, readIn_ok_iff.mpr ⟨l, n, hbeneath⟩,
    fromUTF8?_toUTF8 text⟩

theorem Wrote.readFile_of_ne (h : Wrote parent name l n b t t')
    (hne : t.denoted path ≠ some (l, n)) (hread : (readFile disk path t).1 = .ok text) :
    (readFile disk path t').1 = .ok text := by
  obtain ⟨parent', name', d, b', hsplit, hd, hb, htext⟩ := readFile_ok_iff.mp hread
  obtain ⟨k, m, hfile⟩ := readIn_ok_iff.mp hb
  have hother : m :: k ≠ n :: l := by
    rintro heq
    cases heq
    exact hne (denoted_of_file hsplit hd hfile)
  have hthere : t.get? (m :: k) = some (.file b') := (beneath_ends hfile).1
  have hbeneath := h.keeps.beneath (.file b' (h.get?_eq hthere hother)) hfile
  exact readFile_ok_iff.mpr ⟨parent', name', d, b', hsplit, h.keeps.directory hd,
    readIn_ok_iff.mpr ⟨k, m, hbeneath⟩, htext⟩

/-! Running again. -/

theorem run_upToDate {r : Request} {source out : String}
    (hsource : sourceAt t r.schema = .ok source) (hout : r.out = some out)
    (hread : (readFile disk out t).1 = .ok source) :
    (run disk r t).1.result = .ok (.upToDate out) ∧ (run disk r t).2 = t := by
  obtain ⟨hresult, htree⟩ := run_of_sourceAt_ok hsource
  have hheld : present (readFile disk out t).1 = .ok (some source) := present_ok_some_iff.mpr hread
  have hupdate : update disk out r.check source t =
      (⟨[.upToDate out], .ok (.upToDate out)⟩, t) := by
    unfold update
    simp only [readExisting, bind_apply, pure_apply, readFile_tree, hheld, if_true]
  rw [hresult, htree]
  unfold deliver
  simp only [hout, hupdate, and_self]

/-- The source is handed back and not written. -/
def Request.withoutOutput (r : Request) : Request := ⟨r.schema, none, r.check⟩

theorem run_rendered {r : Request} {source : String} (hsource : sourceAt t r.schema = .ok source) :
    (run disk r.withoutOutput t).1.result = .ok (.rendered source) :=
  (run_of_sourceAt_ok (r := r.withoutOutput) hsource).1

/-- The runs of some requests, one after the other. -/
def runs (rs : List Request) : StateM FileTree (List (Report Outcome)) := rs.mapM (run disk)

theorem runs_upToDate {schema source out : String} (hsource : sourceAt t schema = .ok source)
    (hread : (readFile disk out t).1 = .ok source) {rs : List Request}
    (hrs : ∀ r ∈ rs, r.schema = schema ∧ r.out = some out) :
    (runs rs t).1.map (·.result) = rs.map (fun _ => .ok (.upToDate out)) ∧ (runs rs t).2 = t := by
  unfold runs
  induction rs with
  | nil => exact ⟨rfl, rfl⟩
  | cons r rs ih =>
      obtain ⟨rfl, hout⟩ := hrs r (by simp)
      obtain ⟨hresult, htree⟩ := run_upToDate hsource hout hread
      obtain ⟨hresults, hsame⟩ := ih fun q hq => hrs q (by simp [hq])
      simp only [List.mapM_cons, bind_apply, pure_apply, htree, List.map_cons, hresult, hresults,
        hsame, and_self]

theorem run_stable {r : Request} {out : String} {o : Outcome} {t : FileTree}
    (hout : r.out = some out) (hne : t.denoted r.schema ≠ t.denoted out)
    (hrun : (run disk r t).1.result = .ok o) :
    ∃ source, (run disk r.withoutOutput t).1.result = .ok (.rendered source) ∧
      (readFile disk out (run disk r t).2).1 = .ok source ∧
      ∀ rs : List Request, (∀ q ∈ rs, q.schema = r.schema ∧ q.out = r.out) →
        (runs rs (run disk r t).2).1.map (·.result) = rs.map (fun _ => .ok (.upToDate out)) ∧
        (runs rs (run disk r t).2).2 = (run disk r t).2 := by
  rcases run_cases r t with ⟨⟨f, hresult⟩, -⟩ | ⟨source, -, hnone, -⟩ |
    ⟨source, out', hsource, hout', hread, -, htree⟩ |
    ⟨source, out', hsource, hout', -, hresult, htree⟩
  · rw [hrun] at hresult
    cases hresult
  · rw [hout] at hnone
    cases hnone
  · obtain rfl : out = out' := Option.some.inj (hout.symm.trans hout')
    rw [htree, hout]
    exact ⟨source, run_rendered hsource, hread, fun rs hrs =>
      runs_upToDate hsource hread hrs⟩
  · obtain rfl : out = out' := Option.some.inj (hout.symm.trans hout')
    have hwrite : (writeFile disk out source t).1 = .ok () := by
      rw [hresult] at hrun
      cases h : (writeFile disk out source t).1 with
      | error f =>
          rw [h] at hrun
          cases hrun
      | ok u => rfl
    obtain ⟨parent, name, l, n, hsplit, hdenoted, hwrote⟩ := writeFile_wrote hwrite
    rw [hdenoted] at hne
    rw [htree, hout]
    have hread := hwrote.readFile_self hsplit
    -- the schema is another file, so it is still read and rendered to the same source
    have hagain : sourceAt (writeFile disk out source t).2 r.schema = .ok source := by
      obtain ⟨text, htext, hof⟩ := bind_ok_iff.mp hsource
      exact bind_ok_iff.mpr ⟨text, hwrote.readFile_of_ne hne htext, hof⟩
    exact ⟨source, run_rendered hsource, hread, fun rs hrs =>
      runs_upToDate hagain hread hrs⟩

def logSchema : String := "[[types]]\nname = \"Log\"\n[[types.fields]]\nname = \"x\"\n"

def logTree : FileTree :=
  FileTree.initial.put FileTree.initial.here "s.toml" (.file logSchema.toUTF8)

def logRequest (check : Bool) : Request := ⟨"s.toml", some "gen/../gen/log.rs", check⟩

/-- The way to the output goes up from a directory that the first run makes. -/
theorem run_stable_missing_directory :
    logTree.denoted (logRequest false).schema ≠ logTree.denoted "gen/../gen/log.rs" ∧
    ∃ source, (run disk (logRequest false).withoutOutput logTree).1.result =
        .ok (.rendered source) ∧
      (readFile disk "gen/../gen/log.rs" (run disk (logRequest false) logTree).2).1 = .ok source ∧
      (runs [logRequest true, logRequest false] (run disk (logRequest false) logTree).2).1.map
        (·.result) = [.ok (.upToDate "gen/../gen/log.rs"), .ok (.upToDate "gen/../gen/log.rs")] ∧
      (runs [logRequest true, logRequest false] (run disk (logRequest false) logTree).2).2 =
        (run disk (logRequest false) logTree).2 := by
  have hne : logTree.denoted (logRequest false).schema ≠ logTree.denoted "gen/../gen/log.rs" := by
    decide +kernel
  have hok : (run disk (logRequest false) logTree).1.result.isOk = true := by decide +kernel
  have hagain : ∀ q ∈ [logRequest true, logRequest false],
      q.schema = (logRequest false).schema ∧ q.out = (logRequest false).out := by decide
  obtain ⟨o, hrun⟩ := exists_of_isOk hok
  have hout : (logRequest false).out = some "gen/../gen/log.rs" := rfl
  obtain ⟨source, hsource, hread, hruns⟩ := run_stable hout hne hrun
  obtain ⟨hresults, hsame⟩ := hruns [logRequest true, logRequest false] hagain
  exact ⟨hne, source, hsource, hread, hresults, hsame⟩

end ZonedAccessors.Generation
