import ZonedAccessors.CommandLine.Execute
import ZonedAccessors.Proofs.Generation.Comparison

/-!
The program as a whole: what it prints, the code it ends with and what it does to the files follow
from how its arguments read and how the generation they ask for goes.
-/

namespace ZonedAccessors.CommandLine

open Generation (Request Outcome Failure sourceAt)
open FileTree (disk)

variable {t : FileTree} {arguments : List String} {r : Request} {x : Except Failure Outcome}

/-! A request that was read. -/

theorem exists_finish_of_finish {d : Draft} {o : Open} (h : finish d o = .ok (.generate r)) :
    ∃ d' : Draft, d'.finish = .ok r := by
  obtain ⟨d', -, h⟩ := bind_ok_iff.mp h
  obtain ⟨r', hr, h⟩ := bind_ok_iff.mp h
  cases h
  exact ⟨d', hr⟩

/-- Whatever else stands in the arguments, a request is made at their end. -/
theorem exists_finish_of_readWords {d : Draft} {o : Open} {ws : List Word}
    (h : readWords d o ws = .ok (.generate r)) : ∃ d' : Draft, d'.finish = .ok r := by
  induction ws generalizing d o with
  | nil => exact exists_finish_of_finish h
  | cons w ws ih =>
      cases w with
      | value text =>
          cases o with
          | awaiting s => exact ih h
          | none => cases h
          | given s value => cases h
      | setting s attached =>
          cases attached with
          | none =>
              obtain ⟨d', -, h⟩ := bind_ok_iff.mp h
              exact ih h
          | some text =>
              obtain ⟨d', -, h⟩ := bind_ok_iff.mp h
              obtain ⟨d'', -, h⟩ := bind_ok_iff.mp h
              exact ih h
      | check =>
          obtain ⟨d', -, h⟩ := bind_ok_iff.mp h
          obtain ⟨d'', -, h⟩ := bind_ok_iff.mp h
          exact ih h
      | help =>
          obtain ⟨d', -, h⟩ := bind_ok_iff.mp h
          cases h
      | version =>
          obtain ⟨d', -, h⟩ := bind_ok_iff.mp h
          cases h
      | surplus => cases h
      | unknown => cases h
      | endOfOptions =>
          cases ws with
          | nil => exact exists_finish_of_finish h
          | cons w ws => cases h

theorem Draft.out_of_finish {d : Draft} (h : d.finish = .ok r) (hcheck : r.check = true) :
    r.out.isSome = true := by
  unfold Draft.finish at h
  split at h
  · cases h
  · split at h
    · cases h
    · rename_i hout
      cases h
      rw [show d.check = true from hcheck] at hout
      simpa [Option.isSome_iff_ne_none] using hout

/-- What is to be checked has been named. -/
theorem out_of_read (h : read arguments = .ok (.generate r)) (hcheck : r.check = true) :
    r.out.isSome = true := by
  obtain ⟨d, hd⟩ := exists_finish_of_readWords h
  exact d.out_of_finish hd hcheck

/-! What a result is turned into. -/

theorem Exit.code_eq_zero_iff : (Exit.ofResult x).code = 0 ↔ x.isOk = true := by
  rcases x with f | ⟨_ | _ | _⟩ <;> simp [Exit.ofResult, Except.isOk, Except.toBool]

theorem Exit.code_eq_one_iff : (Exit.ofResult x).code = 1 ↔ x.isOk = false := by
  rcases x with f | ⟨_ | _ | _⟩ <;> simp [Exit.ofResult, Except.isOk, Except.toBool]

theorem Exit.printed_of_ne (h : ∀ source, x ≠ .ok (.rendered source)) :
    (Exit.ofResult x).printed = "" := by
  rcases x with f | ⟨source | _ | _⟩
  · rfl
  · exact absurd rfl (h source)
  · rfl
  · rfl

end ZonedAccessors.CommandLine

namespace ZonedAccessors.Generation

open FileTree (disk)

variable {t : FileTree} {r : Request} {source : String}

/-- A source is handed back just where no output is named and the schema has one. -/
theorem run_rendered_iff : (run disk r t).1.result = .ok (.rendered source) ↔
    r.out = none ∧ sourceAt t r.schema = .ok source := by
  constructor
  · intro h
    rcases run_cases r t with ⟨⟨f, hresult⟩, -⟩ | ⟨source', hsource, hout, hresult, -⟩ |
      ⟨_, _, -, -, -, hresult, -⟩ | ⟨source', out, -, -, -, hresult, -⟩
    all_goals rw [h] at hresult
    · cases hresult
    · cases hresult
      exact ⟨hout, hsource⟩
    · cases hresult
    · cases hwrite : (writeFile disk out source' t).1 <;> rw [hwrite] at hresult <;> cases hresult
  · rintro ⟨hout, hsource⟩
    obtain ⟨schema, out, check⟩ := r
    obtain rfl : out = none := hout
    rw [run_withoutOutput, hsource]
    rfl

end ZonedAccessors.Generation

namespace ZonedAccessors.CommandLine

open Generation (Request run sourceAt)
open FileTree (disk)

variable {t : FileTree} {arguments : List String} {r : Request}

theorem execute_generate (h : read arguments = .ok (.generate r)) :
    execute disk arguments t = (.ofResult (run disk r t).1.result, (run disk r t).2) := by
  unfold execute
  rw [h]
  rfl

/-- The program is its parts. Misuse ends with 2, and asking for help or the version with 0, before
any file is looked at; what is to be checked has been named; and a generation does to the files what
its run does, ends with 0 or 1 as the run succeeds or fails, and prints the source of the schema if
that is what was asked for, or nothing. -/
theorem execute_is_parts (arguments : List String) (t : FileTree) :
    (∀ misuse, read arguments = .error misuse → execute disk arguments t = (⟨2, ""⟩, t)) ∧
    (∀ command, read arguments = .ok command → command = .help ∨ command = .version →
      (execute disk arguments t).1.code = 0 ∧ (execute disk arguments t).2 = t) ∧
    ∀ r, read arguments = .ok (.generate r) →
      (r.check = true → r.out.isSome = true) ∧
      (execute disk arguments t).2 = (run disk r t).2 ∧
      ((execute disk arguments t).1.code = 0 ↔ (run disk r t).1.result.isOk = true) ∧
      ((execute disk arguments t).1.code = 1 ↔ (run disk r t).1.result.isOk = false) ∧
      (r.out = none → (run disk r t).1.result.isOk = true → ∃ source,
        sourceAt t r.schema = .ok source ∧ (run disk r t).1.result = .ok (.rendered source) ∧
        (execute disk arguments t).1.printed = source) ∧
      (r.out.isSome = true ∨ (run disk r t).1.result.isOk = false →
        (execute disk arguments t).1.printed = "") := by
  refine ⟨fun misuse h => ?_, fun command h hcommand => ?_, fun r h => ?_⟩
  · unfold execute
    rw [h]
    rfl
  · unfold execute
    rw [h]
    rcases hcommand with rfl | rfl <;> exact ⟨rfl, rfl⟩
  · rw [execute_generate h]
    refine ⟨out_of_read h, rfl, Exit.code_eq_zero_iff, Exit.code_eq_one_iff, fun hout hok => ?_,
      fun hquiet => ?_⟩
    · obtain ⟨schema, out, check⟩ := r
      obtain rfl : out = none := hout
      obtain ⟨source, hrendered⟩ := Generation.exists_rendered hok
      refine ⟨source, (Generation.run_rendered_iff.mp hrendered).2, hrendered, ?_⟩
      rw [hrendered]
      rfl
    · refine Exit.printed_of_ne fun source hsource => ?_
      rcases hquiet with hout | hfails
      · rw [(Generation.run_rendered_iff.mp hsource).1] at hout
        cases hout
      · rw [hsource] at hfails
        cases hfails

/-- A check of an output that is not there, and the same schema without an output. -/
theorem execute_is_parts_stale :
    (execute disk ["--schema", "s.toml", "--out=log.rs", "--check"] Generation.logTree).1.code = 1 ∧
    (execute disk ["--schema", "s.toml", "--out=log.rs", "--check"] Generation.logTree).1.printed = "" ∧
    ∃ source, sourceAt Generation.logTree "s.toml" = .ok source ∧
      (execute disk ["--schema=s.toml"] Generation.logTree).1.printed = source := by
  have hstale := (execute_is_parts ["--schema", "s.toml", "--out=log.rs", "--check"]
    Generation.logTree).2.2 ⟨"s.toml", some "log.rs", true⟩
    (toOption_eq_some_iff.mp (by decide +kernel))
  have hsource := (execute_is_parts ["--schema=s.toml"] Generation.logTree).2.2
    ⟨"s.toml", none, false⟩ (toOption_eq_some_iff.mp (by decide +kernel))
  have hfails : (run disk ⟨"s.toml", some "log.rs", true⟩ Generation.logTree).1.result.isOk =
      false := by
    decide +kernel
  have hok : (run disk ⟨"s.toml", none, false⟩ Generation.logTree).1.result.isOk = true := by
    decide +kernel
  obtain ⟨source, hat, -, hprinted⟩ := hsource.2.2.2.2.1 rfl hok
  exact ⟨hstale.2.2.2.1.mpr hfails, hstale.2.2.2.2.2 (.inl rfl), source, hat, hprinted⟩

end ZonedAccessors.CommandLine
