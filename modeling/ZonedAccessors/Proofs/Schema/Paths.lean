import ZonedAccessors.Proofs.Accessor.Members
import ZonedAccessors.Proofs.Grammar.Follow.Edge
import ZonedAccessors.Proofs.Grammar.Operators
import ZonedAccessors.Proofs.Grammar.Structs

/-!
Paths with arguments where a schema puts them: a type behind `impl`, and a runtime before the names
of what it holds.
-/

namespace ZonedAccessors.Syntax

open Token Grammar

variable (known : Values)

/-- Behind `impl` the angle bracket of `<T>::A` would open parameters. -/
def TyPath.isTidyTarget (p : TyPath) : Bool := p.isTidy known && !startsGenerics p.tokens.placed

/-- In an expression colons stand before arguments. -/
def Path.isTidyRuntime (p : Path) : Bool := p.isTidy known && p.segments.all (Segment.fits true)

end ZonedAccessors.Syntax

namespace ZonedAccessors.Grammar

open Token Syntax

variable {known : Values} {us : Source} {m : Nat} {k : String}

/-! Runtimes. -/

theorem readsPath_of_tidy {p : Path} (hp : p.isTidyRuntime known = true)
    (hm : 2 * Tree.sizeAll p.tokens + 1 ≤ m) : ReadsPath (level m) p.tokens p where
  front hus := by
    rw [Path.isTidyRuntime, Bool.and_eq_true] at hp
    exact Path.front hp.1 hus
  further {inExpr us vs xs} hus hmore := by
    rw [Path.isTidyRuntime, Bool.and_eq_true, List.all_eq_true] at hp
    have hfits (x : Segment) (hx : x ∈ p.segments) : x.fits inExpr = true := by
      cases inExpr with
      | false => exact x.fits_type
      | true => exact hp.2 x hx
    exact (restores_level hm).reads_pathTo hp.1 hfits (Nat.le_add_right _ 2) hus hmore

/-- Segments and a name behind a path are names, up to arguments if there are any. -/
theorem behindSegments_to_cases {xs : List Segment} (htidy : ∀ x ∈ xs, x.isTidy known = true)
    (hfits : ∀ x ∈ xs, x.fits true = true) (hk : Nameable k) : ∃ ns : List String,
    (∀ n ∈ ns, Nameable n) ∧ (behindSegments xs ++ behind [k] = behind ns ∨
      ∃ ts, behindSegments xs ++ behind [k] = behind ns ++ (op "::" ++ (op "<" ++ ts))) := by
  induction xs with
  | nil => exact ⟨[k], List.forall_mem_singleton.mpr hk, .inl rfl⟩
  | cons x xs ih =>
      obtain ⟨hx, hxs⟩ := List.forall_mem_cons.mp htidy
      obtain ⟨hfit, hfs⟩ := List.forall_mem_cons.mp hfits
      have hname := Segment.nameable hx
      cases x with
      | call => cases hx
      | plain n =>
          obtain ⟨ns, hns, hmore⟩ := ih hxs hfs
          refine ⟨n :: ns, List.forall_mem_cons.mpr ⟨hname, hns⟩, ?_⟩
          rcases hmore with hmore | ⟨ts, hmore⟩
          · exact .inl (congrArg (op "::" ++ word n ++ ·) hmore)
          · exact .inr ⟨ts, congrArg (op "::" ++ word n ++ ·) hmore⟩
      | angled n turbofish items trailing =>
          obtain rfl : turbofish = true := hfit
          refine ⟨[n], List.forall_mem_singleton.mpr hname, .inr
            ⟨arranged trailing (argumentsTokens items) ++ op ">" ++ behindSegments xs ++ behind [k],
              ?_⟩⟩
          simp [behindSegments, Segment.tokens, angles, behind]

/-- A name behind a path makes a path of names of it, up to arguments if there are any. -/
theorem tokens_to_cases {p : Path} (hp : p.isTidyRuntime known = true) (hk : Nameable k) :
    ∃ m, ModPath.Readable m ∧ (p.tokens ++ behind [k] = m.tokens ∨
      ∃ ts, p.tokens ++ behind [k] = m.tokens ++ (op "::" ++ (op "<" ++ ts))) := by
  obtain ⟨rooted, _ | ⟨x, xs⟩⟩ := p
  · cases hp
  rw [Path.isTidyRuntime, Path.isTidy, Bool.and_eq_true, Bool.and_eq_true, segmentsTidy_iff,
    List.all_eq_true] at hp
  obtain ⟨⟨hx, hxs⟩, hfits⟩ := hp
  obtain ⟨hfit, hfs⟩ := List.forall_mem_cons.mp hfits
  have hname := Segment.nameable hx
  rw [Path.tokens, colons_segments]
  cases x with
  | call => cases hx
  | plain n =>
      obtain ⟨ns, hns, hmore⟩ := behindSegments_to_cases hxs hfs hk
      refine ⟨⟨rooted, n :: ns⟩, ⟨List.cons_ne_nil _ _, List.forall_mem_cons.mpr ⟨hname, hns⟩⟩, ?_⟩
      rw [ModPath.tokens, colons_eq_behind]
      rcases hmore with hmore | ⟨ts, hmore⟩
      · simp only [List.append_assoc, hmore, Segment.tokens, true_or]
      · exact .inr ⟨ts, by simp only [List.append_assoc, hmore, Segment.tokens]⟩
  | angled n turbofish items trailing =>
      obtain rfl : turbofish = true := hfit
      refine ⟨⟨rooted, [n]⟩, ⟨List.cons_ne_nil _ _, List.forall_mem_singleton.mpr hname⟩, .inr
        ⟨arranged trailing (argumentsTokens items) ++ op ">" ++ behindSegments xs ++ behind [k],
          ?_⟩⟩
      simp [ModPath.tokens, colons, separated, Segment.tokens, angles]

theorem opensStatement_to {p : Path} (hp : p.isTidyRuntime known = true) (hk : Nameable k) :
    OpensStatement (p.tokens ++ behind [k]) where
  item us := by
    obtain ⟨rooted, _ | ⟨x, xs⟩⟩ := p
    · cases hp
    rw [Path.isTidyRuntime, Path.isTidy, Bool.and_eq_true, Bool.and_eq_true, List.all_eq_true] at hp
    obtain ⟨⟨hx, -⟩, hfits⟩ := hp
    have hname := Segment.nameable hx
    have hfit := hfits x List.mem_cons_self
    rw [Path.tokens, colons_segments]
    cases rooted with
    | true => rfl
    | false =>
        cases x with
        | call => cases hx
        | plain n => cases xs <;> exact startsItem_colons hname
        | angled n turbofish items trailing =>
            obtain rfl : turbofish = true := hfit
            exact startsItem_colons hname
  path {us} hus hcall := by
    obtain ⟨m, hm, hnames | ⟨ts, harguments⟩⟩ := tokens_to_cases hp hk
    · rw [hnames]
      exact ⟨_, reads_behindPath (hm.reads hus), by simpa using hcall⟩
    · have hangle : startsPath ((op "<").placed ++ (Tokens.placed ts ++ us)) = false := rfl
      rw [harguments, placed_append, placed_append, placed_append, List.append_assoc,
        List.append_assoc, List.append_assoc]
      exact ⟨none, (hm.refuses hangle).reads_behindPath, rfl⟩

/-! Types behind `impl`. What decides whether parameters stand there are the first five tokens. -/

theorem isSome_afterMark_append {cs : List Char} {ts : Source} (h : cs.length ≤ ts.length) :
    (afterMark cs (ts ++ us)).isSome = (afterMark cs ts).isSome := by
  induction cs generalizing ts with
  | nil => rfl
  | cons c cs ih =>
      obtain ⟨t, ts, rfl⟩ := List.exists_cons_of_length_pos (Nat.zero_lt_of_lt h)
      have hrest := ih (Nat.le_of_succ_le_succ h)
      cases t with
      | punct m joint place =>
          rw [List.cons_append]
          cases cs with
          | nil => simp only [afterMark]; split <;> rfl
          | cons c' cs =>
              simp only [afterMark]
              split
              · exact hrest
              · rfl
      | _ => cases cs <;> rfl

theorem length_le_skipped (ts : Source) : ts.length ≤ (skipped ts).length + 2 := by
  unfold skipped
  split <;> simp

theorem startsGenerics_append {ts : Source} (h : 6 ≤ ts.length) :
    startsGenerics (ts ++ us) = startsGenerics ts := by
  have hmark {w : String} {vs : Source} (hw : w.toList.length ≤ 2) (hvs : 2 ≤ vs.length) :
      isMark w (vs ++ us) = isMark w vs := isSome_afterMark_append (Nat.le_trans hw hvs)
  have hskipped {vs : Source} (hvs : 2 ≤ vs.length) : skipped (vs ++ us) = skipped vs ++ us := by
    match vs, hvs with
    | t :: t' :: vs, _ => exact skipped_cons_append t t' vs us
  have hlifetime {vs : Source} (hvs : 2 ≤ vs.length) : isLifetime (vs ++ us) = isLifetime vs := by
    match vs, hvs with
    | t :: t' :: vs, _ => exact isLifetime_cons_append t t' vs us
  have hsecond : 4 ≤ (skipped ts).length := by have := length_le_skipped ts; omega
  have hthird : 2 ≤ (skipped (skipped ts)).length := by
    have := length_le_skipped (skipped ts)
    omega
  unfold startsGenerics second third
  rw [hskipped (by omega), hskipped (by omega)]
  generalize hvs : skipped ts = vs at hsecond hthird ⊢
  obtain ⟨t, vs, rfl⟩ := List.exists_cons_of_length_pos (Nat.zero_lt_of_lt hsecond)
  have hword : isWord "const" (t :: vs ++ us) = isWord "const" (t :: vs) := by cases t <;> rfl
  have hname : isName (t :: vs ++ us) = isName (t :: vs) := by cases t <;> rfl
  simp (disch := first | decide | omega) only [hmark, hword, hname, hlifetime]

theorem length_projected {self : Ty} {rest : List Segment}
    (h : (TyPath.projected self rest).isTidy known = true) :
    6 ≤ (TyPath.projected self rest).tokens.placed.length := by
  simp only [TyPath.isTidy, Bool.and_eq_true, Bool.not_eq_true', List.isEmpty_eq_false_iff] at h
  obtain ⟨⟨hself, hne⟩, -⟩ := h
  obtain ⟨x, xs, rfl⟩ := List.exists_cons_of_ne_nil hne
  obtain ⟨ts, hts⟩ := x.exists_tokens
  have hfront : TypeFront (self.tokens.placed ++ []) := Ty.front hself
  have hlt : 0 < self.tokens.length := by
    rw [List.append_nil] at hfront
    rw [← length_placed, List.length_pos_iff, ← List.isEmpty_eq_false_iff]
    exact hfront.isEmpty_eq_false
  rw [length_placed, TyPath.tokens, colons_segments, hts]
  simp only [angles, List.length_append]
  have hopen : (op "<").length = 1 := rfl
  have hclose : (op ">").length = 1 := rfl
  have hcolons : (op "::").length = 2 := rfl
  have hname : (word x.name).length = 1 := rfl
  omega

theorem implFront_of_tidy {p : TyPath} (hp : p.isTidyTarget known = true) (hus : TypeEnds us) :
    ImplFront (p.tokens.placed ++ us) := by
  simp only [TyPath.isTidyTarget, Bool.and_eq_true, Bool.not_eq_true'] at hp
  obtain ⟨htidy, hstart⟩ := hp
  cases p with
  | plain p =>
      have hfront : PathFront (p.tokens.placed ++ us) := Path.front htidy hus.behindType.hash
      have hangle : isMark "<" (p.tokens.placed ++ us) = false := hfront.isMark_eq_false rfl
      exact ⟨Bool.and_eq_false_iff.mpr (.inl hangle),
        hfront.isWord_eq_false (by decide) (by decide), hfront.isMark_eq_false rfl,
        hfront.isMark_eq_false rfl⟩
  | projected self rest =>
      have hgenerics : startsGenerics ((TyPath.projected self rest).tokens.placed ++ us) = false :=
        (startsGenerics_append (length_projected htidy)).trans hstart
      exact ⟨hgenerics, rfl, rfl, rfl⟩
  | viewed self view rest =>
      simp only [TyPath.isTidy, Bool.and_eq_true] at htidy
      exact ⟨startsGenerics_viewed htidy.1.1.1, rfl, rfl, rfl⟩

theorem reads_target {p : TyPath} (hp : p.isTidyTarget known = true)
    (hm : 2 * Tree.sizeAll p.tokens + 1 ≤ m) (hus : TypeEnds us) :
    Reads ((level m).type true) (p.tokens.placed ++ us) (.path p) us := by
  rw [TyPath.isTidyTarget, Bool.and_eq_true] at hp
  have htidy : (Ty.path p).isTidy known true = true := hp.1
  exact (restores_level hm).type htidy (Nat.le_refl _) hus.behindType

end ZonedAccessors.Grammar
