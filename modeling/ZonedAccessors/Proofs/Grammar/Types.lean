import ZonedAccessors.Proofs.Grammar.Functions
import ZonedAccessors.Proofs.Grammar.Values

/-!
Tidy types are read as what they were printed from, at every level that is high enough for the
number of their tokens.
-/

namespace ZonedAccessors.Grammar

open Token Syntax

variable {g : Inner} {us vs : Source} {plus : Bool} {s : Nat} {known : Values}

/-! Types in parentheses. -/

theorem reads_parenType {t : Ty} {body : Source} {p : Span}
    (h : Reads (enclosedType g) body (.done t) []) :
    Reads (type g plus) (.group .paren body p :: us) t us := by
  refine (reads_binderIf_none rfl).bind (.peek (.no rfl (.yes rfl ?_)))
  exact h.inside.bind (reads_pure _)

/-- What stands in parentheses before a first comma. -/
theorem Restores.reads_enclosedType (hg : Restores known s g) {t : Ty}
    (ht : t.isTidy known true = true) (hs : Tree.sizeAll t.tokens ≤ s) {more : Source}
    (hmore : BehindType true more) {e : Enclosed}
    (h : Reads (do
      if isMark "," (← rest) then
        mark ","
        let (more, trailing) ← listed List.isEmpty "," (g.type true)
        return .done (.tuple (t :: more) (trailing || more.isEmpty))
      else return .sole t) more e []) :
    Reads (enclosedType g) (t.tokens.placed ++ more) e [] := by
  have hfront : TypeFront (t.tokens.placed ++ more) := Ty.front ht
  refine .peek (.no hfront.isEmpty_eq_false (.no hfront.isLifetime_eq_false ?_))
  exact .no (hfront.isMark_eq_false (by decide)) ((hg.type ht hs hmore).bind h)

theorem Restores.reads_tuple (hg : Restores known s g) {items : List Ty} {trailing : Bool}
    (h : (Ty.tuple items trailing).isTidy known plus = true)
    (hs : Tree.sizeAll (commas trailing (tysTokens items)) ≤ s) :
    Reads (Grammar.type g plus) ((Ty.tuple items trailing).tokens.placed ++ us)
      (.tuple items trailing) us := by
  rcases items with _ | ⟨t, _ | ⟨t', ts⟩⟩
  · obtain rfl : trailing = false := by simpa [Ty.isTidy] using h
    exact reads_parenType fun _ => rfl
  · rw [Ty.isTidy, Bool.and_eq_true] at h
    obtain ⟨ht, rfl⟩ := h
    have htokens : commas true (tysTokens [t]) = t.tokens ++ op "," := rfl
    rw [htokens, Tree.sizeAll_append] at hs
    have hitem : Reads (enclosedType g) (t.tokens.placed ++ ((op ",").placed ++ []))
        (.done (.tuple [t] true)) [] :=
      hg.reads_enclosedType ht (by omega) (behindType_op (by decide)) fun _ => rfl
    rw [List.append_nil, ← placed_append] at hitem
    exact reads_parenType hitem
  · obtain ⟨ht, hts⟩ : t.isTidy known true = true ∧ ∀ u ∈ t' :: ts, u.isTidy known true = true := by
      simpa [Ty.isTidy, tysTidy_iff] using h
    have htokens : commas trailing (tysTokens (t :: t' :: ts)) =
        t.tokens ++ op "," ++ commas trailing ((t' :: ts).map Ty.tokens) := by
      rw [tysTokens_eq_map]
      rfl
    rw [htokens, Tree.sizeAll_append, Tree.sizeAll_append] at hs
    have hlisted : Reads (listed List.isEmpty "," (g.type true))
        (commas trailing ((t' :: ts).map Ty.tokens)).placed (t' :: ts, trailing) [] :=
      hg.reads_types hts rfl (by omega)
    have hcomma (vs : Source) : Reads (mark ",") ((op ",").placed ++ vs) () vs := fun _ => rfl
    have hitems : Reads (enclosedType g) (t.tokens.placed ++ ((op ",").placed ++
        (commas trailing ((t' :: ts).map Ty.tokens)).placed))
        (.done (.tuple (t :: t' :: ts) trailing)) [] := by
      refine hg.reads_enclosedType ht (by omega) (behindType_op (by decide)) (.peek (.yes rfl ?_))
      refine (hcomma _).bind (hlisted.bind ?_)
      dsimp only
      rw [List.isEmpty_cons, Bool.or_false]
      exact reads_pure _
    rw [← placed_append, ← placed_append, ← List.append_assoc, ← htokens] at hitems
    exact reads_parenType hitems

/-! Types that begin with a path. -/

theorem startsPath_tokens {p : Path} (hp : p.isTidy known = true) (hrooted : p.rooted = false) :
    startsPath (p.tokens.placed ++ us) = true := by
  obtain ⟨rooted, segments⟩ := p
  obtain rfl : rooted = false := hrooted
  cases segments with
  | nil => cases hp
  | cons x xs =>
      rw [Path.isTidy, Bool.and_eq_true] at hp
      obtain ⟨ts, hts⟩ := Segment.exists_tokens (s := x)
      rw [Path.tokens, colons_segments, hts]
      exact startsPath_ident (Segment.nameable hp.1)

/-- A sum of bounds, or a bound that brings its own parameters. -/
theorem Restores.reads_sum (hg : Restores known s g) {binder : Generics} {p : Path}
    {bs : List Bound} (hp : p.isTidy known = true) (hbs : ∀ b ∈ bs, b.isTidy known = true)
    (hs : Tree.sizeAll p.tokens ≤ s + 2) (hs' : Tree.sizeAll (behindBound bs) ≤ s + 2)
    (hplus : (plus || bs.isEmpty) = true)
    (hsum : (if binder.isWritten then !p.rooted else !bs.isEmpty) = true)
    (hus : BehindType plus us) :
    Reads (pathType g plus binder) (p.tokens.placed ++ ((behindBound bs).placed ++ us))
      (.bounded none (.trait false false binder p :: bs) false) us := by
  have hbehind : BehindType false ((behindBound bs).placed ++ us) := by
    cases bs with
    | nil => exact hus.forget
    | cons b bs => exact ⟨⟨rfl, rfl, rfl⟩, rfl, rfl, rfl, rfl⟩
  have hpath : Reads (path g false) (p.tokens.placed ++ ((behindBound bs).placed ++ us)) p
      ((behindBound bs).placed ++ us) := hg.reads_path hp hs hbehind.toBehindPath
  have hbounded : (binder.isWritten || (plus && isMark "+" ((behindBound bs).placed ++ us))) =
      true := by
    cases bs with
    | nil =>
        cases hw : binder.isWritten with
        | true => rfl
        | false => simp [hw] at hsum
    | cons b bs =>
        have hplus : plus = true := by simpa using hplus
        rw [hplus, Bool.true_and]
        exact Bool.or_true _
  unfold pathType
  refine ((Path.front hp hbehind.hash).reads_tyPath hpath).bind (.peek ?_)
  rw [hbehind.call]
  refine .yes hbounded ?_
  cases plus with
  | true => exact .yes rfl ((hg.reads_moreBounds hbs hs' hus).bind (reads_pure _))
  | false =>
      obtain rfl : bs = [] := by simpa using hplus
      exact .no rfl ((reads_pure _).bind (reads_pure _))

theorem reads_invocationType {c : Invocation} (hc : c.isTidy = true) :
    Reads (type g plus) (c.tokens.placed ++ us) (.invocation c) us := by
  obtain ⟨m, body⟩ := c
  cases body with
  | group d body u =>
      have hm : ModPath.Readable m := ModPath.readable_of_tidy hc
      have htokens : (Invocation.mk m (.group d body u)).tokens.placed ++ us =
          m.tokens.placed ++ ((op "!").placed ++ .group d (Tokens.placed body) ⟨0, 0⟩ :: us) := by
        rw [Invocation.tokens, placed_append, placed_append, List.append_assoc, List.append_assoc]
        rfl
      have hfront : PathFront (m.tokens.placed ++
          ((op "!").placed ++ .group d (Tokens.placed body) ⟨0, 0⟩ :: us)) := hm.pathFront rfl
      have hpath : Reads (path g false) (m.tokens.placed ++
          ((op "!").placed ++ .group d (Tokens.placed body) ⟨0, 0⟩ :: us))
          ⟨m.rooted, m.names.map .plain ++ []⟩
          ((op "!").placed ++ .group d (Tokens.placed body) ⟨0, 0⟩ :: us) :=
        Grammar.reads_path hm rfl (.nil rfl)
      rw [List.append_nil] at hpath
      have hmark (vs : Source) : Reads (mark "!") ((op "!").placed ++ vs) () vs := fun _ => rfl
      have hcall : Reads (invocationAt m)
          ((op "!").placed ++ .group d (Tokens.placed body) ⟨0, 0⟩ :: us) ⟨m, .group d body u⟩ us :=
        (hmark _).bind (reads_anyGroup.bind (reads_pure _))
      have hnames : (if isInvoked ((op "!").placed ++ .group d (Tokens.placed body) ⟨0, 0⟩ :: us) then
          m.toPath.names? else none) = some m := (if_pos rfl).trans m.names?_toPath
      rw [htokens]
      refine hfront.reads_type ?_
      unfold pathType
      refine (hfront.reads_tyPath hpath).bind (.peek ?_)
      rw [← ModPath.toPath, hnames]
      exact hcall.bind (reads_pure _)
  | _ => cases hc

/-- A path that starts from a type. -/
theorem reads_qualified {p : TyPath} (hp : Reads (pathType g plus .none) ((op "<").placed ++ us)
    (.path p) vs) : Reads (type g plus) ((op "<").placed ++ us) (.path p) vs := by
  refine (reads_binderIf_none rfl).bind (.peek (.no rfl (.no rfl (.no rfl (.no rfl ?_)))))
  exact .yes rfl hp

theorem Restores.reads_rest (hg : Restores known s g) {xs : List Segment} (hne : xs ≠ [])
    (hxs : ∀ x ∈ xs, x.isTidy known = true) (hs : Tree.sizeAll (colons (segmentsTokens xs)) ≤ s + 2)
    (hus : BehindPath us) {α : Type} {f : List Segment → α} :
    Reads (do
      let first ← segment g false
      let more ← many (isMark "::") do
        mark "::"
        segment g false
      return f (first :: more)) ((colons (segmentsTokens xs)).placed ++ us) (f xs) us := by
  obtain ⟨x, xs, rfl⟩ := List.exists_cons_of_ne_nil hne
  obtain ⟨hx, hxs⟩ := List.forall_mem_cons.mp hxs
  rw [colons_segments] at hs ⊢
  rw [Tree.sizeAll_append] at hs
  rw [placed_append, List.append_assoc]
  have hfirst := hg.reads_segment hx x.fits_type (by omega)
    (startsArguments_behindSegments hus.arguments xs)
  have hmore := (hg.readsMany_segments hxs (fun y _ => y.fits_type) (by omega) hus.arguments
    (fun _ _ => rfl) (.nil hus.colons)).reads
  rw [List.append_nil] at hmore
  exact hfirst.bind (hmore.bind (reads_pure _))

theorem Restores.reads_projected (hg : Restores known s g) {self : Ty} {rest : List Segment}
    (hself : self.isTidy known true = true) (hne : rest ≠ [])
    (hrest : ∀ x ∈ rest, x.isTidy known = true)
    (hs : Tree.sizeAll (TyPath.projected self rest).tokens ≤ s + 2) (hus : BehindPath us) :
    Reads (Grammar.type g plus) ((TyPath.projected self rest).tokens.placed ++ us)
      (Ty.path (.projected self rest)) us := by
  rw [TyPath.tokens, Tree.sizeAll_append, Tree.sizeAll_append, size_angles] at hs
  have hclose (vs : Source) : Reads (mark ">") ((op ">").placed ++ vs) () vs := fun _ => rfl
  have hcolons (vs : Source) : Reads (mark "::") ((op "::").placed ++ vs) () vs := fun _ => rfl
  have hopen (vs : Source) : Reads (markIf "<") ((op "<").placed ++ vs) true vs := fun _ => rfl
  have has (vs : Source) : Reads (keywordIf "as") ((op ">").placed ++ vs) false
      ((op ">").placed ++ vs) := fun _ => rfl
  have hmore := hg.reads_rest hne hrest (by omega) hus (f := TyPath.projected self)
  have htokens : (TyPath.projected self rest).tokens = op "<" ++ (self.tokens ++ (op ">" ++
      (op "::" ++ colons (segmentsTokens rest)))) := by simp [TyPath.tokens, angles]
  rw [htokens]
  simp only [placed_append, List.append_assoc]
  refine reads_qualified (Reads.bind (a := .projected self rest) ?_ (reads_pure _))
  unfold tyPath
  refine (hopen _).bind (.yes rfl ((hg.type hself (by omega) (behindType_op (by decide))).bind ?_))
  refine (has _).bind (.no rfl ((reads_pure _).bind ?_))
  exact (hclose _).bind ((hcolons _).bind hmore)

theorem Restores.reads_viewed (hg : Restores known s g) {self : Ty} {view : Path}
    {rest : List Segment} (hself : self.isTidy known true = true) (hview : view.isTidy known = true)
    (hne : rest ≠ []) (hrest : ∀ x ∈ rest, x.isTidy known = true)
    (hs : Tree.sizeAll (TyPath.viewed self view rest).tokens ≤ s + 2) (hus : BehindPath us) :
    Reads (Grammar.type g plus) ((TyPath.viewed self view rest).tokens.placed ++ us)
      (Ty.path (.viewed self view rest)) us := by
  rw [TyPath.tokens, Tree.sizeAll_append, Tree.sizeAll_append, size_angles, Tree.sizeAll_append,
    Tree.sizeAll_append] at hs
  have hclose (vs : Source) : Reads (mark ">") ((op ">").placed ++ vs) () vs := fun _ => rfl
  have hcolons (vs : Source) : Reads (mark "::") ((op "::").placed ++ vs) () vs := fun _ => rfl
  have hopen (vs : Source) : Reads (markIf "<") ((op "<").placed ++ vs) true vs := fun _ => rfl
  have has (vs : Source) : Reads (keywordIf "as") ((word "as").placed ++ vs) true vs := fun _ => rfl
  have hmore := hg.reads_rest hne hrest (by omega) hus (f := TyPath.viewed self view)
  have htokens : (TyPath.viewed self view rest).tokens = op "<" ++ (self.tokens ++ (word "as" ++
      (view.tokens ++ (op ">" ++ (op "::" ++ colons (segmentsTokens rest)))))) := by
    simp [TyPath.tokens, angles]
  rw [htokens]
  simp only [placed_append, List.append_assoc]
  refine reads_qualified (Reads.bind (a := .viewed self view rest) ?_ (reads_pure _))
  unfold tyPath
  refine (hopen _).bind (.yes rfl ((hg.type hself (by omega) behindType_as).bind ?_))
  refine (has _).bind (.yes rfl (((hg.reads_path hview (by omega) ⟨rfl, rfl, rfl⟩).map some).bind ?_))
  exact (hclose _).bind ((hcolons _).bind hmore)

/-! Sums of bounds behind a word. -/

theorem Restores.reads_traitBounds (hg : Restores known s g) {bs : List Bound}
    (hbs : ∀ b ∈ bs, b.isTidy known = true)
    (hs : Tree.sizeAll (pluses false (boundsTokens bs)) ≤ s + 2)
    (htrait : bs.any Bound.isTrait = true) (hplus : plus = true ∨ bs.length = 1)
    (hus : BehindType plus us) (start : Source) (rule : Rule) (capture constant : Bool) :
    Reads (traitBounds start rule (bounds g plus capture constant))
      ((pluses false (boundsTokens bs)).placed ++ us) (bs, false) us := by
  have hne : bs ≠ [] := by
    rintro rfl
    cases htrait
  have hbounds := hg.reads_bounds hbs hs hne hplus hus capture constant
  exact hbounds.captured.bind (.yes htrait (reads_pure _))

theorem Restores.reads_objectType (hg : Restores known s g) {bs : List Bound}
    (hbs : ∀ b ∈ bs, b.isTidy known = true)
    (hs : Tree.sizeAll (pluses false (boundsTokens bs)) ≤ s + 2)
    (htrait : bs.any Bound.isTrait = true) (hplus : plus = true ∨ bs.length = 1)
    (hus : BehindType plus us) : Reads (Grammar.type g plus)
      ((word "dyn").placed ++ ((pluses false (boundsTokens bs)).placed ++ us))
      (.bounded (some "dyn") bs false) us := by
  have hstar : isMark "*" ((pluses false (boundsTokens bs)).placed ++ us) = false := by
    cases bs with
    | nil => cases htrait
    | cons b bs =>
        have hfront : BoundFront (b.tokens.placed ++ ((behindBound bs).placed ++ us)) :=
          Bound.front (hbs b List.mem_cons_self)
        rw [pluses_bounds, placed_append, List.append_assoc]
        exact hfront.isMark_eq_false (by decide)
  have hsum (start : Source) :=
    hg.reads_traitBounds hbs hs htrait hplus hus start .objectTrait false false
  generalize (pluses false (boundsTokens bs)).placed ++ us = vs at hsum hstar
  have hkeyword : Reads (keyword "dyn") ((word "dyn").placed ++ vs) () vs := fun _ => rfl
  have hbody : Reads (objectType g plus) ((word "dyn").placed ++ vs) (.bounded (some "dyn") bs false)
      us := by
    refine (Reads.captured (a := (false, bs, false)) (.peek ?_)).bind (reads_pure _)
    exact hkeyword.bind ((reads_markIf_false hstar).bind ((hsum _).bind (reads_pure _)))
  refine (reads_binderIf_none rfl).bind (.peek (.no rfl (.no rfl (.no rfl (.no rfl ?_)))))
  exact .no rfl (.yes rfl hbody)

theorem Restores.reads_implType (hg : Restores known s g) {bs : List Bound}
    (hbs : ∀ b ∈ bs, b.isTidy known = true)
    (hs : Tree.sizeAll (pluses false (boundsTokens bs)) ≤ s + 2)
    (htrait : bs.any Bound.isTrait = true) (hplus : plus = true ∨ bs.length = 1)
    (hus : BehindType plus us) : Reads (Grammar.type g plus)
      ((word "impl").placed ++ ((pluses false (boundsTokens bs)).placed ++ us))
      (.bounded (some "impl") bs false) us := by
  have hsum (start : Source) :=
    hg.reads_traitBounds hbs hs htrait hplus hus start .implTrait true true
  generalize (pluses false (boundsTokens bs)).placed ++ us = vs at hsum
  have hkeyword : Reads (keyword "impl") ((word "impl").placed ++ vs) () vs := fun _ => rfl
  have hbody : Reads (implType g plus) ((word "impl").placed ++ vs) (.bounded (some "impl") bs false)
      us := .peek (hkeyword.bind ((hsum _).bind (reads_pure _)))
  refine (reads_binderIf_none rfl).bind (.peek (.no rfl (.no rfl (.no rfl (.no rfl ?_)))))
  exact .no rfl (.no rfl (.no rfl (.no rfl (.no rfl (.no rfl (.yes rfl hbody))))))

/-! Arrays and slices. -/

theorem reads_bracketed {t : Ty} {body : Source} {p : Span}
    (h : Reads (bracketType g) (.group .bracket body p :: us) t us) :
    Reads (type g plus) (.group .bracket body p :: us) t us := by
  refine (reads_binderIf_none rfl).bind (.peek (.no rfl (.no rfl (.no rfl (.no rfl ?_)))))
  exact .no rfl (.no rfl (.yes rfl h))

theorem Restores.reads_array (hg : Restores known s g) {item : Ty} {length : Expr}
    (hitem : item.isTidy known true = true) (hlength : known.covers length = true)
    (hs : Tree.sizeAll (Ty.array item length).tokens ≤ s + 1) :
    Reads (Grammar.type g plus) ((Ty.array item length).tokens.placed ++ us) (.array item length)
      us := by
  rw [Ty.tokens, brackets, size_enclose, Tree.sizeAll_append, Tree.sizeAll_append] at hs
  have hfirst : Reads (g.type true) (item.tokens.placed ++ ((op ";").placed ++ length.tokens.placed))
      item ((op ";").placed ++ length.tokens.placed) :=
    hg.type hitem (by omega) (behindType_op (by decide))
  have hsemi : Reads (markIf ";") ((op ";").placed ++ length.tokens.placed) true
      length.tokens.placed := fun _ => rfl
  have hlast : Reads (g.expr true) length.tokens.placed length [] := hg.value hlength (by omega)
  refine reads_bracketed ?_
  change Reads (bracketType g) (.group .bracket (item.tokens ++ op ";" ++ length.tokens).placed
    ⟨0, 0⟩ :: us) (.array item length) us
  rw [placed_append, placed_append, List.append_assoc]
  exact Reads.inside (hfirst.bind (hsemi.bind (.yes rfl (hlast.bind (reads_pure _)))))

theorem Restores.reads_slice (hg : Restores known s g) {item : Ty}
    (hitem : item.isTidy known true = true) (hs : Tree.sizeAll (Ty.slice item).tokens ≤ s + 1) :
    Reads (Grammar.type g plus) ((Ty.slice item).tokens.placed ++ us) (.slice item) us := by
  rw [Ty.tokens, brackets, size_enclose] at hs
  have hfirst : Reads (g.type true) (item.tokens.placed ++ []) item [] :=
    hg.type hitem (by omega) behindType_nil
  have hend : Reads (markIf ";") [] false [] := fun _ => rfl
  rw [List.append_nil] at hfirst
  exact reads_bracketed (Reads.inside (hfirst.bind (hend.bind (.no rfl (reads_pure _)))))

/-! Pointers and references. -/

theorem Restores.reads_pointer (hg : Restores known s g) {mutable : Bool} {target : Ty}
    (htarget : target.isTidy known false = true)
    (hs : Tree.sizeAll (Ty.pointer mutable target).tokens ≤ s + 1) (hus : BehindType false us) :
    Reads (Grammar.type g plus) ((Ty.pointer mutable target).tokens.placed ++ us)
      (.pointer mutable target) us := by
  rw [Ty.tokens, Tree.sizeAll_append, Tree.sizeAll_append, size_word] at hs
  have htype : Reads (g.type false) (target.tokens.placed ++ us) target us :=
    hg.type htarget (by omega) hus
  rw [Ty.tokens, placed_append, placed_append, List.append_assoc, List.append_assoc]
  generalize target.tokens.placed ++ us = ts at htype
  have hmark (vs : Source) : Reads (mark "*") ((op "*").placed ++ vs) () vs := fun _ => rfl
  have hbody : Reads (pointerType g) ((op "*").placed ++
      ((word (if mutable then "mut" else "const")).placed ++ ts)) (.pointer mutable target) us := by
    cases mutable with
    | false =>
        have hconst : Reads (keywordIf "const") ((word "const").placed ++ ts) true ts := fun _ => rfl
        exact (hmark _).bind (hconst.bind (.yes rfl (htype.bind (reads_pure _))))
    | true =>
        have hconst : Reads (keywordIf "const") ((word "mut").placed ++ ts) false
            ((word "mut").placed ++ ts) := fun _ => rfl
        have hmut : Reads (keywordIf "mut") ((word "mut").placed ++ ts) true ts := fun _ => rfl
        refine (hmark _).bind (hconst.bind (.no rfl (hmut.bind (.yes rfl ?_))))
        exact htype.bind (reads_pure _)
  refine (reads_binderIf_none rfl).bind (.peek (.no rfl (.no rfl (.no rfl (.no rfl ?_)))))
  exact .no rfl (.no rfl (.no rfl (.yes rfl hbody)))

theorem Restores.reads_reference (hg : Restores known s g) {l : Option String} {mutable : Bool}
    {target : Ty} (htarget : target.isTidy known false = true)
    (hs : Tree.sizeAll (Ty.reference l mutable target).tokens ≤ s + 1) (hus : BehindType false us) :
    Reads (Grammar.type g plus) ((Ty.reference l mutable target).tokens.placed ++ us)
      (.reference l mutable target) us := by
  rw [Ty.tokens, Tree.sizeAll_append, Tree.sizeAll_append, Tree.sizeAll_append] at hs
  have hand : Tree.sizeAll (op "&") = 1 := rfl
  have hfront : TypeFront (target.tokens.placed ++ us) := Ty.front htarget
  have htype : Reads (g.type false) (target.tokens.placed ++ us) target us :=
    hg.type htarget (by omega) hus
  rw [Ty.tokens, placed_append, placed_append, placed_append, List.append_assoc,
    List.append_assoc, List.append_assoc]
  generalize target.tokens.placed ++ us = ts at htype hfront
  have hmark (vs : Source) : Reads (mark "&") ((op "&").placed ++ vs) () vs := fun _ => rfl
  have hlifetime : Reads lifetimeIf
      ((lifetimeTokens l).placed ++ ((wordIf mutable "mut").placed ++ ts)) l
      ((wordIf mutable "mut").placed ++ ts) := by
    cases l with
    | some l => exact fun _ => rfl
    | none =>
        refine .peek (.no ?_ (reads_pure _))
        cases mutable with
        | true => rfl
        | false => exact hfront.isLifetime_eq_false
  have hmut : Reads (keywordIf "mut") ((wordIf mutable "mut").placed ++ ts) mutable ts := by
    cases mutable with
    | true => exact fun _ => rfl
    | false => exact reads_keywordIf_false (hfront.isWord_eq_false (by decide) (by decide))
  have hbody : Reads (referenceType g) ((op "&").placed ++
      ((lifetimeTokens l).placed ++ ((wordIf mutable "mut").placed ++ ts)))
      (.reference l mutable target) us :=
    (hmark _).bind (hlifetime.bind (hmut.bind (htype.bind (reads_pure _))))
  refine (reads_binderIf_none rfl).bind (.peek (.no rfl (.no rfl (.no rfl (.no rfl ?_)))))
  exact .no rfl (.no rfl (.no rfl (.no rfl (.yes rfl hbody))))

/-! All types. -/

/-- A sum that begins with a trait, and the parameters it may bring with it. -/
theorem Restores.reads_sumType (hg : Restores known s g) {binder : Generics} {p : Path}
    {bs : List Bound} (hbinder : binder.isTidyBinder known = true) (hp : p.isTidy known = true)
    (hbs : ∀ b ∈ bs, b.isTidy known = true)
    (hs : Tree.sizeAll (binder.binderTokens ++ (p.tokens ++ behindBound bs)) ≤ s + 1)
    (hplus : (plus || bs.isEmpty) = true)
    (hsum : (if binder.isWritten then !p.rooted else !bs.isEmpty) = true)
    (hus : BehindType plus us) :
    Reads (Grammar.type g plus)
      ((binder.binderTokens ++ (p.tokens ++ behindBound bs)).placed ++ us)
      (.bounded none (.trait false false binder p :: bs) false) us := by
  rw [Tree.sizeAll_append, Tree.sizeAll_append] at hs
  rw [placed_append, placed_append, List.append_assoc, List.append_assoc]
  have hbehind : isMark "#" ((behindBound bs).placed ++ us) = false := by
    cases bs with
    | nil => exact hus.hash
    | cons => rfl
  have hfront : PathFront (p.tokens.placed ++ ((behindBound bs).placed ++ us)) :=
    Path.front hp hbehind
  have hstart : (binder.isWritten && !(startsPath (p.tokens.placed ++
      ((behindBound bs).placed ++ us)) || startsFunction (p.tokens.placed ++
        ((behindBound bs).placed ++ us)))) = false := by
    cases hw : binder.isWritten with
    | false => rfl
    | true =>
        have hrooted : p.rooted = false := by simpa [hw] using hsum
        rw [startsPath_tokens hp hrooted]
        rfl
  have hfor : isWord "for" (p.tokens.placed ++ ((behindBound bs).placed ++ us)) = false :=
    hfront.isWord_eq_false (by decide) (by decide)
  have hbody := hg.reads_sum hp hbs (by omega) (by omega) hplus hsum hus
  refine (hg.reads_binderIf hbinder (by omega) fun _ => hfor).bind (.peek (.no hstart ?_))
  refine .no (hfront.isGroup_eq_false .paren) (.no hfront.startsFunction_eq_false ?_)
  refine .no hfront.startsBuiltin_eq_false (.yes ?_ hbody)
  rw [hfront.startsPath_or, Bool.true_or]

theorem Restores.reads_bounded (hg : Restores known s g) {keyword : Option String} {bs : List Bound}
    {trailing : Bool} (ht : (Ty.bounded keyword bs trailing).isTidy known plus = true)
    (hs : Tree.sizeAll (Ty.bounded keyword bs trailing).tokens ≤ s + 1) (hus : BehindType plus us) :
    Reads (Grammar.type g plus) ((Ty.bounded keyword bs trailing).tokens.placed ++ us)
      (.bounded keyword bs trailing) us := by
  cases keyword with
  | some keyword =>
      simp only [Ty.isTidy, Bool.and_eq_true, Bool.or_eq_true, beq_iff_eq, Bool.not_eq_true',
        boundsTidy_iff] at ht
      obtain ⟨⟨⟨⟨hkeyword, hbs⟩, htrait⟩, rfl⟩, hplus⟩ := ht
      rw [Ty.tokens, Tree.sizeAll_append] at hs
      rw [Ty.tokens, placed_append, List.append_assoc]
      rcases hkeyword with rfl | rfl
      · exact hg.reads_objectType hbs (by omega) htrait hplus hus
      · exact hg.reads_implType hbs (by omega) htrait hplus hus
  | none =>
      rcases bs with _ | ⟨_ | ⟨_ | _, _ | _, binder, p⟩ | _ | _, bs⟩
      · cases ht
      · cases ht
      · simp only [Ty.isTidy, Bool.and_eq_true, Bool.not_eq_true', boundsTidy_iff] at ht
        obtain ⟨⟨⟨⟨⟨hbinder, hp⟩, hbs⟩, rfl⟩, hplus⟩, hsum⟩ := ht
        have htokens : (Ty.bounded none (.trait false false binder p :: bs) false).tokens =
            binder.binderTokens ++ (p.tokens ++ behindBound bs) := by
          rw [Ty.tokens, pluses_bounds]
          exact List.append_assoc ..
        rw [htokens] at hs ⊢
        exact hg.reads_sumType hbinder hp hbs hs (by simpa using hplus) hsum hus
      all_goals cases ht

theorem Restores.reads_function (hg : Restores known s g) {binder : Generics} {head : Qualifiers}
    {is : List Input} {trailing : Bool} {out : Option Ty}
    (ht : (Ty.function binder head is trailing out).isTidy known plus = true)
    (hs : Tree.sizeAll (Ty.function binder head is trailing out).tokens ≤ s + 1)
    (hus : BehindType plus us) :
    Reads (Grammar.type g plus) ((Ty.function binder head is trailing out).tokens.placed ++ us)
      (.function binder head is trailing out) us := by
  rw [Ty.isTidy, Bool.and_eq_true, Bool.and_eq_true, Bool.and_eq_true, Bool.and_eq_true,
    inputsTidy_iff] at ht
  obtain ⟨⟨⟨⟨hbinder, hhead⟩, his⟩, htrailing⟩, hout⟩ := ht
  simp only [Ty.tokens, Tree.sizeAll_append, parens, size_enclose, size_word] at hs
  simp only [Ty.tokens, placed_append, List.append_assoc]
  have hbody : Reads (functionType g binder) (head.tokens.placed ++ ((word "fn").placed ++
      ((parens (commas trailing (inputsTokens is))).placed ++ ((outputTokens out).placed ++ us))))
      (.function binder head is trailing out) us :=
    hg.reads_functionType hhead his htrailing hout (by omega) (by omega) hus.forget
  obtain ⟨w, ts, hw, hts⟩ := Qualifiers.front hhead
    (parens (commas trailing (inputsTokens is)) ++ outputTokens out)
  have hfront : head.tokens.placed ++ ((word "fn").placed ++
      ((parens (commas trailing (inputsTokens is))).placed ++ ((outputTokens out).placed ++ us))) =
      (word w).placed ++ (Tokens.placed ts ++ us) := by
    have := congrArg (fun ts => Tokens.placed ts ++ us) hts
    simpa only [placed_append, List.append_assoc] using this
  rw [hfront] at hbody ⊢
  have hstart : startsFunction ((word w).placed ++ (Tokens.placed ts ++ us)) = true ∧
      isWord "for" ((word w).placed ++ (Tokens.placed ts ++ us)) = false := by
    simp only [List.mem_cons, List.not_mem_nil, or_false] at hw
    rcases hw with rfl | rfl | rfl <;> exact ⟨rfl, rfl⟩
  refine (hg.reads_binderIf hbinder (by omega) fun _ => hstart.2).bind (.peek (.no ?_ (.no rfl ?_)))
  · rw [hstart.1, Bool.or_true, Bool.not_true, Bool.and_false]
  · exact .yes hstart.1 hbody

theorem Restores.reads_type (hg : Restores known s g) {t : Ty} (ht : t.isTidy known plus = true)
    (hs : Tree.sizeAll t.tokens ≤ s + 1) (hus : BehindType plus us) :
    Reads (Grammar.type g plus) (t.tokens.placed ++ us) t us := by
  cases t with
  | path p =>
      cases p with
      | plain p =>
          have hpath : Reads (path g false) (p.tokens.placed ++ us) p us :=
            hg.reads_path ht (Nat.le_succ_of_le hs) hus.toBehindPath
          exact Grammar.reads_type (Path.front ht hus.hash) hpath hus
      | projected self rest =>
          simp only [Ty.isTidy, TyPath.isTidy, Bool.and_eq_true, Bool.not_eq_true',
            List.isEmpty_eq_false_iff, segmentsTidy_iff] at ht
          exact hg.reads_projected ht.1.1 ht.1.2 ht.2 (Nat.le_succ_of_le hs) hus.toBehindPath
      | viewed self view rest =>
          simp only [Ty.isTidy, TyPath.isTidy, Bool.and_eq_true, Bool.not_eq_true',
            List.isEmpty_eq_false_iff, segmentsTidy_iff] at ht
          exact hg.reads_viewed ht.1.1.1 ht.1.1.2 ht.1.2 ht.2 (Nat.le_succ_of_le hs)
            hus.toBehindPath
  | tuple items trailing =>
      rw [Ty.tokens, parens, size_enclose] at hs
      exact hg.reads_tuple ht (by omega)
  | paren inner =>
      rw [Ty.tokens, parens, size_enclose] at hs
      have hinner : Reads (enclosedType g) (inner.tokens.placed ++ []) (.sole inner) [] :=
        hg.reads_enclosedType ht (by omega) behindType_nil fun _ => rfl
      rw [List.append_nil] at hinner
      refine (reads_binderIf_none rfl).bind (.peek (.no rfl (.yes rfl ?_)))
      exact hinner.inside.bind (.peek (.no hus.plus (reads_pure _)))
  | array item length =>
      rw [Ty.isTidy, Bool.and_eq_true] at ht
      exact hg.reads_array ht.1 ht.2 hs
  | slice item => exact hg.reads_slice ht hs
  | pointer mutable target => exact hg.reads_pointer ht hs hus.forget
  | reference l mutable target => exact hg.reads_reference ht hs hus.forget
  | never => cases plus <;> exact fun _ => rfl
  | infer => cases plus <;> exact fun _ => rfl
  | function binder head is trailing out => exact hg.reads_function ht hs hus
  | bounded keyword bs trailing => exact hg.reads_bounded ht hs hus
  | invocation call => exact reads_invocationType ht
  | more | verbatim => cases ht

/-! Arguments. -/

theorem soleSegment_of_tidy {x : Segment} (hx : x.isTidy known = true) :
    soleSegment (.path (.plain ⟨false, [x]⟩)) = some x := by
  cases x with
  | call => cases hx
  | plain => rfl
  | angled => rfl

/-- An argument that begins with a type. -/
theorem reads_argument_of_type {t : Ty} {a : Argument} (hfront : TypeFront us)
    (ht : Reads (g.type true) us t vs) {ws : Source}
    (hmore : Reads (match soleSegment t with
      | none => return .type t
      | some x => do
          if ← markIf "=" then
            if isLiteral (← rest) || isGroup .brace (← rest) then
              return .equalValue x (← constant g)
            else return .equalType x (← g.type true)
          else if isMark ":" (← rest) then
            let (bs, trailing) ← boundsIf g fun ts => isMark "," ts || isMark ">" ts
            return .constraint x bs trailing
          else return .type t) vs a ws) : Reads (argument g) us a ws := by
  have hlifetime : (isLifetime us && !second (isMark "+") us) = false := by
    rw [hfront.isLifetime_eq_false, Bool.false_and]
  have hvalue : (isLiteral us || isGroup .brace us) = false := by
    rw [hfront.isLiteral_eq_false, hfront.isBrace_eq_false, Bool.or_false]
  exact .peek (.no hlifetime (.no hvalue (ht.bind hmore)))

/-- An argument that begins with a name. -/
theorem Restores.reads_named (hg : Restores known s g) {x : Segment} {a : Argument}
    (hx : x.isTidy known = true) (hs : Tree.sizeAll x.tokens ≤ s) (hvs : BehindType true vs)
    (hmore : Reads (do
      if ← markIf "=" then
        if isLiteral (← rest) || isGroup .brace (← rest) then
          return .equalValue x (← constant g)
        else return .equalType x (← g.type true)
      else if isMark ":" (← rest) then
        let (bs, trailing) ← boundsIf g fun ts => isMark "," ts || isMark ">" ts
        return .constraint x bs trailing
      else return .type (.path (.plain ⟨false, [x]⟩))) vs a us) :
    Reads (Grammar.argument g) (x.tokens.placed ++ vs) a us := by
  have hname : (Ty.path (.plain ⟨false, [x]⟩)).isTidy known true = true := by
    simp [Ty.isTidy, TyPath.isTidy, Path.isTidy, segmentsTidy, hx]
  have htokens : (Ty.path (.plain ⟨false, [x]⟩)).tokens = x.tokens := List.append_nil _
  have hfront : TypeFront ((Ty.path (.plain ⟨false, [x]⟩)).tokens.placed ++ vs) := Ty.front hname
  have htype : Reads (g.type true) ((Ty.path (.plain ⟨false, [x]⟩)).tokens.placed ++ vs)
      (.path (.plain ⟨false, [x]⟩)) vs := hg.type hname (by rw [htokens]; exact hs) hvs
  rw [htokens] at hfront htype
  refine reads_argument_of_type hfront htype ?_
  rw [soleSegment_of_tidy hx]
  exact hmore

theorem Restores.reads_argument (hg : Restores known s g) {a : Argument}
    (ha : a.isTidy known = true) (hs : Tree.sizeAll a.tokens.2 ≤ s) (hus : BehindArgument us) :
    Reads (Grammar.argument g) (a.tokens.2.placed ++ us) a us := by
  have hequal (vs : Source) : Reads (markIf "=") ((op "=").placed ++ vs) true vs := fun _ => rfl
  cases a with
  | lifetime k => cases hus <;> exact fun _ => rfl
  | type t =>
      refine reads_argument_of_type (Ty.front ha) (hg.type ha hs hus.type) ?_
      have hnone : Reads (markIf "=") us false us := by cases hus <;> exact fun _ => rfl
      have hcolon : isMark ":" us = false := by cases hus <;> rfl
      cases soleSegment t with
      | none => exact reads_pure _
      | some x => exact hnone.bind (.no rfl (.peek (.no hcolon (reads_pure _))))
  | value e =>
      rw [Argument.isTidy] at ha
      have hfront : ValueFront (e.tokens.placed ++ us) := Expr.valueFront ha
      have hvalue : Reads (constant g) (e.tokens.placed ++ us) e us :=
        hg.reads_constant (by rw [ha, Bool.true_or]) hs
      refine .peek (.no ?_ (.yes hfront.value (hvalue.bind (reads_pure _))))
      exact Bool.and_eq_false_iff.mpr (.inl hfront.lifetime)
  | equalType x t =>
      obtain ⟨hx, ht⟩ : x.isTidy known = true ∧ t.isTidy known true = true := by
        simpa [Argument.isTidy] using ha
      rw [Argument.tokens, Tree.sizeAll_append, Tree.sizeAll_append] at hs
      have hfront : TypeFront (t.tokens.placed ++ us) := Ty.front ht
      have hvalue : (isLiteral (t.tokens.placed ++ us) || isGroup .brace (t.tokens.placed ++ us)) =
          false := by
        rw [hfront.isLiteral_eq_false, hfront.isBrace_eq_false, Bool.or_false]
      have htype : Reads (g.type true) (t.tokens.placed ++ us) t us := hg.type ht (by omega) hus.type
      rw [Argument.tokens, placed_append, placed_append, List.append_assoc, List.append_assoc]
      refine hg.reads_named hx (by omega) (behindType_op (by decide)) ((hequal _).bind (.yes rfl ?_))
      exact .peek (.peek (.no hvalue (htype.bind (reads_pure _))))
  | equalValue x e =>
      rw [Argument.isTidy, Bool.and_eq_true] at ha
      obtain ⟨hx, he⟩ := ha
      rw [Argument.tokens, Tree.sizeAll_append, Tree.sizeAll_append] at hs
      have hfront : ValueFront (e.tokens.placed ++ us) := Expr.valueFront he
      have hvalue : Reads (constant g) (e.tokens.placed ++ us) e us :=
        hg.reads_constant (by rw [he, Bool.true_or]) (by omega)
      rw [Argument.tokens, placed_append, placed_append, List.append_assoc, List.append_assoc]
      refine hg.reads_named hx (by omega) (behindType_op (by decide)) ((hequal _).bind (.yes rfl ?_))
      exact .peek (.peek (.yes hfront.value (hvalue.bind (reads_pure _))))
  | constraint x bs trailing =>
      simp only [Argument.isTidy, Bool.and_eq_true, boundsTidy_iff] at ha
      obtain ⟨⟨hx, hbs⟩, htrailing⟩ := ha
      rw [Argument.tokens, Tree.sizeAll_append, Tree.sizeAll_append] at hs
      have hnone (vs : Source) : Reads (markIf "=") ((op ":").placed ++ vs) false
          ((op ":").placed ++ vs) := fun _ => rfl
      have hcolon (vs : Source) : Reads (markIf ":") ((op ":").placed ++ vs) true vs := fun _ => rfl
      have hbounds : Reads (chained (fun ts => isMark "," ts || isMark ">" ts) "+" (bound g false true))
          ((pluses trailing (boundsTokens bs)).placed ++ us) (bs, trailing) us :=
        hg.reads_pluses hbs htrailing (by omega) (fun vs h => by cases h <;> rfl)
          (hus.behindBounds (by cases hus <;> rfl)) false true
      rw [Argument.tokens, placed_append, placed_append, List.append_assoc, List.append_assoc]
      refine hg.reads_named hx (by omega) (behindType_op (by decide)) ((hnone _).bind (.no rfl ?_))
      have hmore : Reads (boundsIf g fun ts => isMark "," ts || isMark ">" ts)
          ((op ":").placed ++ ((pluses trailing (boundsTokens bs)).placed ++ us)) (bs, trailing) us :=
        (hcolon _).bind (.yes rfl hbounds)
      exact .peek (.yes rfl (hmore.bind (reads_pure _)))

/-! Levels. -/

/-- A level reads one token more than the level below it, once it reads the values. -/
theorem Restores.above (hg : Restores known s g)
    (hvalues : ReadsValues known (s + 1) (Grammar.above g)) : Restores known (s + 1) (above g) where
  toReadsValues := hvalues
  type ht hs hus := hg.reads_type ht hs hus
  argument ha hs hus := hg.reads_argument ha (Nat.le_of_lt_succ hs) hus
  parameter hp hs hus := (hg.reads_parameter hp (Nat.le_of_lt_succ hs) hus).1

theorem Ty.size_pos {t : Ty} (ht : t.isTidy known plus = true) : 0 < Tree.sizeAll t.tokens := by
  have hfront : TypeFront (t.tokens.placed ++ []) := Ty.front ht
  cases htokens : t.tokens with
  | nil =>
      rw [htokens] at hfront
      cases hfront
  | cons x xs =>
      have hpos : 0 < x.size := by cases x <;> rw [Tree.size] <;> omega
      exact Nat.add_pos_left hpos _

theorem restores_level {n : Nat} (hn : 2 * s + 1 ≤ n) : Restores known s (level n) := by
  have hvalues : ReadsValues known s (level n) := readsValues_level hn
  induction s generalizing n with
  | zero =>
      -- there are no tokens to be read
      refine { toReadsValues := hvalues, type := fun ht hs _ => ?_, argument := fun _ hs => ?_,
               parameter := fun _ hs => absurd hs (Nat.not_lt_zero _) }
      · exact absurd (Ty.size_pos ht) (Nat.not_lt_of_le hs)
      · exact absurd hs (Nat.not_lt_zero _)
  | succ s ih =>
      obtain ⟨n, rfl⟩ := Nat.exists_eq_succ_of_ne_zero (Nat.ne_zero_of_lt hn)
      have hbelow : 2 * s + 1 ≤ n := by omega
      exact (ih hbelow (readsValues_level hbelow)).above hvalues

end ZonedAccessors.Grammar
