import ZonedAccessors.Grammar.Type
import ZonedAccessors.Proofs.Grammar.Fronts

/-!
Tidy paths, bounds and parameters are read as what they were printed from, where the types and
arguments in them are.
-/

namespace ZonedAccessors.Grammar

open Token Syntax

variable {g : Inner} {us vs : Source} {s : Nat} {known : Values} {inExpr : Bool}

/-- At most `s` tokens of a type, and fewer of an argument or a parameter, are read as what they
were printed from. -/
structure Restores (known : Values) (s : Nat) (g : Inner) : Prop extends ReadsValues known s g where
  type {plus : Bool} {t : Ty} {us : Source} : t.isTidy known plus = true →
    Tree.sizeAll t.tokens ≤ s → BehindType plus us →
      Reads (g.type plus) (t.tokens.placed ++ us) t us
  argument {a : Argument} {us : Source} : a.isTidy known = true → Tree.sizeAll a.tokens.2 < s →
    BehindArgument us → Reads g.argument (a.tokens.2.placed ++ us) a us
  parameter {p : Parameter} {us : Source} : p.isTidy known = true → Tree.sizeAll p.tokens.2 < s →
    BehindArgument us → Reads g.parameter (p.tokens.2.placed ++ us) p us

theorem size_enclose (d : Delimiter) (ts : Tokens) :
    Tree.sizeAll (enclose d ts) = 2 + Tree.sizeAll ts := rfl

theorem size_angles (ts : Tokens) : Tree.sizeAll (angles ts) = 2 + Tree.sizeAll ts := by
  have hopen : Tree.sizeAll (op "<") = 1 := rfl
  have hclose : Tree.sizeAll (op ">") = 1 := rfl
  rw [angles, Tree.sizeAll_append, Tree.sizeAll_append]
  omega

theorem size_word (w : String) : Tree.sizeAll (word w) = 1 := rfl

/-! Paths. -/

theorem reads_anyNameOr_self {k : String} {p : Span} (hk : isKeyword k = false ∨ k = "Self") :
    Reads (anyNameOr ["Self"]) (.ident k p :: us) k us := by
  unfold anyNameOr
  refine .peek ?_
  rcases hk with hk | rfl
  · exact .no (any_isWord_eq_false hk (by decide)) (reads_name hk)
  · exact .yes rfl fun _ => rfl

theorem reads_angled {α : Type} {item : Reader α} {xs : List α} {trailing : Bool} {ts : Tokens}
    (h : Reads (listed (isMark ">") "," item) (ts.placed ++ ((op ">").placed ++ us)) (xs, trailing)
      ((op ">").placed ++ us)) :
    Reads (angled item) ((angles ts).placed ++ us) (xs, trailing) us := by
  have hopen : Reads (mark "<") ((angles ts).placed ++ us) () (ts.placed ++ ((op ">").placed ++ us)) := by
    rw [angles, placed_append, placed_append, List.append_assoc, List.append_assoc]
    exact fun _ => rfl
  have hclose : Reads (mark ">") ((op ">").placed ++ us) () us := fun _ => rfl
  exact hopen.bind (h.bind (hclose.bind (reads_pure _)))

theorem Argument.isMark_eq_false {a : Argument} (h : a.isTidy known = true) :
    isMark ">" (a.tokens.2.placed ++ us) = false := by
  have hnamed (x : Segment) (ts : Tokens) : isMark ">" ((x.tokens ++ ts).placed ++ us) = false := by
    obtain ⟨ts', hts⟩ := Segment.exists_tokens (s := x)
    rw [hts]
    rfl
  cases a with
  | lifetime => rfl
  | type t => exact (Ty.front h).isMark_eq_false (by decide)
  | value e => exact (Expr.valueFront h).angle
  | equalType x t =>
      rw [Argument.tokens, List.append_assoc]
      exact hnamed x _
  | equalValue x e =>
      rw [Argument.tokens, List.append_assoc]
      exact hnamed x _
  | constraint x bs trailing =>
      rw [Argument.tokens, List.append_assoc]
      exact hnamed x _

/-- A segment is read before anything that is no argument. -/
theorem Restores.reads_segment (hg : Restores known s g) {x : Segment} (hx : x.isTidy known = true)
    (hfits : x.fits inExpr = true) (hs : Tree.sizeAll x.tokens ≤ s + 2)
    (hus : startsArguments inExpr us = false) :
    Reads (segment g inExpr) (x.tokens.placed ++ us) x us := by
  cases x with
  | plain k => exact reads_segment_name (of_decide_eq_true hx) hus
  | call => cases hx
  | angled k turbofish items trailing =>
      simp only [Segment.isTidy, Bool.and_eq_true, Bool.or_eq_true, Bool.not_eq_true',
        beq_iff_eq, argumentsTidy_iff] at hx
      obtain ⟨⟨⟨hname, hitems⟩, hmarks⟩, htrailing⟩ := hx
      rw [Segment.tokens, arranged_arguments hmarks] at hs ⊢
      rw [Tree.sizeAll_append, Tree.sizeAll_append, size_angles, size_word] at hs
      have hitem : ∀ a ∈ items, ReadsItem g.argument (isMark ">") BehindArgument a.tokens.2 (id a) := by
        intro a ha
        have hsize : Tree.sizeAll a.tokens.2 ≤
            Tree.sizeAll (commas trailing (items.map (·.tokens.2))) :=
          size_le_separated (List.mem_map_of_mem ha)
        exact ⟨fun vs => Argument.isMark_eq_false (hitems a ha),
          fun vs hvs => hg.argument (hitems a ha) (by omega) hvs⟩
      have hlisted : Reads (listed (isMark ">") "," g.argument)
          ((commas trailing (items.map (·.tokens.2))).placed ++ ((op ">").placed ++ us))
          (items.map id, trailing) ((op ">").placed ++ us) :=
        reads_listed hitem (fun vs => ⟨.comma, rfl⟩) .angle rfl htrailing
      rw [List.map_id] at hlisted
      have hangled := reads_angled hlisted
      have hstart (vs : Source) : ["super", "self", "crate", "try"].any
          (isWord · (.ident k ⟨0, 0⟩ :: vs)) = false := by
        rcases hname with hk | rfl
        · exact any_isWord_eq_false hk (by decide)
        · rfl
      rw [placed_append, placed_append, List.append_assoc, List.append_assoc]
      refine .peek (.no (hstart _) ((reads_anyNameOr_self hname).bind ?_))
      cases turbofish with
      | false =>
          obtain rfl : inExpr = false := by simpa [Segment.fits] using hfits
          have hcolons : Reads (markIf "::")
              ((angles (commas trailing (items.map (·.tokens.2)))).placed ++ us) false
              ((angles (commas trailing (items.map (·.tokens.2)))).placed ++ us) := fun _ => rfl
          exact .peek (.yes rfl (hcolons.bind (hangled.bind (reads_pure _))))
      | true =>
          have hcolons : Reads (markIf "::") ((op "::").placed ++
              ((angles (commas trailing (items.map (·.tokens.2)))).placed ++ us)) true
              ((angles (commas trailing (items.map (·.tokens.2)))).placed ++ us) := fun _ => rfl
          exact .peek (.yes (Bool.or_true _) (hcolons.bind (hangled.bind (reads_pure _))))

theorem behindSegments_cons (x : Segment) (xs : List Segment) : (behindSegments (x :: xs)).placed ++ us =
    (op "::").placed ++ (x.tokens.placed ++ ((behindSegments xs).placed ++ us)) := by
  rw [behindSegments, List.flatMap_cons, placed_append, placed_append, List.append_assoc,
    List.append_assoc]
  rfl

theorem startsArguments_behindSegments (hus : startsArguments inExpr us = false)
    (xs : List Segment) : startsArguments inExpr ((behindSegments xs).placed ++ us) = false := by
  cases xs with
  | nil => exact hus
  | cons x xs =>
      obtain ⟨ts, hts⟩ := x.exists_tokens
      rw [behindSegments_cons, hts]
      cases inExpr <;> rfl

/-- Segments behind a first one are read as long as two colons and a name are more of them, and
others may follow. -/
theorem Restores.readsMany_segments (hg : Restores known s g) {more : Source → Bool}
    {xs ys : List Segment} (hxs : ∀ x ∈ xs, x.isTidy known = true)
    (hfits : ∀ x ∈ xs, x.fits inExpr = true) (hs : Tree.sizeAll (behindSegments xs) ≤ s + 2)
    (hus : startsArguments inExpr us = false)
    (hmore : ∀ k vs, more ((op "::").placed ++ ((word k).placed ++ vs)) = true)
    (hys : ReadsMany more (furtherSegment g inExpr) us ys vs) :
    ReadsMany more (furtherSegment g inExpr) ((behindSegments xs).placed ++ us) (xs ++ ys) vs := by
  induction xs with
  | nil => exact hys
  | cons x xs ih =>
      obtain ⟨hx, hxs⟩ := List.forall_mem_cons.mp hxs
      obtain ⟨hfit, hfits⟩ := List.forall_mem_cons.mp hfits
      have hsize : Tree.sizeAll (behindSegments (x :: xs)) =
          2 + Tree.sizeAll x.tokens + Tree.sizeAll (behindSegments xs) := by
        rw [behindSegments, List.flatMap_cons, Tree.sizeAll_append, Tree.sizeAll_append]
        rfl
      have hcolons : Reads (mark "::")
          ((op "::").placed ++ (x.tokens.placed ++ ((behindSegments xs).placed ++ us))) ()
          (x.tokens.placed ++ ((behindSegments xs).placed ++ us)) := fun _ => rfl
      have hfirst : Reads (segment g inExpr)
          (x.tokens.placed ++ ((behindSegments xs).placed ++ us)) x
          ((behindSegments xs).placed ++ us) :=
        hg.reads_segment hx hfit (by omega) (startsArguments_behindSegments hus xs)
      have hstart : more ((op "::").placed ++
          (x.tokens.placed ++ ((behindSegments xs).placed ++ us))) = true := by
        obtain ⟨ts, hts⟩ := x.exists_tokens
        rw [hts, placed_append, List.append_assoc]
        exact hmore _ _
      rw [behindSegments_cons]
      refine .cons hstart (hcolons.bind hfirst) ?_ (ih hxs hfits (by omega))
      have hwritten : 0 < (op "::").placed.length := by decide
      simp only [List.length_append]
      omega

/-- A path that further segments may follow. -/
theorem Restores.reads_pathTo (hg : Restores known s g) {p : Path} (hp : p.isTidy known = true)
    (hfits : ∀ x ∈ p.segments, x.fits inExpr = true) (hs : Tree.sizeAll p.tokens ≤ s + 2)
    (hus : startsArguments inExpr us = false) {ys : List Segment}
    (hys : ReadsMany startsSegment (furtherSegment g inExpr) us ys vs) :
    Reads (path g inExpr) (p.tokens.placed ++ us) ⟨p.rooted, p.segments ++ ys⟩ vs := by
  obtain ⟨rooted, segments⟩ := p
  cases segments with
  | nil => cases hp
  | cons x xs =>
      rw [Path.isTidy, Bool.and_eq_true, segmentsTidy_iff] at hp
      obtain ⟨hfit, hfits⟩ := List.forall_mem_cons.mp hfits
      rw [Path.tokens, colons_segments] at hs ⊢
      rw [Tree.sizeAll_append, Tree.sizeAll_append] at hs
      have hroot : Reads (markIf "::")
          ((if rooted then op "::" else []).placed ++
            (x.tokens.placed ++ ((behindSegments xs).placed ++ us))) rooted
          (x.tokens.placed ++ ((behindSegments xs).placed ++ us)) := by
        obtain ⟨ts, hts⟩ := x.exists_tokens
        rw [hts]
        cases rooted <;> exact fun _ => rfl
      have hfirst : Reads (segment g inExpr)
          (x.tokens.placed ++ ((behindSegments xs).placed ++ us)) x
          ((behindSegments xs).placed ++ us) :=
        hg.reads_segment hp.1 hfit (by omega) (startsArguments_behindSegments hus xs)
      have hmore := (hg.readsMany_segments hp.2 hfits (by omega) hus (fun _ _ => rfl) hys).reads
      rw [placed_append, placed_append, List.append_assoc, List.append_assoc]
      exact hroot.bind (hfirst.bind (hmore.bind (reads_pure _)))

theorem Restores.reads_path (hg : Restores known s g) {p : Path} (hp : p.isTidy known = true)
    (hs : Tree.sizeAll p.tokens ≤ s + 2) (hus : BehindPath us) :
    Reads (path g false) (p.tokens.placed ++ us) p us := by
  have hend : startsSegment us = false := by rw [startsSegment, hus.colons, Bool.false_and]
  have hpath := hg.reads_pathTo hp (fun x _ => x.fits_type) hs hus.arguments (.nil hend)
  obtain ⟨rooted, segments⟩ := p
  rwa [List.append_nil] at hpath

/-! Binders. -/

theorem reads_binderIf_none (h : isWord "for" us = false) : Reads (binderIf g) us .none us :=
  (reads_keywordIf_false h).bind (.yes rfl (reads_pure _))

theorem Parameter.isMark_eq_false {p : Parameter} :
    isMark ">" (p.tokens.2.placed ++ us) = false := by
  cases p with
  | lifetime as => cases as <;> rfl
  | type as => cases as <;> rfl
  | value as => cases as <;> rfl

theorem Restores.reads_binderIf (hg : Restores known s g) {b : Generics}
    (hb : b.isTidyBinder known = true) (hs : Tree.sizeAll b.binderTokens ≤ s + 2)
    (hus : b.isWritten = false → isWord "for" us = false) :
    Reads (binderIf g) (b.binderTokens.placed ++ us) b us := by
  rcases b with _ | ⟨ps, trailing⟩
  · exact reads_binderIf_none (hus rfl)
  · simp only [Generics.isTidyBinder, Bool.and_eq_true, parametersTidy_iff] at hb
    obtain ⟨hps, htrailing⟩ := hb
    have htokens : (Generics.over ps trailing).binderTokens =
        word "for" ++ angles (commas trailing (ps.map (·.tokens.2))) := by
      rw [Generics.binderTokens, parametersTokens_eq_map, List.map_map]
      rfl
    rw [htokens] at hs ⊢
    rw [Tree.sizeAll_append, size_angles, size_word] at hs
    have hitem : ∀ p ∈ ps, ReadsItem g.parameter (isMark ">") BehindArgument p.tokens.2 (id p) := by
      intro p hp
      have hsize : Tree.sizeAll p.tokens.2 ≤ Tree.sizeAll (commas trailing (ps.map (·.tokens.2))) :=
        size_le_separated (List.mem_map_of_mem hp)
      exact ⟨fun vs => Parameter.isMark_eq_false,
        fun vs hvs => hg.parameter (hps p hp) (by omega) hvs⟩
    have hlisted : Reads (listed (isMark ">") "," g.parameter)
        ((commas trailing (ps.map (·.tokens.2))).placed ++ ((op ">").placed ++ us))
        (ps.map id, trailing) ((op ">").placed ++ us) :=
      reads_listed hitem (fun vs => ⟨.comma, rfl⟩) .angle rfl htrailing
    have hfor (vs : Source) : Reads (keywordIf "for") ((word "for").placed ++ vs) true vs :=
      fun _ => rfl
    rw [List.map_id] at hlisted
    rw [placed_append, List.append_assoc]
    exact (hfor _).bind (.no rfl ((reads_angled hlisted).bind (reads_pure _)))

/-! Traits. -/

theorem Restores.readsItem_type (hg : Restores known s g) {t : Ty} (ht : t.isTidy known true = true)
    (hs : Tree.sizeAll t.tokens ≤ s) :
    ReadsItem (g.type true) List.isEmpty (BehindType true) t.tokens t where
  starts _ := (Ty.front ht).isEmpty_eq_false
  reads _ hvs := hg.type ht hs hvs

/-- Types in parentheses. -/
theorem Restores.reads_types (hg : Restores known s g) {ts : List Ty} {trailing : Bool}
    (hts : ∀ t ∈ ts, t.isTidy known true = true) (htrailing : endsWell ts trailing = true)
    (hs : Tree.sizeAll (commas trailing (ts.map Ty.tokens)) ≤ s) :
    Reads (listed List.isEmpty "," (g.type true)) (commas trailing (ts.map Ty.tokens)).placed
      (ts, trailing) [] := by
  have hitem : ∀ t ∈ ts, ReadsItem (g.type true) List.isEmpty (BehindType true) t.tokens (id t) :=
    fun t ht => hg.readsItem_type (hts t ht)
      (Nat.le_trans (size_le_separated (List.mem_map_of_mem ht)) hs)
  have hlisted : Reads (listed List.isEmpty "," (g.type true))
      ((commas trailing (ts.map Ty.tokens)).placed ++ []) (ts.map id, trailing) [] :=
    reads_listed hitem (fun vs => ⟨behindType_op (by simp), rfl⟩) behindType_nil rfl htrailing
  rwa [List.append_nil, List.map_id] at hlisted

theorem Restores.reads_output (hg : Restores known s g) {out : Option Ty}
    (hout : optionTidy known false out = true) (hs : Tree.sizeAll (outputTokens out) ≤ s)
    (hus : BehindType false us) : Reads (output g false) ((outputTokens out).placed ++ us) out us := by
  cases out with
  | none => exact (reads_markIf_false hus.arrow).bind (.no rfl (reads_pure _))
  | some t =>
      rw [outputTokens, Tree.sizeAll_append] at hs
      have harrow (vs : Source) : Reads (markIf "->") ((op "->").placed ++ vs) true vs := fun _ => rfl
      rw [outputTokens, placed_append, List.append_assoc]
      refine (harrow _).bind (.yes rfl ((hg.type hout (by omega) hus).bind (reads_pure _)))

theorem withInputs_append (front : List Segment) (k : String) (inputs : List Ty) (trailing : Bool)
    (out : Option Ty) : withInputs inputs trailing out (front ++ [.plain k]) =
      some (front ++ [.call k inputs trailing out]) := by
  induction front with
  | nil => rfl
  | cons x xs ih =>
      obtain ⟨y, ys, hys⟩ := List.exists_cons_of_ne_nil (l := xs ++ [Segment.plain k]) (by simp)
      rw [List.cons_append, List.cons_append, withInputs, ih, Option.map_some]
      · simp
      · simp
      · simp

/-- Inputs and an output stand behind the last name of a path. -/
theorem Path.tokens_call (rooted : Bool) (front : List Segment) (k : String) (inputs : List Ty)
    (trailing : Bool) (out : Option Ty) :
    (Syntax.Path.mk rooted (front ++ [.call k inputs trailing out])).tokens =
      (Syntax.Path.mk rooted (front ++ [.plain k])).tokens ++
        (parens (commas trailing (tysTokens inputs)) ++ outputTokens out) := by
  cases front with
  | nil => simp [Path.tokens, segmentsTokens, colons, separated, Segment.tokens]
  | cons x xs =>
      rw [Path.tokens, Path.tokens, List.cons_append, List.cons_append, colons_segments,
        colons_segments]
      simp [behindSegments, Segment.tokens]

theorem Path.size_pos {p : Path} (hp : p.segments ≠ []) : 0 < Tree.sizeAll p.tokens := by
  obtain ⟨rooted, segments⟩ := p
  obtain ⟨x, xs, rfl⟩ := List.exists_cons_of_ne_nil hp
  obtain ⟨ts, hts⟩ := x.exists_tokens
  rw [Path.tokens, colons_segments, hts]
  simp only [Tree.sizeAll_append, size_word]
  omega

/-- A path as it stands: no inputs follow it. -/
theorem Restores.reads_traitPath_plain (hg : Restores known s g) {p : Path}
    (hp : p.isTidy known = true) (hs : Tree.sizeAll p.tokens ≤ s + 2) (hus : BehindType false us) :
    Reads (traitPath g) (p.tokens.placed ++ us) p us := by
  have hinputs : (takesInputs p &&
      (isGroup .paren us || (isMark "::" us && third (isGroup .paren) us))) = false := by
    rw [hus.inputs, hus.colons, Bool.false_and, Bool.or_false, Bool.and_false]
  exact (hg.reads_path hp hs hus.toBehindPath).bind (.peek (.no hinputs (reads_pure _)))

theorem Restores.reads_traitPath_call (hg : Restores known s g) (rooted : Bool)
    {front : List Segment} {k : String} {inputs : List Ty} {trailing : Bool} {out : Option Ty}
    (htidy : (Syntax.Path.mk rooted (front ++ [.plain k])).isTidy known = true)
    (hinputs : ∀ t ∈ inputs, t.isTidy known true = true)
    (htrailing : endsWell inputs trailing = true) (hout : optionTidy known false out = true)
    (hs : Tree.sizeAll (Syntax.Path.mk rooted (front ++ [.call k inputs trailing out])).tokens ≤
      s + 2)
    (hus : BehindType false us) :
    Reads (traitPath g)
      ((Syntax.Path.mk rooted (front ++ [.call k inputs trailing out])).tokens.placed ++ us)
      ⟨rooted, front ++ [.call k inputs trailing out]⟩ us := by
  rw [Path.tokens_call, tysTokens_eq_map] at hs ⊢
  rw [Tree.sizeAll_append, Tree.sizeAll_append, parens, size_enclose] at hs
  have hpos : 0 < Tree.sizeAll (Syntax.Path.mk rooted (front ++ [.plain k])).tokens :=
    Path.size_pos (by simp)
  have hpath : Reads (path g false) ((Syntax.Path.mk rooted (front ++ [.plain k])).tokens.placed ++
      ((parens (commas trailing (inputs.map Ty.tokens))).placed ++
        ((outputTokens out).placed ++ us))) ⟨rooted, front ++ [.plain k]⟩
      ((parens (commas trailing (inputs.map Ty.tokens))).placed ++
        ((outputTokens out).placed ++ us)) := hg.reads_path htidy (by omega) ⟨rfl, rfl, rfl⟩
  have htypes : Reads (inCommas .paren (g.type true))
      ((parens (commas trailing (inputs.map Ty.tokens))).placed ++
        ((outputTokens out).placed ++ us)) (inputs, trailing) ((outputTokens out).placed ++ us) :=
    (hg.reads_types hinputs htrailing (by omega)).inside
  have houtput := hg.reads_output hout (by omega) hus
  have hcolons (vs : Source) : Reads (markIf "::")
      ((parens (commas trailing (inputs.map Ty.tokens))).placed ++ vs) false
      ((parens (commas trailing (inputs.map Ty.tokens))).placed ++ vs) := fun _ => rfl
  have htakes (vs : Source) : (takesInputs ⟨rooted, front ++ [.plain k]⟩ &&
      (isGroup .paren ((parens (commas trailing (inputs.map Ty.tokens))).placed ++ vs) ||
        (isMark "::" ((parens (commas trailing (inputs.map Ty.tokens))).placed ++ vs) &&
          third (isGroup .paren)
            ((parens (commas trailing (inputs.map Ty.tokens))).placed ++ vs)))) = true := by
    rw [takesInputs, withInputs_append]
    rfl
  rw [placed_append, placed_append, List.append_assoc, List.append_assoc]
  refine hpath.bind (.peek (.yes (htakes _) ((hcolons _).bind (htypes.bind (houtput.bind ?_)))))
  rw [withInputs_append]
  exact reads_pure _

theorem Restores.reads_traitPath (hg : Restores known s g) {p : Path}
    (hp : p.isTidyTrait known = true) (hs : Tree.sizeAll p.tokens ≤ s + 2)
    (hus : BehindType false us) :
    Reads (traitPath g) (p.tokens.placed ++ us) p us := by
  obtain ⟨rooted, segments⟩ := p
  rcases traitTidy_cases hp with ⟨hne, hss⟩ | ⟨front, k, inputs, trailing, out, rfl, hk, hfront, hrest⟩
  · exact hg.reads_traitPath_plain (Path.isTidy_iff.mpr ⟨hne, hss⟩) hs hus
  · obtain ⟨hinputs, htrailing, hout⟩ := hrest
    have htidy : (Syntax.Path.mk rooted (front ++ [.plain k])).isTidy known = true := by
      refine Path.isTidy_iff.mpr ⟨by simp, fun x hx => ?_⟩
      rcases List.mem_append.mp hx with hx | hx
      · exact hfront x hx
      · obtain rfl := List.mem_singleton.mp hx
        exact decide_eq_true hk
    exact hg.reads_traitPath_call rooted htidy hinputs htrailing hout hs hus

/-! Bounds. -/

theorem Restores.reads_traitBound (hg : Restores known s g) {maybe : Bool} {binder : Generics}
    {p : Path} (hbinder : binder.isTidyBinder known = true)
    (hmaybe : (maybe && binder.isWritten) = false) (hp : p.isTidyTrait known = true)
    (hs : Tree.sizeAll binder.binderTokens ≤ s + 2) (hs' : Tree.sizeAll p.tokens ≤ s + 2)
    (hus : BehindType false us) (enclosed constant : Bool) :
    Reads (traitBound g enclosed constant) ((if maybe then op "?" else []).placed ++
      (binder.binderTokens.placed ++ (p.tokens.placed ++ us)))
      (some (.trait enclosed maybe binder p)) us := by
  have hpath := hg.reads_traitPath hp hs' hus
  have hfront : PathFront (p.tokens.placed ++ us) := Path.traitFront hp hus.hash
  generalize p.tokens.placed ++ us = ts at hpath hfront
  have hfor : isWord "for" ts = false := hfront.isWord_eq_false (by decide) (by decide)
  have hbracket : isGroup .bracket ts = false := hfront.isGroup_eq_false .bracket
  have hconst : isWord "const" ts = false := hfront.isWord_eq_false (by decide) (by decide)
  unfold traitBound
  cases maybe with
  | false =>
      have hmark : Reads (markIf "?") ts false ts := reads_markIf_false (hfront.isMark_eq_false rfl)
      have hbefore := hg.reads_binderIf hbinder hs fun _ => hfor
      refine hbefore.bind (.peek (.peek (.no hbracket (.no hconst ?_))))
      refine .state fun closing => hmark.bind (.no rfl ((reads_pure _).bind ?_))
      refine hpath.bind (.no rfl ?_)
      rw [hbracket, hconst]
      exact reads_pure _
  | true =>
      obtain rfl : binder = .none := by
        cases binder with
        | none => rfl
        | _ => cases hmaybe
      have hmark : Reads (markIf "?") ((op "?").placed ++ ts) true ts := fun _ => rfl
      refine (reads_binderIf_none rfl).bind (.peek (.peek (.no rfl (.no rfl ?_))))
      refine .state fun closing => hmark.bind (.yes rfl ((reads_binderIf_none hfor).bind ?_))
      exact hpath.bind (.no rfl (reads_pure _))

theorem reads_lifetimeBound {k : String} :
    Reads lifetimeBound ((lifetime k).placed ++ us) (.lifetime k) us := fun _ => rfl

/-- A trait begins with no word that a bound of another kind begins with. -/
theorem traitFront_tokens {maybe : Bool} {binder : Generics} {p : Path}
    (hp : p.isTidyTrait known = true) (hus : isMark "#" us = false) {ts : Source}
    (hts : ts = (if maybe then op "?" else []).placed ++
      (binder.binderTokens.placed ++ (p.tokens.placed ++ us))) :
    isLifetime ts = false ∧ isWord "use" ts = false ∧ isGroup .paren ts = false := by
  subst hts
  cases maybe with
  | true => exact ⟨rfl, rfl, rfl⟩
  | false =>
      cases binder with
      | none =>
          have hfront : PathFront (p.tokens.placed ++ us) := Path.traitFront hp hus
          exact ⟨hfront.isLifetime_eq_false, hfront.isWord_eq_false (by decide) (by decide),
            hfront.isGroup_eq_false .paren⟩
      | _ => exact ⟨rfl, rfl, rfl⟩

theorem Restores.reads_bound (hg : Restores known s g) {b : Bound} (hb : b.isTidy known = true)
    (hs : Tree.sizeAll b.tokens ≤ s + 2) (hus : BehindType false us) (capture constant : Bool) :
    Reads (bound g capture constant) (b.tokens.placed ++ us) b us := by
  cases b with
  | lifetime k => exact .peek (.yes rfl reads_lifetimeBound)
  | captured | verbatim => cases hb
  | trait enclosed maybe binder p =>
      simp only [Bound.isTidy, Bool.and_eq_true, Bool.not_eq_true'] at hb
      obtain ⟨⟨hbinder, hmaybe⟩, hp⟩ := hb
      cases enclosed with
      | false =>
          have htokens : (Bound.trait false maybe binder p).tokens =
              (if maybe then op "?" else []) ++ (binder.binderTokens ++ p.tokens) :=
            List.append_assoc ..
          rw [htokens, Tree.sizeAll_append, Tree.sizeAll_append] at hs
          have htrait := hg.reads_traitBound hbinder hmaybe hp (by omega) (by omega) hus false constant
          rw [htokens, placed_append, placed_append, List.append_assoc, List.append_assoc]
          obtain ⟨hlifetime, huse, hparen⟩ := traitFront_tokens hp hus.hash rfl
          refine .peek (.no hlifetime (.no huse ?_))
          exact (Reads.no hparen htrait).captured.bind (reads_pure _)
      | true =>
          have htokens : (Bound.trait true maybe binder p).tokens =
              parens ((if maybe then op "?" else []) ++ (binder.binderTokens ++ p.tokens)) :=
            congrArg parens (List.append_assoc ..)
          rw [htokens, parens, size_enclose, Tree.sizeAll_append, Tree.sizeAll_append] at hs
          have htrait := hg.reads_traitBound hbinder hmaybe hp (by omega) (by omega) behindType_nil
            true constant
          rw [List.append_nil, ← placed_append, ← placed_append] at htrait
          rw [htokens]
          refine .peek (.no rfl (.no rfl ?_))
          exact (Reads.yes rfl htrait.inside).captured.bind (reads_pure _)

/-! Sums of bounds. -/

theorem separates_plus : Separates "+" (BehindType false) :=
  ⟨by decide, fun _ _ => rfl, fun _ => behindType_plus⟩

theorem Restores.readsItem_bound (hg : Restores known s g) {bs : List Bound} {trailing : Bool}
    (hbs : ∀ b ∈ bs, b.isTidy known = true)
    (hs : Tree.sizeAll (pluses trailing (boundsTokens bs)) ≤ s + 2)
    {stop : Source → Bool} (hstop : ∀ vs, BoundFront vs → stop vs = false)
    (capture constant : Bool) : ∀ b ∈ bs,
      ReadsItem (bound g capture constant) stop (BehindType false) b.tokens (id b) := by
  intro b hb
  have hsize : Tree.sizeAll b.tokens ≤ Tree.sizeAll (pluses trailing (boundsTokens bs)) := by
    rw [boundsTokens_eq_map]
    exact size_le_separated (List.mem_map_of_mem hb)
  exact ⟨fun vs => hstop _ (Bound.front (hbs b hb)),
    fun vs hvs => hg.reads_bound (hbs b hb) (by omega) hvs capture constant⟩

theorem Restores.reads_bounds (hg : Restores known s g) {plus : Bool} {bs : List Bound}
    (hbs : ∀ b ∈ bs, b.isTidy known = true)
    (hs : Tree.sizeAll (pluses false (boundsTokens bs)) ≤ s + 2) (hne : bs ≠ [])
    (hplus : plus = true ∨ bs.length = 1) (hus : BehindType plus us) (capture constant : Bool)
    : Reads (bounds g plus capture constant)
      ((pluses false (boundsTokens bs)).placed ++ us) (bs, false) us := by
  let stop (ts : Source) := !(startsBound ts || (constant && isGroup .bracket ts))
  have hstop (vs : Source) (h : BoundFront vs) : stop vs = false := by
    simp only [stop, h.startsBound, Bool.true_or, Bool.not_true]
  have hitem := hg.readsItem_bound hbs hs hstop capture constant
  obtain ⟨b, bs, rfl⟩ := List.exists_cons_of_ne_nil hne
  cases plus with
  | true =>
      have hchained := reads_chainedFrom_length hitem separates_plus hus.forget hus.plus
        fun h => absurd h Bool.false_ne_true
      rw [List.map_id, ← boundsTokens_eq_map] at hchained
      unfold bounds
      exact .yes rfl hchained
  | false =>
      obtain hlength | hlength := hplus
      · cases hlength
      · obtain rfl : bs = [] := by simpa using hlength
        have hone := (hitem b List.mem_cons_self).reads us hus
        have htokens : pluses false (boundsTokens [b]) = b.tokens := List.append_nil _
        rw [htokens]
        unfold bounds
        exact .no rfl (hone.bind (reads_pure _))

/-- What may stand behind the bounds of a parameter or of a condition. -/
structure BehindBounds (stop : Source → Bool) (us : Source) : Prop extends BehindType true us where
  colon : isMark ":" us = false
  stops : stop us = true

theorem Restores.reads_pluses (hg : Restores known s g) {stop : Source → Bool} {bs : List Bound}
    {trailing : Bool} (hbs : ∀ b ∈ bs, b.isTidy known = true)
    (htrailing : endsWell bs trailing = true)
    (hs : Tree.sizeAll (pluses trailing (boundsTokens bs)) ≤ s + 2)
    (hstop : ∀ vs, BoundFront vs → stop vs = false) (hus : BehindBounds stop us)
    (capture constant : Bool) : Reads (chained stop "+" (bound g capture constant))
      ((pluses trailing (boundsTokens bs)).placed ++ us) (bs, trailing) us := by
  have hitem := hg.readsItem_bound hbs hs hstop capture constant
  have hchained := reads_chained hitem separates_plus hus.forget hus.plus hus.stops htrailing
  rwa [List.map_id, ← boundsTokens_eq_map] at hchained

theorem reads_lifetimes {stop : Source → Bool} {bs : List Bound} {trailing : Bool}
    (hbs : bs.all Bound.isLifetime = true) (htrailing : endsWell bs trailing = true)
    (hstop : ∀ k vs, stop ((lifetime k).placed ++ vs) = false) (hus : stop us = true)
    (hplus : isMark "+" us = false) : Reads (chained stop "+" lifetimeBound)
      ((pluses trailing (boundsTokens bs)).placed ++ us) (bs, trailing) us := by
  rw [List.all_eq_true] at hbs
  have hitem : ∀ b ∈ bs, ReadsItem lifetimeBound stop (fun _ => True) b.tokens (id b) := by
    intro b hb
    have hb := hbs b hb
    cases b with
    | lifetime k => exact ⟨hstop k, fun vs _ => reads_lifetimeBound⟩
    | _ => cases hb
  have hsep : Separates "+" fun _ => True := ⟨by decide, fun _ _ => rfl, fun _ => trivial⟩
  have hchained := reads_chained hitem hsep trivial hplus hus htrailing
  rwa [List.map_id, ← boundsTokens_eq_map] at hchained

theorem colonBefore_bounds (b : Bound) (bs : List Bound) (trailing : Bool) :
    colonBefore trailing (boundsTokens (b :: bs)) = op ":" ++ pluses trailing (boundsTokens (b :: bs)) := rfl

theorem Restores.reads_boundsIf (hg : Restores known s g) {stop : Source → Bool} {bs : List Bound}
    {trailing : Bool} (hbs : ∀ b ∈ bs, b.isTidy known = true)
    (htrailing : endsWell bs trailing = true)
    (hs : Tree.sizeAll (colonBefore trailing (boundsTokens bs)) ≤ s + 2)
    (hstop : ∀ vs, BoundFront vs → stop vs = false) (hus : BehindBounds stop us) :
    Reads (boundsIf g stop) ((colonBefore trailing (boundsTokens bs)).placed ++ us)
      (bs, trailing) us := by
  cases bs with
  | nil =>
      obtain rfl : trailing = false := by simpa [endsWell] using htrailing
      exact (reads_markIf_false hus.colon).bind (.no rfl (reads_pure _))
  | cons b bs =>
      rw [colonBefore_bounds, Tree.sizeAll_append] at hs
      have hcolon (vs : Source) : Reads (markIf ":") ((op ":").placed ++ vs) true vs := fun _ => rfl
      rw [colonBefore_bounds, placed_append, List.append_assoc]
      refine (hcolon _).bind (.yes rfl ?_)
      exact hg.reads_pluses hbs htrailing (by omega) hstop hus false true

theorem Restores.reads_moreBounds (hg : Restores known s g) {bs : List Bound}
    (hbs : ∀ b ∈ bs, b.isTidy known = true) (hs : Tree.sizeAll (behindBound bs) ≤ s + 2)
    (hus : BehindType true us) :
    Reads (moreBounds g) ((behindBound bs).placed ++ us) (bs, false) us := by
  cases bs with
  | nil => exact (reads_markIf_false hus.plus).bind (.yes rfl (reads_pure _))
  | cons b bs =>
      rw [behindBound, Tree.sizeAll_append] at hs
      have hs : Tree.sizeAll (pluses false (boundsTokens (b :: bs))) ≤ s + 2 := by omega
      have hstop (vs : Source) (h : BoundFront vs) : (!startsBound vs) = false := by
        rw [h.startsBound, Bool.not_true]
      have hitem := hg.readsItem_bound hbs hs hstop false false
      have hplus (vs : Source) : Reads (markIf "+") ((op "+").placed ++ vs) true vs := fun _ => rfl
      have hstart : (!startsBound ((pluses false ((b :: bs).map Bound.tokens)).placed ++ us)) = false :=
        (hitem b List.mem_cons_self).starts_separated
      have hchained := reads_chainedFrom_length hitem separates_plus hus.forget hus.plus
        fun h => absurd h Bool.false_ne_true
      rw [List.map_id, ← boundsTokens_eq_map] at hchained
      rw [← boundsTokens_eq_map] at hstart
      rw [behindBound, placed_append, List.append_assoc]
      exact (hplus _).bind (.no rfl (.peek (.no hstart (.peek (.no hstart hchained)))))

/-! Parameters. -/

theorem BehindArgument.behindBounds (h : BehindArgument us) {stop : Source → Bool}
    (hstop : stop us = true) : BehindBounds stop us where
  toBehindType := h.type
  colon := by cases h <;> rfl
  stops := hstop

theorem reads_lifetimeParameter {as : Attributes} {k : String} {bs : List Bound}
    {trailing : Bool} (hbs : bs.all Bound.isLifetime = true)
    (htrailing : endsWell bs trailing = true) (hus : BehindArgument us) :
    Reads (lifetimeParameter as)
      ((lifetime k).placed ++ ((colonBefore trailing (boundsTokens bs)).placed ++ us))
      (.lifetime as k bs trailing) us := by
  have hname (vs : Source) : Reads lifetimeName ((lifetime k).placed ++ vs) k vs := fun _ => rfl
  refine (hname _).bind ?_
  cases bs with
  | nil =>
      obtain rfl : trailing = false := by simpa [endsWell] using htrailing
      have hcolon : Reads (markIf ":") us false us := by cases hus <;> exact fun _ => rfl
      exact hcolon.bind (.no rfl (reads_pure _))
  | cons b bs =>
      have hcolon (vs : Source) : Reads (markIf ":") ((op ":").placed ++ vs) true vs := fun _ => rfl
      have hstop (k : String) (vs : Source) : endsParameter ((lifetime k).placed ++ vs) = false := rfl
      have hends : endsParameter us = true := by cases hus <;> rfl
      have hplus : isMark "+" us = false := by cases hus <;> rfl
      have hbounds := reads_lifetimes hbs htrailing hstop hends hplus
      rw [colonBefore_bounds, placed_append, List.append_assoc]
      exact (hcolon _).bind (.yes rfl (hbounds.bind (reads_pure _)))

theorem Restores.reads_typeParameter (hg : Restores known s g) {as : Attributes} {k : String}
    {bs : List Bound} {trailing : Bool} {default : Option Ty} (hk : isKeyword k = false)
    (hbs : ∀ b ∈ bs, b.isTidy known = true) (htrailing : endsWell bs trailing = true)
    (hdefault : optionTidy known true default = true)
    (hs : Tree.sizeAll (colonBefore trailing (boundsTokens bs)) ≤ s + 2)
    (hs' : Tree.sizeAll (equalTypeTokens default) ≤ s) (hus : BehindArgument us) :
    Reads (typeParameter g as) ((word k).placed ++
      ((colonBefore trailing (boundsTokens bs)).placed ++ ((equalTypeTokens default).placed ++ us)))
      (.type as k bs trailing default) us := by
  have hstop (vs : Source) (h : BoundFront vs) :
      (isMark "," vs || isMark ">" vs || isMark "=" vs) = false := by
    cases h <;> rfl
  have hbehind : BehindBounds (fun ts => isMark "," ts || isMark ">" ts || isMark "=" ts)
      ((equalTypeTokens default).placed ++ us) := by
    cases default with
    | none => exact hus.behindBounds (by cases hus <;> rfl)
    | some t => exact ⟨behindType_op (w := "=") (by decide), rfl, rfl⟩
  have hbounds := hg.reads_boundsIf hbs htrailing hs hstop hbehind
  refine (reads_name hk).bind (hbounds.bind ?_)
  cases default with
  | none =>
      have hequal : Reads (markIf "=") us false us := by cases hus <;> exact fun _ => rfl
      exact hequal.bind (.no rfl ((reads_pure _).bind (reads_pure _)))
  | some t =>
      rw [equalTypeTokens, Tree.sizeAll_append] at hs'
      have hequal : Reads (markIf "=") ((op "=").placed ++ (t.tokens.placed ++ us)) true
          (t.tokens.placed ++ us) := fun _ => rfl
      have htype : Reads (g.type true) (t.tokens.placed ++ us) t us :=
        hg.type hdefault (by omega) hus.type
      exact hequal.bind (.yes rfl ((htype.map some).bind (reads_pure _)))

theorem Restores.reads_valueParameter (hg : Restores known s g) {as : Attributes} {k : String}
    {t : Ty} {default : Option Expr} (hk : isKeyword k = false) (ht : t.isTidy known true = true)
    (hdefault : default.all (fun e => e.isArgument known || e.isName) = true)
    (hs : Tree.sizeAll t.tokens ≤ s) (hs' : Tree.sizeAll (equalTokens default) ≤ s)
    (hus : BehindArgument us) :
    Reads (valueParameter g as) ((word "const").placed ++ ((word k).placed ++ ((op ":").placed ++
      (t.tokens.placed ++ ((equalTokens default).placed ++ us))))) (.value as k t default) us := by
  have hconst (vs : Source) : Reads (keyword "const") ((word "const").placed ++ vs) () vs :=
    fun _ => rfl
  have hcolon (vs : Source) : Reads (mark ":") ((op ":").placed ++ vs) () vs := fun _ => rfl
  have hbehind : BehindType true ((equalTokens default).placed ++ us) := by
    cases default with
    | none => exact hus.type
    | some e => exact behindType_op (w := "=") (by decide)
  refine (hconst _).bind ((reads_name hk).bind ((hcolon _).bind ((hg.type ht hs hbehind).bind ?_)))
  cases default with
  | none =>
      have hequal : Reads (markIf "=") us false us := by cases hus <;> exact fun _ => rfl
      exact hequal.bind (.no rfl ((reads_pure _).bind (reads_pure _)))
  | some e =>
      have hequal : Reads (markIf "=") ((op "=").placed ++ (e.tokens.placed ++ us)) true
          (e.tokens.placed ++ us) := fun _ => rfl
      rw [equalTokens, Tree.sizeAll_append] at hs'
      have hvalue : Reads (constant g) (e.tokens.placed ++ us) e us :=
        hg.reads_constant hdefault (by omega)
      exact hequal.bind (.yes rfl ((hvalue.map some).bind (reads_pure _)))

/-- In a binder and in a declaration alike. -/
theorem Restores.reads_parameter (hg : Restores known s g) {p : Parameter}
    (hp : p.isTidy known = true) (hs : Tree.sizeAll p.tokens.2 ≤ s) (hus : BehindArgument us) :
    Reads (Grammar.parameter g) (p.tokens.2.placed ++ us) p us ∧
      Reads (declaredParameter g) (p.tokens.2.placed ++ us) p us := by
  cases p with
  | lifetime as k bs trailing =>
      simp only [Parameter.isTidy, Bool.and_eq_true] at hp
      obtain ⟨⟨has, hbs⟩, htrailing⟩ := hp
      have hparameter : Reads (lifetimeParameter as) _ (.lifetime as k bs trailing) us :=
        reads_lifetimeParameter hbs htrailing hus
      rw [Parameter.tokens] at hs
      simp only [Tree.sizeAll_append] at hs
      have hattributes {vs : Source} (hvs : isMark "#" vs = false) :=
        hg.reads_attributes has (by omega) hvs
      rw [Parameter.tokens, placed_append, placed_append, List.append_assoc, List.append_assoc]
      exact ⟨(hattributes rfl).bind (.peek (.no rfl (.yes rfl hparameter))),
        (hattributes rfl).bind (.peek (.yes rfl hparameter))⟩
  | type as k bs trailing default =>
      simp only [Parameter.isTidy, Bool.and_eq_true, Bool.not_eq_true', boundsTidy_iff] at hp
      obtain ⟨⟨⟨⟨has, hk⟩, hbs⟩, htrailing⟩, hdefault⟩ := hp
      rw [Parameter.tokens] at hs
      simp only [Tree.sizeAll_append] at hs
      have hparameter : Reads (typeParameter g as) _ _ us :=
        hg.reads_typeParameter hk hbs htrailing hdefault (by omega) (by omega) hus
      have hattributes {vs : Source} (hvs : isMark "#" vs = false) :=
        hg.reads_attributes has (by omega) hvs
      have hname (vs : Source) : isName ((word k).placed ++ vs) = true := by
        change (!isKeyword k) = true
        rw [hk, Bool.not_false]
      simp only [Parameter.tokens, placed_append, List.append_assoc]
      exact ⟨(hattributes rfl).bind (.peek (.yes (hname _) hparameter)),
        (hattributes rfl).bind (.peek (.no rfl (.yes (hname _) hparameter)))⟩
  | value as k t default =>
      simp only [Parameter.isTidy, Bool.and_eq_true, Bool.not_eq_true'] at hp
      obtain ⟨⟨⟨has, hk⟩, ht⟩, hdefault⟩ := hp
      rw [Parameter.tokens] at hs
      simp only [Tree.sizeAll_append] at hs
      have hparameter : Reads (valueParameter g as) _ _ us :=
        hg.reads_valueParameter hk ht hdefault (by omega) (by omega) hus
      have hattributes {vs : Source} (hvs : isMark "#" vs = false) :=
        hg.reads_attributes has (by omega) hvs
      simp only [Parameter.tokens, placed_append, List.append_assoc]
      exact ⟨(hattributes rfl).bind (.peek (.no rfl (.no rfl (.yes rfl hparameter)))),
        (hattributes rfl).bind (.peek (.no rfl (.no rfl (.yes rfl hparameter))))⟩

end ZonedAccessors.Grammar
