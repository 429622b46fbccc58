import ZonedAccessors.Proofs.Grammar.Head
import ZonedAccessors.Proofs.Grammar.Reads

/-!
Paths of names and visibilities are read as what they were made from, whatever stands behind them.
-/

namespace ZonedAccessors.Syntax

def ModPath.toPath (m : ModPath) : Path := ⟨m.rooted, m.names.map .plain⟩

theorem ModPath.tokens_toPath (m : ModPath) : m.toPath.tokens = m.tokens := by
  have hsegments (ns : List String) : segmentsTokens (ns.map .plain) = ns.map Token.word := by
    induction ns with
    | nil => rfl
    | cons n ns ih => rw [List.map_cons, segmentsTokens, ih]; rfl
  rw [ModPath.toPath, Path.tokens, hsegments]
  rfl

/-- The path of `name` in what `p` names. -/
def Path.to (p : Path) (name : String) : Path := ⟨p.rooted, p.segments ++ [.plain name]⟩

end ZonedAccessors.Syntax

namespace ZonedAccessors.Grammar

open Token Syntax

variable {g : Inner} {inExpr : Bool} {m : ModPath} {n w : String} {place : Span} {us vs : Source}

/-- What may begin a path or stand in it. -/
def Nameable (n : String) : Prop := isKeyword n = false ∨ n ∈ ["super", "self", "Self", "crate"]

instance : DecidablePred Nameable := fun n =>
  inferInstanceAs (Decidable (isKeyword n = false ∨ n ∈ ["super", "self", "Self", "crate"]))

theorem PathName.nameable (hn : PathName n) : Nameable n := hn.2

theorem Nameable.isWord_eq_false (hn : Nameable n) (hw : isKeyword w = true)
    (hw' : w ∉ ["super", "self", "Self", "crate"]) :
    isWord w (.ident n place :: us) = false := by
  rcases hn with hn | hn
  · exact Grammar.isWord_eq_false hn hw
  · simp only [isWord, beq_eq_false_iff_ne]
    rintro rfl
    exact hw' hn

theorem any_isWord_eq_false (hn : isKeyword n = false) {ws : List String}
    (hws : ws.all isKeyword = true) : ws.any (isWord · (.ident n place :: us)) = false := by
  simp only [List.any_eq_false, List.all_eq_true, Bool.not_eq_true] at hws ⊢
  exact fun w hw => Grammar.isWord_eq_false hn (hws w hw)

/-! What stands at the front of a path. -/

inductive PathFront : Source → Prop
  | rooted {p q : Span} {ts : Source} :
      PathFront (.punct ':' true p :: .punct ':' false q :: ts)
  | name {p : Span} {ts : Source} {n : String} : Nameable n → isMark "#" ts = false →
      PathFront (.ident n p :: ts)

namespace PathFront

theorem ne_nil (h : PathFront us) : us ≠ [] := by
  cases h <;> exact List.cons_ne_nil _ _

theorem isWord_eq_false (h : PathFront us) (hw : isKeyword w = true)
    (hw' : w ∉ ["super", "self", "Self", "crate"]) : isWord w us = false := by
  cases h with
  | rooted => rfl
  | name hn _ => exact hn.isWord_eq_false hw hw'

/-- None of these words stands at the front. -/
theorem any_isWord_eq_false (h : PathFront us) {ws : List String}
    (hws : ∀ w ∈ ws, isKeyword w = true ∧ w ∉ ["super", "self", "Self", "crate"]) :
    ws.any (isWord · us) = false := by
  simp only [List.any_eq_false, Bool.not_eq_true]
  exact fun w hw => h.isWord_eq_false (hws w hw).1 (hws w hw).2

theorem isGroup_eq_false (h : PathFront us) (d : Delimiter) : isGroup d us = false := by
  cases h <;> rfl

theorem isLifetime_eq_false (h : PathFront us) : isLifetime us = false := by
  cases h <;> rfl

theorem isLiteral_eq_false (h : PathFront us) : isLiteral us = false := by
  have htrue : isWord "true" us = false := h.isWord_eq_false (by decide) (by decide)
  have hfalse : isWord "false" us = false := h.isWord_eq_false (by decide) (by decide)
  cases h with
  | rooted => rfl
  | name =>
      simp only [isWord] at htrue hfalse
      simp [isLiteral, afterLiteral, htrue, hfalse]

theorem isMark_eq_false (h : PathFront us) (hw : w.toList.head?.any (· != ':') = true) :
    isMark w us = false := by
  unfold isMark
  cases hcs : w.toList with
  | nil => simp [hcs] at hw
  | cons c cs =>
      have hc : c ≠ ':' := by simpa [hcs] using hw
      cases h with
      | rooted => cases cs <;> simp [afterMark, hc]
      | name => cases cs <;> simp [afterMark]

theorem startsBuiltin_eq_false (h : PathFront us) : startsBuiltin us = false := by
  cases h with
  | rooted => rfl
  | name _ hmark => simpa [startsBuiltin, second, skipped] using fun _ => hmark

theorem startsPath_or (h : PathFront us) : (startsPath us || isMark "::" us) = true := by
  cases h with
  | rooted => rfl
  | name hn _ => simp [startsPath_iff.mpr ⟨_, _, _, rfl, hn⟩]

end PathFront

/-! Segments. -/

/-- Whether the arguments of a segment follow. -/
def startsArguments (inExpr : Bool) (ts : Source) : Bool :=
  (!inExpr && isMark "<" ts && !isMark "<=" ts) || (isMark "::" ts && third (isMark "<") ts)

theorem reads_segment_name (hn : Nameable n) (hus : startsArguments inExpr us = false) :
    Reads (segment g inExpr) (.ident n place :: us) (.plain n) us := by
  have hname : Reads anyName (.ident n place :: us) n us := fun _ => rfl
  unfold segment
  refine .peek ?_
  -- `super`, `self` and `crate` are read apart from names, and so is `Self` in a second step
  cases hstart : ["super", "self", "crate", "try"].any (isWord · (.ident n place :: us)) with
  | true => exact .yes rfl (hname.bind (reads_pure _))
  | false =>
      refine .no rfl (Reads.bind ?_ (.peek (.no hus (reads_pure _))))
      unfold anyNameOr
      refine .peek ?_
      cases hself : ["Self"].any (isWord · (.ident n place :: us)) with
      | true => exact .yes rfl hname
      | false =>
          refine .no rfl (reads_name ?_)
          rcases hn with hn | hn
          · exact hn
          · simp [isWord] at hstart hself
            simp [hstart, hself] at hn

/-! Paths. -/

/-- Further names, each behind two colons. -/
def behind (ns : List String) : Tokens := ns.flatMap fun n => op "::" ++ word n

theorem colons_eq_behind (n : String) (ns : List String) :
    colons ((n :: ns).map word) = word n ++ behind ns := by
  induction ns generalizing n with
  | nil => rfl
  | cons n' ns ih => rw [colons_cons_cons, ih n']; rfl

theorem length_behind (ns : List String) : (behind ns).placed.length = 3 * ns.length := by
  induction ns with
  | nil => rfl
  | cons n ns ih =>
      change (behind ns).placed.length + 3 = _
      rw [ih, List.length_cons, Nat.mul_succ]

theorem placed_append (ts us : Tokens) : (ts ++ us).placed = ts.placed ++ us.placed :=
  Tree.relabelAll_append ..

/-- What `path` repeats behind the first segment. -/
def furtherSegment (g : Inner) (inExpr : Bool) : Reader Segment := do
  mark "::"
  segment g inExpr

def startsSegment (ts : Source) : Bool := isMark "::" ts && !third (isGroup .paren) ts

theorem readsMany_behind {ns : List String} (hns : ∀ n ∈ ns, Nameable n)
    (hus : startsArguments inExpr us = false) {ss : List Segment}
    (h : ReadsMany startsSegment (furtherSegment g inExpr) us ss vs) :
    ReadsMany startsSegment (furtherSegment g inExpr) ((behind ns).placed ++ us)
      (ns.map .plain ++ ss) vs := by
  induction ns with
  | nil => exact h
  | cons n ns ih =>
      have hn : Nameable n := hns n (by simp)
      have hcolons : Reads (mark "::") ((behind (n :: ns)).placed ++ us) ()
          (.ident n ⟨0, 0⟩ :: ((behind ns).placed ++ us)) := fun _ => rfl
      have hnext : startsArguments inExpr ((behind ns).placed ++ us) = false := by
        cases ns with
        | nil => exact hus
        | cons n' ns => cases inExpr <;> rfl
      refine .cons rfl (hcolons.bind (reads_segment_name hn hnext)) ?_
        (ih fun k hk => hns k (by simp [hk]))
      simp [behind, op, marks, word, Tokens.placed, Tree.relabelAll]
      omega

/-- A path of at least one name, all of which can be read. -/
def ModPath.Readable (m : ModPath) : Prop := m.names ≠ [] ∧ ∀ n ∈ m.names, Nameable n

theorem ModPath.Named.readable (hm : ModPath.Named m) : ModPath.Readable m :=
  ⟨hm.1, fun n hn => (hm.2 n hn).nameable⟩

theorem reads_path (hm : ModPath.Readable m) (hus : startsArguments inExpr us = false)
    {ss : List Segment} (h : ReadsMany startsSegment (furtherSegment g inExpr) us ss vs) :
    Reads (path g inExpr) (m.tokens.placed ++ us) ⟨m.rooted, m.names.map .plain ++ ss⟩ vs := by
  obtain ⟨rooted, names⟩ := m
  obtain ⟨hne, hnames⟩ := hm
  obtain ⟨n, ns, rfl⟩ := List.exists_cons_of_ne_nil hne
  have hnext : startsArguments inExpr ((behind ns).placed ++ us) = false := by
    cases ns with
    | nil => exact hus
    | cons n' ns => cases inExpr <;> rfl
  have hroot : Reads (markIf "::") ((ModPath.tokens ⟨rooted, n :: ns⟩).placed ++ us) rooted
      (.ident n ⟨0, 0⟩ :: ((behind ns).placed ++ us)) := by
    intro closing
    simp only [ModPath.tokens, colons_eq_behind, placed_append]
    cases rooted <;> rfl
  have htail : ∀ k ∈ ns, Nameable k := fun k hk => hnames k (List.mem_cons_of_mem _ hk)
  have hmany := (readsMany_behind htail hus h).reads
  have hfirst : Reads (segment g inExpr) (.ident n ⟨0, 0⟩ :: ((behind ns).placed ++ us)) (.plain n)
      ((behind ns).placed ++ us) := reads_segment_name (hnames n List.mem_cons_self) hnext
  exact hroot.bind (hfirst.bind (hmany.bind (reads_pure _)))

/-! Types. -/

/-- What may stand behind a path. -/
structure BehindPath (us : Source) : Prop where
  hash : isMark "#" us = false
  colons : isMark "::" us = false
  arguments : startsArguments false us = false

/-- What may stand behind a type, and behind a bound if the type may be a sum. -/
structure BehindType (plus : Bool) (us : Source) : Prop extends BehindPath us where
  inputs : isGroup .paren us = false
  arrow : isMark "->" us = false
  call : isInvoked us = false
  plus : (plus && isMark "+" us) = false

inductive TypeEnds : Source → Prop
  | nil : TypeEnds []
  | block {body ts : Source} {p : Span} : TypeEnds (.group .brace body p :: ts)
  | angle {joint : Bool} {p : Span} {ts : Source} : TypeEnds (.punct '>' joint p :: ts)

theorem TypeEnds.behindType (h : TypeEnds us) : BehindType true us := by
  cases h <;> exact ⟨⟨rfl, rfl, rfl⟩, rfl, rfl, rfl, rfl⟩

theorem reads_keywordIf_false (h : isWord w us = false) : Reads (keywordIf w) us false us := by
  intro closing
  simp [run_keywordIf, h]

theorem reads_markIf_false {text : String} (h : isMark text us = false) :
    Reads (markIf text) us false us := by
  intro closing
  rw [run_markIf]
  simp only [isMark, Option.isSome_eq_false_iff, Option.isNone_iff_eq_none] at h
  simp [h]

theorem PathFront.startsFunction_eq_false (h : PathFront us) : startsFunction us = false :=
  h.any_isWord_eq_false (by decide)

theorem PathFront.reads_tyPath (hus : PathFront us) {p : Path}
    (hp : Reads (path g inExpr) us p vs) : Reads (tyPath g inExpr) us (.plain p) vs := by
  have hangle : Reads (markIf "<") us false us := reads_markIf_false (hus.isMark_eq_false rfl)
  unfold tyPath
  exact hangle.bind (.no rfl (hp.bind (reads_pure _)))

theorem reads_pathType (hus : PathFront us) {p : Path} (hp : Reads (path g false) us p vs)
    {plus : Bool} (hvs : BehindType plus vs) :
    Reads (pathType g plus .none) us (.path (.plain p)) vs := by
  have hplus : (Generics.none.isWritten || (plus && isMark "+" vs)) = false := by
    rw [hvs.plus]
    rfl
  unfold pathType
  refine (hus.reads_tyPath hp).bind (.peek ?_)
  rw [hvs.call]
  exact .no hplus (reads_pure _)

/-- A type that begins with a path is read where paths are read. -/
theorem PathFront.reads_type (hus : PathFront us) {plus : Bool} {t : Ty}
    (ht : Reads (pathType g plus .none) us t vs) : Reads (type g plus) us t vs := by
  have hbinder : Reads (binderIf g) us .none us :=
    (reads_keywordIf_false (hus.isWord_eq_false (by decide) (by decide))).bind (reads_pure _)
  have hstart : (startsPath us || isMark "::" us || isMark "<" us) = true := by
    rw [hus.startsPath_or, Bool.true_or]
  unfold type
  refine hbinder.bind (.peek (.no rfl ?_))
  refine .no (hus.isGroup_eq_false .paren) (.no hus.startsFunction_eq_false ?_)
  exact .no hus.startsBuiltin_eq_false (.yes hstart ht)

theorem reads_type (hus : PathFront us) {p : Path} (hp : Reads (path g false) us p vs)
    {plus : Bool} (hvs : BehindType plus vs) : Reads (type g plus) us (.path (.plain p)) vs :=
  hus.reads_type (reads_pathType hus hp hvs)

theorem ModPath.Readable.pathFront (hm : ModPath.Readable m) (hus : isMark "#" us = false) :
    PathFront (m.tokens.placed ++ us) := by
  obtain ⟨rooted, names⟩ := m
  obtain ⟨hne, hnames⟩ := hm
  obtain ⟨n, ns, rfl⟩ := List.exists_cons_of_ne_nil hne
  simp only [ModPath.tokens, colons_eq_behind, placed_append]
  cases rooted with
  | true => exact .rooted
  | false =>
      refine .name (hnames n List.mem_cons_self) ?_
      cases ns with
      | nil => exact hus
      | cons n' ns => rfl

/-- Tokens that are read as a path wherever one may stand, with any segments behind it. -/
structure ReadsPath (g : Inner) (ts : Tokens) (p : Path) : Prop where
  front {us : Source} : isMark "#" us = false → PathFront (ts.placed ++ us)
  further {inExpr : Bool} {us vs : Source} {xs : List Segment} :
    startsArguments inExpr us = false → ReadsMany startsSegment (furtherSegment g inExpr) us xs vs →
      Reads (path g inExpr) (ts.placed ++ us) ⟨p.rooted, p.segments ++ xs⟩ vs

theorem ModPath.Readable.readsPath (hm : ModPath.Readable m) : ReadsPath g m.tokens m.toPath where
  front hus := hm.pathFront hus
  further hus hmore := reads_path hm hus hmore

theorem ReadsPath.reads {ts : Tokens} {p : Path} (hp : ReadsPath g ts p)
    (hus : startsArguments inExpr us = false) (hend : startsSegment us = false) :
    Reads (path g inExpr) (ts.placed ++ us) p us := by
  have hpath := hp.further hus (.nil hend)
  obtain ⟨rooted, segments⟩ := p
  rwa [List.append_nil] at hpath

/-- A name behind a path. -/
theorem ReadsPath.to {ts : Tokens} {p : Path} (hp : ReadsPath g ts p) (hn : Nameable n) :
    ReadsPath g (ts ++ behind [n]) (p.to n) where
  front hus := by
    rw [placed_append, List.append_assoc]
    exact hp.front rfl
  further {inExpr us vs xs} hus hmore := by
    have hnames : ∀ k ∈ [n], Nameable k := by simpa using hn
    have hbehind := readsMany_behind hnames hus hmore
    have hnone : startsArguments inExpr ((behind [n]).placed ++ us) = false := by
      cases inExpr <;> rfl
    have hpath := hp.further hnone hbehind
    have hsegments : p.segments ++ ([n].map .plain ++ xs) = (p.to n).segments ++ xs :=
      (List.append_assoc ..).symm
    rw [hsegments] at hpath
    rw [placed_append, List.append_assoc]
    exact hpath

theorem TypeEnds.reads_path (hvs : TypeEnds vs) {ts : Tokens} {p : Path} (hp : ReadsPath g ts p) :
    Reads (type g true) (ts.placed ++ vs) (.path (.plain p)) vs := by
  have hfront : isMark "#" vs = false := by cases hvs <;> rfl
  have harguments : startsArguments false vs = false := by cases hvs <;> rfl
  have hsegment : startsSegment vs = false := by cases hvs <;> rfl
  exact reads_type (hp.front hfront) (hp.reads harguments hsegment) hvs.behindType

theorem reads_segment_angled (hn : isKeyword n = false) {a : Argument} {joint : Bool} {p q : Span}
    (hus : isMark ">" us = false) (ha : Reads g.argument us a (.punct '>' joint p :: vs)) :
    Reads (segment g false) (.ident n place :: .punct '<' false q :: us)
      (.angled n false [a] false) vs := by
  have hstart : ["super", "self", "crate", "try"].any
      (isWord · (.ident n place :: .punct '<' false q :: us)) = false :=
    any_isWord_eq_false hn (by decide)
  have hself : ["Self"].any (isWord · (.ident n place :: .punct '<' false q :: us)) = false :=
    any_isWord_eq_false hn (by decide)
  have hopen : Reads (mark "<") (.punct '<' false q :: us) () us := fun _ => rfl
  have hclose : Reads (mark ">") (.punct '>' joint p :: vs) () vs := fun _ => rfl
  have hitems : Reads (listed (isMark ">") "," g.argument) us ([a], false)
      (.punct '>' joint p :: vs) := (ReadsListed.one ha rfl).reads hus
  have hangled : Reads (angled g.argument) (.punct '<' false q :: us) ([a], false) vs :=
    hopen.bind (hitems.bind (hclose.bind (reads_pure _)))
  have hcolons : Reads (markIf "::") (.punct '<' false q :: us) false (.punct '<' false q :: us) :=
    fun _ => rfl
  unfold segment
  refine .peek (.no hstart (Reads.bind (.peek (.no hself (reads_name hn))) (.peek (.yes rfl ?_))))
  exact hcolons.bind (hangled.bind (reads_pure _))

/-- A type that is the only argument of the last name of a path. -/
theorem TypeEnds.reads_applied (hvs : TypeEnds vs) {ts : Tokens} {r : Path} (hr : ReadsPath g ts r)
    (hn : isKeyword n = false) {a : Argument} {joint : Bool} (hus : isMark ">" us = false)
    (ha : Reads g.argument us a (.punct '>' joint place :: vs)) (hlt : vs.length ≤ us.length) :
    Reads (type g true) (ts.placed ++ ((behind [n]).placed ++ ((op "<").placed ++ us)))
      (.path (.plain ⟨r.rooted, r.segments ++ [.angled n false [a] false]⟩)) vs := by
  have hsegment : startsSegment vs = false := by cases hvs <;> rfl
  have hcolons : Reads (mark "::") ((behind [n]).placed ++ ((op "<").placed ++ us)) ()
      (.ident n ⟨0, 0⟩ :: .punct '<' false ⟨0, 0⟩ :: us) := fun _ => rfl
  have hmany : ReadsMany startsSegment (furtherSegment g false)
      ((behind [n]).placed ++ ((op "<").placed ++ us)) [.angled n false [a] false] vs := by
    refine .cons rfl (hcolons.bind (reads_segment_angled hn hus ha)) ?_ (.nil hsegment)
    simp only [List.length_append]
    exact Nat.lt_of_le_of_lt hlt (Nat.lt_add_left _ (Nat.lt_add_of_pos_left (by decide)))
  exact reads_type (hr.front rfl) (hr.further rfl hmany) hvs.behindType

theorem reads_argument (hus : PathFront us) {t : Ty} {joint : Bool}
    (ht : Reads (g.type true) us t (.punct '>' joint place :: vs)) :
    Reads (argument g) us (.type t) (.punct '>' joint place :: vs) := by
  have hlifetime : (isLifetime us && !second (isMark "+") us) = false := by
    rw [hus.isLifetime_eq_false, Bool.false_and]
  have hvalue : (isLiteral us || isGroup .brace us) = false := by
    rw [hus.isLiteral_eq_false, hus.isGroup_eq_false, Bool.or_false]
  have hequal : Reads (markIf "=") (.punct '>' joint place :: vs) false
      (.punct '>' joint place :: vs) := fun _ => rfl
  unfold argument
  refine .peek (.no hlifetime (.no hvalue (ht.bind ?_)))
  cases soleSegment t with
  | none => exact reads_pure _
  | some s => exact hequal.bind (.no rfl (.peek (.no rfl (reads_pure _))))

/-! Paths that hold names alone. -/

theorem startsPath_ident (hn : Nameable n) : startsPath (.ident n place :: us) = true :=
  startsPath_iff.mpr ⟨n, place, us, rfl, hn⟩

/-- Names up to a last pair of colons, which no name follows, or up to none. -/
theorem reads_chainedFrom {ns : List String} (hns : ∀ k ∈ ns, Nameable k) {trailing : Bool}
    (hend : Reads (markIf "::") us trailing vs) (hstop : trailing = true → startsPath vs = false)
    {fuel : Nat} (hfuel : ns.length < fuel) :
    Reads (chainedFrom (fun ts => !startsPath ts) "::" anyName fuel)
      (.ident n place :: ((behind ns).placed ++ us)) (n :: ns, trailing) vs := by
  induction ns generalizing n place fuel with
  | nil =>
      obtain ⟨fuel, rfl⟩ := Nat.exists_eq_succ_of_ne_zero (Nat.ne_zero_of_lt hfuel)
      have hname : Reads anyName (.ident n place :: us) n us := fun _ => rfl
      unfold chainedFrom
      refine hname.bind (hend.bind ?_)
      cases trailing with
      | false => exact .yes rfl (reads_pure _)
      | true => exact .no rfl (.peek (.yes (by rw [hstop rfl, Bool.not_false]) (reads_pure _)))
  | cons n' ns ih =>
      obtain ⟨fuel, rfl⟩ := Nat.exists_eq_succ_of_ne_zero (Nat.ne_zero_of_lt hfuel)
      have hn' : Nameable n' := hns n' List.mem_cons_self
      have hns' : ∀ k ∈ ns, Nameable k := fun k hk => hns k (List.mem_cons_of_mem _ hk)
      have hname : Reads anyName (.ident n place :: ((behind (n' :: ns)).placed ++ us)) n
          ((behind (n' :: ns)).placed ++ us) := fun _ => rfl
      have hcolons : Reads (markIf "::") ((behind (n' :: ns)).placed ++ us) true
          (.ident n' ⟨0, 0⟩ :: ((behind ns).placed ++ us)) := fun _ => rfl
      have hmore : Reads (chainedFrom (fun ts => !startsPath ts) "::" anyName fuel)
          (.ident n' ⟨0, 0⟩ :: ((behind ns).placed ++ us)) (n' :: ns, trailing) vs :=
        ih hns' (Nat.lt_of_succ_lt_succ hfuel)
      have hstart : (!startsPath (.ident n' ⟨0, 0⟩ :: ((behind ns).placed ++ us))) = false := by
        rw [startsPath_ident hn', Bool.not_true]
      unfold chainedFrom
      refine hname.bind (hcolons.bind (.no rfl (.peek (.no hstart ?_))))
      exact hmore.bind (reads_pure _)

/-- A path of names is read up to its end, and refused if it ends in colons. -/
theorem ModPath.Readable.run_modPath (hm : ModPath.Readable m) {trailing : Bool}
    (hend : Reads (markIf "::") us trailing vs) (hstop : trailing = true → startsPath vs = false)
    (closing : Option Span) : modPath.run ⟨m.tokens.placed ++ us, closing, none⟩ =
      (if trailing = true then refuse (.broken .segmentAfterPath) else pure m).run
        ⟨vs, closing, none⟩ := by
  obtain ⟨rooted, names⟩ := m
  obtain ⟨hne, hnames⟩ := hm
  obtain ⟨n, ns, rfl⟩ := List.exists_cons_of_ne_nil hne
  have hn : Nameable n := hnames n List.mem_cons_self
  have hroot : Reads (markIf "::") ((ModPath.tokens ⟨rooted, n :: ns⟩).placed ++ us) rooted
      (.ident n ⟨0, 0⟩ :: ((behind ns).placed ++ us)) := by
    intro closing
    simp only [ModPath.tokens, colons_eq_behind, placed_append]
    cases rooted <;> rfl
  have hstart : (!startsPath (.ident n ⟨0, 0⟩ :: ((behind ns).placed ++ us))) = false := by
    rw [startsPath_ident hn, Bool.not_true]
  have hname : Reads anyName (.ident n ⟨0, 0⟩ :: ((behind ns).placed ++ us)) n
      ((behind ns).placed ++ us) := fun _ => rfl
  unfold modPath
  rw [run_bind_of_ok (hroot closing), run_rest_bind, hstart, if_neg Bool.false_ne_true,
    run_bind_of_ok (hname closing)]
  cases ns with
  | nil =>
      have hnil : (behind []).placed ++ us = us := rfl
      rw [hnil, run_bind_of_ok (hend closing)]
      cases trailing with
      | false => rfl
      | true =>
          rw [if_pos rfl, run_rest_bind, hstop rfl]
          rfl
  | cons n' ns =>
      have hn' : Nameable n' := hnames n' (by simp)
      have hns : ∀ k ∈ ns, Nameable k := fun k hk => hnames k (by simp [hk])
      have hcolons : Reads (markIf "::") ((behind (n' :: ns)).placed ++ us) true
          (.ident n' ⟨0, 0⟩ :: ((behind ns).placed ++ us)) := fun _ => rfl
      have hnext : (!startsPath (.ident n' ⟨0, 0⟩ :: ((behind ns).placed ++ us))) = false := by
        rw [startsPath_ident hn', Bool.not_true]
      have hfuel : ns.length < (Tree.ident n' ⟨0, 0⟩ :: ((behind ns).placed ++ us)).length + 1 := by
        simp only [List.length_cons, List.length_append, length_behind]
        omega
      rw [run_bind_of_ok (hcolons closing), if_pos rfl, run_rest_bind, hnext,
        if_neg Bool.false_ne_true, run_rest_bind,
        run_bind_of_ok (reads_chainedFrom hns hend hstop hfuel closing)]
      cases trailing <;> rfl

theorem ModPath.Readable.reads (hm : ModPath.Readable m) (hus : isMark "::" us = false) :
    Reads modPath (m.tokens.placed ++ us) m us :=
  fun closing => hm.run_modPath (reads_markIf_false hus) (fun h => nomatch h) closing

/-- Behind the colons of a path of names a name must stand. -/
theorem ModPath.Readable.refuses (hm : ModPath.Readable m) (hus : startsPath us = false) :
    Refuses modPath (m.tokens.placed ++ ((op "::").placed ++ us)) := by
  have hcolons : Reads (markIf "::") ((op "::").placed ++ us) true us := fun _ => rfl
  exact fun closing => ⟨_, hm.run_modPath hcolons (fun _ => hus) closing⟩

/-! Visibilities. -/

/-- A visibility whose module has a name that can be read. -/
def Visibility.Readable : Visibility → Prop
  | .restricted false p => ∃ n ∈ ["crate", "self", "super"], p = ModPath.ofName n
  | .restricted true p => ModPath.Readable p
  | _ => True

theorem Visibility.Named.readable {v : Visibility} (hv : Visibility.Named v) :
    Visibility.Readable v := by
  cases v with
  | inherited => trivial
  | everywhere => trivial
  | restricted written p =>
      cases written with
      | false => exact hv
      | true => exact ModPath.Named.readable hv

/-- A word that is no visibility itself stands behind it. -/
theorem Visibility.Readable.reads {v : Visibility} (hv : Visibility.Readable v)
    (hw : (w == "pub") = false) :
    Reads visibility (v.tokens.placed ++ .ident w place :: us) v (.ident w place :: us) := by
  cases v with
  | inherited =>
      have hpub : isWord "pub" (.ident w place :: us) = false := hw
      exact (reads_keywordIf_false hpub).bind (.yes rfl (reads_pure _))
  | everywhere => exact fun _ => rfl
  | restricted written p =>
      cases written with
      | false =>
          obtain ⟨n, hn, rfl⟩ := hv
          simp only [List.mem_cons, List.not_mem_nil, or_false] at hn
          rcases hn with rfl | rfl | rfl <;> exact fun _ => rfl
      | true =>
          have hmodule : Reads modPath (p.tokens.placed ++ []) p [] := ModPath.Readable.reads hv rfl
          have hfront : PathFront (p.tokens.placed ++ []) := ModPath.Readable.pathFront hv rfl
          rw [List.append_nil] at hmodule hfront
          change Reads visibility (.ident "pub" _ ::
            .group .paren (.ident "in" _ :: p.tokens.placed) _ :: .ident w place :: us) _ _
          generalize p.tokens.placed = ts at hfront hmodule
          have hin : Reads (keyword "in") (.ident "in" ⟨0, 0⟩ :: ts) () ts := fun _ => rfl
          have hbody : Reads visibility.inModule
              (.group .paren (.ident "in" ⟨0, 0⟩ :: ts) ⟨0, 0⟩ :: .ident w place :: us)
              (.restricted true p) (.ident w place :: us) := by
            refine Reads.inside (hin.bind (hmodule.bind ?_))
            exact reads_pure _
          cases hfront with
          | rooted => exact hbody
          | name => exact hbody

/-- The visibility of a function. -/
theorem reads_visibility {v : Visibility} (hv : Visibility.Named v) :
    Reads visibility (v.tokens.placed ++ .ident "fn" place :: us) v (.ident "fn" place :: us) :=
  (Visibility.Named.readable hv).reads rfl

end ZonedAccessors.Grammar
