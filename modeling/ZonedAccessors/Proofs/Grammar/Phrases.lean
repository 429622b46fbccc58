import ZonedAccessors.Accessor.Template
import ZonedAccessors.Proofs.Grammar.Names

/-!
Simple expressions and statements are read as what they were made from: paths, calls, fields of
`self`, assignments and blocks of these.
-/

namespace ZonedAccessors.Syntax

def Path.expr (p : Path) : Expr := .path (.plain p)

def ModPath.expr (m : ModPath) : Expr := m.toPath.expr

def nameExpr (n : String) : Expr := .path (.plain (.ofName n))

def ownExpr (field : String) : Expr := .field (nameExpr "self") field

/-- What reading leaves as it is where no attributes stand before it. -/
def Expr.isOrdinary : Expr → Bool
  | .invocation _ => false
  | .attributed .. => false
  | .range .. => false
  | .verbatim _ => false
  | _ => true

end ZonedAccessors.Syntax

namespace ZonedAccessors.Grammar

open Token Syntax

variable {g g' : Inner} {structs : Bool} {r : Path} {rs ts ts' : Tokens} {e e' : Expr}
  {us vs ws : Source}

/-! What may stand behind an expression, and what behind one of its operands. -/

inductive Closes (structs : Bool) : Source → Prop
  | nil : Closes structs []
  | comma {joint : Bool} {p : Span} {ts : Source} : Closes structs (.punct ',' joint p :: ts)
  | semicolon {joint : Bool} {p : Span} {ts : Source} : Closes structs (.punct ';' joint p :: ts)
  | block {body ts : Source} {p : Span} : structs = false →
      Closes structs (.group .brace body p :: ts)

/-- Neither more of a path nor something attached to an operand. -/
structure Follows (structs : Bool) (us : Source) : Prop where
  hash : isMark "#" us = false
  arguments : startsArguments true us = false
  segment : startsSegment us = false
  call : isInvoked us = false
  colons : isMark "::" us = false
  struct : (structs && isGroup .brace us) = false
  paren : isGroup .paren us = false
  bracket : isGroup .bracket us = false
  dot : isMark "." us = false
  question : isMark "?" us = false

theorem Closes.follows (h : Closes structs us) : Follows structs us := by
  cases h with
  | block hs =>
      have hstruct : (structs && true) = false := by rw [hs, Bool.false_and]
      exact ⟨rfl, rfl, rfl, rfl, rfl, hstruct, rfl, rfl, rfl, rfl⟩
  | _ => exact ⟨rfl, rfl, rfl, rfl, rfl, Bool.and_false _, rfl, rfl, rfl, rfl⟩

theorem follows_equal {p : Span} : Follows structs (.punct '=' false p :: us) :=
  ⟨rfl, rfl, rfl, rfl, rfl, Bool.and_false _, rfl, rfl, rfl, rfl⟩

def ReadsOperand (g : Inner) (structs : Bool) (ts : Tokens) (e : Expr) : Prop :=
  ∀ us, Follows structs us → Reads (unary g structs) (ts.placed ++ us) e us

def ReadsExpr (g : Inner) (structs : Bool) (ts : Tokens) (e : Expr) : Prop :=
  ∀ us, Closes structs us → Reads (expr g structs) (ts.placed ++ us) e us

theorem Closes.reads_climbWithin (h : Closes structs us) (base : Binding) (fuel : Nat) :
    Reads (climbWithin g structs base (fuel + 1) e) us e us := by
  have hoperator : operatorAt us = none := by cases h <;> rfl
  have hassign : isAssign us = false := by cases h <;> rfl
  have hrange : isMark ".." us = false := by cases h <;> rfl
  have hcast : isWord "as" us = false := by cases h <;> rfl
  unfold climbWithin
  cases hr : e.isRange with
  | true => exact .yes rfl (reads_pure _)
  | false =>
      refine .no rfl (.peek ?_)
      rw [hoperator]
      refine .no ?_ (.no ?_ (.no ?_ (reads_pure _)))
      · rw [hassign, Bool.and_false]
      · rw [hrange, Bool.and_false]
      · rw [hcast, Bool.and_false]

theorem Closes.reads_climb (h : Closes structs us) (base : Binding) :
    Reads (climb g structs base e) us e us := .peek (h.reads_climbWithin base _)

theorem ReadsOperand.expr (h : ReadsOperand g structs ts e) : ReadsExpr g structs ts e :=
  fun us hus => (h us hus.follows).bind (hus.reads_climb _)

theorem reads_attributes (h : isMark "#" us = false) : Reads (attributes g) us [] us :=
  (ReadsMany.nil h).reads

theorem Follows.reads_trailers (h : Follows structs us) (fuel : Nat) :
    Reads (trailersWithin g (fuel + 1) e) us e us := by
  have hdot : (isMark "." us && !isMark ".." us && !e.isRange) = false := by
    rw [h.dot, Bool.false_and, Bool.false_and]
  have hquestion : (isMark "?" us && !e.isRange) = false := by rw [h.question, Bool.false_and]
  unfold trailersWithin
  refine .peek (.no h.paren (.no hdot (.no h.bracket (.no hquestion ?_))))
  exact reads_pure _

theorem reads_attached (hatom : Reads (atom g structs) us e vs)
    (htrailers : Reads (trailers g e) vs e' ws) (he' : e'.isOrdinary = true) (before : Source) :
    Reads (attached g structs before []) us e' ws := by
  unfold attached
  refine .peek (hatom.bind (htrailers.bind ?_))
  cases e' with
  | invocation | attributed | range | verbatim => cases he'
  | _ => exact reads_pure _

/-- An operand that begins with no operator. -/
theorem reads_unary (hhash : isMark "#" us = false) (hand : isMark "&" us = false)
    (hsign : ["*", "!", "-"].find? (isMark · us) = none) (hatom : Reads (atom g structs) us e vs)
    (htrailers : Reads (trailers g e) vs e' ws) (he' : e'.isOrdinary = true) :
    Reads (unary g structs) us e' ws := by
  unfold unary
  refine .peek ((reads_attributes hhash).bind (.peek (.no hand ?_)))
  rw [hsign]
  exact reads_attached hatom htrailers he' us

/-! Paths. -/

theorem PathFront.reads_atom (hus : PathFront us) {p : Path}
    (hp : Reads (path g true) us p vs) (hcall : isInvoked vs = false)
    (hstruct : (structs && isGroup .brace vs) = false) :
    Reads (atom g structs) us (.path (.plain p)) vs := by
  have hword {w : String} (hw : isKeyword w = true) (hw' : w ∉ ["super", "self", "Self", "crate"])
      (b : Bool) : (isWord w us && b) = false := by
    rw [hus.isWord_eq_false hw hw', Bool.false_and]
  have hbar : isMark "|" us = false := hus.isMark_eq_false rfl
  have hmove : isWord "move" us = false := hus.isWord_eq_false (by decide) (by decide)
  have hstatic : isWord "static" us = false := hus.isWord_eq_false (by decide) (by decide)
  have hbinder : startsBinder us = false := by
    rw [startsBinder, hword (by decide) (by decide), Bool.false_and]
  have hclosure : startsClosure us = false := by
    rw [startsClosure, hbar, hmove, hstatic, hbinder, hword (by decide) (by decide),
      hword (by decide) (by decide)]
    rfl
  have hpath : startsPathExpr us = true := by
    simp only [startsPathExpr, hus.startsPath_or, Bool.true_or]
  unfold atom
  refine .peek (.no hus.isLiteral_eq_false (.no (hword (by decide) (by decide) _) ?_))
  refine .no (hword (by decide) (by decide) _) (.no hclosure (.no hus.startsBuiltin_eq_false ?_))
  refine .yes hpath ?_
  unfold pathExpr
  refine (hus.reads_tyPath hp).bind (.peek ?_)
  rw [hcall]
  exact .no hstruct (reads_pure _)

theorem Follows.reads_atom (hus : Follows structs us) (hr : ReadsPath g rs r) :
    Reads (atom g structs) (rs.placed ++ us) r.expr us :=
  (hr.front hus.hash).reads_atom (hr.reads hus.arguments hus.segment) hus.call hus.struct

/-- Before a call. -/
theorem reads_atom_paren (hr : ReadsPath g rs r) {body : Source} {place : Span} :
    Reads (atom g structs) (rs.placed ++ .group .paren body place :: us) r.expr
      (.group .paren body place :: us) :=
  (hr.front rfl).reads_atom (hr.reads rfl rfl) rfl (Bool.and_false _)

theorem PathFront.reads_unary (hus : PathFront us) (hatom : Reads (atom g structs) us e vs)
    (htrailers : Reads (trailers g e) vs e' ws) (he' : e'.isOrdinary = true) :
    Reads (unary g structs) us e' ws := by
  have hsign : ["*", "!", "-"].find? (isMark · us) = none := by
    have hmarks : ∀ w ∈ ["*", "!", "-"], w.toList.head?.any (· != ':') = true := by decide
    rw [List.find?_eq_none]
    intro w hw
    simp [hus.isMark_eq_false (hmarks w hw)]
  exact Grammar.reads_unary (hus.isMark_eq_false rfl) (hus.isMark_eq_false rfl) hsign hatom
    htrailers he'

theorem readsOperand_path (hr : ReadsPath g rs r) : ReadsOperand g structs rs r.expr := by
  intro us hus
  exact (hr.front hus.hash).reads_unary (hus.reads_atom hr) (.peek (hus.reads_trailers _)) rfl

/-! Calls. -/

theorem reads_trailersWithin_call {as : List Expr} {body : Source} {place : Span} {fuel : Nat}
    (hargs : Reads (listed List.isEmpty "," (g.expr true)) body (as, false) [])
    (hmore : Reads (trailersWithin g fuel (.call e as false)) us e' vs) :
    Reads (trailersWithin g (fuel + 1) e) (.group .paren body place :: us) e' vs := by
  unfold trailersWithin
  exact .peek (.yes rfl (Reads.bind hargs.inside hmore))

theorem readsOperand_call (hr : ReadsPath g rs r) {as : List Expr}
    (hargs : Reads (listed List.isEmpty "," (g.expr true)) ts.placed (as, false) []) :
    ReadsOperand g structs (rs ++ parens ts) (.call r.expr as false) := by
  intro us hus
  rw [placed_append, List.append_assoc]
  refine (hr.front rfl).reads_unary (reads_atom_paren hr) ?_ rfl
  exact .peek (reads_trailersWithin_call hargs (hus.reads_trailers _))

/-! Lists of one or two expressions. -/

theorem isEmpty_placed (ts : Tokens) : List.isEmpty ts.placed = ts.isEmpty := by
  cases ts <;> rfl

theorem reads_one (hg : g.expr = expr g') (hts : ts.isEmpty = false)
    (he : ReadsExpr g' true ts e) :
    Reads (listed List.isEmpty "," (g.expr true)) ts.placed ([e], false) [] := by
  have hitem := he [] .nil
  rw [List.append_nil] at hitem
  rw [hg]
  exact (ReadsListed.one hitem rfl).reads ((isEmpty_placed ts).trans hts)

theorem reads_two (hg : g.expr = expr g') (hts' : ts'.isEmpty = false)
    (he : ReadsExpr g' true ts e) (he' : ReadsExpr g' true ts' e') :
    Reads (listed List.isEmpty "," (g.expr true)) (ts ++ op "," ++ ts').placed ([e, e'], false)
      [] := by
  have hcomma : Reads (mark ",") ((op ",").placed ++ ts'.placed) () ts'.placed := fun _ => rfl
  have hfirst := he ((op ",").placed ++ ts'.placed) .comma
  have hlast := he' [] .nil
  rw [List.append_nil] at hlast
  have hne : List.isEmpty ts'.placed = false := (isEmpty_placed ts').trans hts'
  have hlt : ts'.placed.length < (ts.placed ++ ((op ",").placed ++ ts'.placed)).length := by
    simp only [List.length_append]
    exact Nat.lt_add_left _ (Nat.lt_add_of_pos_left (by decide))
  have hstart : List.isEmpty (ts.placed ++ ((op ",").placed ++ ts'.placed)) = false := by
    cases ts <;> rfl
  rw [hg, placed_append, placed_append, List.append_assoc]
  exact (ReadsListed.cons hfirst rfl hcomma hne hlt (.one hlast rfl)).reads hstart

theorem readsOperand_pair (hitems : Reads (listed List.isEmpty "," (g.expr true)) ts.placed
    ([e, e'], false) []) : ReadsOperand g structs (parens ts) (.tuple [e, e'] false) := by
  intro us hus
  have hatom : Reads (atom g structs) ((parens ts).placed ++ us) (.tuple [e, e'] false) us := by
    have hparen : Reads (parenExpr g) ((parens ts).placed ++ us) (.tuple [e, e'] false) us := by
      refine Reads.inside (hitems.bind ?_)
      exact reads_pure _
    exact fun closing => hparen closing
  exact reads_unary rfl rfl rfl hatom (.peek (hus.reads_trailers _)) rfl

/-! Members. -/

variable {f : String}

theorem reads_member (hf : isKeyword f = false) {place : Span} :
    Reads member (.ident f place :: us) f us := by
  unfold member
  exact .peek (.no hf (reads_pure _))

theorem reads_dotted {place place' : Span}
    (h : Reads (methodOrField g e) (.ident f place' :: us) e' vs) :
    Reads (dotted g e) (.punct '.' false place :: .ident f place' :: us) e' vs := by
  have hdot : Reads (mark ".") (.punct '.' false place :: .ident f place' :: us) ()
      (.ident f place' :: us) := fun _ => rfl
  have hpositions : Reads positionsIf (.ident f place' :: us) none (.ident f place' :: us) :=
    fun _ => rfl
  exact hdot.bind (hpositions.bind h)

theorem reads_field (hf : isKeyword f = false) {place place' : Span} (hus : Follows structs us) :
    Reads (dotted g e) (.punct '.' false place :: .ident f place' :: us) (.field e f) us := by
  have hawait : Reads (keywordIf "await") (.ident f place' :: us) false (.ident f place' :: us) :=
    reads_keywordIf_false (isWord_eq_false hf (by decide))
  refine reads_dotted ?_
  unfold methodOrField
  refine hawait.bind (.no rfl ((reads_member hf).bind (.peek (.no ?_ ?_))))
  · rw [hus.colons, Bool.and_false]
  · refine (reads_pure _).bind (.peek (.no ?_ (reads_pure _)))
    rw [hus.paren, Bool.and_false]
    rfl

theorem reads_method (hf : isKeyword f = false) (hnamed : isNamed f = true)
    {place place' place'' : Span} {body : Source} {as : List Expr}
    (hargs : Reads (listed List.isEmpty "," (g.expr true)) body (as, false) []) :
    Reads (dotted g e)
      (.punct '.' false place :: .ident f place' :: .group .paren body place'' :: us)
      (.method e (.plain f) as false) us := by
  have hawait : Reads (keywordIf "await")
      (.ident f place' :: .group .paren body place'' :: us) false
      (.ident f place' :: .group .paren body place'' :: us) :=
    reads_keywordIf_false (isWord_eq_false hf (by decide))
  refine reads_dotted ?_
  unfold methodOrField
  refine hawait.bind (.no rfl ((reads_member hf).bind (.peek (.no ?_ ?_))))
  · exact Bool.and_false _
  · refine (reads_pure _).bind (.peek (.yes ?_ (hargs.inside.bind (reads_pure _))))
    rw [hnamed]
    rfl

theorem reads_trailersWithin_dot {place : Span} {fuel : Nat} (he : e.isOrdinary = true) {e₁ : Expr}
    (hdot : Reads (dotted g e) (.punct '.' false place :: us) e₁ vs)
    (hmore : Reads (trailersWithin g fuel e₁) vs e' ws) :
    Reads (trailersWithin g (fuel + 1) e) (.punct '.' false place :: us) e' ws := by
  have hmark : (isMark "." (.punct '.' false place :: us) &&
      !isMark ".." (.punct '.' false place :: us) && !e.isRange) = true := by
    cases e with
    | invocation | attributed | range | verbatim => cases he
    | _ => rfl
  unfold trailersWithin
  exact .peek (.no rfl (.yes hmark (hdot.bind hmore)))

/-- A call, and a call of a method on its value. -/
theorem readsOperand_method (hr : ReadsPath g rs r) (hf : isKeyword f = false)
    (hnamed : isNamed f = true) {as as' : List Expr}
    (hargs : Reads (listed List.isEmpty "," (g.expr true)) ts.placed (as, false) [])
    (hargs' : Reads (listed List.isEmpty "," (g.expr true)) ts'.placed (as', false) []) :
    ReadsOperand g structs (rs ++ (parens ts ++ (op "." ++ word f ++ parens ts')))
      (.method (.call r.expr as false) (.plain f) as' false) := by
  intro us hus
  have htrailers : Reads (trailers g r.expr)
      ((parens ts).placed ++ ((op "." ++ word f ++ parens ts').placed ++ us))
      (.method (.call r.expr as false) (.plain f) as' false) us :=
    .peek (reads_trailersWithin_call hargs (reads_trailersWithin_dot rfl
      (reads_method hf hnamed hargs') (hus.reads_trailers _)))
  rw [placed_append, placed_append, List.append_assoc, List.append_assoc]
  exact (hr.front rfl).reads_unary (reads_atom_paren hr) htrailers rfl

theorem readsOperand_own (hf : isKeyword f = false) :
    ReadsOperand g structs (Template.own f) (ownExpr f) := by
  intro us hus
  have hself : Reads (atom g structs) ((Template.own f).placed ++ us) (nameExpr "self")
      (.punct '.' false ⟨0, 0⟩ :: .ident f ⟨0, 0⟩ :: us) := by
    cases structs <;> exact fun _ => rfl
  have htrailers : Reads (trailers g (nameExpr "self"))
      (.punct '.' false ⟨0, 0⟩ :: .ident f ⟨0, 0⟩ :: us) (ownExpr f) us :=
    .peek (reads_trailersWithin_dot rfl (reads_field hf hus) (hus.reads_trailers _))
  exact reads_unary rfl rfl rfl hself htrailers rfl

/-! Statements. -/

theorem withinFirst_nil (e : Expr) : withinFirst [] e = e := by
  fun_induction withinFirst [] e with
  | case1 left right ih => rw [ih]
  | case2 text left right ih => rw [ih]
  | case3 inner target ih => rw [ih]
  | case4 e => rfl

theorem reads_statement (hhash : isMark "#" us = false) (hblock : startsBlock us = false)
    (he : Reads (unary g true) us e vs) (hmore : Reads (climb g true .lowest e) vs e' ws) :
    Reads (statement g) us e' ws := by
  unfold statement
  exact (reads_attributes hhash).bind (.peek (.no hblock (he.bind hmore)))

theorem Closes.reads_operand (hus : Closes structs us) (hg : g.unary = unary g')
    (h : ReadsOperand g' structs ts e) :
    Reads (operand g structs .assign) (ts.placed ++ us) e us := by
  have hunary : Reads (g.unary structs) (ts.placed ++ us) e us := hg ▸ h us hus.follows
  have hbinding : bindingAt us = .lowest := by cases hus <;> rfl
  unfold operand
  refine hunary.bind (.peek ?_)
  unfold tighten
  refine .peek (.no ?_ (reads_pure _))
  rw [hbinding]
  rfl

theorem Closes.reads_assign (hus : Closes true us) (hg : g.unary = unary g') {left right : Expr}
    (hleft : left.isOrdinary = true) (hright : ReadsOperand g' true ts right) :
    Reads (climb g true .lowest left) ((op "=").placed ++ (ts.placed ++ us))
      (.assign left right) us := by
  have hrange : left.isRange = false := by
    cases left with
    | invocation | attributed | range | verbatim => cases hleft
    | _ => rfl
  have hequal : Reads (mark "=") ((op "=").placed ++ (ts.placed ++ us)) () (ts.placed ++ us) :=
    fun _ => rfl
  unfold climb
  refine .peek ?_
  unfold climbWithin
  refine .no hrange (.peek ?_)
  refine .yes rfl (hequal.bind ((hus.reads_operand hg hright).bind ?_))
  exact hus.reads_climbWithin _ _

theorem reads_behindPath {p : ModPath} (h : Reads modPath us p vs) :
    Reads behindPath us (some (p, vs)) us := by
  intro closing
  unfold behindPath
  rw [run_get_bind, run_bind_of_ok (h.attempt closing)]
  rfl

theorem Refuses.reads_behindPath (h : Refuses modPath us) : Reads behindPath us none us := by
  intro closing
  unfold behindPath
  rw [run_get_bind, run_bind_of_ok (h.attempt closing)]
  rfl

theorem reads_exprStmt (he : Reads (statement g) us e vs) (hord : e.isOrdinary = true)
    {ended : Bool} (hend : Reads (markIf ";") vs ended ws) :
    Reads (exprStmt g []) us (.expr e ended) ws := by
  unfold exprStmt
  refine he.bind (hend.bind ?_)
  rw [withinFirst_nil]
  cases e with
  | invocation | attributed | range | verbatim => cases hord
  | _ => exact reads_pure _

theorem reads_stmt {found : Option (ModPath × Source)} (hhash : isMark "#" us = false)
    (hpath : Reads behindPath us found us) (hcall : found.all (!isMark "!" ·.2) = true) {s : Stmt}
    (h : ∀ start, Reads (stmt.ordinary g start [] us) us s vs) : Reads (stmt g) us s vs := by
  unfold stmt
  refine .state fun closing => ((reads_attributes hhash).bind (.peek (hpath.bind ?_)))
  cases found with
  | none => exact h _
  | some found =>
      have hmark : isMark "!" found.2 = false := by simpa using hcall
      refine .no ?_ (.no ?_ (h _))
      · simp [startsDefinition, hmark]
      · simp [startsCall, hmark]

theorem PathFront.startsBlock_eq_false (hus : PathFront us) : startsBlock us = false := by
  have hfor : isWord "for" us = false := hus.isWord_eq_false (by decide) (by decide)
  have htry : isWord "try" us = false := hus.isWord_eq_false (by decide) (by decide)
  have hconst : isWord "const" us = false := hus.isWord_eq_false (by decide) (by decide)
  rw [startsBlock, hus.any_isWord_eq_false (by decide), hfor, htry, hconst,
    hus.isGroup_eq_false, hus.isLifetime_eq_false]
  rfl

theorem PathFront.reads_stmt (hus : PathFront us) (hitem : startsItem us = false)
    {found : Option (ModPath × Source)} {ws' : Source} (hpath : Reads behindPath us found us)
    (hcall : found.all (!isMark "!" ·.2) = true)
    (he : Reads (unary g true) us e vs) (hmore : Reads (climb g true .lowest e) vs e' ws)
    (he' : e'.isOrdinary = true) {ended : Bool} (hend : Reads (markIf ";") ws ended ws') :
    Reads (stmt g) us (.expr e' ended) ws' := by
  have hhash : isMark "#" us = false := hus.isMark_eq_false rfl
  have hlet : isWord "let" us = false := hus.isWord_eq_false (by decide) (by decide)
  refine Grammar.reads_stmt hhash hpath hcall fun start => ?_
  unfold stmt.ordinary
  refine .no hlet (.no hitem (reads_exprStmt ?_ he' hend))
  exact reads_statement hhash hus.startsBlock_eq_false he hmore

/-- No item begins with a name and colons. -/
theorem startsItem_colons {k : String} (hk : Nameable k) {p : Span} :
    startsItem (.ident k p :: ((op "::").placed ++ us)) = false := by
  have hus : PathFront (.ident k p :: ((op "::").placed ++ us)) := .name hk rfl
  have hword {w : String} (hw : isKeyword w = true)
      (hw' : w ∉ ["super", "self", "Self", "crate"]) := hus.isWord_eq_false hw hw'
  have hstatic := hword (w := "static") (by decide) (by decide)
  have hconst := hword (w := "const") (by decide) (by decide)
  have hunsafe := hword (w := "unsafe") (by decide) (by decide)
  have hasync := hword (w := "async") (by decide) (by decide)
  have hcolons : (op "::").placed ++ us =
      .punct ':' true ⟨0, 0⟩ :: .punct ':' false ⟨0, 0⟩ :: us := rfl
  rw [startsItem, hus.any_isWord_eq_false (by decide), hstatic, hconst, hunsafe, hasync, hcolons]
  simp [second, skipped, isMark, afterMark, isName, isWord]

/-- Tokens with which a statement begins that is neither an item nor a macro call. -/
structure OpensStatement (ts : Tokens) : Prop where
  item (us : Source) : startsItem (ts.placed ++ us) = false
  path {us : Source} : isMark "::" us = false → isMark "!" us = false → ∃ found,
    Reads behindPath (ts.placed ++ us) found (ts.placed ++ us) ∧ found.all (!isMark "!" ·.2) = true

theorem opensStatement_of_readable {m : ModPath} (hm : ModPath.Readable m)
    (hitem : ∀ us, startsItem (m.tokens.placed ++ us) = false) : OpensStatement m.tokens where
  item := hitem
  path hus hcall := ⟨_, reads_behindPath (hm.reads hus), by simpa using hcall⟩

inductive ReadsBody (g : Inner) : Source → List Stmt → Prop
  | nil : ReadsBody g [] []
  | cons {ts rs : Source} {s : Stmt} {ss : List Stmt} : ts.isEmpty = false → isMark ";" ts = false →
      Reads (stmt g) ts s rs → (isOpen s && !rs.isEmpty) = false → rs.length < ts.length →
      ReadsBody g rs ss → ReadsBody g ts (s :: ss)

theorem ReadsBody.reads {ss : List Stmt} (h : ReadsBody g us ss) : Reads (body g) us ss [] := by
  have hfrom (fuel : Nat) (hfuel : us.length < fuel) : Reads (bodyFrom g fuel) us ss [] := by
    induction h generalizing fuel with
    | nil =>
        obtain ⟨fuel, rfl⟩ := Nat.exists_eq_succ_of_ne_zero (Nat.ne_zero_of_lt hfuel)
        exact fun _ => rfl
    | cons hne hsemi hs hopen hlt _ ih =>
        obtain ⟨fuel, rfl⟩ := Nat.exists_eq_succ_of_ne_zero (Nat.ne_zero_of_lt hfuel)
        unfold bodyFrom
        refine (reads_markIf_false hsemi).bind (.no rfl (.peek (.no hne (hs.bind ?_))))
        refine .peek (.no hopen ((ih fuel (by omega)).bind (reads_pure _)))
  exact .peek (hfrom _ (Nat.lt_succ_self _))

/-- A call, and what is attached to its value, as the value of a block. -/
theorem readsBody_value (hr : ReadsPath g rs r) (hopens : OpensStatement rs)
    (he : ReadsOperand g true (rs ++ (parens ts ++ ts')) e) (he' : e.isOrdinary = true) :
    ReadsBody g (rs ++ (parens ts ++ ts')).placed [.expr e false] := by
  have hlast := he [] Closes.nil.follows
  rw [List.append_nil] at hlast
  rw [placed_append] at hlast ⊢
  have hfront : PathFront (rs.placed ++ (parens ts ++ ts').placed) := hr.front rfl
  have hne : List.isEmpty (rs.placed ++ (parens ts ++ ts').placed) = false := by
    cases rs.placed <;> rfl
  have hlt : ([] : Source).length < (rs.placed ++ (parens ts ++ ts').placed).length := by
    rw [List.length_append]
    exact Nat.lt_add_left _ (Nat.succ_pos _)
  have hend : Reads (markIf ";") [] false [] := fun _ => rfl
  have hparen : isMark "::" (parens ts ++ ts').placed = false ∧
      isMark "!" (parens ts ++ ts').placed = false := ⟨rfl, rfl⟩
  obtain ⟨found, hpath, hcall⟩ := hopens.path hparen.1 hparen.2
  have hstmt := hfront.reads_stmt (hopens.item _) hpath hcall hlast (Closes.nil.reads_climb _) he'
    hend
  exact .cons hne (hfront.isMark_eq_false rfl) hstmt (Bool.and_false _) hlt .nil

end ZonedAccessors.Grammar
