import ZonedAccessors.Proofs.Grammar.Items
import ZonedAccessors.Proofs.Grammar.Tidy

/-!
The accessors as syntax trees, and that their tokens are read as these trees.
-/

namespace ZonedAccessors

open Token Syntax

/-! The trees. `r` is the path of the runtime. -/

namespace Syntax

def applied (p : Path) (name : String) (t : Ty) : Ty :=
  .path (.plain ⟨p.rooted, p.segments ++ [.angled name false [.type t] false]⟩)

def callOf (p : Path) (arguments : List Expr) : Expr := .call p.expr arguments false

def bindName (n : String) : Pattern := .name false false n

end Syntax

namespace Accessor

def corePath (names : List String) : ModPath := ⟨true, "core" :: names⟩

def optionPath : ModPath := corePath ["option"]

def somePath : ModPath := corePath ["option", "Option", "Some"]

def nonePath : ModPath := corePath ["option", "Option", "None"]

def okPath : ModPath := corePath ["result", "Result", "Ok"]

def optionOf (t : Ty) : Ty := applied optionPath.toPath "Option" t

def dateType (r : Path) : Ty := .path (.plain (r.to "DateInRegion"))

def resultOf (r : Path) (t : Ty) : Ty := applied r "RegionResult" t

def somePattern (n : String) : Pattern := .applied (.plain somePath.toPath) [bindName n] false

variable (v : Visibility) (r : Path) (a : Accessor)

def docAttribute (text : String) : Meta :=
  .value (.ofName "doc") (.literal false (quote text))

def getterAttributes : Attributes :=
  docAttribute (Template.getterDoc a) ::
    match a.policy with
    | .local => [.path (.ofName "must_use")]
    | .error => []

def getterType : Ty :=
  match a.nullable, a.policy with
  | false, .local => dateType r
  | false, .error => resultOf r (dateType r)
  | true, .local => optionOf (dateType r)
  | true, .error => resultOf r (optionOf (dateType r))

/-- A value from both fields where they are set, and `missing` otherwise. -/
def bothSet (found missing : Expr) : Expr :=
  .select (.tuple [ownExpr a.tzField, ownExpr a.utcField] false) []
    [.arm (.tuple [somePattern "seconds", somePattern "utc"] false) none
        (.block [] none [] [.expr found false]) false,
      .arm .wild none missing true]

def getterValue : Expr :=
  let own := [ownExpr a.utcField, ownExpr a.tzField]
  let found := [nameExpr "utc", nameExpr "seconds"]
  match a.nullable, a.policy with
  | false, .local => callOf (r.to "in_region") own
  | false, .error => callOf (r.to "try_in_region") own
  | true, .local =>
      a.bothSet (callOf somePath.toPath [callOf (r.to "in_region") found]) nonePath.expr
  | true, .error =>
      a.bothSet (.method (callOf (r.to "try_in_region") found) (.plain "map") [somePath.expr] false)
        (callOf okPath.toPath [nonePath.expr])

def function (name : String) (inputs : List Pattern) (trailing : Bool) (output : Option Ty)
    (body : List Stmt) : Item :=
  .function v false ⟨[], none⟩ name .none inputs trailing output .empty
    (some (.block [] none [] body))

/-- Both a value that may be missing and a failure put a comma behind the receiver. -/
def getterItem : Item :=
  .attributed a.getterAttributes
    (function v a.name [.receiver (.borrowed none false) none] (a.nullable && a.policy = .error)
      (some (a.getterType r)) [.expr (a.getterValue r) false])

def setterType : Ty := if a.nullable then optionOf (dateType r) else dateType r

/-- Takes the named value apart and stores what `wrap` makes of its parts. -/
def storing (value : String) (wrap : String → Expr) : List Stmt :=
  [.binding (.tuple [bindName "utc", bindName "seconds"] false)
      (some (callOf (r.to "split") [.borrow false (nameExpr value)])) none,
    .expr (.assign (ownExpr a.utcField) (wrap "utc")) true,
    .expr (.assign (ownExpr a.tzField) (wrap "seconds")) true]

def setterBody : List Stmt :=
  if a.nullable then
    [.expr (.conditional (.binding (somePattern "assigned") (nameExpr "value"))
      (a.storing r "assigned" fun n => callOf somePath.toPath [nameExpr n]) none) false]
  else a.storing r "value" nameExpr

def setterItem : Item :=
  .attributed [docAttribute (Template.setterDoc a)]
    (function v a.setter
      [.receiver (.borrowed none true) none, .typed (bindName "value") (a.setterType r)] false none
      (a.setterBody r))

end Accessor

namespace Grammar

/-- What the tokens of a target were made from. The path of the runtime is read at the levels from
`n` on, and a statement may begin with what a name behind it names. -/
structure Writes (n : Nat) (t : Target) (v : Visibility) (r : Path) : Prop where
  visibility : t.visibility = v.tokens
  restricted : Visibility.Named v
  runtime {m : Nat} : n ≤ m → ReadsPath (level m) t.runtime r
  opens {k : String} : Nameable k → OpensStatement (t.runtime ++ behind [k])

variable {t : Target} {v : Visibility} {r : Path} {a : Accessor} {g g' : Inner} {m n : Nat}
  {k : String} {ts ts' : Tokens} {e : Expr} {us vs ws : Source} {structs : Bool}

theorem runtime_eq_behind (t : Target) (k : String) :
    Template.runtime t k = t.runtime ++ behind [k] := by
  rw [Template.runtime, List.append_assoc]
  rfl

/-- Further up nothing is read otherwise. -/
theorem Writes.above (h : Writes n t v r) (m : Nat) : Writes (n + m) t v r where
  visibility := h.visibility
  restricted := h.restricted
  runtime hm := h.runtime (Nat.le_trans (Nat.le_add_right n m) hm)
  opens := h.opens

theorem Writes.readsPath (h : Writes n t v r) (hm : n ≤ m) (hk : Nameable k) :
    ReadsPath (level m) (Template.runtime t k) (r.to k) := by
  rw [runtime_eq_behind]
  exact (h.runtime hm).to hk

theorem Writes.opensStatement (h : Writes n t v r) (hk : Nameable k) :
    OpensStatement (Template.runtime t k) := by
  rw [runtime_eq_behind]
  exact h.opens hk

/-! Types. -/

theorem Writes.readsPath_date (h : Writes n t v r) (hm : n ≤ m) :
    ReadsPath (level m) (Template.date t) (r.to "DateInRegion") := h.readsPath hm (by decide)

theorem Writes.reads_date (h : Writes n t v r) (hm : n ≤ m) (hvs : TypeEnds vs) :
    Reads (type (level m) true) ((Template.date t).placed ++ vs) (Accessor.dateType r) vs :=
  hvs.reads_path (h.readsPath_date hm)

theorem Writes.pathFront_date (h : Writes n t v r) (hus : isMark "#" us = false) :
    PathFront ((Template.date t).placed ++ us) := (h.readsPath_date (Nat.le_refl n)).front hus

theorem Writes.reads_optionOf (h : Writes n t v r) (hm : n ≤ m) (hvs : TypeEnds vs)
    {joint : Bool} {p : Span} :
    Reads (type (level (m + 2)) true)
      (Template.option.placed ++ ((op "<").placed ++
        ((Template.date t).placed ++ .punct '>' joint p :: vs)))
      (Accessor.optionOf (Accessor.dateType r)) vs := by
  have hdate : Reads ((level (m + 1)).type true)
      ((Template.date t).placed ++ .punct '>' joint p :: vs) (Accessor.dateType r)
      (.punct '>' joint p :: vs) := h.reads_date hm .angle
  have hfront : PathFront ((Template.date t).placed ++ .punct '>' joint p :: vs) :=
    h.pathFront_date rfl
  have harg : Reads (level (m + 2)).argument ((Template.date t).placed ++ .punct '>' joint p :: vs)
      (.type (Accessor.dateType r)) (.punct '>' joint p :: vs) := reads_argument hfront hdate
  have hoption : ModPath.Readable Accessor.optionPath := ModPath.readable_of_tidy (by decide)
  exact hvs.reads_applied hoption.readsPath (by decide) (hfront.isMark_eq_false rfl) harg
    (by simp only [List.length_append, List.length_cons]; omega)

theorem Writes.reads_resultOf (h : Writes n t v r) (hm : n ≤ m) (hvs : TypeEnds vs) {joint : Bool}
    {p : Span} {T : Ty} (hus : PathFront us)
    (hT : Reads (type (level m) true) us T (.punct '>' joint p :: vs))
    (hlt : vs.length ≤ us.length) :
    Reads (type (level (m + 2)) true)
      ((Template.runtime t "RegionResult").placed ++ ((op "<").placed ++ us))
      (Accessor.resultOf r T) vs := by
  have harg : Reads (level (m + 2)).argument us (.type T) (.punct '>' joint p :: vs) :=
    reads_argument (g := level (m + 1)) hus hT
  have hruntime : ReadsPath (level (m + 2)) t.runtime r := h.runtime (Nat.le_add_right_of_le hm)
  rw [runtime_eq_behind, placed_append, List.append_assoc]
  exact hvs.reads_applied hruntime (by decide) (hus.isMark_eq_false rfl) harg hlt

/-! Bodies. -/

theorem reads_assignStmt {f : String} (hf : isKeyword f = false) (hg : g.unary = unary g')
    (he : ReadsOperand g' true ts e) :
    Reads (stmt g) ((Template.assign f ts).placed ++ us) (.expr (.assign (ownExpr f) e) true)
      us := by
  have htokens : (Template.assign f ts).placed ++ us = (Template.own f).placed ++
      ((op "=").placed ++ (ts.placed ++ ((op ";").placed ++ us))) := by
    simp only [Template.assign, placed_append, List.append_assoc]
  have hself : Nameable "self" := .inr (by decide)
  have hfront : PathFront ((Template.own f).placed ++
      ((op "=").placed ++ (ts.placed ++ ((op ";").placed ++ us)))) := .name hself rfl
  have hpath : Reads modPath ((Template.own f).placed ++
      ((op "=").placed ++ (ts.placed ++ ((op ";").placed ++ us)))) (.ofName "self")
      (.punct '.' false ⟨0, 0⟩ :: .ident f ⟨0, 0⟩ ::
        ((op "=").placed ++ (ts.placed ++ ((op ";").placed ++ us)))) := fun _ => rfl
  have hassign : Reads (climb g true .lowest (ownExpr f))
      ((op "=").placed ++ (ts.placed ++ ((op ";").placed ++ us))) (.assign (ownExpr f) e)
      ((op ";").placed ++ us) := Closes.semicolon.reads_assign hg rfl he
  have hend : Reads (markIf ";") ((op ";").placed ++ us) true us := fun _ => rfl
  rw [htokens]
  exact hfront.reads_stmt rfl (reads_behindPath hpath) rfl (readsOperand_own hf _ follows_equal)
    hassign rfl hend

theorem Writes.reads_takeApart (h : Writes n t v r) {value : String}
    (hvalue : Reads (listed List.isEmpty "," ((level (n + 2)).expr true))
      (op "&" ++ word value).placed ([.borrow false (nameExpr value)], false) []) :
    Reads (stmt (level (n + 3))) ((Template.takeApart t value).placed ++ us)
      (.binding (.tuple [bindName "utc", bindName "seconds"] false)
        (some (callOf (r.to "split") [.borrow false (nameExpr value)])) none) us := by
  have htokens : (Template.takeApart t value).placed ++ us =
      (word "let").placed ++ ((Template.pair (word "utc") (word "seconds")).placed ++
        ((op "=").placed ++ ((Template.runtime t "split" ++ parens (op "&" ++ word value)).placed ++
          ((op ";").placed ++ us)))) := by
    simp only [Template.takeApart, placed_append, List.append_assoc]
  rw [htokens]
  generalize hvs : (Template.runtime t "split" ++ parens (op "&" ++ word value)).placed ++
    ((op ";").placed ++ us) = vs
  have hlet : Reads (keyword "let") ((word "let").placed ++
      ((Template.pair (word "utc") (word "seconds")).placed ++ ((op "=").placed ++ vs))) ()
      ((Template.pair (word "utc") (word "seconds")).placed ++ ((op "=").placed ++ vs)) :=
    fun _ => rfl
  have hpattern : Reads ((level (n + 3)).pattern)
      ((Template.pair (word "utc") (word "seconds")).placed ++ ((op "=").placed ++ vs))
      (.tuple [bindName "utc", bindName "seconds"] false) ((op "=").placed ++ vs) := fun _ => rfl
  have hequal : Reads (markIf "=") ((op "=").placed ++ vs) true vs := fun _ => rfl
  have hcall : Reads ((level (n + 3)).expr true) vs
      (callOf (r.to "split") [.borrow false (nameExpr value)]) ((op ";").placed ++ us) := by
    rw [← hvs]
    have hsplit : ReadsPath (level (n + 2)) (Template.runtime t "split") (r.to "split") :=
      h.readsPath (Nat.le_add_right n 2) (by decide)
    exact (readsOperand_call hsplit hvalue).expr _ .semicolon
  have hend : Reads (mark ";") ((op ";").placed ++ us) () us := fun _ => rfl
  have hlocal : Reads (localStmt (level (n + 3))) ((word "let").placed ++
      ((Template.pair (word "utc") (word "seconds")).placed ++ ((op "=").placed ++ vs)))
      (.binding (.tuple [bindName "utc", bindName "seconds"] false)
        (some (callOf (r.to "split") [.borrow false (nameExpr value)])) none) us := by
    unfold localStmt
    refine hlet.bind (hpattern.bind (.peek (.no rfl ((reads_pure _).bind (hequal.bind ?_)))))
    refine .no rfl (hcall.bind (.peek (.no (Bool.and_false _) ?_)))
    exact (reads_pure _).bind (hend.bind (reads_pure _))
  have hnone : Refuses modPath ((word "let").placed ++
      ((Template.pair (word "utc") (word "seconds")).placed ++ ((op "=").placed ++ vs))) :=
    fun _ => ⟨_, rfl⟩
  refine reads_stmt rfl hnone.reads_behindPath rfl fun start => ?_
  unfold stmt.ordinary
  exact .yes rfl (hlocal.bind (reads_pure _))

theorem isKeyword_append_suffix {k w : String} (hw : ∀ k ∈ keywords, ¬ w.toList <:+ k.toList) :
    isKeyword (k ++ w) = false := by
  rw [Bool.eq_false_iff]
  intro h
  have hmem : k ++ w ∈ keywords := List.contains_iff_mem.mp h
  exact hw _ hmem ⟨k.toList, String.toList_append.symm⟩

theorem isKeyword_append_front {k w : String} (hw : ∀ k ∈ keywords, ¬ w.toList <+: k.toList) :
    isKeyword (w ++ k) = false := by
  rw [Bool.eq_false_iff]
  intro h
  have hmem : w ++ k ∈ keywords := List.contains_iff_mem.mp h
  exact hw _ hmem ⟨k.toList, String.toList_append.symm⟩

theorem isKeyword_utcField (a : Accessor) : isKeyword a.utcField = false :=
  isKeyword_append_suffix (by decide)

theorem isKeyword_tzField (a : Accessor) : isKeyword a.tzField = false :=
  isKeyword_append_suffix (by decide)

theorem isKeyword_setter (a : Accessor) : isKeyword a.setter = false :=
  isKeyword_append_front (by decide)

theorem Writes.readsBody_storing (h : Writes n t v r) {value : String}
    (hvalue : Reads (listed List.isEmpty "," ((level (n + 2)).expr true))
      (op "&" ++ word value).placed ([.borrow false (nameExpr value)], false) [])
    {wrap : String → Expr} (hutc : ReadsOperand (level (n + 2)) true ts (wrap "utc"))
    (hseconds : ReadsOperand (level (n + 2)) true ts' (wrap "seconds")) :
    ReadsBody (level (n + 3)) (Template.takeApart t value ++ Template.assign a.utcField ts ++
      Template.assign a.tzField ts').placed (a.storing r value wrap) := by
  have hlast : Reads (stmt (level (n + 3))) ((Template.assign a.tzField ts').placed ++ [])
      (.expr (.assign (ownExpr a.tzField) (wrap "seconds")) true) [] :=
    reads_assignStmt (isKeyword_tzField a) rfl hseconds
  rw [List.append_nil] at hlast
  rw [placed_append, placed_append, List.append_assoc]
  refine .cons rfl rfl (h.reads_takeApart hvalue) rfl ?_ ?_
  · simp only [List.length_append]
    exact Nat.lt_add_of_pos_left (Nat.succ_pos _)
  refine .cons rfl rfl (reads_assignStmt (isKeyword_utcField a) rfl hutc) rfl ?_ ?_
  · simp only [List.length_append]
    exact Nat.lt_add_of_pos_left (Nat.succ_pos _)
  exact .cons rfl rfl hlast rfl (Nat.succ_pos _) .nil

theorem readsOperand_name {k : String} (hk : Nameable k) :
    ReadsOperand g structs (word k) (nameExpr k) := by
  have hname : ModPath.Readable (.ofName k) := ⟨by simp [ModPath.ofName], by simpa [ModPath.ofName]⟩
  have hpath : ReadsOperand g structs (ModPath.ofName k).tokens (ModPath.ofName k).expr :=
    readsOperand_path hname.readsPath
  exact hpath

/-! Selections. -/

def foundPattern : Tokens :=
  Template.pair (Template.some (word "seconds")) (Template.some (word "utc"))

theorem reads_foundArm {found : Expr} (hvs : BlockEnds vs)
    (hhash : startsInner ts.placed = false)
    (hfound : ReadsBody (level (n + 1)) ts.placed [.expr found false]) :
    Reads (arm (level (n + 3)))
      (foundPattern.placed ++ ((op "=>").placed ++ ((braces ts).placed ++ vs)))
      (.arm (.tuple [Accessor.somePattern "seconds", Accessor.somePattern "utc"] false) none
        (.block [] none [] [.expr found false]) false) vs := by
  have hpattern : Reads (anyPattern (level (n + 3)))
      (foundPattern.placed ++ ((op "=>").placed ++ ((braces ts).placed ++ vs)))
      (.tuple [Accessor.somePattern "seconds", Accessor.somePattern "utc"] false)
      ((op "=>").placed ++ ((braces ts).placed ++ vs)) := fun _ => rfl
  have hguard : Reads (keywordIf "if") ((op "=>").placed ++ ((braces ts).placed ++ vs)) false
      ((op "=>").placed ++ ((braces ts).placed ++ vs)) := fun _ => rfl
  have harrow : Reads (mark "=>") ((op "=>").placed ++ ((braces ts).placed ++ vs)) ()
      ((braces ts).placed ++ vs) := fun _ => rfl
  have hbare : Reads (bareBlock (level (n + 2)) none) ((braces ts).placed ++ vs)
      (.block [] none [] [.expr found false]) vs :=
    (reads_braced hhash hfound rfl).bind (reads_pure _)
  have hblock : Reads (blockExpr (level (n + 2))) ((braces ts).placed ++ vs)
      (.block [] none [] [.expr found false]) vs := fun closing => hbare closing
  have hstatement : Reads (level (n + 3)).statement ((braces ts).placed ++ vs)
      (.block [] none [] [.expr found false]) vs := hvs.reads_statement rfl rfl hblock
  have hcomma : Reads (markIf ",") vs false vs := by cases hvs <;> exact fun _ => rfl
  unfold arm
  refine (reads_attributes rfl).bind (hpattern.bind (hguard.bind (.no rfl ?_)))
  refine (reads_pure _).bind ?_
  exact harrow.bind (hstatement.bind (.peek (.yes rfl (hcomma.bind (reads_pure _)))))

theorem reads_ownFields {f f' : String} (hf : isKeyword f = false) (hf' : isKeyword f' = false) :
    Reads (listed List.isEmpty "," ((level (n + 1)).expr true))
      (Template.own f ++ op "," ++ Template.own f').placed ([ownExpr f, ownExpr f'], false) [] := by
  have hg : (level (n + 1)).expr = expr (level n) := rfl
  exact reads_two hg rfl (readsOperand_own hf).expr (readsOperand_own hf').expr

/-- The two arms of a selection: where both fields are set, and where one is missing. -/
def bothArms (ts ts' : Tokens) : Tokens :=
  foundPattern ++ op "=>" ++ braces ts ++ word "_" ++ op "=>" ++ ts' ++ op ","

theorem placed_bothArms (ts ts' : Tokens) : (bothArms ts ts').placed =
    foundPattern.placed ++ ((op "=>").placed ++ ((braces ts).placed ++
      .ident "_" ⟨0, 0⟩ :: (op "=>" ++ ts' ++ op ",").placed)) := by
  simp only [bothArms, placed_append, List.append_assoc]
  rfl

theorem reads_bothArms {found missing : Expr} (hhash : startsInner ts.placed = false)
    (hfound : ReadsBody (level (n + 1)) ts.placed [.expr found false])
    (hmissing : Reads (arm (level (n + 3))) (.ident "_" ⟨0, 0⟩ :: (op "=>" ++ ts' ++ op ",").placed)
      (.arm .wild none missing true) []) :
    Reads (many (fun ts => !ts.isEmpty) (arm (level (n + 3)))) (bothArms ts ts').placed
      [.arm (.tuple [Accessor.somePattern "seconds", Accessor.somePattern "utc"] false) none
        (.block [] none [] [.expr found false]) false, .arm .wild none missing true] [] := by
  rw [placed_bothArms]
  refine (ReadsMany.cons rfl (reads_foundArm .word hhash hfound) ?_
    (.cons rfl hmissing (Nat.succ_pos _) (.nil rfl))).reads
  have hpos : 0 < foundPattern.placed.length := Nat.succ_pos _
  simp only [List.length_append]
  omega

theorem readsBody_bothSet {found missing : Expr}
    (hhash : startsInner ts.placed = false)
    (hfound : ReadsBody (level (n + 1)) ts.placed [.expr found false])
    (hmissing : Reads (arm (level (n + 3))) (.ident "_" ⟨0, 0⟩ :: (op "=>" ++ ts' ++ op ",").placed)
      (.arm .wild none missing true) []) :
    ReadsBody (level (n + 3)) (Template.bothSet a ts ts').placed
      [.expr (a.bothSet found missing) false] := by
  have htokens : (Template.bothSet a ts ts').placed = .ident "match" ⟨0, 0⟩ ::
      ((Template.pair (Template.own a.tzField) (Template.own a.utcField)).placed ++
        [.group .brace (bothArms ts ts').placed ⟨0, 0⟩]) := rfl
  have hinner : startsInner (bothArms ts ts').placed = false := rfl
  have hmany := reads_bothArms hhash hfound hmissing
  rw [htokens]
  generalize (bothArms ts ts').placed = body at hinner hmany
  have hmatch : Reads (keyword "match") (.ident "match" ⟨0, 0⟩ ::
      ((Template.pair (Template.own a.tzField) (Template.own a.utcField)).placed ++
        [.group .brace body ⟨0, 0⟩])) ()
      ((Template.pair (Template.own a.tzField) (Template.own a.utcField)).placed ++
        [.group .brace body ⟨0, 0⟩]) := fun _ => rfl
  have hsubject : Reads ((level (n + 3)).expr false)
      ((Template.pair (Template.own a.tzField) (Template.own a.utcField)).placed ++
        [.group .brace body ⟨0, 0⟩]) (.tuple [ownExpr a.tzField, ownExpr a.utcField] false)
      [.group .brace body ⟨0, 0⟩] :=
    (readsOperand_pair (reads_ownFields (isKeyword_tzField a) (isKeyword_utcField a))).expr _
      (.block rfl)
  have hselect : Reads (selection (level (n + 3))) (.ident "match" ⟨0, 0⟩ ::
      ((Template.pair (Template.own a.tzField) (Template.own a.utcField)).placed ++
        [.group .brace body ⟨0, 0⟩])) (a.bothSet found missing) [] := by
    unfold selection
    refine hmatch.bind (hsubject.bind (Reads.inside ?_))
    exact (ReadsMany.nil hinner).reads.bind (hmany.bind (reads_pure _))
  have hblock : Reads (blockExpr (level (n + 3))) (.ident "match" ⟨0, 0⟩ ::
      ((Template.pair (Template.own a.tzField) (Template.own a.utcField)).placed ++
        [.group .brace body ⟨0, 0⟩])) (a.bothSet found missing) [] := by
    unfold blockExpr
    exact .peek (.no rfl (.no rfl (.no rfl (.no rfl (.yes rfl hselect)))))
  exact readsBody_block rfl (fun _ => ⟨_, rfl⟩) rfl rfl hblock rfl

end Grammar

end ZonedAccessors
