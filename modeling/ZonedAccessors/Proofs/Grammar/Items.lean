import ZonedAccessors.Grammar.Item
import ZonedAccessors.Proofs.Grammar.Phrases

/-!
Functions with a body, and the blocks that hold them for a type, are read as what they were made
from.
-/

namespace ZonedAccessors.Grammar

open Token Syntax

variable {g g' : Inner} {v : Visibility} {r : Path} {rs ts ts' : Tokens} {e : Expr}
  {us vs ws : Source} {k : String}

/-! What a body consists of. -/

/-- An attribute of what encloses the tokens stands first. -/
def startsInner (ts : Source) : Bool := isMark "#" ts && second (isMark "!") ts

theorem reads_braced {ss : List Stmt} {place : Span} (hus : startsInner us = false)
    (h : ReadsBody g' us ss) (hg : g.body = body g') :
    Reads (braced g) (.group .brace us place :: vs) ([], ss) vs := by
  refine Reads.inside ((ReadsMany.nil hus).reads.bind ?_)
  rw [hg]
  exact h.reads.bind (reads_pure _)

/-- A body that begins with a call begins with no attribute. -/
theorem startsInner_call (hr : ReadsPath g rs r) :
    startsInner (rs ++ (parens ts ++ ts')).placed = false := by
  rw [startsInner, placed_append, (hr.front rfl).isMark_eq_false rfl, Bool.false_and]

theorem readsBody_call (hr : ReadsPath g rs r) (hopens : OpensStatement rs) {as : List Expr}
    (hargs : Reads (listed List.isEmpty "," (g.expr true)) ts.placed (as, false) []) :
    ReadsBody g (rs ++ parens ts).placed [.expr (.call r.expr as false) false] := by
  have hcall : ReadsOperand g true (rs ++ (parens ts ++ [])) (.call r.expr as false) := by
    rw [List.append_nil]
    exact readsOperand_call hr hargs
  have hbody := readsBody_value hr hopens hcall rfl
  rwa [List.append_nil] at hbody

/-- What stands behind an expression in braces that is a statement or the body of an arm. -/
inductive BlockEnds : Source → Prop
  | nil : BlockEnds []
  | word {w : String} {p : Span} {ts : Source} : BlockEnds (.ident w p :: ts)

theorem BlockEnds.reads_statement (hvs : BlockEnds vs) (hhash : isMark "#" us = false)
    (hblock : startsBlock us = true) (he : Reads (blockExpr g) us e vs) :
    Reads (statement g) us e vs := by
  have hafter : ((isMark "." vs && !isMark ".." vs) || isMark "?" vs) = false := by
    cases hvs <;> rfl
  unfold statement
  refine (reads_attributes hhash).bind (.peek (.yes hblock (he.bind (.peek (.no hafter ?_)))))
  exact reads_pure _

/-- A selection or a condition as the value of a block. -/
theorem readsBody_block {place : Span}
    (hblock : startsBlock (.ident k place :: us) = true)
    (hpath : Refuses modPath (.ident k place :: us)) (hlet : (k == "let") = false)
    (hitem : startsItem (.ident k place :: us) = false)
    (he : Reads (blockExpr g) (.ident k place :: us) e []) (he' : e.isOrdinary = true) :
    ReadsBody g (.ident k place :: us) [.expr e false] := by
  have hend : Reads (markIf ";") [] false [] := fun _ => rfl
  have hstatement : Reads (statement g) (.ident k place :: us) e [] :=
    BlockEnds.nil.reads_statement rfl hblock he
  have hstmt : Reads (stmt g) (.ident k place :: us) (.expr e false) [] := by
    refine reads_stmt rfl hpath.reads_behindPath rfl fun start => ?_
    unfold stmt.ordinary
    exact .no hlet (.no hitem (reads_exprStmt hstatement he' hend))
  exact .cons rfl rfl hstmt (Bool.and_false _) (Nat.succ_pos _) .nil

/-! Functions. -/

theorem reads_functionBody {ss : List Stmt} {place : Span} (hus : startsInner us = false)
    (h : ReadsBody g' us ss) (hg : g.body = body g') :
    Reads (functionBody g) (.group .brace us place :: vs) (.block [] none [] ss) vs :=
  (reads_braced hus h hg).bind (reads_pure _)

theorem reads_output {t : Ty} (ht : Reads (g.type true) us t vs) :
    Reads (output g true) ((op "->").placed ++ us) (some t) vs := by
  have harrow : Reads (markIf "->") ((op "->").placed ++ us) true us := fun _ => rfl
  exact harrow.bind (.yes rfl (ht.bind (reads_pure _)))

section

variable {inputs body : Source} {p p' q q' : Span} {ps : List Pattern} {trailing : Bool}
  {out : Option Ty}

theorem reads_signature (hk : isKeyword k = false)
    (hin : Reads (functionInputsFrom g true false (inputs.length + 1)) inputs (ps, trailing) [])
    (hout : Reads (output g true) us out (.group .brace body q' :: vs)) :
    Reads (signature g false) (.ident "fn" p :: .ident k p' :: .group .paren inputs q :: us)
      (false, ⟨⟨[], none⟩, k, .none, ps, trailing, out, .empty⟩) (.group .brace body q' :: vs) := by
  have hwords : Reads (wordsIf ["const", "async", "unsafe"])
      (.ident "fn" p :: .ident k p' :: .group .paren inputs q :: us) []
      (.ident "fn" p :: .ident k p' :: .group .paren inputs q :: us) := fun _ => rfl
  have hconvention : Reads conventionIf
      (.ident "fn" p :: .ident k p' :: .group .paren inputs q :: us) none
      (.ident "fn" p :: .ident k p' :: .group .paren inputs q :: us) := fun _ => rfl
  have hfn : Reads (keyword "fn") (.ident "fn" p :: .ident k p' :: .group .paren inputs q :: us) ()
      (.ident k p' :: .group .paren inputs q :: us) := fun _ => rfl
  have hgenerics : Reads (generics g) (.group .paren inputs q :: us) .none
      (.group .paren inputs q :: us) := fun _ => rfl
  have hinputs : Reads (functionInputs g) (.group .paren inputs q :: us) (ps, trailing) us :=
    Reads.inside (.peek hin)
  have hconditions : Reads (conditions g) (.group .brace body q' :: vs) .empty
      (.group .brace body q' :: vs) := fun _ => rfl
  unfold signature
  refine hwords.bind (.no rfl ((reads_pure _).bind (hconvention.bind (hfn.bind ?_))))
  refine (reads_name hk).bind (hgenerics.bind (hinputs.bind (hout.bind ?_)))
  exact hconditions.bind (reads_pure _)

theorem startsSignature_fn : startsSignature false (.ident "fn" p :: us) = true := by
  simp [startsSignature, withoutSafety, withoutWord, withoutConvention, isWord]

theorem reads_implItemRest (hv : Visibility.Named v) (hk : isKeyword k = false) {ss : List Stmt}
    (hin : Reads (functionInputsFrom g true false (inputs.length + 1)) inputs (ps, trailing) [])
    (hout : Reads (output g true) us out (.group .brace body q' :: vs))
    (hbody : Reads (functionBody g) (.group .brace body q' :: vs) (.block [] none [] ss) vs) :
    Reads (implItemRest g)
      (v.tokens.placed ++ .ident "fn" p :: .ident k p' :: .group .paren inputs q :: us)
      (some (.function v false ⟨[], none⟩ k .none ps trailing out .empty
        (some (.block [] none [] ss)))) vs := by
  have hsemi : Reads (markIf ";") (.group .brace body q' :: vs) false
    (.group .brace body q' :: vs) := fun _ => rfl
  unfold implItemRest
  refine (reads_visibility hv).bind (.peek (.peek (.no rfl (.peek (.yes startsSignature_fn ?_)))))
  unfold implFunction
  exact (reads_signature hk hin hout).bind (hsemi.bind (.no rfl (hbody.bind (reads_pure _))))

end

/-! Items behind their attributes. -/

theorem reads_withAttributes {as : Attributes} {i : Item} {p : Reader (Option Item)}
    (has : Reads (attributes g) us as vs) (hi : Reads p vs (some i) ws) :
    Reads (withAttributes g p) us (i.within as) ws := by
  have hread : Reads (do let as ← attributes g; return (as, ← p)) us (as, some i) ws := by
    refine has.bind (hi.bind ?_)
    exact reads_pure _
  unfold withAttributes
  exact hread.captured.bind (reads_pure _)

theorem reads_items {item : Reader Item} {is : List Item} (hus : startsInner us = false)
    (h : ReadsMany (fun ts => !ts.isEmpty) item us is []) :
    Reads (items g item) us ([], is) [] :=
  (ReadsMany.nil hus).reads.bind (h.reads.bind (reads_pure _))

/-- What begins a type that stands behind `impl` and is not taken for something else there. -/
structure ImplFront (ts : Source) : Prop where
  generics : startsGenerics ts = false
  constant : isWord "const" ts = false
  maybe : isMark "?" ts = false
  negative : isMark "!" ts = false

theorem ImplFront.reads_implBlock (hus : ImplFront us) {self : Ty} {place place' : Span}
    {body : Source} {members : List Item}
    (hself : Reads (g.type true) us self (.group .brace body place' :: vs))
    (hbody : startsInner body = false)
    (h : ReadsMany (fun ts => !ts.isEmpty) (implItem g) body members []) :
    Reads (implBlock g .inherited) (.ident "impl" place :: us)
      (some (.impl [] .none self .empty [] members)) vs := by
  have hwords : Reads (wordsIf ["default", "unsafe"]) (.ident "impl" place :: us) []
      (.ident "impl" place :: us) := fun _ => rfl
  have himpl : Reads (keyword "impl") (.ident "impl" place :: us) () us := fun _ => rfl
  have hconstant :
      (isWord "const" us || (isMark "?" us && second (isWord "const") us)) = false := by
    rw [hus.constant, hus.maybe]
    rfl
  have hnegative : (isMark "!" us && !second (isGroup .brace) us) = false := by
    rw [hus.negative, Bool.false_and]
  have hfor : Reads (keywordIf "for") (.group .brace body place' :: vs) false
      (.group .brace body place' :: vs) := fun _ => rfl
  have hsubject : Reads (subject g none) us (.own self) (.group .brace body place' :: vs) :=
    hself.bind (hfor.bind (.no rfl (reads_pure _)))
  have hconditions : Reads (conditions g) (.group .brace body place' :: vs) .empty
      (.group .brace body place' :: vs) := fun _ => rfl
  unfold implBlock
  refine hwords.bind (himpl.bind (.peek (.no hus.generics ((reads_pure _).bind (.peek ?_)))))
  refine .no hconstant (.state fun closing => .peek (.peek (.no hnegative ?_)))
  rw [hnegative, hconstant]
  refine hsubject.bind (hconditions.bind ((reads_items hbody h).inside.bind ?_))
  exact reads_pure _

theorem ImplFront.reads_implementation (hus : ImplFront us) {self : Ty} {place place' : Span}
    {body : Source} {members : List Item}
    (hself : Reads (g.type true) us self (.group .brace body place' :: vs))
    (hbody : startsInner body = false)
    (h : ReadsMany (fun ts => !ts.isEmpty) (implItem g) body members []) :
    Reads (item g) (.ident "impl" place :: us) (.impl [] .none self .empty [] members) vs := by
  have hblock : Reads (implBlock g .inherited) (.ident "impl" place :: us)
      (some (.impl [] .none self .empty [] members)) vs := hus.reads_implBlock hself hbody h
  have hvisibility : Reads visibility (.ident "impl" place :: us) .inherited
      (.ident "impl" place :: us) := fun _ => rfl
  have hrest : Reads (itemRest g) (.ident "impl" place :: us)
      (some (.impl [] .none self .empty [] members)) vs := by
    unfold itemRest
    refine .state fun closing => hvisibility.bind (.peek (.no rfl (.no rfl (.no rfl (.no rfl ?_)))))
    refine .no rfl (.no rfl (.no rfl (.no rfl (.no rfl (.no rfl (.no rfl (.no rfl ?_)))))))
    exact .no rfl (.yes rfl hblock)
  exact reads_withAttributes (reads_attributes rfl) hrest

end ZonedAccessors.Grammar
