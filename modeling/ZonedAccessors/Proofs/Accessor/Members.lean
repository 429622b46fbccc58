import ZonedAccessors.Proofs.Accessor.Tree

/-!
The getter and the setter of an accessor are read back as functions of their own, and so are those
of any number of accessors one after the other.
-/

namespace ZonedAccessors.Grammar

open Token Syntax

variable {t : Target} {v : Visibility} {r : Path} {a : Accessor} {g g' : Inner} {m n : Nat}
  {ts ts' : Tokens} {e : Expr} {us vs ws : Source} {structs : Bool} {k : String}

/-! Inputs. -/

theorem reads_getterInputs (comma : Bool) : Reads
    (functionInputsFrom g true false
      ((Template.receiver ++ if comma then op "," else []).placed.length + 1))
    (Template.receiver ++ if comma then op "," else []).placed
    ([.receiver (.borrowed none false) none], comma) [] := by
  cases comma <;> exact fun _ => rfl

theorem reads_setterInputs {T : Ty} (hts : PathFront ts.placed)
    (hT : Reads ((level (n + 1)).type true) ts.placed T [])
    (hmore : isMore (.typed (bindName "value") T) = false) :
    Reads
      (functionInputsFrom (level (n + 1)) true false ((Template.setterInputs ts).placed.length + 1))
      (Template.setterInputs ts).placed
      ([.receiver (.borrowed none true) none, .typed (bindName "value") T], false) [] := by
  have hvalue : Reads (typedInput (level (n + 1)))
      (.ident "value" ⟨0, 0⟩ :: .punct ':' false ⟨0, 0⟩ :: ts.placed)
      (.typed (bindName "value") T) [] := by
    have hpattern : Reads ((level (n + 1)).pattern)
        (.ident "value" ⟨0, 0⟩ :: .punct ':' false ⟨0, 0⟩ :: ts.placed) (bindName "value")
        (.punct ':' false ⟨0, 0⟩ :: ts.placed) := fun _ => rfl
    have hcolon : Reads (mark ":") (.punct ':' false ⟨0, 0⟩ :: ts.placed) () ts.placed :=
      fun _ => rfl
    unfold typedInput
    refine .peek (.peek (.no rfl (hpattern.bind (hcolon.bind ?_))))
    exact (reads_markIf_false (hts.isMark_eq_false rfl)).bind (.no rfl (hT.bind (reads_pure _)))
  have hreceiver : Reads (attempt (receiver (level (n + 1)))) (Template.setterInputs ts).placed
      (some (.receiver (.borrowed none true) none))
      (.punct ',' false ⟨0, 0⟩ :: .ident "value" ⟨0, 0⟩ :: .punct ':' false ⟨0, 0⟩ :: ts.placed) :=
    Reads.attempt fun _ => rfl
  have hcomma : Reads (mark ",")
      (.punct ',' false ⟨0, 0⟩ :: .ident "value" ⟨0, 0⟩ :: .punct ':' false ⟨0, 0⟩ :: ts.placed) ()
      (.ident "value" ⟨0, 0⟩ :: .punct ':' false ⟨0, 0⟩ :: ts.placed) := fun _ => rfl
  have hnone : Reads (attempt (receiver (level (n + 1))))
      (.ident "value" ⟨0, 0⟩ :: .punct ':' false ⟨0, 0⟩ :: ts.placed) none
      (.ident "value" ⟨0, 0⟩ :: .punct ':' false ⟨0, 0⟩ :: ts.placed) :=
    Refuses.attempt fun _ => ⟨_, rfl⟩
  have hsecond (fuel : Nat) : Reads (functionInputsFrom (level (n + 1)) false true (fuel + 1))
      (.ident "value" ⟨0, 0⟩ :: .punct ':' false ⟨0, 0⟩ :: ts.placed)
      ([.typed (bindName "value") T], false) [] := by
    unfold functionInputsFrom
    refine .peek (.no rfl ((reads_attributes rfl).bind ((reads_markIf_false rfl).bind ?_)))
    refine .no rfl (.peek ?_)
    refine hnone.bind (.no rfl (.no rfl (hvalue.bind ?_)))
    exact .no hmore (.peek (.yes rfl (reads_pure _)))
  unfold functionInputsFrom
  refine .peek (.no rfl ((reads_attributes rfl).bind ((reads_markIf_false rfl).bind ?_)))
  refine .no rfl (.peek ?_)
  refine hreceiver.bind (.no rfl (.no rfl ((reads_pure _).bind (.no rfl (.peek (.no rfl ?_))))))
  exact hcomma.bind ((hsecond _).bind (reads_pure _))

/-! Attributes. -/

theorem reads_docAttribute (text : String) : Reads (do mark "#"; inside .bracket (metaItem g))
    ((Template.doc text).placed ++ us) (Accessor.docAttribute text) us := fun _ => rfl

theorem reads_mustUseAttribute : Reads (do mark "#"; inside .bracket (metaItem g))
    (Template.mustUse.placed ++ us) (.path (.ofName "must_use")) us := fun _ => rfl

theorem Writes.placed_function (h : Writes n t v r) (k : String) (inputs out body : Tokens) :
    (Template.function t k inputs out body).placed ++ us =
      v.tokens.placed ++ .ident "fn" ⟨0, 0⟩ :: .ident k ⟨0, 0⟩ ::
        .group .paren inputs.placed ⟨0, 0⟩ :: (out.placed ++ ((braces body).placed ++ us)) := by
  simp only [Template.function, h.visibility, placed_append, List.append_assoc]
  rfl

theorem Writes.isMark_hash (h : Writes n t v r) (k : String) (inputs out body : Tokens) :
    isMark "#" ((Template.function t k inputs out body).placed ++ us) = false := by
  rw [h.placed_function]
  rcases v with _ | _ | _ <;> rfl

/-- A function of a target behind its attributes. -/
theorem Writes.reads_function (h : Writes n t v r) {as : Attributes} {k : String}
    (hk : isKeyword k = false) {inputs out body : Tokens} {ps : List Pattern} {trailing : Bool}
    {T : Option Ty} {ss : List Stmt}
    (has : Reads (attributes (level (m + 1))) us as
      ((Template.function t k inputs out body).placed ++ vs))
    (hin : Reads (functionInputsFrom (level (m + 1)) true false (inputs.placed.length + 1))
      inputs.placed (ps, trailing) [])
    (hout : Reads (output (level (m + 1)) true) (out.placed ++ ((braces body).placed ++ vs)) T
      ((braces body).placed ++ vs))
    (hinner : startsInner body.placed = false)
    (hbody : ReadsBody (level m) body.placed ss) :
    Reads (implItem (level (m + 1))) us ((Accessor.function v k ps trailing T ss).within as)
      vs := by
  have hbraces : Reads (functionBody (level (m + 1))) ((braces body).placed ++ vs)
      (.block [] none [] ss) vs := reads_functionBody hinner hbody rfl
  rw [h.placed_function] at has
  exact reads_withAttributes has (reads_implItemRest h.restricted hk hin hout hbraces)

theorem Writes.reads_documented (h : Writes n t v r) (text : String) {k : String}
    (hk : isKeyword k = false) {inputs out body : Tokens} {ps : List Pattern} {trailing : Bool}
    {T : Option Ty} {ss : List Stmt}
    (hin : Reads (functionInputsFrom (level (m + 1)) true false (inputs.placed.length + 1))
      inputs.placed (ps, trailing) [])
    (hout : Reads (output (level (m + 1)) true) (out.placed ++ ((braces body).placed ++ us)) T
      ((braces body).placed ++ us))
    (hinner : startsInner body.placed = false)
    (hbody : ReadsBody (level m) body.placed ss) :
    Reads (implItem (level (m + 1)))
      ((Template.doc text ++ Template.function t k inputs out body).placed ++ us)
      (.attributed [Accessor.docAttribute text] (Accessor.function v k ps trailing T ss)) us := by
  have hlt : ((Template.function t k inputs out body).placed ++ us).length <
      ((Template.doc text).placed ++
        ((Template.function t k inputs out body).placed ++ us)).length :=
    length_lt_append (Nat.succ_pos _)
  have has : Reads (attributes (level (m + 1)))
      ((Template.doc text).placed ++ ((Template.function t k inputs out body).placed ++ us))
      [Accessor.docAttribute text] ((Template.function t k inputs out body).placed ++ us) :=
    (ReadsMany.cons rfl (reads_docAttribute text) hlt (.nil (h.isMark_hash _ _ _ _))).reads
  rw [placed_append, List.append_assoc]
  exact h.reads_function hk has hin hout hinner hbody

theorem Writes.reads_mustUse (h : Writes n t v r) (text : String) {k : String}
    (hk : isKeyword k = false) {inputs out body : Tokens} {ps : List Pattern} {trailing : Bool}
    {T : Option Ty} {ss : List Stmt}
    (hin : Reads (functionInputsFrom (level (m + 1)) true false (inputs.placed.length + 1))
      inputs.placed (ps, trailing) [])
    (hout : Reads (output (level (m + 1)) true) (out.placed ++ ((braces body).placed ++ us)) T
      ((braces body).placed ++ us))
    (hinner : startsInner body.placed = false)
    (hbody : ReadsBody (level m) body.placed ss) :
    Reads (implItem (level (m + 1)))
      ((Template.doc text ++ Template.mustUse ++ Template.function t k inputs out body).placed ++
        us)
      (.attributed [Accessor.docAttribute text, .path (.ofName "must_use")]
        (Accessor.function v k ps trailing T ss)) us := by
  have hlt : ((Template.function t k inputs out body).placed ++ us).length <
      (Template.mustUse.placed ++ ((Template.function t k inputs out body).placed ++ us)).length :=
    length_lt_append (Nat.succ_pos _)
  have hlt' : (Template.mustUse.placed ++ ((Template.function t k inputs out body).placed ++
      us)).length < ((Template.doc text).placed ++ (Template.mustUse.placed ++
        ((Template.function t k inputs out body).placed ++ us))).length :=
    length_lt_append (Nat.succ_pos _)
  have has : Reads (attributes (level (m + 1))) ((Template.doc text).placed ++
      (Template.mustUse.placed ++ ((Template.function t k inputs out body).placed ++ us)))
      [Accessor.docAttribute text, .path (.ofName "must_use")]
      ((Template.function t k inputs out body).placed ++ us) :=
    (ReadsMany.cons rfl (reads_docAttribute text) hlt' (.cons rfl reads_mustUseAttribute hlt
      (.nil (h.isMark_hash _ _ _ _)))).reads
  rw [placed_append, placed_append, List.append_assoc, List.append_assoc]
  exact h.reads_function hk has hin hout hinner hbody

/-! What a getter answers. -/

theorem Writes.reads_dateOutput (h : Writes n t v r) {p : Span} {body : Source} :
    Reads (output (level (n + 1)) true)
      ((op "->" ++ Template.date t).placed ++ .group .brace body p :: us)
      (some (Accessor.dateType r)) (.group .brace body p :: us) := by
  have hdate : Reads ((level (n + 1)).type true)
      ((Template.date t).placed ++ .group .brace body p :: us) (Accessor.dateType r)
      (.group .brace body p :: us) := h.reads_date (Nat.le_refl n) .block
  rw [placed_append, List.append_assoc]
  exact reads_output hdate

theorem Writes.reads_optionOutput (h : Writes n t v r) {p : Span} {body : Source} :
    Reads (output (level (n + 3)) true)
      ((op "->" ++ Template.optionOf (Template.date t)).placed ++ .group .brace body p :: us)
      (some (Accessor.optionOf (Accessor.dateType r))) (.group .brace body p :: us) := by
  have hoption : Reads ((level (n + 3)).type true) (Template.option.placed ++ ((op "<").placed ++
      ((Template.date t).placed ++ ((op ">").placed ++ .group .brace body p :: us))))
      (Accessor.optionOf (Accessor.dateType r)) (.group .brace body p :: us) :=
    h.reads_optionOf (Nat.le_refl n) .block
  simp only [Template.optionOf, placed_append, List.append_assoc]
  exact reads_output hoption

theorem Writes.reads_resultOutput (h : Writes n t v r) {p : Span} {body : Source} :
    Reads (output (level (n + 3)) true)
      ((op "->" ++ Template.runtime t "RegionResult" ++ op "<" ++ Template.date t ++
        op ">").placed ++ .group .brace body p :: us)
      (some (Accessor.resultOf r (Accessor.dateType r))) (.group .brace body p :: us) := by
  have hdate : Reads (type (level n) true) ((Template.date t).placed ++
      ((op ">").placed ++ .group .brace body p :: us)) (Accessor.dateType r)
      ((op ">").placed ++ .group .brace body p :: us) := h.reads_date (Nat.le_refl n) .angle
  have hresult : Reads ((level (n + 3)).type true) ((Template.runtime t "RegionResult").placed ++
      ((op "<").placed ++ ((Template.date t).placed ++
        ((op ">").placed ++ .group .brace body p :: us))))
      (Accessor.resultOf r (Accessor.dateType r)) (.group .brace body p :: us) :=
    h.reads_resultOf (Nat.le_refl n) .block (h.pathFront_date rfl) hdate
      (by simp only [List.length_append]; omega)
  simp only [placed_append, List.append_assoc]
  exact reads_output hresult

/-- The two closing marks are read one after the other, though they stand together. -/
theorem Writes.reads_resultOptionOutput (h : Writes n t v r) {p : Span} {body : Source} :
    Reads (output (level (n + 5)) true)
      ((op "->" ++ Template.runtime t "RegionResult" ++ op "<" ++ Template.option ++ op "<" ++
        Template.date t ++ op ">>").placed ++ .group .brace body p :: us)
      (some (Accessor.resultOf r (Accessor.optionOf (Accessor.dateType r))))
      (.group .brace body p :: us) := by
  have hoption : Reads (type (level (n + 2)) true) (Template.option.placed ++ ((op "<").placed ++
      ((Template.date t).placed ++ .punct '>' true ⟨0, 0⟩ :: .punct '>' false ⟨0, 0⟩ ::
        .group .brace body p :: us))) (Accessor.optionOf (Accessor.dateType r))
      (.punct '>' false ⟨0, 0⟩ :: .group .brace body p :: us) :=
    h.reads_optionOf (Nat.le_refl n) .angle
  have hfront : PathFront (Template.option.placed ++ ((op "<").placed ++
      ((Template.date t).placed ++ .punct '>' true ⟨0, 0⟩ :: .punct '>' false ⟨0, 0⟩ ::
        .group .brace body p :: us))) := .rooted
  have hresult : Reads ((level (n + 5)).type true) ((Template.runtime t "RegionResult").placed ++
      ((op "<").placed ++ (Template.option.placed ++ ((op "<").placed ++
      ((Template.date t).placed ++ .punct '>' true ⟨0, 0⟩ :: .punct '>' false ⟨0, 0⟩ ::
        .group .brace body p :: us)))))
      (Accessor.resultOf r (Accessor.optionOf (Accessor.dateType r)))
      (.group .brace body p :: us) :=
    h.reads_resultOf (Nat.le_add_right n 2) .block hfront hoption (by simp; omega)
  simp only [placed_append, List.append_assoc]
  exact reads_output hresult

/-! The value of a getter. -/

theorem reads_parts : Reads (listed List.isEmpty "," ((level (n + 1)).expr true))
    (word "utc" ++ op "," ++ word "seconds").placed ([nameExpr "utc", nameExpr "seconds"], false)
    [] := fun _ => rfl

theorem readable_somePath : ModPath.Readable Accessor.somePath :=
  ModPath.readable_of_tidy (by decide)

theorem Writes.readsBody_runtime (h : Writes n t v r) (hk : Nameable k) {f f' : String}
    (hf : isKeyword f = false) (hf' : isKeyword f' = false) :
    ReadsBody (level (n + 1))
      (Template.runtime t k ++ Template.pair (Template.own f) (Template.own f')).placed
      [.expr (callOf (r.to k) [ownExpr f, ownExpr f']) false] :=
  readsBody_call (h.readsPath (Nat.le_add_right n 1) hk) (h.opensStatement hk)
    (reads_ownFields hf hf')

theorem Writes.readsBody_some (h : Writes n t v r) : ReadsBody (level (n + 2))
    (Template.some (Template.runtime t "in_region" ++
      Template.pair (word "utc") (word "seconds"))).placed
    [.expr (callOf Accessor.somePath.toPath
      [callOf (r.to "in_region") [nameExpr "utc", nameExpr "seconds"]]) false] := by
  have hg : (level (n + 2)).expr = expr (level (n + 1)) := rfl
  have hregion : ReadsPath (level (n + 1)) (Template.runtime t "in_region") (r.to "in_region") :=
    h.readsPath (Nat.le_add_right n 1) (by decide)
  have hcall : ReadsOperand (level (n + 1)) true
      (Template.runtime t "in_region" ++ Template.pair (word "utc") (word "seconds"))
      (callOf (r.to "in_region") [nameExpr "utc", nameExpr "seconds"]) :=
    readsOperand_call hregion reads_parts
  have hne : (Template.runtime t "in_region" ++
      Template.pair (word "utc") (word "seconds")).isEmpty = false := by
    unfold Template.runtime
    cases t.runtime <;> rfl
  exact readsBody_call readable_somePath.readsPath
    (opensStatement_of_readable readable_somePath fun _ => rfl) (reads_one hg hne hcall.expr)

theorem map_tokens (t : Target) :
    Template.runtime t "try_in_region" ++ Template.pair (word "utc") (word "seconds") ++ op "." ++
        word "map" ++ parens (Template.core ["option", "Option", "Some"]) =
      Template.runtime t "try_in_region" ++ (parens (word "utc" ++ op "," ++ word "seconds") ++
        (op "." ++ word "map" ++ parens (Template.core ["option", "Option", "Some"]))) := by
  simp only [Template.pair, List.append_assoc]

theorem Writes.readsBody_map (h : Writes n t v r) : ReadsBody (level (n + 2))
    (Template.runtime t "try_in_region" ++ Template.pair (word "utc") (word "seconds") ++ op "." ++
      word "map" ++ parens (Template.core ["option", "Option", "Some"])).placed
    [.expr (.method (callOf (r.to "try_in_region") [nameExpr "utc", nameExpr "seconds"])
      (.plain "map") [Accessor.somePath.expr] false) false] := by
  have hregion : ReadsPath (level (n + 2)) (Template.runtime t "try_in_region")
      (r.to "try_in_region") := h.readsPath (Nat.le_add_right n 2) (by decide)
  have hmap : isKeyword "map" = false := by decide
  have hsome : Reads (listed List.isEmpty "," ((level (n + 2)).expr true))
      (Template.core ["option", "Option", "Some"]).placed ([Accessor.somePath.expr], false) [] :=
    fun _ => rfl
  rw [map_tokens]
  exact readsBody_value hregion (h.opensStatement (by decide))
    (readsOperand_method hregion hmap rfl reads_parts hsome) rfl

/-! Getters. -/

theorem Writes.startsInner_runtime (h : Writes n t v r) (hk : Nameable k) (ts : Tokens) :
    startsInner (Template.runtime t k ++ parens ts).placed = false := by
  have hinner : startsInner (Template.runtime t k ++ (parens ts ++ [])).placed = false :=
    startsInner_call (h.readsPath (Nat.le_refl n) hk)
  rwa [List.append_nil] at hinner

theorem Writes.reads_getter (h : Writes n t v r) (ha : isKeyword a.name = false) :
    Reads (implItem (level (n + 5))) ((Template.getter t a).placed ++ us) (a.getterItem v r)
      us := by
  obtain ⟨name, nullable, policy⟩ := a
  have hregion : Nameable "in_region" := by decide
  have htry : Nameable "try_in_region" := by decide
  have hutc (a : Accessor) := isKeyword_utcField a
  have htz (a : Accessor) := isKeyword_tzField a
  -- whether the field may be missing decides the body, and the policy the attributes and the type
  cases nullable with
  | false =>
      cases policy with
      | error =>
          exact h.reads_documented _ ha (reads_getterInputs false) (h.above 2).reads_resultOutput
            (h.startsInner_runtime htry _) ((h.above 3).readsBody_runtime htry (hutc _) (htz _))
      | _ =>
          exact h.reads_mustUse _ ha (reads_getterInputs false) (h.above 4).reads_dateOutput
            (h.startsInner_runtime hregion _)
            ((h.above 3).readsBody_runtime hregion (hutc _) (htz _))
  | true =>
      cases policy with
      | error =>
          have hinner : startsInner (Template.runtime t "try_in_region" ++
              Template.pair (word "utc") (word "seconds") ++ op "." ++ word "map" ++
                parens (Template.core ["option", "Option", "Some"])).placed = false := by
            rw [map_tokens]
            exact startsInner_call (h.readsPath (Nat.le_refl n) htry)
          exact h.reads_documented _ ha (reads_getterInputs true) h.reads_resultOptionOutput rfl
            (readsBody_bothSet hinner h.readsBody_map fun _ => rfl)
      | _ =>
          exact h.reads_mustUse _ ha (reads_getterInputs false) (h.above 2).reads_optionOutput rfl
            (readsBody_bothSet rfl h.readsBody_some fun _ => rfl)

/-! Setters. -/

theorem Writes.readsBody_plain (h : Writes n t v r) : ReadsBody (level (n + 3))
    (Template.takeApart t "value" ++ Template.assign a.utcField (word "utc") ++
      Template.assign a.tzField (word "seconds")).placed (a.storing r "value" nameExpr) :=
  h.readsBody_storing (fun _ => rfl) (readsOperand_name (by decide)) (readsOperand_name (by decide))

theorem readsOperand_someName {k : String}
    (hk : Reads (listed List.isEmpty "," (g.expr true)) (word k).placed ([nameExpr k], false) []) :
    ReadsOperand g structs (Template.some (word k))
      (callOf Accessor.somePath.toPath [nameExpr k]) :=
  readsOperand_call readable_somePath.readsPath hk

/-- What stands behind `if` where a value may be missing. -/
def whenAssigned (body : Source) : Source :=
  (word "let" ++ Template.some (word "assigned") ++ op "=" ++ word "value").placed ++
    [.group .brace body ⟨0, 0⟩]

theorem readsBody_conditional {body : Source} {ss : List Stmt}
    (hbody : ReadsBody (level (n + 3)) body ss) :
    ReadsBody (level (n + 4)) (.ident "if" ⟨0, 0⟩ :: whenAssigned body)
      [.expr (.conditional (.binding (Accessor.somePattern "assigned") (nameExpr "value")) ss none)
        false] := by
  have hif : Reads (keyword "if") (.ident "if" ⟨0, 0⟩ :: whenAssigned body) ()
      (whenAssigned body) := fun _ => rfl
  have hcondition : Reads ((level (n + 4)).expr false) (whenAssigned body)
      (.binding (Accessor.somePattern "assigned") (nameExpr "value"))
      [.group .brace body ⟨0, 0⟩] := fun _ => rfl
  have hyes : Reads (level (n + 4)).block [.group .brace body ⟨0, 0⟩] ss [] := hbody.reads.inside
  have helse : Reads (keywordIf "else") [] false [] := fun _ => rfl
  have hpath : Refuses modPath (.ident "if" ⟨0, 0⟩ :: whenAssigned body) := fun _ => ⟨_, rfl⟩
  have hitem : startsItem (.ident "if" ⟨0, 0⟩ :: whenAssigned body) = false := rfl
  generalize whenAssigned body = us at hif hcondition hpath hitem
  have hconditional : Reads (conditional (level (n + 4))) (.ident "if" ⟨0, 0⟩ :: us)
      (.conditional (.binding (Accessor.somePattern "assigned") (nameExpr "value")) ss none)
      [] := by
    unfold conditional
    refine .peek ?_
    unfold conditionalFrom
    exact hif.bind (hcondition.bind (hyes.bind (helse.bind (.yes rfl (reads_pure _)))))
  have hblock : Reads (blockExpr (level (n + 4))) (.ident "if" ⟨0, 0⟩ :: us)
      (.conditional (.binding (Accessor.somePattern "assigned") (nameExpr "value")) ss none)
      [] := by
    unfold blockExpr
    exact .peek (.yes rfl hconditional)
  exact readsBody_block rfl hpath rfl hitem hblock rfl

/-- What a condition on an assigned value stands for: nothing is stored without one. -/
theorem Writes.readsBody_assigned (h : Writes n t v r) : ReadsBody (level (n + 4))
    (word "if" ++ word "let" ++ Template.some (word "assigned") ++ op "=" ++ word "value" ++
      braces (Template.takeApart t "assigned" ++
        Template.assign a.utcField (Template.some (word "utc")) ++
        Template.assign a.tzField (Template.some (word "seconds")))).placed
    [.expr (.conditional (.binding (Accessor.somePattern "assigned") (nameExpr "value"))
      (a.storing r "assigned" fun n => callOf Accessor.somePath.toPath [nameExpr n]) none)
      false] := by
  have hstored : ReadsBody (level (n + 3)) (Template.takeApart t "assigned" ++
      Template.assign a.utcField (Template.some (word "utc")) ++
      Template.assign a.tzField (Template.some (word "seconds"))).placed
      (a.storing r "assigned" fun n => callOf Accessor.somePath.toPath [nameExpr n]) :=
    h.readsBody_storing (fun _ => rfl) (readsOperand_someName fun _ => rfl)
      (readsOperand_someName fun _ => rfl)
  exact readsBody_conditional hstored

theorem Writes.reads_setter (h : Writes n t v r) :
    Reads (implItem (level (n + 5))) ((Template.setter t a).placed ++ us) (a.setterItem v r)
      us := by
  obtain ⟨name, nullable, policy⟩ := a
  cases nullable with
  | false =>
      have htype : Reads ((level (n + 5)).type true) ((Template.date t).placed ++ [])
          (Accessor.dateType r) [] := h.reads_date (Nat.le_add_right n 4) .nil
      have hfront : PathFront ((Template.date t).placed ++ []) := h.pathFront_date rfl
      rw [List.append_nil] at htype hfront
      exact h.reads_documented _ (isKeyword_setter _) (reads_setterInputs hfront htype rfl)
        (fun _ => rfl) rfl (h.above 1).readsBody_plain
  | true =>
      have htype : Reads ((level (n + 5)).type true)
          (Template.optionOf (Template.date t)).placed
          (Accessor.optionOf (Accessor.dateType r)) [] := by
        simp only [Template.optionOf, placed_append, List.append_assoc]
        exact h.reads_optionOf (Nat.le_add_right n 2) .nil
      have hfront : PathFront (Template.optionOf (Template.date t)).placed := .rooted
      exact h.reads_documented _ (isKeyword_setter _) (reads_setterInputs hfront htype rfl)
        (fun _ => rfl) rfl h.readsBody_assigned

/-! Accessors one after the other. -/

theorem getter_documented (t : Target) (a : Accessor) :
    ∃ ts, Template.getter t a = Template.doc (Template.getterDoc a) ++ ts := by
  obtain ⟨name, nullable, policy⟩ := a
  cases nullable <;> cases policy <;> exact ⟨_, rfl⟩

theorem setter_documented (t : Target) (a : Accessor) :
    ∃ ts, Template.setter t a = Template.doc (Template.setterDoc a) ++ ts := ⟨_, rfl⟩

theorem startsInner_body (t : Target) (as : List Accessor) :
    startsInner (t.body as).placed = false := by
  cases as with
  | nil => rfl
  | cons a as =>
      obtain ⟨ts, hts⟩ := getter_documented t a
      rw [Target.body, List.flatMap_cons, Target.pair, hts]
      rfl

theorem readsMany_documented {item : Reader Item} {text : String} {i : Item} {is : List Item}
    (hts : ∃ ts', ts = Template.doc text ++ ts') (hi : Reads item (ts.placed ++ us) i us)
    (h : ReadsMany (fun ts => !ts.isEmpty) item us is []) :
    ReadsMany (fun ts => !ts.isEmpty) item (ts.placed ++ us) (i :: is) [] := by
  obtain ⟨ts', rfl⟩ := hts
  exact .cons rfl hi (length_lt_append (Nat.succ_pos _)) h

theorem Writes.readsMany_members (h : Writes n t v r) {as : List Accessor}
    (has : ∀ a ∈ as, isKeyword a.name = false) :
    ReadsMany (fun ts => !ts.isEmpty) (implItem (level (n + 5))) (t.body as).placed
      (as.flatMap fun a => [a.getterItem v r, a.setterItem v r]) [] := by
  induction as with
  | nil => exact .nil rfl
  | cons a as ih =>
      have htail := ih fun b hb => has b (List.mem_cons_of_mem _ hb)
      have hsetter := readsMany_documented (setter_documented t a) h.reads_setter htail
      have hgetter := readsMany_documented (getter_documented t a)
        (h.reads_getter (has a List.mem_cons_self)) hsetter
      simpa only [Target.body, List.flatMap_cons, Target.pair, placed_append,
        List.append_assoc, List.cons_append, List.nil_append] using hgetter

theorem Writes.reads_block (h : Writes n t v r) {self : Ty} (hparameters : t.parameters = [])
    (hconditions : t.conditions = [])
    (hfront : ∀ us, TypeEnds us → ImplFront (t.self.placed ++ us))
    (hself : ∀ us, TypeEnds us → Reads ((level (n + 5)).type true) (t.self.placed ++ us) self us)
    {as : List Accessor} (has : ∀ a ∈ as, isKeyword a.name = false) :
    Reads (item (level (n + 5))) ((t.block as).placed ++ us)
      (.impl [] .none self .empty [] (as.flatMap fun a => [a.getterItem v r, a.setterItem v r]))
      us := by
  have htokens : (t.block as).placed ++ us = .ident "impl" ⟨0, 0⟩ ::
      (t.self.placed ++ .group .brace (t.body as).placed ⟨0, 0⟩ :: us) := by
    simp only [Target.block, Target.header, hparameters, hconditions, placed_append,
      List.append_nil, List.append_assoc]
    rfl
  rw [htokens]
  exact (hfront _ .block).reads_implementation (hself _ .block) (startsInner_body t as)
    (h.readsMany_members has)

end ZonedAccessors.Grammar
