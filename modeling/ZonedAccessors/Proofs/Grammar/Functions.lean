import ZonedAccessors.Proofs.Grammar.Bounds

/-!
Tidy types of functions are read as what they were printed from, where the types in them are.
-/

namespace ZonedAccessors.Syntax

open Token

/-- The name of an input and its colon. -/
def Input.label (i : Input) : Tokens :=
  match i.name with
  | none => []
  | some n => word n ++ op ":"

theorem Input.tokens_eq (i : Input) :
    i.tokens = attributesTokens i.attributes ++ (i.label ++ i.type.tokens) := by
  obtain ⟨as, _ | n, t⟩ := i
  · rfl
  · simp [Input.tokens, Input.label]

end ZonedAccessors.Syntax

namespace ZonedAccessors.Grammar

open Token Syntax

variable {g : Inner} {us vs : Source} {s : Nat} {known : Values}

/-! Before the inputs. -/

theorem reads_wordsIf {ws : List String} (hws : (ws == [] || ws == ["unsafe"]) = true)
    (hus : isWord "unsafe" us = false) :
    Reads (wordsIf ["unsafe"]) ((wordsTokens ws).placed ++ us) ws us := by
  simp only [Bool.or_eq_true, beq_iff_eq] at hws
  rcases hws with rfl | rfl
  · exact (reads_keywordIf_false hus).bind ((reads_pure _).bind (reads_pure _))
  · exact fun _ => rfl

theorem reads_qualifiers {q : Qualifiers} (hq : q.isTidy = true) {α : Type} {a : α}
    {f : List String → Option Convention → Reader α}
    (h : Reads (f q.words q.convention) ((word "fn").placed ++ us) a vs) :
    Reads (do
      let texts ← wordsIf ["unsafe"]
      let convention ← conventionIf
      f texts convention) (q.tokens.placed ++ ((word "fn").placed ++ us)) a vs := by
  obtain ⟨ws, convention⟩ := q
  rw [Qualifiers.isTidy, Bool.and_eq_true] at hq
  obtain ⟨hws, hconvention⟩ := hq
  rw [Qualifiers.tokens, placed_append, List.append_assoc]
  refine (reads_wordsIf hws ?_).bind (Reads.bind ?_ h)
  · cases convention <;> rfl
  · rcases convention with _ | ⟨_ | text⟩
    · exact fun _ => rfl
    · exact fun _ => rfl
    · have htext : isText text = true := by simpa using hconvention
      have hkeyword (vs : Source) : Reads (keywordIf "extern") ((word "extern").placed ++ vs) true vs :=
        fun _ => rfl
      refine (hkeyword _).bind (.no rfl (.peek ?_))
      exact .yes htext fun _ => rfl

/-! Inputs. -/

theorem ignores_colon : Ignores fun ts => isMark ":" ts && !isMark "::" ts :=
  ⟨fun _ => rfl, fun _ => rfl, fun _ => rfl, fun _ => rfl⟩

theorem ignores_more : Ignores fun ts => isMark ":" ts && second (isMark "...") ts :=
  ⟨fun _ => rfl, fun _ => rfl, fun _ => rfl, fun _ => rfl⟩

/-- What may stand behind an input. -/
structure BehindInput (us : Source) : Prop extends BehindType true us where
  colon : isMark ":" us = false

theorem Input.endsInMore_eq_false {i : Input} (hi : i.isTidy known = true) (hus : BehindInput us) :
    endsInMore (i.label.placed ++ (i.type.tokens.placed ++ us)) = false := by
  obtain ⟨as, name, t⟩ := i
  simp only [Input.isTidy, Bool.and_eq_true] at hi
  have hfront : TypeFront (t.tokens.placed ++ us) := Ty.front hi.2
  have hdots : isMark "..." (t.tokens.placed ++ us) = false := hfront.isMark_eq_false (by decide)
  cases name with
  | none =>
      have hnext : (isMark ":" us && second (isMark "...") us) = false := by simp [hus.colon]
      have hmore := ignores_more.second_eq_false hnext hi.2
      change endsInMore (t.tokens.placed ++ us) = false
      generalize t.tokens.placed ++ us = ts at hdots hmore
      change ((isName ts || isWord "_" ts || isWord "self" ts) &&
        (second (isMark ":") ts && third (isMark "...") ts)) = false at hmore
      rw [endsInMore, hdots, Bool.false_or, Bool.and_assoc]
      cases hname : isName ts || isWord "_" ts with
      | false => rfl
      | true => rwa [hname, Bool.true_or] at hmore
  | some k =>
      have hthird : third (isMark "...") ((word k ++ op ":").placed ++ (t.tokens.placed ++ us)) =
        false := hdots
      change (_ && third (isMark "...") ((word k ++ op ":").placed ++ (t.tokens.placed ++ us))) = false
      rw [hthird, Bool.and_false]

theorem Ty.isMutSelf_eq_false {t : Ty} (ht : t.isTidy known plus = true) :
    isMutSelf (t.tokens.placed ++ us) = false := by
  have hfront : TypeFront (t.tokens.placed ++ us) := Ty.front ht
  rw [isMutSelf, hfront.isWord_eq_false (by decide) (by decide), Bool.false_and]

theorem Restores.reads_input_unnamed (hg : Restores known s g) (as : Attributes) {t : Ty}
    (ht : t.isTidy known true = true) (hs : Tree.sizeAll t.tokens ≤ s) (hus : BehindInput us)
    (isFirst : Bool) : Reads (input g as isFirst) (t.tokens.placed ++ us) ⟨as, none, t⟩ us := by
  have hnext : (isMark ":" us && !isMark "::" us) = false := by simp [hus.colon]
  have hcolon := ignores_colon.second_eq_false hnext ht
  have htype := hg.type ht hs hus.toBehindType
  have hmut : isMutSelf (t.tokens.placed ++ us) = false := Ty.isMutSelf_eq_false ht
  generalize t.tokens.placed ++ us = ts at hmut hcolon htype
  have hunnamed : ((isName ts || isWord "_" ts || (isFirst && isWord "self" ts)) &&
      second (fun r => isMark ":" r && !isMark "::" r) ts) = false := by
    rcases Bool.and_eq_false_iff.mp hcolon with h | h
    · simp only [Bool.or_eq_false_iff] at h
      simp [h]
    · rw [h, Bool.and_false]
  unfold input
  refine .peek ?_
  rw [hmut, Bool.and_false]
  refine .no rfl (.peek (.no hunnamed ((reads_pure _).bind (.peek (.no ?_ ?_)))))
  · rw [hmut, Bool.and_false]
  · exact .no rfl (htype.bind (reads_pure _))

theorem Restores.reads_input_named (hg : Restores known s g) (as : Attributes) {k : String}
    (hk : isKeyword k = false ∨ k = "_") {t : Ty} (ht : t.isTidy known true = true)
    (hs : Tree.sizeAll t.tokens ≤ s) (hus : BehindInput us) (isFirst : Bool) :
    Reads (input g as isFirst) ((word k ++ op ":").placed ++ (t.tokens.placed ++ us))
      ⟨as, some k, t⟩ us := by
  have htype := hg.type ht hs hus.toBehindType
  have hmut : isMutSelf (t.tokens.placed ++ us) = false := Ty.isMutSelf_eq_false ht
  generalize t.tokens.placed ++ us = ts at hmut htype
  have hmutable : isMutSelf ((word k ++ op ":").placed ++ ts) = false := by
    have hword : (k == "mut") = false := by
      rw [beq_eq_false_iff_ne]
      rintro rfl
      exact hk.elim (by decide) (by decide)
    change ((k == "mut") && _) = false
    rw [hword, Bool.false_and]
  have hnamed : ((isName ((word k ++ op ":").placed ++ ts) ||
      isWord "_" ((word k ++ op ":").placed ++ ts) ||
        (isFirst && isWord "self" ((word k ++ op ":").placed ++ ts))) &&
      second (fun r => isMark ":" r && !isMark "::" r) ((word k ++ op ":").placed ++ ts)) = true := by
    have hstart : (isName ((word k ++ op ":").placed ++ ts) ||
        isWord "_" ((word k ++ op ":").placed ++ ts)) = true := by
      change (!isKeyword k || k == "_") = true
      simpa using hk
    rw [hstart]
    rfl
  have hany : Reads anyName ((word k ++ op ":").placed ++ ts) k ((op ":").placed ++ ts) :=
    fun _ => rfl
  have hmark : Reads (mark ":") ((op ":").placed ++ ts) () ts := fun _ => rfl
  unfold input
  refine .peek ?_
  rw [hmutable, Bool.and_false]
  refine .no rfl (.peek (.yes hnamed (hany.bind (hmark.bind ((reads_pure _).bind ?_)))))
  refine .peek (.no ?_ (.no rfl (htype.bind (reads_pure _))))
  rw [hmut, Bool.and_false]

theorem Restores.reads_input (hg : Restores known s g) {i : Input} (hi : i.isTidy known = true)
    (hs : Tree.sizeAll i.type.tokens ≤ s) (hus : BehindInput us) (isFirst : Bool) :
    Reads (input g i.attributes isFirst) (i.label.placed ++ (i.type.tokens.placed ++ us)) i us := by
  obtain ⟨as, name, t⟩ := i
  simp only [Input.isTidy, Bool.and_eq_true] at hi
  obtain ⟨⟨-, hname⟩, ht⟩ := hi
  cases name with
  | none => exact hg.reads_input_unnamed as ht hs hus isFirst
  | some k => exact hg.reads_input_named as (by simpa using hname) ht hs hus isFirst

/-- An input, and what is read behind it. -/
theorem Restores.reads_inputsFrom_input (hg : Restores known s g) {i : Input}
    (hi : i.isTidy known = true) (hs : Tree.sizeAll i.tokens ≤ s) (hus : BehindInput us)
    {isFirst : Bool} {fuel : Nat} {found : List Input × Bool}
    (h : Reads (do
      if (← rest).isEmpty then return ([i], false)
      mark ","
      let (more, trailing) ← inputsFrom g false fuel
      return (i :: more, trailing)) us found vs) :
    Reads (inputsFrom g isFirst (fuel + 1)) (i.tokens.placed ++ us) found vs := by
  have hmore := Input.endsInMore_eq_false hi hus
  rw [Input.tokens_eq, Tree.sizeAll_append, Tree.sizeAll_append] at hs
  have hinput := hg.reads_input hi (by omega) hus isFirst
  have hattributes : Tree.sizeAll (attributesTokens i.attributes) ≤ s := by omega
  obtain ⟨as, name, t⟩ := i
  simp only [Input.isTidy, Bool.and_eq_true] at hi
  have hfront : TypeFront (t.tokens.placed ++ us) := Ty.front hi.2
  have hlabel : isMark "#" ((Input.label ⟨as, name, t⟩).placed ++ (t.tokens.placed ++ us)) = false ∧
      ((Input.label ⟨as, name, t⟩).placed ++ (t.tokens.placed ++ us)).isEmpty = false := by
    cases name with
    | none => exact ⟨hfront.isMark_eq_false (by decide), hfront.isEmpty_eq_false⟩
    | some => exact ⟨rfl, rfl⟩
  have hstart : ((attributesTokens as).placed ++
      ((Input.label ⟨as, name, t⟩).placed ++ (t.tokens.placed ++ us))).isEmpty = false := by
    cases as with
    | nil => exact hlabel.2
    | cons => rfl
  rw [Input.tokens_eq, placed_append, placed_append, List.append_assoc, List.append_assoc]
  unfold inputsFrom
  have hbefore := hg.reads_attributes hi.1.1 hattributes hlabel.1
  exact .peek (.no hstart (hbefore.bind (.peek (.no hmore (hinput.bind h)))))

theorem Restores.reads_inputsFrom (hg : Restores known s g) {is : List Input} {trailing : Bool}
    (his : ∀ i ∈ is, i.isTidy known = true) (htrailing : (!is.isEmpty || trailing) = true)
    (hs : Tree.sizeAll (commas trailing (is.map Input.tokens)) ≤ s) (isFirst : Bool) {fuel : Nat}
    (hfuel : (commas trailing (is.map Input.tokens)).length < fuel) :
    Reads (inputsFrom g isFirst fuel) (commas trailing (is.map Input.tokens)).placed (is, trailing)
      [] := by
  obtain ⟨fuel, rfl⟩ := Nat.exists_eq_succ_of_ne_zero (Nat.ne_zero_of_lt hfuel)
  induction is generalizing isFirst fuel with
  | nil =>
      obtain rfl : trailing = true := by simpa using htrailing
      exact .peek (.yes rfl (reads_pure _))
  | cons i is ih =>
      obtain ⟨hi, his⟩ := List.forall_mem_cons.mp his
      cases hmore : !is.isEmpty || trailing with
      | false =>
          -- nothing stands behind the last input
          obtain ⟨hnil, rfl⟩ : is = [] ∧ trailing = false := by simpa using hmore
          subst hnil
          have htokens : commas false ([i].map Input.tokens) = i.tokens := List.append_nil _
          rw [htokens] at hs ⊢
          have hlast : Reads (inputsFrom g isFirst (fuel + 1)) (i.tokens.placed ++ []) ([i], false) [] :=
            hg.reads_inputsFrom_input hi hs ⟨behindType_nil, rfl⟩ (.peek (.yes rfl (reads_pure _)))
          rwa [List.append_nil] at hlast
      | true =>
          have hmore' : (!(is.map Input.tokens).isEmpty || trailing) = true := by simpa using hmore
          rw [List.map_cons, commas_cons hmore', List.length_append, List.length_append] at hfuel
          rw [List.map_cons, commas_cons hmore', Tree.sizeAll_append, Tree.sizeAll_append] at hs
          rw [List.map_cons, commas_cons hmore', placed_append, placed_append]
          have hcomma : (op ",").length = 1 := rfl
          obtain ⟨fuel, rfl⟩ := Nat.exists_eq_succ_of_ne_zero (n := fuel) (by omega)
          have hrest := ih his hmore (by omega) false fuel (by omega)
          have hmark (vs : Source) : Reads (mark ",") ((op ",").placed ++ vs) () vs := fun _ => rfl
          refine hg.reads_inputsFrom_input hi (by omega) ⟨behindType_op (w := ",") (by decide), rfl⟩ ?_
          exact .peek (.no rfl ((hmark _).bind (hrest.bind (reads_pure _))))

theorem Restores.reads_functionType (hg : Restores known s g) {binder : Generics}
    {head : Qualifiers} {is : List Input} {trailing : Bool} {out : Option Ty}
    (hhead : head.isTidy = true) (his : ∀ i ∈ is, i.isTidy known = true)
    (htrailing : (!is.isEmpty || trailing) = true) (hout : optionTidy known false out = true)
    (hs : Tree.sizeAll (commas trailing (inputsTokens is)) ≤ s)
    (hs' : Tree.sizeAll (outputTokens out) ≤ s) (hus : BehindType false us) :
    Reads (functionType g binder) (head.tokens.placed ++ ((word "fn").placed ++
      ((parens (commas trailing (inputsTokens is))).placed ++ ((outputTokens out).placed ++ us))))
      (.function binder head is trailing out) us := by
  rw [inputsTokens_eq_map] at hs ⊢
  have hfn (vs : Source) : Reads (keyword "fn") ((word "fn").placed ++ vs) () vs := fun _ => rfl
  have hinputs : Reads (do inputsFrom g true ((← rest).length + 1))
      (commas trailing (is.map Input.tokens)).placed (is, trailing) [] := by
    refine .peek (hg.reads_inputsFrom his htrailing hs true ?_)
    rw [length_placed]
    exact Nat.lt_succ_self _
  refine reads_qualifiers hhead ((hfn _).bind (Reads.bind (Reads.inside hinputs) ?_))
  exact (hg.reads_output hout hs' hus).bind (reads_pure _)

end ZonedAccessors.Grammar
