import ZonedAccessors.Proofs.Grammar.Phrases
import ZonedAccessors.Proofs.Grammar.Tidy

/-!
Tidy constants and attributes are read as what they were printed from.
-/

namespace ZonedAccessors.Token

mutual

theorem Tree.relabel_relabel {σ τ : Type} (f : σ → τ) (f' : τ → σ) (hf : ∀ a, f' (f a) = a)
    (t : Tree σ) : (t.relabel f).relabel f' = t := by
  cases t with
  | group d body p => simp [Tree.relabel, hf, Tree.relabelAll_relabelAll f f' hf body]
  | _ => simp [Tree.relabel, hf]

theorem Tree.relabelAll_relabelAll {σ τ : Type} (f : σ → τ) (f' : τ → σ) (hf : ∀ a, f' (f a) = a)
    (ts : List (Tree σ)) : Tree.relabelAll f' (Tree.relabelAll f ts) = ts := by
  cases ts with
  | nil => rfl
  | cons t ts =>
      simp [Tree.relabelAll, Tree.relabel_relabel f f' hf t, Tree.relabelAll_relabelAll f f' hf ts]

end

mutual

theorem Tree.size_relabel {σ τ : Type} (f : σ → τ) (t : Tree σ) : (t.relabel f).size = t.size := by
  cases t with
  | group d body p => simp [Tree.relabel, Tree.size, Tree.sizeAll_relabelAll f body]
  | _ => rfl

theorem Tree.sizeAll_relabelAll {σ τ : Type} (f : σ → τ) (ts : List (Tree σ)) :
    Tree.sizeAll (Tree.relabelAll f ts) = Tree.sizeAll ts := by
  cases ts with
  | nil => rfl
  | cons t ts =>
      rw [Tree.relabelAll, Tree.sizeAll, Tree.sizeAll, Tree.size_relabel f t,
        Tree.sizeAll_relabelAll f ts]

end

end ZonedAccessors.Token

namespace ZonedAccessors.Syntax

theorem Path.eq_toPath_of_names? {p : Path} {m : ModPath} (h : p.names? = some m) :
    p = m.toPath := by
  obtain ⟨rooted, segments⟩ := p
  rw [Path.names?] at h
  split at h
  · rename_i hplain
    obtain rfl := Option.some.inj h
    rw [ModPath.toPath, List.map_map]
    congr 1
    refine (List.map_id segments).symm.trans (List.map_congr_left fun x hx => ?_)
    have hx : x.isPlain = true := List.all_eq_true.mp hplain x hx
    cases x with
    | plain => rfl
    | _ => cases hx
  · cases h

end ZonedAccessors.Syntax

namespace ZonedAccessors.Grammar

open Token Syntax

variable {g : Inner} {us vs : Source} {known : Values} {s : Nat}

theorem Reads.map {α β : Type} {p : Reader α} {a : α} (h : Reads p us a vs) (f : α → β) :
    Reads (f <$> p) us (f a) vs := by
  rw [map_eq_pure_bind]
  exact h.bind (reads_pure _)

theorem reads_anyGroup {d : Delimiter} {body : Tokens} {u : Unit} {p : Span} :
    Reads anyGroup (.group d body.placed p :: us) (.group d body u) us := by
  have hbody : Tree.relabelAll (fun _ => ()) body.placed = body :=
    Tree.relabelAll_relabelAll _ _ (fun _ => rfl) body
  intro closing
  change Except.ok (Tree.group d (Tree.relabelAll (fun _ => ()) body.placed) (), _) = _
  rw [hbody]

/-! Constants. -/

theorem afterLiteral_tokens {negative : Bool} {text : String}
    (h : (Expr.literal negative text).isLiteral = true) (us : Source) :
    ∃ place, afterLiteral ((literalTokens negative text).placed ++ us) =
      some ((negative, text), place, us) := by
  cases negative with
  | false => exact ⟨_, rfl⟩
  | true =>
      have hnumber : Token.literal text = .number := by simpa [Expr.isLiteral] using h
      exact ⟨⟨0, 0⟩, if_pos hnumber⟩

theorem reads_constant_literal {negative : Bool} {text : String}
    (h : (Expr.literal negative text).isLiteral = true) : Reads (constant g)
      ((literalTokens negative text).placed ++ us) (.literal negative text) us := by
  obtain ⟨place, hafter⟩ := afterLiteral_tokens h us
  generalize (literalTokens negative text).placed ++ us = ts at hafter
  have hliteral : isLiteral ts = true := by rw [isLiteral, hafter]; rfl
  have htext : Reads literalText ts (negative, text) us := by
    refine .peek ?_
    rw [hafter]
    exact fun _ => rfl
  exact .peek (.yes hliteral (htext.bind (reads_pure _)))

theorem Nameable.isLiteral_eq_false {k : String} (hk : Nameable k) {p : Span} :
    isLiteral (.ident k p :: us) = false := by
  have htrue : isWord "true" (.ident k p :: us) = false :=
    hk.isWord_eq_false (by decide) (by decide)
  have hfalse : isWord "false" (.ident k p :: us) = false :=
    hk.isWord_eq_false (by decide) (by decide)
  simp only [isWord] at htrue hfalse
  simp [isLiteral, afterLiteral, htrue, hfalse]

theorem reads_constant_name {k : String} (hk : isKeyword k = false) {p : Span} :
    Reads (constant g) (.ident k p :: us) (nameExpr k) us := by
  have hliteral : isLiteral (.ident k p :: us) = false := Nameable.isLiteral_eq_false (.inl hk)
  have hname : isName (.ident k p :: us) = true := by rw [isName, hk, Bool.not_false]
  exact .peek (.no hliteral (.yes hname ((reads_name hk).bind (reads_pure _))))

theorem isLiteral_tokens {negative : Bool} {text : String}
    (h : (Expr.literal negative text).isLiteral = true) (us : Source) :
    isLiteral ((literalTokens negative text).placed ++ us) = true := by
  obtain ⟨place, hafter⟩ := afterLiteral_tokens h us
  rw [isLiteral, hafter]
  rfl

theorem reads_simple {e : Expr} (he : e.isSimple = true) :
    Reads (expr g true) e.tokens.placed e [] := by
  cases e with
  | literal negative text =>
      obtain rfl : negative = false := by simpa [Expr.isSimple] using he
      exact fun _ => rfl
  | path p =>
      cases p with
      | plain p =>
          obtain ⟨m, hm, htidy⟩ : ∃ m, p.names? = some m ∧ m.isTidy = true := by
            simpa [Expr.isSimple, Option.any_eq_true] using he
          obtain rfl := Path.eq_toPath_of_names? hm
          have hreadable : ModPath.Readable m := ModPath.readable_of_tidy htidy
          have htokens : (Expr.path (.plain m.toPath)).tokens = m.tokens := m.tokens_toPath
          have hoperand : ReadsOperand g true m.tokens (.path (.plain m.toPath)) :=
            readsOperand_path hreadable.readsPath
          have hexpr := hoperand.expr [] .nil
          rwa [List.append_nil, ← htokens] at hexpr
      | _ => cases he
  | _ => cases he

/-- What begins an argument that is a value. -/
structure ValueFront (ts : Source) : Prop where
  value : (isLiteral ts || isGroup .brace ts) = true
  lifetime : isLifetime ts = false
  angle : isMark ">" ts = false

theorem Expr.valueFront {e : Expr} (he : e.isArgument known = true) :
    ValueFront (e.tokens.placed ++ us) := by
  simp only [Expr.isArgument, Bool.or_eq_true, Bool.and_eq_true] at he
  rcases he with he | ⟨hbraced, -⟩
  · cases e with
    | literal negative text =>
        refine ⟨?_, by cases negative <;> rfl, by cases negative <;> rfl⟩
        rw [Expr.tokens, isLiteral_tokens he, Bool.true_or]
    | _ => cases he
  · obtain ⟨inner, body, rfl⟩ := Expr.exists_of_isBraced hbraced
    exact ⟨rfl, rfl, rfl⟩

/-- Known values of a limited size are read as what they were printed from, by themselves and where
braces stand for a value. -/
structure ReadsValues (known : Values) (s : Nat) (g : Inner) : Prop where
  value {e : Expr} : known.covers e = true → Tree.sizeAll e.tokens < s →
    Reads (g.expr true) e.tokens.placed e []
  braced {e : Expr} {us : Source} : e.isBraced = true → known.holds e = true →
    Tree.sizeAll e.tokens ≤ s → Reads (constant g) (e.tokens.placed ++ us) e us

theorem ReadsValues.reads_constant (hg : ReadsValues known s g) {e : Expr}
    (he : (e.isArgument known || e.isName) = true) (hs : Tree.sizeAll e.tokens ≤ s) :
    Reads (constant g) (e.tokens.placed ++ us) e us := by
  simp only [Expr.isArgument, Bool.or_eq_true, Bool.and_eq_true] at he
  rcases he with (he | ⟨hbraced, hknown⟩) | he
  · cases e with
    | literal negative text => exact reads_constant_literal he
    | _ => cases he
  · exact hg.braced hbraced hknown hs
  · obtain ⟨k, hk, rfl⟩ := Expr.exists_of_isName he
    exact reads_constant_name hk

/-! Attributes. -/

theorem size_attributed (ts : Tokens) :
    Tree.sizeAll (attributed false ts) = 3 + Tree.sizeAll ts := by
  change 1 + (2 + Tree.sizeAll ts) = _
  omega

/-- The path of an attribute, and what is read behind it. -/
theorem reads_metaItem_of_path {p : ModPath} (hp : p.isTidy = true) (hus : isMark "#" us = false)
    (hsep : isMark "::" us = false) {m : Meta} (hmore : Reads (do
      let ts ← rest
      if isGroup .paren ts || isGroup .bracket ts || isGroup .brace ts then
        return .list p (← anyGroup)
      else if isMark "=" ts && !isMark "==" ts && !isMark "=>" ts then
        mark "="
        return .value p (← metaValue g)
      else return .path p) us m vs) :
    Reads (metaItem g) (p.tokens.placed ++ us) m vs := by
  have hreadable := ModPath.readable_of_tidy hp
  have hunsafe : isWord "unsafe" (p.tokens.placed ++ us) = false :=
    (hreadable.pathFront hus).isWord_eq_false (by decide) (by decide)
  exact (reads_keywordIf_false hunsafe).bind (.no rfl ((hreadable.reads hsep).bind hmore))

theorem reads_metaValue_literal {negative : Bool} {text : String}
    (h : (Expr.literal negative text).isLiteral = true) : Reads (metaValue g)
      (literalTokens negative text).placed (.literal negative text) [] := by
  obtain ⟨place, hafter⟩ := afterLiteral_tokens h []
  rw [List.append_nil] at hafter
  refine .peek ?_
  rw [hafter]
  exact fun _ => rfl

theorem reads_metaValue {e : Expr} (he : e.isAssigned = true)
    (h : Reads (g.expr true) e.tokens.placed e []) : Reads (metaValue g) e.tokens.placed e [] := by
  simp only [Expr.isAssigned, Bool.and_eq_true, Bool.not_eq_true'] at he
  obtain ⟨hhash, hliteral⟩ := he
  unfold metaValue
  refine .peek ?_
  split
  · rename_i hsole
    rw [hsole] at hliteral
    cases hliteral
  · refine .no ?_ h
    rw [hhash, Bool.false_and]

theorem ReadsValues.reads_metaItem (hg : ReadsValues known s g) {m : Meta}
    (hm : m.isTidy known = true) (hs : Tree.sizeAll m.tokens ≤ s) :
    Reads (metaItem g) m.tokens.placed m [] := by
  cases m with
  | path p =>
      have hitem : Reads (metaItem g) (p.tokens.placed ++ []) (.path p) [] :=
        reads_metaItem_of_path hm rfl rfl (.peek (.no rfl (.no rfl (reads_pure _))))
      rwa [List.append_nil] at hitem
  | list p body =>
      cases body with
      | group d body u =>
          have hgroup : Reads anyGroup [.group d (Tokens.placed body) ⟨0, 0⟩] (.group d body u) [] :=
            reads_anyGroup
          have hd : (isGroup .paren [.group d (Tokens.placed body) ⟨0, 0⟩] ||
              isGroup .bracket [.group d (Tokens.placed body) ⟨0, 0⟩] ||
              isGroup .brace [.group d (Tokens.placed body) ⟨0, 0⟩]) = true := by
            cases d <;> rfl
          rw [Meta.tokens, placed_append]
          exact reads_metaItem_of_path hm rfl rfl (.peek (.yes hd (hgroup.bind (reads_pure _))))
      | _ => cases hm
  | value p e =>
      simp only [Meta.isTidy, Bool.and_eq_true, Bool.or_eq_true] at hm
      obtain ⟨hp, he⟩ := hm
      have hvalue : Reads (metaValue g) e.tokens.placed e [] := by
        rcases he with he | ⟨hassigned, hcovers⟩
        · cases e with
          | literal negative text => exact reads_metaValue_literal he
          | _ => cases he
        · have hequal : 0 < Tree.sizeAll (op "=") := by decide
          rw [Meta.tokens, Tree.sizeAll_append, Tree.sizeAll_append] at hs
          exact reads_metaValue hassigned (hg.value hcovers (by omega))
      have hequal : Reads (mark "=") ((op "=").placed ++ e.tokens.placed) () e.tokens.placed :=
        fun _ => rfl
      rw [Meta.tokens, placed_append, placed_append, List.append_assoc]
      refine reads_metaItem_of_path hp rfl rfl (.peek (.no rfl (.yes rfl (hequal.bind ?_))))
      exact hvalue.bind (reads_pure _)

theorem ReadsValues.reads_attributes (hg : ReadsValues known s g) {as : Attributes}
    (has : as.all (Meta.isTidy known) = true) (hs : Tree.sizeAll (attributesTokens as) ≤ s)
    (hus : isMark "#" us = false) :
    Reads (attributes g) ((attributesTokens as).placed ++ us) as us := by
  suffices hmany : ReadsMany (isMark "#") (do mark "#"; inside .bracket (metaItem g))
      ((attributesTokens as).placed ++ us) as us from hmany.reads
  induction as with
  | nil => exact .nil hus
  | cons m as ih =>
      rw [List.all_cons, Bool.and_eq_true] at has
      rw [attributesTokens, Tree.sizeAll_append, size_attributed] at hs
      have hhash (vs : Source) : Reads (mark "#") ((op "#").placed ++ vs) () vs := fun _ => rfl
      have hbody : Reads (inside .bracket (metaItem g))
          (.group .bracket m.tokens.placed ⟨0, 0⟩ :: ((attributesTokens as).placed ++ us)) m
          ((attributesTokens as).placed ++ us) :=
        (hg.reads_metaItem has.1 (by omega)).inside
      refine .cons rfl ((hhash _).bind hbody) ?_ (ih has.2 (by omega))
      change _ < List.length (_ :: _ :: ((attributesTokens as).placed ++ us))
      simp only [List.length_cons]
      omega

end ZonedAccessors.Grammar
