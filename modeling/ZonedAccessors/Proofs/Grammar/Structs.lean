import ZonedAccessors.Grammar.Item
import ZonedAccessors.Proofs.Grammar.Types

/-!
Tidy structs are read as what they were printed from.
-/

namespace ZonedAccessors.Token

/-- Tokens that were made all stand at the same place. -/
theorem place_of_mem_placed {ts : Tokens} {t : Token.Tree Span} (h : t ∈ ts.placed) : t.place = ⟨0, 0⟩ := by
  induction ts with
  | nil => cases h
  | cons u us ih =>
      rcases List.mem_cons.mp h with rfl | h
      · cases u <;> rfl
      · exact ih h

end ZonedAccessors.Token

namespace ZonedAccessors.Grammar

open Token Syntax

variable {g : Inner} {us vs : Source} {s : Nat} {known : Values}

theorem extent_placed (ts : Tokens) : (extent ts.placed).getD default = ⟨0, 0⟩ := by
  cases ts with
  | nil => rfl
  | cons t ts =>
      have hfirst : (Tree.relabel (fun _ => (⟨0, 0⟩ : Span)) t).place = ⟨0, 0⟩ := by cases t <;> rfl
      have hlast : ((Tokens.placed (t :: ts)).getLast (by simp [Tokens.placed, Tree.relabelAll])).place =
          ⟨0, 0⟩ := place_of_mem_placed (List.getLast_mem _)
      change Span.join (Tree.relabel (fun _ => (⟨0, 0⟩ : Span)) t).place
        ((Tokens.placed (t :: ts)).getLast (by simp [Tokens.placed, Tree.relabelAll])).place = ⟨0, 0⟩
      rw [hfirst, hlast]
      rfl

theorem take_placed (ts : Tokens) (us : Source) :
    (ts.placed ++ us).take ((ts.placed ++ us).length - us.length) = ts.placed := by
  rw [List.length_append, Nat.add_sub_cancel, List.take_left]

/-! Parameters. -/

theorem Parameter.tokens_fst {p : Parameter} : p.tokens.1 = p.isLifetime := by
  cases p <;> rfl

theorem Restores.reads_generics (hg : Restores known s g) {params : Generics}
    (hp : params.isTidy known = true) (hs : Tree.sizeAll params.tokens ≤ s)
    (hus : isMark "<" us = false) :
    Reads (generics g) (params.tokens.placed ++ us) params us := by
  rcases params with _ | ⟨ps, trailing⟩
  · exact .peek (.no hus (reads_pure _))
  · simp only [Generics.isTidy, Bool.and_eq_true, parametersTidy_iff, Bool.not_eq_true',
      List.isEmpty_eq_false_iff] at hp
    obtain ⟨⟨hne, hps⟩, hmarks⟩ := hp
    have hmap : (ps.map Parameter.tokens).map (·.1) = ps.map Parameter.isLifetime := by
      rw [List.map_map]
      exact List.map_congr_left fun p _ => Parameter.tokens_fst
    have htokens : (Generics.over ps trailing).tokens =
        angles (commas trailing (ps.map (·.tokens.2))) := by
      obtain ⟨p, ps, rfl⟩ := List.exists_cons_of_ne_nil hne
      rw [Generics.tokens, parametersTokens_eq_map, arranged_eq_commas (by rw [hmap, hmarks]),
        List.map_map]
      · rfl
      · simp
    rw [htokens] at hs ⊢
    rw [size_angles] at hs
    have hitem : ∀ p ∈ ps, ReadsItem (declaredParameter g) (isMark ">") BehindArgument p.tokens.2
        (id p) := by
      intro p hp
      have hsize : Tree.sizeAll p.tokens.2 ≤
          Tree.sizeAll (commas trailing (ps.map (·.tokens.2))) :=
        size_le_separated (List.mem_map_of_mem hp)
      exact ⟨fun vs => Parameter.isMark_eq_false,
        fun vs hvs => (hg.reads_parameter (hps p hp) (by omega) hvs).2⟩
    have hends : endsWell ps trailing = true := by
      obtain ⟨p, ps, rfl⟩ := List.exists_cons_of_ne_nil hne
      rfl
    have hlisted : Reads (listed (isMark ">") "," (declaredParameter g))
        ((commas trailing (ps.map (·.tokens.2))).placed ++ ((op ">").placed ++ us))
        (ps.map id, trailing) ((op ">").placed ++ us) :=
      reads_listed hitem (fun vs => ⟨.comma, rfl⟩) .angle rfl hends
    rw [List.map_id] at hlisted
    exact .peek (.yes rfl ((reads_angled hlisted).bind (reads_pure _)))

/-! Conditions. -/

theorem TypeFront.endsConditions_eq_false (h : TypeFront us) : endsConditions us = false := by
  rw [endsConditions, h.isEmpty_eq_false, h.isBrace_eq_false, h.isMark_eq_false (by decide),
    h.isMark_eq_false (by decide), h.isColon_eq_false, h.isMark_eq_false (by decide)]
  rfl

theorem BoundFront.endsConditions_eq_false (h : BoundFront us) : endsConditions us = false := by
  cases h <;> rfl

theorem Restores.reads_predicate (hg : Restores known s g) {p : Predicate}
    (hp : p.isTidy known = true) (hs : Tree.sizeAll p.tokens ≤ s)
    (hus : BehindBounds endsConditions us) :
    Reads (predicate g) (p.tokens.placed ++ us) p us := by
  have hcolon (vs : Source) : Reads (mark ":") ((op ":").placed ++ vs) () vs := fun _ => rfl
  cases p with
  | lifetime k bs trailing =>
      rw [Predicate.isTidy, Bool.and_eq_true] at hp
      have hname (vs : Source) : Reads lifetimeName ((lifetime k).placed ++ vs) k vs := fun _ => rfl
      have hstop (k : String) (vs : Source) : (endsConditions ((lifetime k).placed ++ vs) ||
          isMark ":" ((lifetime k).placed ++ vs)) = false := rfl
      have hbounds : Reads (chained (fun ts => endsConditions ts || isMark ":" ts) "+" lifetimeBound)
          ((pluses trailing (boundsTokens bs)).placed ++ us) (bs, trailing) us :=
        reads_lifetimes hp.1 hp.2 hstop (by rw [hus.stops, Bool.true_or]) hus.plus
      rw [Predicate.tokens, placed_append, placed_append, List.append_assoc, List.append_assoc]
      exact .peek (.yes rfl ((hname _).bind ((hcolon _).bind (hbounds.bind (reads_pure _)))))
  | type binder subject bs trailing =>
      simp only [Predicate.isTidy, Bool.and_eq_true, boundsTidy_iff] at hp
      obtain ⟨⟨⟨⟨⟨hbinder, hsubject⟩, hbs⟩, htrailing⟩, -⟩, hfor⟩ := hp
      have htokens : (Predicate.type binder subject bs trailing).tokens = binder.binderTokens ++
          (subject.tokens ++ (op ":" ++ pluses trailing (boundsTokens bs))) := by
        simp [Predicate.tokens]
      rw [htokens, Tree.sizeAll_append, Tree.sizeAll_append, Tree.sizeAll_append] at hs
      have hbounds := hg.reads_pluses hbs htrailing (by omega)
        (fun vs h => h.endsConditions_eq_false) hus false true
      have htype : Reads (g.type true)
          (subject.tokens.placed ++ ((op ":").placed ++
            ((pluses trailing (boundsTokens bs)).placed ++ us))) subject
          ((op ":").placed ++ ((pluses trailing (boundsTokens bs)).placed ++ us)) :=
        hg.type hsubject (by omega) (behindType_op (by decide))
      have hfront : TypeFront (subject.tokens.placed ++ ((op ":").placed ++
          ((pluses trailing (boundsTokens bs)).placed ++ us))) := Ty.front hsubject
      rw [htokens, placed_append, placed_append, placed_append, List.append_assoc,
        List.append_assoc, List.append_assoc]
      have hnone (hw : binder.isWritten = false) : isWord "for" (subject.tokens.placed ++
          ((op ":").placed ++ ((pluses trailing (boundsTokens bs)).placed ++ us))) = false := by
        rw [hw, Bool.false_or, Bool.not_eq_true'] at hfor
        exact Ty.isWord_for hsubject hfor
      generalize subject.tokens.placed ++ ((op ":").placed ++
        ((pluses trailing (boundsTokens bs)).placed ++ us)) = ts at htype hfront hnone
      have hstart : isLifetime (binder.binderTokens.placed ++ ts) = false := by
        cases binder with
        | none => exact hfront.isLifetime_eq_false
        | _ => rfl
      have hbefore := hg.reads_binderIf hbinder (by omega) hnone
      refine .peek (.no (Bool.and_eq_false_iff.mpr (.inl hstart)) (hbefore.bind (htype.bind ?_)))
      exact (hcolon _).bind (hbounds.bind (reads_pure _))

theorem predicatesTokens_eq_map (ps : List Predicate) :
    predicatesTokens ps = ps.map Predicate.tokens := by
  induction ps with
  | nil => rfl
  | cons p ps ih => rw [predicatesTokens, ih, List.map_cons]

theorem ignores_generics : Ignores fun ts =>
    isMark ">" ts || isMark "," ts || (isMark ":" ts && !isMark "::" ts) || isMark "=" ts :=
  ⟨fun _ => rfl, fun _ => rfl, fun _ => rfl, fun _ => rfl⟩

/-- A type seen as a trait is not taken for parameters. -/
theorem startsGenerics_viewed {self : Ty} {view : Path} {rest : List Segment}
    (hself : self.isTidy known true = true) :
    startsGenerics ((TyPath.viewed self view rest).tokens.placed ++ us) = false := by
  have htokens : (TyPath.viewed self view rest).tokens = op "<" ++ (self.tokens ++ (word "as" ++
      (view.tokens ++ (op ">" ++ (op "::" ++ colons (segmentsTokens rest)))))) := by
    simp [TyPath.tokens, angles]
  rw [htokens, placed_append, placed_append, placed_append, List.append_assoc, List.append_assoc,
    List.append_assoc]
  generalize (view.tokens ++ (op ">" ++ (op "::" ++ colons (segmentsTokens rest)))).placed ++ us = vs
  have hfront : TypeFront (self.tokens.placed ++ ((word "as").placed ++ vs)) := Ty.front hself
  have hname :=
    @Ignores.second_eq_false ((word "as").placed ++ vs) _ _ _ ignores_generics rfl _ hself
  generalize self.tokens.placed ++ ((word "as").placed ++ vs) = ts at hfront hname
  have hsecond : ((isLifetime ts || isName ts) && second (fun ts =>
      isMark ">" ts || isMark "," ts || (isMark ":" ts && !isMark "::" ts) || isMark "=" ts) ts) =
        false := by
    rw [hfront.isLifetime_eq_false, Bool.false_or]
    cases hn : isName ts with
    | false => rfl
    | true => simpa [hn] using hname
  change (isMark ">" ts || isMark "#" ts || isWord "const" ts || _) = false
  rw [hfront.isMark_eq_false (by decide), hfront.isMark_eq_false (by decide),
    hfront.isWord_eq_false (by decide) (by decide)]
  exact hsecond

theorem Predicate.starts {p : Predicate} (hp : p.isTidy known = true) :
    endsConditions (p.tokens.placed ++ us) = false ∧ startsGenerics (p.tokens.placed ++ us) = false := by
  cases p with
  | lifetime => exact ⟨rfl, rfl⟩
  | type binder subject bs trailing =>
      simp only [Predicate.isTidy, Bool.and_eq_true, Bool.not_eq_true'] at hp
      obtain ⟨⟨⟨⟨⟨-, hsubject⟩, -⟩, -⟩, hprojected⟩, -⟩ := hp
      cases binder with
      | none =>
          have htokens : (Predicate.type .none subject bs trailing).tokens =
              subject.tokens ++ (op ":" ++ pluses trailing (boundsTokens bs)) := List.append_assoc ..
          rw [htokens, placed_append, List.append_assoc]
          refine ⟨(Ty.front hsubject).endsConditions_eq_false, ?_⟩
          rcases Ty.isAngle_cases hsubject with hangle | ⟨p, rfl, hp⟩
          · rw [startsGenerics, hangle, Bool.false_and]
          · cases p with
            | plain p => exact absurd rfl (hp p)
            | projected => cases hprojected
            | viewed =>
                simp only [Ty.isTidy, TyPath.isTidy, Bool.and_eq_true] at hsubject
                exact startsGenerics_viewed hsubject.1.1.1
      | _ => exact ⟨rfl, rfl⟩

theorem Restores.reads_conditions (hg : Restores known s g) {c : Conditions}
    (hc : c.isTidy known = true) (hs : Tree.sizeAll c.tokens ≤ s) {body : Source} {place : Span} :
    Reads (conditions g) (c.tokens.placed ++ .group .brace body place :: us) c
      (.group .brace body place :: us) := by
  obtain ⟨ps, trailing⟩ := c
  simp only [Conditions.isTidy, Bool.and_eq_true, List.all_eq_true] at hc
  obtain ⟨hps, htrailing⟩ := hc
  cases ps with
  | nil =>
      obtain rfl : trailing = false := by simpa [endsWell] using htrailing
      exact fun _ => rfl
  | cons p ps =>
      have htokens : (Conditions.mk (p :: ps) trailing).tokens =
          word "where" ++ commas trailing ((p :: ps).map Predicate.tokens) := by
        rw [Conditions.tokens, predicatesTokens_eq_map]
        simp
      rw [htokens, Tree.sizeAll_append] at hs
      have hitem : ∀ q ∈ p :: ps, ReadsItem (predicate g) endsConditions
          (BehindBounds endsConditions) q.tokens (id q) := by
        intro q hq
        have hsize : Tree.sizeAll q.tokens ≤
            Tree.sizeAll (commas trailing ((p :: ps).map Predicate.tokens)) :=
          size_le_separated (List.mem_map_of_mem hq)
        exact ⟨fun vs => (Predicate.starts (hps q hq)).1,
          fun vs hvs => hg.reads_predicate (hps q hq) (by omega) hvs⟩
      have hsep : Separates "," (BehindBounds endsConditions) :=
        ⟨by decide, fun _ _ => rfl, fun _ => ⟨behindType_op (w := ",") (by decide), rfl, rfl⟩⟩
      have hbrace : BehindBounds endsConditions (.group .brace body place :: us) :=
        ⟨behindType_brace, rfl, rfl⟩
      have hchained : Reads (chained endsConditions "," (predicate g))
          ((commas trailing ((p :: ps).map Predicate.tokens)).placed ++ .group .brace body place :: us)
          ((p :: ps).map id, trailing) (.group .brace body place :: us) :=
        reads_chained hitem hsep hbrace rfl rfl htrailing
      have hgenerics : startsGenerics ((commas trailing ((p :: ps).map Predicate.tokens)).placed ++
          .group .brace body place :: us) = false := by
        obtain ⟨ts, hts⟩ := separated_cons (op ",") trailing p.tokens (ps.map Predicate.tokens)
        rw [List.map_cons, commas, hts, placed_append, List.append_assoc]
        exact (Predicate.starts (hps p List.mem_cons_self)).2
      have hwhere (vs : Source) : Reads (keywordIf "where") ((word "where").placed ++ vs) true vs :=
        fun _ => rfl
      rw [List.map_id] at hchained
      rw [htokens, placed_append, List.append_assoc]
      exact (hwhere _).bind (.no rfl (.peek (.no hgenerics (hchained.bind (reads_pure _)))))

/-! Fields. -/

theorem Visibility.readable_of_tidy {v : Visibility} (h : v.isTidy = true) :
    Visibility.Readable v := by
  cases v with
  | inherited => trivial
  | everywhere => trivial
  | restricted written p =>
      cases written with
      | false => simpa [Visibility.isTidy, Visibility.Readable] using h
      | true => exact ModPath.readable_of_tidy h

end ZonedAccessors.Grammar

namespace ZonedAccessors.Syntax

open Token

/-- With the place of tokens that were made. -/
def Field.unplaced (f : Field) : Field := { f with place := ⟨0, 0⟩ }

def Shape.unplaced : Shape → Shape
  | .named fields trailing => .named (fields.map Field.unplaced) trailing
  | .positional fields trailing => .positional (fields.map Field.unplaced) trailing
  | .unit => .unit

def Struct.unplaced (s : Struct) : Struct :=
  { s with place := ⟨0, 0⟩, shape := s.shape.unplaced }

theorem itemsTokens_eq_map (is : List Item) : itemsTokens is = is.map Item.tokens := by
  induction is with
  | nil => rfl
  | cons i is ih => rw [itemsTokens, ih, List.map_cons]

theorem Field.tokens_toItem {f : Field} {n : String} (h : f.name = some n) : f.toItem.tokens =
    attributesTokens f.attributes ++ (f.visibility.tokens ++ (word n ++ (op ":" ++ f.type.tokens))) := by
  obtain ⟨as, v, name, t, place⟩ := f
  obtain rfl : name = some n := h
  cases as <;>
    simp [Field.toItem, Item.within, Item.tokens, attributesTokens, List.append_assoc]

theorem Struct.tokens_named {s : Struct} {fields : List Field} {trailing : Bool}
    (h : s.shape = .named fields trailing) : s.tokens =
    attributesTokens s.attributes ++ (s.visibility.tokens ++ (word "struct" ++ (word s.name ++
      (s.generics.tokens ++ (s.conditions.tokens ++
        braces (commas trailing (fields.map (·.toItem.tokens)))))))) := by
  obtain ⟨as, v, name, place, params, c, shape⟩ := s
  obtain rfl : shape = .named fields trailing := h
  have hfields : itemsTokens (fields.map Field.toItem) = fields.map (·.toItem.tokens) := by
    rw [itemsTokens_eq_map, List.map_map]
    rfl
  cases as <;> simp [Struct.tokens, Struct.toItem, Item.within, Item.tokens, attributesTokens,
    Shape.style, Shape.fields, Shape.trailing, styled, hfields, List.append_assoc]

end ZonedAccessors.Syntax

namespace ZonedAccessors.Grammar

open Token Syntax

variable {g : Inner} {us vs : Source} {s : Nat} {known : Values}

theorem isHash_visibility (v : Visibility) (w : String) :
    isMark "#" (v.tokens.placed ++ ((word w).placed ++ us)) = false := by
  cases v <;> rfl

theorem Restores.reads_field (hg : Restores known s g) {f : Field} (hf : f.isTidy known = true)
    (hs : Tree.sizeAll f.toItem.tokens ≤ s) (hus : BehindType true us) :
    Reads (namedField g) (f.toItem.tokens.placed ++ us) f.unplaced us := by
  obtain ⟨as, v, name, t, place⟩ := f
  simp only [Field.isTidy, Bool.and_eq_true, Option.any_eq_true, Bool.not_eq_true'] at hf
  obtain ⟨⟨⟨has, hv⟩, n, rfl, hn⟩, ht⟩ := hf
  rw [Field.tokens_toItem rfl] at hs ⊢
  simp only [Tree.sizeAll_append] at hs
  simp only [placed_append, List.append_assoc]
  have hpub : (n == "pub") = false := by
    rw [beq_eq_false_iff_ne]
    rintro rfl
    cases hn
  have hcolon (vs : Source) : Reads (mark ":") ((op ":").placed ++ vs) () vs := fun _ => rfl
  have hunnamed (vs : Source) : isWord "_" ((word n).placed ++ vs) = false :=
    isWord_eq_false hn (by decide)
  have hvisibility (vs : Source) : Reads visibility (v.tokens.placed ++ ((word n).placed ++ vs)) v
      ((word n).placed ++ vs) := (Visibility.readable_of_tidy hv).reads hpub
  have htype : Reads (g.type true) (t.tokens.placed ++ us) t us := hg.type ht (by omega) hus
  have hcaptured := htype.captured
  rw [take_placed] at hcaptured
  unfold namedField
  refine .peek ?_
  unfold namedFieldWithin
  refine (hg.reads_attributes has (by omega) (isHash_visibility v n)).bind
    ((hvisibility _).bind (.peek ?_))
  rw [hunnamed]
  refine .no rfl ((reads_name hn).bind ((hcolon _).bind (.peek (.no rfl (hcaptured.bind ?_)))))
  dsimp only
  rw [extent_placed]
  exact reads_pure _

theorem Restores.reads_fields (hg : Restores known s g) {fields : List Field} {trailing : Bool}
    (hfields : ∀ f ∈ fields, f.isTidy known = true) (htrailing : endsWell fields trailing = true)
    (hs : Tree.sizeAll (commas trailing (fields.map (·.toItem.tokens))) ≤ s) :
    Reads (inCommas .brace (namedField g))
      ((braces (commas trailing (fields.map (·.toItem.tokens)))).placed ++ us)
      (fields.map Field.unplaced, trailing) us := by
  have hitem : ∀ f ∈ fields, ReadsItem (namedField g) List.isEmpty (BehindType true) f.toItem.tokens
      f.unplaced := by
    intro f hf
    have hsize : Tree.sizeAll f.toItem.tokens ≤
        Tree.sizeAll (commas trailing (fields.map (·.toItem.tokens))) :=
      size_le_separated (List.mem_map_of_mem hf)
    refine ⟨fun vs => ?_, fun vs hvs => hg.reads_field (hfields f hf) (by omega) hvs⟩
    have hname := hfields f hf
    simp only [Field.isTidy, Bool.and_eq_true, Option.any_eq_true] at hname
    obtain ⟨⟨-, n, hn, -⟩, -⟩ := hname
    rw [Field.tokens_toItem hn]
    cases f.attributes with
    | cons => rfl
    | nil => cases f.visibility <;> rfl
  have hlisted : Reads (listed List.isEmpty "," (namedField g))
      ((commas trailing (fields.map (·.toItem.tokens))).placed ++ [])
      (fields.map Field.unplaced, trailing) [] :=
    reads_listed hitem (fun vs => ⟨behindType_op (w := ",") (by decide), rfl⟩) behindType_nil rfl htrailing
  rw [List.append_nil] at hlisted
  exact hlisted.inside

/-- Conditions begin with a word, and braces may stand in their place. -/
theorem front_conditions (c : Conditions) {body : Source} {place : Span} :
    isMark "<" (c.tokens.placed ++ .group .brace body place :: us) = false ∧
      isGroup .paren (c.tokens.placed ++ .group .brace body place :: us) = false := by
  obtain ⟨ps, trailing⟩ := c
  cases ps <;> exact ⟨rfl, rfl⟩

theorem Restores.reads_structRest (hg : Restores known s g) {x : Struct}
    (hx : x.isTidy known = true) (hs : Tree.sizeAll x.tokens ≤ s) {fields : List Field}
    {trailing : Bool} (hshape : x.shape = .named fields trailing)
    : Reads (structRest g x.attributes x.visibility)
      ((word "struct").placed ++ ((word x.name).placed ++ (x.generics.tokens.placed ++
        (x.conditions.tokens.placed ++
          (braces (commas trailing (fields.map (·.toItem.tokens)))).placed)))) x.unplaced [] := by
  rw [Struct.tokens_named hshape] at hs
  simp only [Tree.sizeAll_append, braces, size_enclose] at hs
  simp only [Struct.isTidy, hshape, Shape.isTidy, Bool.and_eq_true, Bool.not_eq_true',
    List.all_eq_true] at hx
  obtain ⟨⟨⟨⟨-, hname⟩, hgenerics⟩, hconditions⟩, hfields, htrailing⟩ := hx
  have hstruct (vs : Source) : Reads (keyword "struct") ((word "struct").placed ++ vs) () vs :=
    fun _ => rfl
  have hfield : Reads (inCommas .brace (namedField g))
      ((braces (commas trailing (fields.map (·.toItem.tokens)))).placed ++ [])
      (fields.map Field.unplaced, trailing) [] := hg.reads_fields hfields htrailing (by omega)
  have hcondition : Reads (conditions g) (x.conditions.tokens.placed ++
      (braces (commas trailing (fields.map (·.toItem.tokens)))).placed) x.conditions
      (braces (commas trailing (fields.map (·.toItem.tokens)))).placed :=
    hg.reads_conditions hconditions (by omega)
  have hfront : isMark "<" (x.conditions.tokens.placed ++
        (braces (commas trailing (fields.map (·.toItem.tokens)))).placed) = false ∧
      isGroup .paren (x.conditions.tokens.placed ++
        (braces (commas trailing (fields.map (·.toItem.tokens)))).placed) = false :=
    front_conditions x.conditions
  have hparams := hg.reads_generics hgenerics (by omega) hfront.1
  rw [List.append_nil] at hfield
  have hbody : Reads (structBody g) (x.conditions.tokens.placed ++
      (braces (commas trailing (fields.map (·.toItem.tokens)))).placed)
      (x.conditions, .named (fields.map Field.unplaced) trailing) [] :=
    .peek (.no hfront.2 (hcondition.bind (.peek (.yes rfl (hfield.bind (reads_pure _))))))
  have hresult : x.unplaced = ⟨x.attributes, x.visibility, x.name, ⟨0, 0⟩, x.generics,
      x.conditions, .named (fields.map Field.unplaced) trailing⟩ := by
    rw [Struct.unplaced, hshape]
    rfl
  rw [hresult]
  refine (hstruct _).bind (.state fun closing => (reads_name hname).bind (hparams.bind ?_))
  exact hbody.bind (reads_pure _)

/-- A tidy struct is read as what it was printed from. -/
theorem Restores.reads_declared (hg : Restores known s g) {x : Struct} (hx : x.isTidy known = true)
    (hs : Tree.sizeAll x.tokens ≤ s) :
    Reads (declared g) x.tokens.placed (.struct x.unplaced) [] := by
  obtain ⟨fields, trailing, hshape⟩ : ∃ fields trailing, x.shape = .named fields trailing := by
    simp only [Struct.isTidy, Bool.and_eq_true] at hx
    cases hshape : x.shape with
    | named fields trailing => exact ⟨fields, trailing, rfl⟩
    | positional | unit =>
        rw [hshape] at hx
        cases hx.2
  have hrest := hg.reads_structRest hx hs hshape
  simp only [Struct.isTidy, Bool.and_eq_true] at hx
  obtain ⟨⟨⟨⟨⟨has, hv⟩, -⟩, -⟩, -⟩, -⟩ := hx
  rw [Struct.tokens_named hshape] at hs ⊢
  rw [Tree.sizeAll_append] at hs
  simp only [placed_append]
  generalize (word x.name).placed ++ (x.generics.tokens.placed ++ (x.conditions.tokens.placed ++
    (braces (commas trailing (fields.map (·.toItem.tokens)))).placed)) = ts at hrest
  have hvisibility : Reads visibility (x.visibility.tokens.placed ++ ((word "struct").placed ++ ts))
      x.visibility ((word "struct").placed ++ ts) := (Visibility.readable_of_tidy hv).reads rfl
  have hread : Reads (do
      let as ← attributes g
      let start ← get
      let v ← visibility
      if isWord "struct" (← rest) then some <$> structRest g as v
      else
        set start
        let _ ← itemRest g
        return none) ((attributesTokens x.attributes).placed ++ (x.visibility.tokens.placed ++
          ((word "struct").placed ++ ts))) (some x.unplaced) [] := by
    refine (hg.reads_attributes has (by omega) (isHash_visibility _ _)).bind
      (.state fun closing => ?_)
    exact hvisibility.bind (.peek (.yes rfl (hrest.map some)))
  exact hread.captured.bind (reads_pure _)

/-- What is printed of a tidy struct is a struct again, the same but for the places. -/
theorem read_declared_tokens {x : Struct} (hx : x.isTidy known = true) :
    read declared x.tokens.placed = .ok (.struct x.unplaced) := by
  have hsize : Tree.sizeAll x.tokens.placed = Tree.sizeAll x.tokens := Tree.sizeAll_relabelAll _ _
  have hlevel : 2 * Tree.sizeAll x.tokens + 1 ≤ 4 * Tree.sizeAll x.tokens.placed + 8 := by omega
  exact ((restores_level hlevel).reads_declared hx (Nat.le_refl _)).readAll

end ZonedAccessors.Grammar
