import ZonedAccessors.Proofs.Grammar.Attributes
import ZonedAccessors.Proofs.Grammar.Separated

/-!
Where tidy paths, types and bounds begin, and what may stand behind them.
-/

namespace ZonedAccessors.Syntax

open Token Grammar

variable {known : Values}

/-! Lists, item by item. -/

theorem tysTokens_eq_map (ts : List Ty) : tysTokens ts = ts.map Ty.tokens := by
  induction ts with
  | nil => rfl
  | cons t ts ih => rw [tysTokens, ih, List.map_cons]

theorem inputsTokens_eq_map (is : List Input) : inputsTokens is = is.map Input.tokens := by
  induction is with
  | nil => rfl
  | cons i is ih => rw [inputsTokens, ih, List.map_cons]

theorem argumentsTokens_eq_map (as : List Argument) :
    argumentsTokens as = as.map Argument.tokens := by
  induction as with
  | nil => rfl
  | cons a as ih => rw [argumentsTokens, ih, List.map_cons]

theorem boundsTokens_eq_map (bs : List Bound) : boundsTokens bs = bs.map Bound.tokens := by
  induction bs with
  | nil => rfl
  | cons b bs ih => rw [boundsTokens, ih, List.map_cons]

theorem parametersTokens_eq_map (ps : List Parameter) :
    parametersTokens ps = ps.map Parameter.tokens := by
  induction ps with
  | nil => rfl
  | cons p ps ih => rw [parametersTokens, ih, List.map_cons]

theorem tysTidy_iff {ts : List Ty} :
    tysTidy known ts = true ↔ ∀ t ∈ ts, t.isTidy known true = true := by
  induction ts with
  | nil => simp [tysTidy]
  | cons t ts ih => simp [tysTidy, ih]

theorem inputsTidy_iff {is : List Input} :
    inputsTidy known is = true ↔ ∀ i ∈ is, i.isTidy known = true := by
  induction is with
  | nil => simp [inputsTidy]
  | cons i is ih => simp [inputsTidy, ih]

theorem segmentsTidy_iff {ss : List Segment} :
    segmentsTidy known ss = true ↔ ∀ s ∈ ss, s.isTidy known = true := by
  induction ss with
  | nil => simp [segmentsTidy]
  | cons s ss ih => simp [segmentsTidy, ih]

theorem Path.isTidy_iff {rooted : Bool} {ss : List Segment} :
    (Syntax.Path.mk rooted ss).isTidy known = true ↔ ss ≠ [] ∧ ∀ s ∈ ss, s.isTidy known = true := by
  cases ss with
  | nil => simp [Path.isTidy]
  | cons s ss => simp [Path.isTidy, segmentsTidy_iff]

theorem argumentsTidy_iff {as : List Argument} :
    argumentsTidy known as = true ↔ ∀ a ∈ as, a.isTidy known = true := by
  induction as with
  | nil => simp [argumentsTidy]
  | cons a as ih => simp [argumentsTidy, ih]

theorem boundsTidy_iff {bs : List Bound} :
    boundsTidy known bs = true ↔ ∀ b ∈ bs, b.isTidy known = true := by
  induction bs with
  | nil => simp [boundsTidy]
  | cons b bs ih => simp [boundsTidy, ih]

theorem parametersTidy_iff {ps : List Parameter} :
    parametersTidy known ps = true ↔ ∀ p ∈ ps, p.isTidy known = true := by
  induction ps with
  | nil => simp [parametersTidy]
  | cons p ps ih => simp [parametersTidy, ih]

theorem Argument.tokens_fst {a : Argument} : a.tokens.1 = a.isLifetime := by
  cases a <;> rfl

/-- Where lifetimes stand first, arguments are printed in their order. -/
theorem arranged_arguments {items : List Argument} {trailing : Bool}
    (h : marksFirst (items.map Argument.isLifetime) = true) :
    arranged trailing (argumentsTokens items) = commas trailing (items.map (·.tokens.2)) := by
  have hmarks : (items.map Argument.tokens).map (·.1) = items.map Argument.isLifetime := by
    rw [List.map_map]
    exact List.map_congr_left fun a _ => a.tokens_fst
  rw [argumentsTokens_eq_map, arranged_eq_commas (by rw [hmarks, h]), List.map_map]
  rfl

/-! Segments. -/

/-- Segments, each behind two colons. -/
def behindSegments (ss : List Segment) : Tokens := ss.flatMap fun s => op "::" ++ s.tokens

theorem colons_segments (s : Segment) (ss : List Segment) :
    colons (segmentsTokens (s :: ss)) = s.tokens ++ behindSegments ss := by
  induction ss generalizing s with
  | nil => rfl
  | cons t ts ih =>
      calc colons (segmentsTokens (s :: t :: ts))
          = s.tokens ++ op "::" ++ colons (segmentsTokens (t :: ts)) := rfl
        _ = s.tokens ++ (op "::" ++ t.tokens ++ behindSegments ts) := by
          rw [ih t, List.append_assoc, List.append_assoc]
        _ = s.tokens ++ behindSegments (t :: ts) := rfl

theorem Segment.exists_tokens {s : Segment} : ∃ ts, s.tokens = word s.name ++ ts := by
  cases s with
  | plain => exact ⟨[], rfl⟩
  | angled => exact ⟨_, List.append_assoc ..⟩
  | call => exact ⟨_, List.append_assoc ..⟩

theorem Segment.nameable {s : Segment} (h : s.isTidy known = true) : Nameable s.name := by
  cases s with
  | plain name => exact of_decide_eq_true h
  | angled name =>
      simp only [Segment.isTidy, Bool.and_eq_true, Bool.or_eq_true, Bool.not_eq_true',
        beq_iff_eq] at h
      obtain ⟨⟨⟨hname | rfl, -⟩, -⟩, -⟩ := h
      · exact .inl hname
      · exact (by decide : Nameable "Self")
  | call => cases h

/-- The path of a trait is tidy, or it is one but for the inputs and the output at its end. -/
theorem traitTidy_cases {ss : List Segment} (h : traitTidy known ss = true) :
    (ss ≠ [] ∧ ∀ s ∈ ss, s.isTidy known = true) ∨ ∃ front name inputs trailing output,
      ss = front ++ [.call name inputs trailing output] ∧ Nameable name ∧
        (∀ s ∈ front, s.isTidy known = true) ∧ (∀ t ∈ inputs, t.isTidy known true = true) ∧
          endsWell inputs trailing = true ∧ optionTidy known false output = true := by
  induction ss with
  | nil => cases h
  | cons s ss ih =>
      cases ss with
      | cons s' ss =>
          rw [traitTidy, Bool.and_eq_true] at h
          rcases ih h.2 with ⟨-, hss⟩ | ⟨front, name, inputs, trailing, output, hss, hname, hfront, hrest⟩
          · exact .inl ⟨by simp, List.forall_mem_cons.mpr ⟨h.1, hss⟩⟩
          · refine .inr ⟨s :: front, name, inputs, trailing, output, ?_, hname, ?_, hrest⟩
            · rw [hss, List.cons_append]
            · exact List.forall_mem_cons.mpr ⟨h.1, hfront⟩
      | nil =>
          cases s with
          | call name inputs trailing output =>
              simp only [traitTidy, Bool.and_eq_true, decide_eq_true_eq, tysTidy_iff] at h
              obtain ⟨⟨⟨hname, hinputs⟩, htrailing⟩, houtput⟩ := h
              exact .inr ⟨[], name, inputs, trailing, output, rfl, hname, by simp, hinputs, htrailing,
                houtput⟩
          | plain | angled => exact .inl ⟨by simp, by simpa [traitTidy] using h⟩

theorem ModPath.names?_toPath (m : ModPath) : m.toPath.names? = some m := by
  simp [ModPath.toPath, Path.names?, Segment.isPlain, Segment.name, Function.comp_def]

theorem ModPath.isTidy_toPath {m : ModPath} (h : m.isTidy = true) :
    m.toPath.isTidy known = true := by
  obtain ⟨rooted, names⟩ := m
  obtain ⟨hne, hnames⟩ := ModPath.readable_of_tidy h
  refine Path.isTidy_iff.mpr ⟨by simpa using hne, fun s hs => ?_⟩
  obtain ⟨k, hk, rfl⟩ := List.mem_map.mp hs
  exact decide_eq_true (hnames k hk)

/-! Bounds. -/

/-- Further bounds, each behind a plus. -/
def behindBound : List Bound → Tokens
  | [] => []
  | b :: bs => op "+" ++ pluses false (boundsTokens (b :: bs))

theorem pluses_bounds (b : Bound) (bs : List Bound) :
    pluses false (boundsTokens (b :: bs)) = b.tokens ++ behindBound bs := by
  cases bs with
  | nil => rfl
  | cons => exact List.append_assoc ..

end ZonedAccessors.Syntax

namespace ZonedAccessors.Grammar

open Token Syntax

variable {us vs : Source} {plus : Bool} {known : Values}

/-! What may stand behind a type and behind an argument. -/

theorem behindType_nil : BehindType plus [] :=
  ⟨⟨rfl, rfl, rfl⟩, rfl, rfl, rfl, Bool.and_false _⟩

theorem behindType_brace {body : Source} {p : Span} :
    BehindType plus (.group .brace body p :: us) :=
  ⟨⟨rfl, rfl, rfl⟩, rfl, rfl, rfl, Bool.and_false _⟩

theorem behindType_op {w : String} (hw : w ∈ [",", ";", ":", "=", ">"]) :
    BehindType plus ((op w).placed ++ us) := by
  simp only [List.mem_cons, List.not_mem_nil, or_false] at hw
  rcases hw with rfl | rfl | rfl | rfl | rfl <;>
    exact ⟨⟨rfl, rfl, rfl⟩, rfl, rfl, rfl, Bool.and_false _⟩

theorem behindType_as : BehindType plus ((word "as").placed ++ us) :=
  ⟨⟨rfl, rfl, rfl⟩, rfl, rfl, rfl, Bool.and_false _⟩

theorem behindType_plus : BehindType false ((op "+").placed ++ us) :=
  ⟨⟨rfl, rfl, rfl⟩, rfl, rfl, rfl, rfl⟩

theorem BehindType.forget (h : BehindType plus us) : BehindType false us :=
  { h with plus := Bool.false_and _ }

inductive BehindArgument : Source → Prop
  | comma {ts : Source} : BehindArgument ((op ",").placed ++ ts)
  | angle {ts : Source} : BehindArgument ((op ">").placed ++ ts)

theorem BehindArgument.type (h : BehindArgument us) : BehindType plus us := by
  cases h <;> exact behindType_op (by simp)

/-! Where a type begins. -/

/-- Keywords that begin a type. -/
def typeWords : List String := ["_", "dyn", "impl", "for", "fn", "unsafe", "extern"]

inductive TypeFront : Source → Prop
  | rooted {p q : Span} {ts : Source} :
      TypeFront (.punct ':' true p :: .punct ':' false q :: ts)
  | name {n : String} {p : Span} {ts : Source} : Nameable n → TypeFront (.ident n p :: ts)
  | word {w : String} {p : Span} {ts : Source} : w ∈ typeWords → TypeFront (.ident w p :: ts)
  | mark {c : Char} {p : Span} {ts : Source} : c ∈ ['*', '&', '!', '<'] →
      TypeFront (.punct c false p :: ts)
  | group {d : Delimiter} {body ts : Source} {p : Span} : d ≠ .brace →
      TypeFront (.group d body p :: ts)

theorem Path.front {p : Path} (h : p.isTidy known = true) (hus : isMark "#" us = false) :
    PathFront (p.tokens.placed ++ us) := by
  obtain ⟨rooted, segments⟩ := p
  cases segments with
  | nil => cases h
  | cons s ss =>
      rw [Path.isTidy, Bool.and_eq_true] at h
      rw [Path.tokens, colons_segments]
      cases rooted with
      | true => exact .rooted
      | false =>
          have hname := Segment.nameable h.1
          cases s with
          | plain n =>
              cases ss with
              | nil => exact .name hname hus
              | cons => exact .name hname rfl
          | angled n turbofish items trailing => cases turbofish <;> exact .name hname rfl
          | call => cases h.1

theorem Path.exists_tokens {p : Path} (h : p.isTidy known = true) :
    (∃ ts, p.tokens = op "::" ++ ts) ∨ ∃ n ts, Nameable n ∧ p.tokens = word n ++ ts := by
  obtain ⟨rooted, segments⟩ := p
  cases segments with
  | nil => cases h
  | cons x xs =>
      rw [Path.isTidy, Bool.and_eq_true] at h
      obtain ⟨ts, hts⟩ := Segment.exists_tokens (s := x)
      rw [Path.tokens, colons_segments, hts]
      cases rooted with
      | true => exact .inl ⟨_, rfl⟩
      | false => exact .inr ⟨x.name, _, Segment.nameable h.1, List.append_assoc ..⟩

theorem Path.typeFront {p : Path} (h : p.isTidy known = true) :
    TypeFront (p.tokens.placed ++ us) := by
  rcases Path.exists_tokens h with ⟨ts, hts⟩ | ⟨n, ts, hn, hts⟩
  · rw [hts]
    exact .rooted
  · rw [hts]
    exact .name hn

/-- What a tidy type begins with. -/
inductive TypeBegins (known : Values) (t : Ty) : Prop
  | path {p : Path} {ts : Tokens} : p.isTidy known = true → t.tokens = p.tokens ++ ts →
      ts = [] ∨ (∃ us, ts = op "+" ++ us) ∨ (∃ us, ts = op "!" ++ us) → TypeBegins known t
  | infer : t.tokens = word "_" → TypeBegins known t
  | word {w : String} {ts : Tokens} : w ∈ typeWords → w ≠ "_" →
      (w = "for" → t.binder.isWritten = true) → t.tokens = word w ++ ts → TypeBegins known t
  | mark {w : String} {ts : Tokens} : w ∈ ["*", "&", "!", "<"] → (w = "<" → ∃ p, t = .path p) →
      t.tokens = op w ++ ts → TypeBegins known t
  | group {d : Delimiter} {body : Tokens} : d ≠ .brace → t.tokens = enclose d body →
      TypeBegins known t

/-- The word `fn` may stand behind others. -/
theorem Qualifiers.front {q : Qualifiers} (h : q.isTidy = true) (ts : Tokens) :
    ∃ w us, w ∈ ["fn", "unsafe", "extern"] ∧ q.tokens ++ (word "fn" ++ ts) = word w ++ us := by
  obtain ⟨words, convention⟩ := q
  simp only [Qualifiers.isTidy, Bool.and_eq_true, Bool.or_eq_true, beq_iff_eq] at h
  rcases h.1 with rfl | rfl
  · cases convention with
    | none => exact ⟨"fn", ts, by simp, rfl⟩
    | some c => exact ⟨"extern", _, by simp, rfl⟩
  · exact ⟨"unsafe", _, by simp, rfl⟩

theorem Ty.begins {t : Ty} (h : t.isTidy known plus = true) : TypeBegins known t := by
  cases t with
  | path p =>
      cases p with
      | plain p => exact .path h (List.append_nil _).symm (.inl rfl)
      | projected | viewed => exact .mark (w := "<") (by decide) (fun _ => ⟨_, rfl⟩) rfl
  | tuple | paren => exact .group (d := .paren) (by decide) rfl
  | array | slice => exact .group (d := .bracket) (by decide) rfl
  | pointer => exact .mark (w := "*") (by decide) (by simp) rfl
  | reference => exact .mark (w := "&") (by decide) (by simp) rfl
  | never => exact .mark (w := "!") (by decide) (by simp) rfl
  | infer => exact .infer rfl
  | function binder head inputs trailing output =>
      cases binder with
      | none =>
          simp only [Ty.isTidy, Bool.and_eq_true] at h
          obtain ⟨w, ts, hw, hts⟩ := Qualifiers.front h.1.1.1.2
            (parens (commas trailing (inputsTokens inputs)) ++ outputTokens output)
          have htokens : (Ty.function .none head inputs trailing output).tokens = word w ++ ts := by
            rw [← hts]
            simp [Ty.tokens, Generics.binderTokens]
          refine .word (List.mem_append_right ["_", "dyn", "impl", "for"] hw) ?_ ?_ htokens
          · rintro rfl
            simp at hw
          · rintro rfl
            simp at hw
      | _ => exact .word (w := "for") (by decide) (by decide) (fun _ => rfl) rfl
  | bounded keyword bounds trailing =>
      cases keyword with
      | none =>
          rcases bounds with _ | ⟨_ | ⟨_ | _, _ | _, binder, p⟩ | _ | _, bs⟩
          · cases h
          · cases h
          · simp only [Ty.isTidy, Bool.and_eq_true, Bool.not_eq_true'] at h
            obtain ⟨⟨⟨⟨⟨-, hp⟩, -⟩, rfl⟩, -⟩, -⟩ := h
            cases binder with
            | none =>
                refine .path hp (pluses_bounds ..) ?_
                cases bs with
                | nil => exact .inl rfl
                | cons => exact .inr (.inl ⟨_, rfl⟩)
            | _ =>
                obtain ⟨ts, hts⟩ := separated_cons (op "+") false
                  (Bound.trait false false (.over ‹_› ‹_›) p).tokens (boundsTokens bs)
                exact .word (w := "for") (by decide) (by decide) (fun _ => rfl) hts
          all_goals cases h
      | some keyword =>
          simp only [Ty.isTidy, Bool.and_eq_true, Bool.or_eq_true, beq_iff_eq] at h
          obtain ⟨⟨⟨⟨rfl | rfl, -⟩, -⟩, -⟩, -⟩ := h
          · exact .word (w := "dyn") (by decide) (by decide) (by simp) rfl
          · exact .word (w := "impl") (by decide) (by decide) (by simp) rfl
  | invocation call =>
      obtain ⟨m, body⟩ := call
      cases body with
      | group d body u =>
          have htokens : (Ty.invocation ⟨m, .group d body u⟩).tokens =
              m.toPath.tokens ++ (op "!" ++ [.group d body u]) := by
            rw [Ty.tokens, Invocation.tokens, m.tokens_toPath]
            exact List.append_assoc ..
          exact .path (m.isTidy_toPath h) htokens (.inr (.inr ⟨_, rfl⟩))
      | _ => cases h
  | more | verbatim => cases h

theorem Ty.front {t : Ty} (h : t.isTidy known plus = true) : TypeFront (t.tokens.placed ++ us) := by
  rcases Ty.begins h with ⟨hp, ht, -⟩ | ht | ⟨hw, -, -, ht⟩ | ⟨hw, -, ht⟩ | ⟨hd, ht⟩ <;> rw [ht]
  · rw [placed_append, List.append_assoc]
    exact Path.typeFront hp
  · exact .word (by decide)
  · exact .word hw
  · simp only [List.mem_cons, List.not_mem_nil, or_false] at hw
    rcases hw with rfl | rfl | rfl | rfl <;> exact .mark (by decide)
  · exact .group hd

/-- A type begins with a `for` only if it brings parameters with it. -/
theorem Ty.isWord_for {t : Ty} (h : t.isTidy known plus = true)
    (hbinder : t.binder.isWritten = false) : isWord "for" (t.tokens.placed ++ us) = false := by
  rcases Ty.begins h with ⟨hp, ht, -⟩ | ht | ⟨-, -, hfor, ht⟩ | ⟨hw, -, ht⟩ | ⟨-, ht⟩ <;> rw [ht]
  · rcases Path.exists_tokens hp with ⟨ts, hts⟩ | ⟨n, ts, hn, hts⟩
    · rw [hts]
      rfl
    · rw [hts]
      exact hn.isWord_eq_false (by decide) (by decide)
  · rfl
  · refine beq_eq_false_iff_ne.mpr fun hw => ?_
    rw [hfor hw] at hbinder
    cases hbinder
  · simp only [List.mem_cons, List.not_mem_nil, or_false] at hw
    rcases hw with rfl | rfl | rfl | rfl <;> rfl
  · rfl

namespace TypeFront

theorem isEmpty_eq_false (h : TypeFront us) : us.isEmpty = false := by
  cases h <;> rfl

theorem isLifetime_eq_false (h : TypeFront us) : isLifetime us = false := by
  cases h with
  | mark hc =>
      simp only [List.mem_cons, List.not_mem_nil, or_false] at hc
      rcases hc with rfl | rfl | rfl | rfl <;> rfl
  | _ => rfl

theorem isBrace_eq_false (h : TypeFront us) : isGroup .brace us = false := by
  cases h with
  | group hd => cases ‹Delimiter› <;> first | rfl | exact absurd rfl hd
  | _ => rfl

theorem isMark_eq_false (h : TypeFront us) {w : String}
    (hw : w.toList.head?.any (fun c => !([':', '*', '&', '!', '<'].contains c)) = true) :
    isMark w us = false := by
  unfold isMark
  cases hcs : w.toList with
  | nil => simp [hcs] at hw
  | cons c cs =>
      simp only [hcs, List.head?_cons, Option.any_some, Bool.not_eq_true', List.contains_eq_mem,
        decide_eq_false_iff_not, List.mem_cons, List.not_mem_nil, or_false, not_or] at hw
      cases h with
      | rooted => cases cs <;> simp [afterMark, hw]
      | name => cases cs <;> simp [afterMark]
      | word => cases cs <;> simp [afterMark]
      | group => cases cs <;> simp [afterMark]
      | mark hd =>
          simp only [List.mem_cons, List.not_mem_nil, or_false] at hd
          rcases hd with rfl | rfl | rfl | rfl <;> cases cs <;> simp [afterMark, hw]

theorem isColon_eq_false (h : TypeFront us) : (isMark ":" us && !isMark "::" us) = false := by
  cases h with
  | mark hc =>
      simp only [List.mem_cons, List.not_mem_nil, or_false] at hc
      rcases hc with rfl | rfl | rfl | rfl <;> rfl
  | _ => rfl

theorem isLiteral_eq_false (h : TypeFront us) : isLiteral us = false := by
  cases h with
  | name hn => exact hn.isLiteral_eq_false
  | word hw =>
      simp only [typeWords, List.mem_cons, List.not_mem_nil, or_false] at hw
      rcases hw with rfl | rfl | rfl | rfl | rfl | rfl | rfl <;> rfl
  | mark hc =>
      simp only [List.mem_cons, List.not_mem_nil, or_false] at hc
      rcases hc with rfl | rfl | rfl | rfl <;> rfl
  | _ => rfl

theorem isWord_eq_false (h : TypeFront us) {w : String} (hw : isKeyword w = true)
    (hw' : w ∉ ["super", "self", "Self", "crate"] ++ typeWords) : isWord w us = false := by
  cases h with
  | name hn => exact hn.isWord_eq_false hw fun h => hw' (List.mem_append_left _ h)
  | word hk =>
      simp only [isWord, beq_eq_false_iff_ne]
      rintro rfl
      exact hw' (List.mem_append_right _ hk)
  | _ => rfl

end TypeFront

/-- Only a path that starts from a type begins with an angle bracket. -/
theorem Ty.isAngle_cases {t : Ty} (h : t.isTidy known plus = true) :
    isMark "<" (t.tokens.placed ++ us) = false ∨ ∃ p, t = .path p ∧ ∀ q, p ≠ .plain q := by
  rcases Ty.begins h with ⟨hp, ht, -⟩ | ht | ⟨-, -, -, ht⟩ | ⟨hw, hpath, ht⟩ | ⟨-, ht⟩
  · left
    rcases Path.exists_tokens hp with ⟨ts, hts⟩ | ⟨n, ts, -, hts⟩ <;> rw [ht, hts] <;> rfl
  · exact .inl (by rw [ht]; rfl)
  · exact .inl (by rw [ht]; rfl)
  · simp only [List.mem_cons, List.not_mem_nil, or_false] at hw
    rcases hw with rfl | rfl | rfl | rfl
    · exact .inl (by rw [ht]; rfl)
    · exact .inl (by rw [ht]; rfl)
    · exact .inl (by rw [ht]; rfl)
    · obtain ⟨p, rfl⟩ := hpath rfl
      cases p with
      | plain p =>
          left
          rcases Path.exists_tokens h with ⟨ts, hts⟩ | ⟨n, ts, -, hts⟩ <;>
            rw [Ty.tokens, TyPath.tokens, hts] <;> rfl
      | projected | viewed => exact .inr ⟨_, rfl, by simp⟩
  · exact .inl (by rw [ht]; rfl)

/-! What stands behind the name that a type begins with. -/

/-- A test that fails on all that continues a type behind a first name. -/
structure Ignores (q : Source → Bool) : Prop where
  colons : ∀ ts, q ((op "::").placed ++ ts) = false
  angle : ∀ ts, q ((op "<").placed ++ ts) = false
  plus : ∀ ts, q ((op "+").placed ++ ts) = false
  call : ∀ ts, q ((op "!").placed ++ ts) = false

variable {q : Source → Bool}

theorem Ignores.behindSegments (hq : Ignores q) (hus : q us = false) (ss : List Segment) :
    q ((behindSegments ss).placed ++ us) = false := by
  cases ss with
  | nil => exact hus
  | cons s ss =>
      rw [Syntax.behindSegments, List.flatMap_cons, List.append_assoc, placed_append,
        List.append_assoc]
      exact hq.colons _

theorem Ignores.path (hq : Ignores q) (hus : q us = false) {p : Path} (hp : p.isTidy known = true)
    {n : String} {place : Span} (h : p.tokens.placed ++ us = .ident n place :: vs) :
    q vs = false := by
  obtain ⟨rooted, segments⟩ := p
  cases segments with
  | nil => cases hp
  | cons s ss =>
      rw [Path.isTidy, Bool.and_eq_true] at hp
      rw [Path.tokens, colons_segments] at h
      have hss := hq.behindSegments hus ss
      cases rooted with
      | true => cases h
      | false =>
          cases s with
          | plain k =>
              obtain ⟨-, rfl⟩ := List.cons.inj h
              exact hss
          | angled k turbofish items trailing =>
              cases turbofish with
              | true =>
                  obtain ⟨-, rfl⟩ := List.cons.inj h
                  exact hq.colons _
              | false =>
                  obtain ⟨-, rfl⟩ := List.cons.inj h
                  exact hq.angle _
          | call => cases hp.1

theorem Ignores.type (hq : Ignores q) (hus : q us = false) {t : Ty}
    (ht : t.isTidy known plus = true) {n : String} {place : Span} (hn : Nameable n ∨ n = "_")
    (h : t.tokens.placed ++ us = .ident n place :: vs) : q vs = false := by
  rcases Ty.begins ht with ⟨hp, hts, hmore⟩ | hts | ⟨hw, hw', -, hts⟩ | ⟨hw, -, hts⟩ | ⟨-, hts⟩ <;>
    rw [hts] at h
  · rw [placed_append, List.append_assoc] at h
    rcases hmore with rfl | ⟨us, rfl⟩ | ⟨us, rfl⟩
    · exact hq.path hus hp h
    · exact hq.path (hq.plus _) hp h
    · exact hq.path (hq.call _) hp h
  · obtain ⟨-, rfl⟩ := List.cons.inj h
    exact hus
  · obtain ⟨hname, -⟩ := List.cons.inj h
    injection hname with hname
    subst hname
    have hword : ∀ w ∈ typeWords, ¬ Nameable w := by decide
    exact absurd hn (not_or.mpr ⟨hword _ hw, hw'⟩)
  · simp only [List.mem_cons, List.not_mem_nil, or_false] at hw
    rcases hw with rfl | rfl | rfl | rfl <;> cases h
  · cases h

/-- The test fails behind any name that a type begins with. -/
theorem Ignores.second_eq_false (hq : Ignores q) (hus : q us = false) {t : Ty}
    (ht : t.isTidy known plus = true) :
    ((isName (t.tokens.placed ++ us) || isWord "_" (t.tokens.placed ++ us) ||
      isWord "self" (t.tokens.placed ++ us)) && second q (t.tokens.placed ++ us)) = false := by
  cases hts : t.tokens.placed ++ us with
  | nil => rfl
  | cons x vs =>
      cases x with
      | ident k p =>
          by_cases hk : Nameable k ∨ k = "_"
          · have hvs : q vs = false := hq.type hus ht hk hts
            exact Bool.and_eq_false_iff.mpr (.inr hvs)
          · have hkeyword : isKeyword k = true := by simpa using fun h => hk (.inl (.inl h))
            have hwild : (k == "_") = false := by simpa using fun h => hk (.inr h)
            have hself : (k == "self") = false := by
              rw [beq_eq_false_iff_ne]
              rintro rfl
              exact hk (.inl (by decide))
            simp [isName, isWord, hkeyword, hwild, hself]
      | _ => rfl

/-! Where a bound begins. -/

inductive BoundFront : Source → Prop
  | rooted {p q : Span} {ts : Source} :
      BoundFront (.punct ':' true p :: .punct ':' false q :: ts)
  | name {n : String} {p : Span} {ts : Source} : BoundFront (.ident n p :: ts)
  | lifetime {n : String} {p q : Span} {ts : Source} :
      BoundFront (.punct '\'' true p :: .ident n q :: ts)
  | maybe {p : Span} {ts : Source} : BoundFront (.punct '?' false p :: ts)
  | group {body ts : Source} {p : Span} : BoundFront (.group .paren body p :: ts)

/-- The path of a trait begins as a path does. -/
theorem Path.traitFront {p : Path} (h : p.isTidyTrait known = true) (hus : isMark "#" us = false) :
    PathFront (p.tokens.placed ++ us) := by
  obtain ⟨rooted, segments⟩ := p
  rcases traitTidy_cases h with ⟨hne, hss⟩ | ⟨front, name, inputs, trailing, output, rfl, hname, hfront, -⟩
  · exact Path.front (Path.isTidy_iff.mpr ⟨hne, hss⟩) hus
  · cases front with
    | nil =>
        cases rooted with
        | true => exact .rooted
        | false => exact .name hname rfl
    | cons s ss =>
        -- a path that is tidy begins in the same way, whatever stands behind its first segment
        have htidy : (Syntax.Path.mk rooted [s]).isTidy known = true :=
          Path.isTidy_iff.mpr ⟨by simp, by simpa using hfront s List.mem_cons_self⟩
        have hpath : PathFront ((Syntax.Path.mk rooted [s]).tokens.placed ++ ((behindSegments
            (ss ++ [.call name inputs trailing output])).placed ++ us)) :=
          Path.front htidy (by cases ss <;> rfl)
        rw [Path.tokens, List.cons_append, colons_segments]
        rwa [Path.tokens, colons_segments, ← List.append_assoc, ← placed_append,
          List.append_assoc _ (s.tokens ++ _), List.append_assoc s.tokens] at hpath

theorem PathFront.boundFront (h : PathFront us) : BoundFront us := by
  cases h with
  | rooted => exact .rooted
  | name => exact .name

theorem BoundFront.append (h : BoundFront us) (vs : Source) : BoundFront (us ++ vs) := by
  cases h with
  | rooted => exact .rooted
  | name => exact .name
  | lifetime => exact .lifetime
  | maybe => exact .maybe
  | group => exact .group

theorem Bound.front {b : Bound} (hb : b.isTidy known = true) :
    BoundFront (b.tokens.placed ++ us) := by
  suffices h : BoundFront b.tokens.placed from h.append us
  cases b with
  | lifetime => exact .lifetime
  | captured | verbatim => cases hb
  | trait enclosed maybe binder p =>
      cases enclosed with
      | true => exact .group
      | false =>
          cases maybe with
          | true => exact .maybe
          | false =>
              simp only [Bound.isTidy, Bool.and_eq_true] at hb
              cases binder with
              | none =>
                  have hpath : PathFront (p.tokens.placed ++ []) := Path.traitFront hb.2 rfl
                  rw [List.append_nil] at hpath
                  exact hpath.boundFront
              | _ => exact .name

namespace BoundFront

theorem startsBound (h : BoundFront us) : Grammar.startsBound us = true := by
  cases h <;> rfl

theorem isMark_eq_false (h : BoundFront us) {w : String}
    (hw : w.toList.head?.any (fun c => !([':', '\'', '?'].contains c)) = true) :
    isMark w us = false := by
  unfold isMark
  cases hcs : w.toList with
  | nil => simp [hcs] at hw
  | cons c cs =>
      simp only [hcs, List.head?_cons, Option.any_some, Bool.not_eq_true', List.contains_eq_mem,
        decide_eq_false_iff_not, List.mem_cons, List.not_mem_nil, or_false, not_or] at hw
      cases h <;> cases cs <;> simp [afterMark, hw]

end BoundFront

end ZonedAccessors.Grammar
