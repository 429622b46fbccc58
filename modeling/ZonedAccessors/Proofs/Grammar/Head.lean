import ZonedAccessors.Attribute.Expansion
import ZonedAccessors.Grammar.Text
import ZonedAccessors.Proofs.Grammar.Reader
import ZonedAccessors.Proofs.Token.Reread

/-!
The visibility and the name of a struct: their text is read as what they were read as.
-/

namespace ZonedAccessors.Grammar

open Token Syntax

variable {α β : Type}

/-! Readers that only leave what was there. -/

def Advances (p : Reader α) : Prop :=
  ∀ c a c', p.run c = .ok (a, c') → c'.rest <:+ c.rest

theorem Advances.bind {p : Reader α} {f : α → Reader β} (hp : Advances p)
    (hf : ∀ a, Advances (f a)) : Advances (p >>= f) := by
  intro c b c' h
  obtain ⟨a, c₁, ha, hb⟩ := run_bind_iff.mp h
  exact (hf a c₁ b c' hb).trans (hp c a c₁ ha)

theorem advances_pure (a : α) : Advances (pure a : Reader α) := by
  intro c b c' h
  cases h
  exact List.suffix_rfl

theorem afterMark_suffix {cs : List Char} {ts us : Source} (h : afterMark cs ts = some us) :
    us <:+ ts := by
  fun_induction afterMark cs ts with
  | case1 ts =>
      cases h
      exact List.suffix_rfl
  | case2 c m joint p ts hc =>
      cases h
      exact List.suffix_cons _ _
  | case3 => cases h
  | case4 c cs m joint p ts _ hc ih => exact (ih h).trans (List.suffix_cons _ _)
  | case5 => cases h
  | case6 => cases h

theorem advances_mark (text : String) : Advances (mark text) := by
  intro c u c' h
  obtain ⟨ts, hts, rfl⟩ := run_mark_iff.mp h
  exact afterMark_suffix hts

/-- Whatever is read inside, the cursor goes on behind the group. -/
theorem advances_inside (d : Delimiter) (body : Reader α) : Advances (inside d body) := by
  intro c a c' h
  obtain ⟨inner, p, ts, c₁, hrest, -, rfl⟩ := run_inside_iff.mp h
  rw [hrest]
  exact List.suffix_cons _ _

theorem advances_many {more : Source → Bool} {item : Reader α} (h : Advances item) :
    Advances (many more item) := by
  have hfrom (fuel : Nat) : Advances (manyFrom more item fuel) := by
    induction fuel with
    | zero =>
        intro c a c' h
        cases h
    | succ fuel ih =>
        intro c a c' hrun
        unfold manyFrom at hrun
        rw [run_rest_bind] at hrun
        split at hrun
        · exact h.bind (fun x => ih.bind fun xs => advances_pure _) c a c' hrun
        · exact advances_pure _ c a c' hrun
  intro c a c' hrun
  exact hfrom _ c a c' hrun

theorem advances_attributes (g : Inner) : Advances (attributes g) :=
  advances_many ((advances_mark "#").bind fun _ => advances_inside .bracket _)

/-! Paths of names. -/

def PathName (n : String) : Prop :=
  IsWord n.toList ∧ (isKeyword n = false ∨ n ∈ ["super", "self", "Self", "crate"])

def ModPath.Named (p : ModPath) : Prop := p.names ≠ [] ∧ ∀ n ∈ p.names, PathName n

theorem startsPath_iff {ts : Source} : startsPath ts = true ↔ ∃ n place more,
    ts = .ident n place :: more ∧
      (isKeyword n = false ∨ n ∈ ["super", "self", "Self", "crate"]) := by
  unfold startsPath
  cases ts with
  | nil => simp [isName, isWord]
  | cons t ts =>
      cases t with
      | ident n place =>
          simp only [isName, isWord, Bool.or_eq_true, List.any_cons, List.any_nil, beq_iff_eq,
            List.cons.injEq, Tree.ident.injEq, List.mem_cons, List.not_mem_nil, or_false,
            Bool.not_eq_true', Bool.or_false]
          constructor
          · intro h
            exact ⟨n, place, ts, ⟨⟨rfl, rfl⟩, rfl⟩, h⟩
          · rintro ⟨_, _, _, ⟨⟨rfl, rfl⟩, rfl⟩, h⟩
            exact h
      | punct m joint place => simp [isName, isWord]
      | literal w place => simp [isName, isWord]
      | group d body place => simp [isName, isWord]

theorem pathName_of_startsPath {n : String} {place : Span} {more : Source}
    (h : startsPath (.ident n place :: more) = true) (hn : IsWord n.toList) : PathName n := by
  obtain ⟨_, _, _, heq, hname⟩ := startsPath_iff.mp h
  cases heq
  exact ⟨hn, hname⟩

theorem chainedFrom_names {fuel : Nat} {c c' : Cursor} {ns : List String} {trailing : Bool}
    (h : (chainedFrom (fun ts => !startsPath ts) "::" anyName fuel).run c =
      .ok ((ns, trailing), c'))
    (hstart : startsPath c.rest = true) (hc : LexedAll c.rest) : ∀ n ∈ ns, PathName n := by
  induction fuel generalizing c ns trailing with
  | zero => cases h
  | succ fuel ih =>
      unfold chainedFrom at h
      obtain ⟨n, c₁, hn, h⟩ := run_bind_iff.mp h
      obtain ⟨place, ts, hrest, rfl⟩ := run_anyName_iff.mp hn
      rw [hrest] at hstart hc
      have hname := pathName_of_startsPath hstart hc.1
      obtain ⟨more, c₂, hmark, h⟩ := run_bind_iff.mp h
      rw [run_markIf] at hmark
      split at hmark
      · rename_i ts' hts'
        cases hmark
        have hlexed : LexedAll ts' := hc.2.of_suffix (afterMark_suffix hts')
        rw [if_neg (by simp), run_rest_bind] at h
        split at h
        · cases h
          simpa using hname
        · rename_i hstop
          obtain ⟨⟨ns', trailing'⟩, c₃, hmore, h⟩ := run_bind_iff.mp h
          cases h
          have hnames := ih hmore (by simpa using hstop) hlexed
          simpa using ⟨hname, hnames⟩
      · cases hmark
        cases h
        simpa using hname

theorem advances_markIf (text : String) : Advances (markIf text) := by
  intro c b c' h
  rw [run_markIf] at h
  split at h
  · rename_i hts
    cases h
    exact afterMark_suffix hts
  · cases h
    exact List.suffix_rfl

theorem startsPath_of_name {c c' : Cursor} {n : String} (h : name.run c = .ok (n, c')) :
    startsPath c.rest = true := by
  obtain ⟨hn, place, ts, hts, -⟩ := run_name_iff.mp h
  exact startsPath_iff.mpr ⟨n, place, ts, hts, .inl hn⟩

theorem modPath_named {c c' : Cursor} {p : ModPath} (h : modPath.run c = .ok (p, c'))
    (hc : LexedAll c.rest) : ModPath.Named p := by
  unfold modPath at h
  obtain ⟨rooted, c₁, hmark, h⟩ := run_bind_iff.mp h
  have hc₁ : LexedAll c₁.rest := hc.of_suffix (advances_markIf "::" c rooted c₁ hmark)
  rw [run_rest_bind] at h
  by_cases hstart : startsPath c₁.rest = true
  · rw [if_neg (by simp [hstart])] at h
    obtain ⟨first, c₂, hfirst, h⟩ := run_bind_iff.mp h
    obtain ⟨place, ts, hrest, rfl⟩ := run_anyName_iff.mp hfirst
    rw [hrest] at hstart hc₁
    have hname := pathName_of_startsPath hstart hc₁.1
    obtain ⟨more, c₃, hmore, h⟩ := run_bind_iff.mp h
    rw [run_markIf] at hmore
    split at hmore
    · rename_i ts' hts'
      cases hmore
      rw [if_pos rfl, run_rest_bind] at h
      split at h
      · cases h
      · rename_i hstop
        rw [run_rest_bind] at h
        obtain ⟨⟨ns, trailing⟩, c₄, hns, h⟩ := run_bind_iff.mp h
        have hlexed : LexedAll ts' := hc₁.2.of_suffix (afterMark_suffix hts')
        have hnames := chainedFrom_names hns (by simpa using hstop) hlexed
        cases trailing with
        | true => cases h
        | false =>
            cases h
            exact ⟨by simp, by simpa using ⟨hname, hnames⟩⟩
    · cases hmore
      cases h
      exact ⟨by simp, by simpa using hname⟩
  · -- what cannot start a path is read as a name, and is none
    rw [if_pos (by simp [hstart])] at h
    obtain ⟨n, c₂, hn, -⟩ := run_bind_iff.mp h
    exact absurd (startsPath_of_name hn) hstart

/-! Visibilities. -/

def Visibility.Named : Visibility → Prop
  | .inherited => True
  | .everywhere => True
  | .restricted false p => ∃ n ∈ ["crate", "self", "super"], p = ModPath.ofName n
  | .restricted true p => ModPath.Named p

theorem inModule_named {c c' : Cursor} {v : Visibility} (h : visibility.inModule.run c = .ok (v, c'))
    (hc : LexedAll c.rest) : Visibility.Named v := by
  unfold visibility.inModule at h
  obtain ⟨inner, place, ts, c₁, hrest, hbody, -⟩ := run_inside_iff.mp h
  rw [hrest] at hc
  obtain ⟨_, c₂, hin, hbody⟩ := run_bind_iff.mp hbody
  obtain ⟨_, more, hinner, rfl⟩ := run_keyword_iff.mp hin
  obtain ⟨p, c₃, hp, hbody⟩ := run_bind_iff.mp hbody
  cases hbody
  refine modPath_named hp ?_
  have hlexed : LexedAll inner := hc.1
  rw [show inner = _ from hinner] at hlexed
  exact hlexed.2

theorem skipped_suffix (ts : Source) : skipped ts <:+ ts := by
  unfold skipped
  split
  · exact (List.suffix_cons _ _).trans (List.suffix_cons _ _)
  · exact List.suffix_cons _ _
  · exact List.suffix_rfl

theorem visibility_named {c c' : Cursor} {v : Visibility} (h : visibility.run c = .ok (v, c'))
    (hc : LexedAll c.rest) : Visibility.Named v ∧ c'.rest <:+ c.rest := by
  unfold visibility at h
  obtain ⟨found, c₁, hpub, h⟩ := run_bind_iff.mp h
  rw [run_keywordIf] at hpub
  split at hpub
  · cases hpub
    have hsuffix := skipped_suffix c.rest
    have hmodule {d : Cursor} (hd : d.rest = skipped c.rest)
        (hrun : visibility.inModule.run d = .ok (v, c')) :
        Visibility.Named v ∧ c'.rest <:+ c.rest := by
      have hlexed : LexedAll d.rest := hd ▸ hc.of_suffix hsuffix
      refine ⟨inModule_named hrun hlexed, (advances_inside .paren _ d v c' hrun).trans ?_⟩
      rw [hd]
      exact hsuffix
    rw [if_neg (by simp), run_rest_bind] at h
    split at h
    · split at h
      · rename_i hpart
        rw [run_rest_bind, run_advance_bind] at h
        cases h
        exact ⟨⟨_, by simpa using hpart, rfl⟩, (skipped_suffix _).trans hsuffix⟩
      · split at h
        · exact hmodule rfl h
        · cases h
          exact ⟨trivial, hsuffix⟩
    · exact hmodule rfl h
    · cases h
      exact ⟨trivial, hsuffix⟩
  · cases hpub
    cases h
    exact ⟨trivial, List.suffix_rfl⟩

/-! The front of a struct. -/

theorem structRest_head {g : Inner} {as : Attributes} {v : Visibility} {c c' : Cursor} {s : Struct}
    (h : (structRest g as v).run c = .ok (s, c')) (hc : LexedAll c.rest) :
    s.visibility = v ∧ IsWord s.name.toList ∧ isKeyword s.name = false := by
  unfold structRest at h
  obtain ⟨_, c₁, hstruct, h⟩ := run_bind_iff.mp h
  obtain ⟨_, more, hrest, rfl⟩ := run_keyword_iff.mp hstruct
  rw [hrest] at hc
  rw [run_get_bind] at h
  obtain ⟨n, c₂, hname, h⟩ := run_bind_iff.mp h
  obtain ⟨hn, _, ts, hmore, rfl⟩ := run_name_iff.mp hname
  obtain ⟨params, c₃, -, h⟩ := run_bind_iff.mp h
  obtain ⟨⟨conditions, shape⟩, c₄, -, h⟩ := run_bind_iff.mp h
  cases h
  obtain rfl : more = _ := hmore
  exact ⟨rfl, hc.2.1, hn⟩

theorem readStruct_head {item : Source} {s : Struct} (hitem : LexedAll item)
    (h : Attribute.readStruct item = .ok s) :
    Visibility.Named s.visibility ∧ IsWord s.name.toList ∧ isKeyword s.name = false := by
  have hread : ∃ c', (declared (level (4 * Token.Tree.sizeAll item + 8))).run ⟨item, none, none⟩ =
      .ok (.struct s, c') := by
    apply run_of_readAll
    unfold Attribute.readStruct at h
    split at h
    · cases h
    · rename_i hs
      cases h
      exact hs
    · cases h
  obtain ⟨c', h⟩ := hread
  unfold declared at h
  obtain ⟨⟨found, ts⟩, c₁, hfound, h⟩ := run_bind_iff.mp h
  have hrun := run_of_captured hfound
  obtain ⟨as, c₂, has, hrun⟩ := run_bind_iff.mp hrun
  have hc₂ : LexedAll c₂.rest := hitem.of_suffix (advances_attributes _ _ as c₂ has)
  rw [run_get_bind] at hrun
  obtain ⟨v, c₃, hv, hrun⟩ := run_bind_iff.mp hrun
  obtain ⟨hnamed, hsuffix⟩ := visibility_named hv hc₂
  rw [run_rest_bind] at hrun
  split at hrun
  · obtain ⟨s', hs', rfl⟩ := run_map_iff.mp hrun
    cases h
    obtain ⟨rfl, hname⟩ := structRest_head hs' (hc₂.of_suffix hsuffix)
    exact ⟨hnamed, hname⟩
  · obtain ⟨_, c₄, -, hrun⟩ := run_bind_iff.mp hrun
    obtain ⟨_, c₅, -, hrun⟩ := run_bind_iff.mp hrun
    cases hrun
    cases h

/-! The same texts read again. -/

theorem colons_cons_cons (n m : String) (ns : List String) :
    colons ((n :: m :: ns).map word) = .ident n () :: .punct ':' true () :: .punct ':' false () ::
      colons ((m :: ns).map word) := rfl

theorem plainAll_op_colons {ts : Tokens} (h : PlainAll ts) : PlainAll (op "::" ++ ts) := by
  have hcolon : ':' ∈ plainMarks := by decide
  exact ⟨hcolon, ⟨':', false, rfl⟩, hcolon, trivial, h⟩

theorem plainAll_colons {ns : List String} (h : ∀ n ∈ ns, IsWord n.toList) :
    PlainAll (colons (ns.map word)) := by
  induction ns with
  | nil => trivial
  | cons n ns ih =>
      have hn : IsWord n.toList := h n (by simp)
      have hns := ih fun m hm => h m (by simp [hm])
      cases ns with
      | nil => exact ⟨hn, trivial, trivial⟩
      | cons m ns => exact ⟨hn, trivial, plainAll_op_colons hns⟩

theorem plainAll_modPath {p : ModPath} (h : ModPath.Named p) : PlainAll p.tokens := by
  have hcolons := plainAll_colons fun n hn => (h.2 n hn).1
  obtain ⟨rooted, names⟩ := p
  cases rooted with
  | true => exact plainAll_op_colons hcolons
  | false => exact hcolons

theorem plainAll_visibility {v : Visibility} (h : Visibility.Named v) : PlainAll v.tokens := by
  have hpub : IsWord "pub".toList := isWord_of_readName (by decide)
  have hin : IsWord "in".toList := isWord_of_readName (by decide)
  cases v with
  | inherited => trivial
  | everywhere => exact ⟨hpub, trivial, trivial⟩
  | restricted written p =>
      refine ⟨hpub, trivial, ?_, trivial, trivial⟩
      cases written with
      | true => exact ⟨hin, trivial, plainAll_modPath h⟩
      | false =>
          obtain ⟨n, hn, rfl⟩ := h
          have hword : IsWord n.toList := by
            simp only [List.mem_cons, List.not_mem_nil, or_false] at hn
            rcases hn with rfl | rfl | rfl
            · exact isWord_of_readName (by decide)
            · exact isWord_of_readName (by decide)
            · exact isWord_of_readName (by decide)
          exact ⟨hword, trivial, trivial⟩

theorem run_markIf_colons {us : Source} {ts : Tokens} (h : Source.bare us = op "::" ++ ts)
    (closing : Option Span) (leftover : Option Fault) :
    ∃ more, (markIf "::").run ⟨us, closing, leftover⟩ = .ok (true, ⟨more, closing, leftover⟩) ∧
      us.length = more.length + 2 ∧ Source.bare more = ts := by
  change Source.bare us = .punct ':' true () :: .punct ':' false () :: ts at h
  obtain ⟨p, us₁, rfl, h₁⟩ := bare_eq_punct h
  obtain ⟨q, us₂, rfl, h₂⟩ := bare_eq_punct h₁
  exact ⟨us₂, rfl, rfl, h₂⟩

theorem startsPath_colons {n : String} {ns : List String} (hn : PathName n) {us : Source}
    (h : Source.bare us = colons ((n :: ns).map word)) : startsPath us = true := by
  have hfront : ∃ ts, colons ((n :: ns).map word) = .ident n () :: ts := by
    cases ns <;> exact ⟨_, rfl⟩
  obtain ⟨ts, hts⟩ := hfront
  obtain ⟨place, more, rfl, -⟩ := bare_eq_ident (h.trans hts)
  exact startsPath_iff.mpr ⟨n, place, more, rfl, hn.2⟩

theorem run_chainedFrom_names {ns : List String} (hne : ns ≠ []) (hns : ∀ n ∈ ns, PathName n)
    {us : Source} (hus : Source.bare us = colons (ns.map word)) {fuel : Nat}
    (hfuel : us.length < fuel) (closing : Option Span) (leftover : Option Fault) :
    (chainedFrom (fun ts => !startsPath ts) "::" anyName fuel).run ⟨us, closing, leftover⟩ =
      .ok ((ns, false), ⟨[], closing, leftover⟩) := by
  induction ns generalizing us fuel with
  | nil => exact absurd rfl hne
  | cons n ns ih =>
      obtain ⟨fuel, rfl⟩ := Nat.exists_eq_succ_of_ne_zero (Nat.ne_zero_of_lt hfuel)
      unfold chainedFrom
      cases ns with
      | nil =>
          obtain ⟨p, us₁, rfl, h₁⟩ := bare_eq_ident hus
          obtain rfl := bare_eq_nil h₁
          rfl
      | cons m ns =>
          rw [colons_cons_cons] at hus
          obtain ⟨p, us₁, rfl, h₁⟩ := bare_eq_ident hus
          obtain ⟨more, hcolons, hlength, hmore⟩ := run_markIf_colons h₁ closing leftover
          have hm : PathName m := hns m (by simp)
          have hshort : more.length < fuel := by
            simp only [List.length_cons] at hfuel
            omega
          have hrest := ih (by simp) (fun k hk => hns k (by simp [hk])) hmore hshort
          have hname : anyName.run ⟨.ident n p :: us₁, closing, leftover⟩ =
              .ok (n, ⟨us₁, closing, leftover⟩) := rfl
          rw [run_bind_of_ok hname, run_bind_of_ok hcolons, if_neg (by simp), run_rest_bind,
            if_neg (by simp [startsPath_colons hm hmore]), run_bind_of_ok hrest]
          rfl

theorem run_modPath {p : ModPath} (hp : ModPath.Named p) {us : Source}
    (hus : Source.bare us = p.tokens) (closing : Option Span) (leftover : Option Fault) :
    modPath.run ⟨us, closing, leftover⟩ = .ok (p, ⟨[], closing, leftover⟩) := by
  obtain ⟨rooted, names⟩ := p
  obtain ⟨hne, hnames⟩ := hp
  obtain ⟨n, ns, rfl⟩ := List.exists_cons_of_ne_nil hne
  have hfirst : ∃ more, (markIf "::").run ⟨us, closing, leftover⟩ =
      .ok (rooted, ⟨more, closing, leftover⟩) ∧
        Source.bare more = colons ((n :: ns).map word) := by
    cases rooted with
    | true =>
        obtain ⟨more, hcolons, -, hmore⟩ := run_markIf_colons hus closing leftover
        exact ⟨more, hcolons, hmore⟩
    | false =>
        obtain ⟨m, place, more, rfl, -⟩ :=
          startsPath_iff.mp (startsPath_colons (hnames n (by simp)) hus)
        exact ⟨_, rfl, hus⟩
  obtain ⟨more, hrooted, hmore⟩ := hfirst
  have hstart := startsPath_colons (hnames n (by simp)) hmore
  unfold modPath
  rw [run_bind_of_ok hrooted, run_rest_bind, if_neg (by simp [hstart])]
  cases ns with
  | nil =>
      obtain ⟨p, us₁, rfl, h₁⟩ := bare_eq_ident hmore
      obtain rfl := bare_eq_nil h₁
      rfl
  | cons m ns =>
      rw [colons_cons_cons] at hmore
      obtain ⟨p, us₁, rfl, h₁⟩ := bare_eq_ident hmore
      obtain ⟨us₂, hcolons, -, h₂⟩ := run_markIf_colons h₁ closing leftover
      have hname : anyName.run ⟨.ident n p :: us₁, closing, leftover⟩ =
          .ok (n, ⟨us₁, closing, leftover⟩) := rfl
      have hm : PathName m := hnames m (by simp)
      have hrest := run_chainedFrom_names (by simp) (fun k hk => hnames k (by simp [hk])) h₂
        (Nat.lt_succ_self us₂.length) closing leftover
      rw [run_bind_of_ok hname, run_bind_of_ok hcolons, if_pos rfl, run_rest_bind,
        if_neg (by simp [startsPath_colons hm h₂]), run_rest_bind, run_bind_of_ok hrest]
      rfl

theorem run_visibility {v : Visibility} (hv : Visibility.Named v) {us : Source}
    (hus : Source.bare us = v.tokens) :
    visibility.run ⟨us, none, none⟩ = .ok (v, ⟨[], none, none⟩) := by
  cases v with
  | inherited =>
      obtain rfl := bare_eq_nil hus
      rfl
  | everywhere =>
      obtain ⟨place, us₁, rfl, h₁⟩ := bare_eq_ident hus
      obtain rfl := bare_eq_nil h₁
      rfl
  | restricted written p =>
      obtain ⟨place, us₁, rfl, h₁⟩ := bare_eq_ident hus
      obtain ⟨inner, place', us₂, rfl, hinner, h₂⟩ := bare_eq_group h₁
      obtain rfl := bare_eq_nil h₂
      cases written with
      | false =>
          obtain ⟨n, hn, rfl⟩ := hv
          obtain ⟨place'', us₃, rfl, h₃⟩ := bare_eq_ident hinner
          obtain rfl := bare_eq_nil h₃
          simp only [List.mem_cons, List.not_mem_nil, or_false] at hn
          rcases hn with rfl | rfl | rfl <;> rfl
      | true =>
          obtain ⟨place'', us₃, rfl, h₃⟩ := bare_eq_ident hinner
          have hrun : modPath.run ⟨us₃, some place'.tail, none⟩ =
              .ok (p, ⟨[], some place'.tail, none⟩) := run_modPath hv h₃ _ _
          cases us₃ with
          | nil =>
              cases hrun
          | cons u us₃ =>
              change visibility.inModule.run ⟨[.group .paren (.ident "in" place'' :: u :: us₃) place'],
                none, none⟩ = _
              unfold visibility.inModule
              refine run_inside_iff.mpr ⟨_, _, _, ⟨[], some place'.tail, none⟩, rfl, ?_, rfl⟩
              have hin : (keyword "in").run ⟨.ident "in" place'' :: u :: us₃, some place'.tail, none⟩ =
                  .ok ((), ⟨u :: us₃, some place'.tail, none⟩) := rfl
              rw [run_bind_of_ok hin, run_bind_of_ok hrun]
              rfl

theorem visibilityOfText_text {v : Visibility} (h : Visibility.Named v) :
    visibilityOfText (Tokens.text v.tokens) = some v := by
  obtain ⟨us, hus, hbare⟩ := ofText_text (plainAll_visibility h)
  unfold visibilityOfText Grammar.ofText
  rw [hus]
  exact toOption_eq_some_iff.mpr (readAll_of_run (run_visibility h hbare))

theorem run_segment_name {n : String} (hk : isKeyword n = false) (g : Inner) (place : Span) :
    (segment g false).run ⟨[.ident n place], none, none⟩ = .ok (.plain n, ⟨[], none, none⟩) := by
  have hne {w : String} (hw : isKeyword w = true) : isWord w [.ident n place] = false := by
    rw [Bool.eq_false_iff]
    intro hword
    obtain ⟨_, _, heq⟩ := isWord_iff.mp hword
    cases heq
    rw [hk] at hw
    cases hw
  have hname : name.run ⟨[.ident n place], none, none⟩ = .ok (n, ⟨[], none, none⟩) :=
    run_name_iff.mpr ⟨hk, place, [], rfl, rfl⟩
  have hword : (anyNameOr ["Self"]).run ⟨[.ident n place], none, none⟩ =
      .ok (n, ⟨[], none, none⟩) := by
    unfold anyNameOr
    rw [run_rest_bind, if_neg (by simp [hne (w := "Self") (by decide)])]
    exact hname
  have hstart : ["super", "self", "crate", "try"].any (isWord · [.ident n place]) = false := by
    simp [hne (w := "super") (by decide), hne (w := "self") (by decide),
      hne (w := "crate") (by decide), hne (w := "try") (by decide)]
  unfold segment
  rw [run_rest_bind, if_neg (by simp [hstart]), run_bind_of_ok hword]
  rfl

theorem tyPathOfText_name {n : String} (hn : IsWord n.toList) (hk : isKeyword n = false) :
    tyPathOfText n = some (.plain (Path.ofName n)) := by
  obtain ⟨place, hus⟩ := ofText_word hn
  have hangle : (markIf "<").run ⟨[.ident n place], none, none⟩ =
      .ok (false, ⟨[.ident n place], none, none⟩) := rfl
  have hroot : (markIf "::").run ⟨[.ident n place], none, none⟩ =
      .ok (false, ⟨[.ident n place], none, none⟩) := rfl
  have hrun (g : Inner) : (tyPath g false).run ⟨[.ident n place], none, none⟩ =
      .ok (.plain (Path.ofName n), ⟨[], none, none⟩) := by
    unfold tyPath
    rw [run_bind_of_ok hangle, if_neg (by simp)]
    refine run_bind_iff.mpr ⟨Path.ofName n, _, ?_, rfl⟩
    unfold path
    rw [run_bind_of_ok hroot, run_bind_of_ok (run_segment_name hk _ place)]
    rfl
  unfold tyPathOfText Grammar.ofText
  rw [hus]
  exact toOption_eq_some_iff.mpr (readAll_of_run (hrun _))

end ZonedAccessors.Grammar
