import ZonedAccessors.Proofs.Grammar.Follow.File

/-!
Where the parts of a declaration stand in its text: the name of a struct, the types of its named
fields, and an item that is no struct.
-/

namespace ZonedAccessors.Grammar

open Token Syntax

variable {α β : Type} {s n k : Nat} {c c' : Cursor} {us vs : Source} {f : Field}
  {fields : List Field}

/-! What is taken from the front of a text. -/

theorem later_of_run {p : Reader α} [h : Agrees .fewer (s + 1) p p] {a : α} (hc : c.size ≤ s)
    (hrun : p.run c = .ok (a, c')) : Later c c' :=
  Agrees.moves (q := p) ⟨fun c hc => h.run c (Nat.lt_succ_of_le hc)⟩ c a c' hc hrun

theorem Later.of_run {p : Reader α} [Agrees .fewer (s + 1) p p] {a : α} {c₀ : Cursor}
    (h : Later c₀ c) (hc : c₀.size ≤ s) (hrun : p.run c = .ok (a, c')) : Later c₀ c' :=
  h.trans (later_of_run (h.size_le.trans hc) hrun)

theorem captured_eq_take {p : Reader α} {a : α} {ts : Source}
    (h : (captured p).run c = .ok ((a, ts), c')) :
    ts = c.rest.take (c.rest.length - c'.rest.length) := by
  have hrun := run_of_captured h
  unfold captured at h
  rw [run_rest_bind, run_bind_of_ok hrun] at h
  cases h
  rfl

theorem captured_append {p : Reader α} [Agrees .fewer (s + 1) p p] {a : α} {ts : Source}
    (hc : c.size ≤ s) (h : (captured p).run c = .ok ((a, ts), c')) : c.rest = ts ++ c'.rest := by
  obtain ⟨front, hfront⟩ := (later_of_run hc (run_of_captured h)).rest
  rw [captured_eq_take h, ← hfront, List.length_append, Nat.add_sub_cancel, List.take_left]

theorem captured_eq_of_end {p : Reader α} {a : α} {ts : Source}
    (h : (captured p).run c = .ok ((a, ts), c')) (hend : c'.rest = []) : ts = c.rest := by
  rw [captured_eq_take h, hend, List.length_nil, Nat.sub_zero, List.take_length]

theorem afterMark_singleton_iff {m : Char} {ts : Source} : afterMark [m] us = some ts ↔
    ∃ joint place, us = .punct m joint place :: ts := by
  constructor
  · intro h
    cases us with
    | nil => cases h
    | cons t us =>
        cases t with
        | punct m' joint place =>
            simp only [afterMark, Option.ite_none_right_eq_some, beq_iff_eq, Option.some.injEq] at h
            obtain ⟨rfl, rfl⟩ := h
            exact ⟨joint, place, rfl⟩
        | _ => cases h
  · rintro ⟨joint, place, rfl⟩
    simp [afterMark]

theorem run_mark_singleton {text : String} {m : Char} (hm : text.toList = [m]) {u : Unit}
    (hrun : (mark text).run c = .ok (u, c')) :
    ∃ joint place ts, c.rest = .punct m joint place :: ts ∧ c' = { c with rest := ts } := by
  obtain ⟨ts, hts, rfl⟩ := run_mark_iff.mp hrun
  rw [hm] at hts
  obtain ⟨joint, place, hrest⟩ := afterMark_singleton_iff.mp hts
  exact ⟨joint, place, ts, hrest, rfl⟩

theorem run_either_iff {b : Bool} {p q : Reader α} {f : α → Reader β} {x : β} :
    (if b = true then p >>= f else q >>= f).run c = .ok (x, c') ↔
      ∃ a c₁, (if b = true then p else q).run c = .ok (a, c₁) ∧ (f a).run c₁ = .ok (x, c') := by
  cases b <;> exact run_bind_iff

theorem extent_of_ne_nil {ts : Source} (h : ts ≠ []) :
    extent ts = some ((extent ts).getD default) := by
  cases ts with
  | nil => exact absurd rfl h
  | cons t ts => rfl

/-! Fields. -/

def EndsField (ts : Source) : Prop :=
  ts = [] ∨ ∃ joint place more, ts = .punct ',' joint place :: more

theorem level_type_refuses_end (n : Nat) (plus : Bool) (c : Cursor) (h : EndsField c.rest) :
    ∃ fault, ((level n).type plus).run c = .error fault := by
  cases n with
  | zero => exact ⟨_, rfl⟩
  | succ n =>
      obtain ⟨ts, closing, leftover⟩ := c
      rcases h with rfl | ⟨joint, place, more, rfl⟩ <;> exact ⟨_, rfl⟩

theorem startsInline_end (h : EndsField us) : startsInline us = false := by
  rcases h with rfl | ⟨joint, place, more, rfl⟩ <;> rfl

/-- Of `us` a type is read, before `vs`. -/
def TypeIn (us : Source) (t : Ty) (vs : Source) : Prop :=
  ∃ n c c', ((level n).type true).run c = .ok (t, c') ∧ c.rest = us ++ vs ∧ c'.rest = vs

/-- Of `us` a field stands before `vs`: its type is all that follows the colon behind its name. A
field with the name of none may have fields in place of a type. -/
def FieldIn (us : Source) (f : Field) (vs : Source) : Prop :=
  ∃ front name p joint q written,
    us = front ++ .ident name p :: .punct ':' joint q :: (written ++ vs) ∧
    f.name = some name ∧ extent written = some f.place ∧ (name = "_" ∨ TypeIn written f.type vs)

/-- Fields with commas between them, and maybe a last comma. -/
inductive FieldsIn : Source → List Field → Prop
  | nil : FieldsIn [] []
  | last {us : Source} {f : Field} : FieldIn us f [] → FieldsIn us [f]
  | comma {us vs : Source} {f : Field} {fields : List Field} (joint place) :
      FieldIn us f (.punct ',' joint place :: vs) → FieldsIn vs fields → FieldsIn us (f :: fields)

/-- In `us` the field `name` has a type, which is all that stands between its colon and its end. -/
def TypedIn (us : Source) (name : String) (t : Ty) (place : Span) : Prop :=
  ∃ front p joint q written vs,
    us = front ++ .ident name p :: .punct ':' joint q :: (written ++ vs) ∧ EndsField vs ∧
    TypeIn written t vs ∧ extent written = some place

theorem TypedIn.append {name : String} {t : Ty} {place : Span} (h : TypedIn vs name t place)
    (before : Source) : TypedIn (before ++ vs) name t place := by
  obtain ⟨front, p, joint, q, written, ws, rfl, h⟩ := h
  exact ⟨before ++ front, p, joint, q, written, ws, by rw [List.append_assoc], h⟩

theorem FieldIn.typedIn {name : String} (h : FieldIn us f vs) (hvs : EndsField vs)
    (hname : f.name = some name) (hne : name ≠ "_") : TypedIn us name f.type f.place := by
  obtain ⟨front, name', p, joint, q, written, rfl, hname', hextent, htype⟩ := h
  rw [hname] at hname'
  cases hname'
  exact ⟨front, p, joint, q, written, vs, rfl, hvs, htype.resolve_left hne, hextent⟩

theorem FieldIn.suffix (h : FieldIn us f vs) : vs <:+ us := by
  obtain ⟨front, name, p, joint, q, written, rfl, -⟩ := h
  exact ⟨front ++ .ident name p :: .punct ':' joint q :: written, by simp⟩

theorem FieldsIn.typedIn {name : String} (h : FieldsIn us fields) (hf : f ∈ fields)
    (hname : f.name = some name) (hne : name ≠ "_") : TypedIn us name f.type f.place := by
  induction h with
  | nil => cases hf
  | last h =>
      obtain rfl := List.mem_singleton.mp hf
      exact h.typedIn (.inl rfl) hname hne
  | @comma us vs g fields joint place h _ ih =>
      rcases List.mem_cons.mp hf with rfl | hf
      · exact h.typedIn (.inr ⟨joint, place, vs, rfl⟩) hname hne
      · obtain ⟨before, hbefore⟩ := (List.suffix_cons _ vs).trans h.suffix
        rw [← hbefore]
        exact (ih hf).append before

section Fields

variable [Nested (s + 1) (level n) (level n)]

theorem run_fieldName {b : Bool} {name : String} (hb : b = isWord "_" c.rest)
    (hrun : (if b = true then anyName else Grammar.name).run c = .ok (name, c')) :
    ∃ place ts, c.rest = .ident name place :: ts ∧ c' = { c with rest := ts } ∧
      (b = true → name = "_") := by
  subst hb
  split at hrun
  · rename_i hword
    obtain ⟨place, ts, hts, rfl⟩ := run_anyName_iff.mp hrun
    obtain ⟨_, _, hword⟩ := isWord_iff.mp hword
    rw [hts] at hword
    cases hword
    exact ⟨place, ts, hts, rfl, fun _ => rfl⟩
  · rename_i hword
    obtain ⟨-, place, ts, hts, rfl⟩ := run_name_iff.mp hrun
    exact ⟨place, ts, hts, rfl, fun h => absurd h hword⟩

theorem fieldIn_of_run (hrun : (namedFieldWithin (level n) k).run c = .ok (f, c'))
    (hc : c.size ≤ s) (hend : EndsField c'.rest) : FieldIn c.rest f c'.rest := by
  obtain _ | k := k
  · cases hrun
  unfold namedFieldWithin at hrun
  obtain ⟨as, c₁, has, hrun⟩ := run_bind_iff.mp hrun
  obtain ⟨v, c₂, hv, hrun⟩ := run_bind_iff.mp hrun
  rw [run_rest_bind] at hrun
  obtain ⟨name, c₃, hname, hrun⟩ := run_either_iff.mp hrun
  obtain ⟨⟨⟩, c₄, hcolon, hrun⟩ := run_bind_iff.mp hrun
  rw [run_rest_bind] at hrun
  have hlater₁ : Later c c₁ := later_of_run hc has
  have hlater₂ : Later c c₂ := hlater₁.of_run hc hv
  have hlater₃ : Later c c₃ := hlater₂.of_run hc hname
  have hlater₄ : Later c c₄ := hlater₃.of_run hc hcolon
  have hc₄ : c₄.size ≤ s := hlater₄.size_le.trans hc
  obtain ⟨front, hfront⟩ := hlater₂.rest
  obtain ⟨place, ts, hts, rfl, hunnamed⟩ := run_fieldName rfl hname
  obtain ⟨joint, place', us, hus, rfl⟩ := run_mark_singleton rfl hcolon
  obtain rfl : ts = .punct ':' joint place' :: us := hus
  have hwhole : c.rest = front ++ .ident name place :: .punct ':' joint place' :: us := by
    rw [← hfront, hts]
  -- nothing of a type stands where a field ends
  have hextent (written : Source) (h : us = written ++ c'.rest) (hstart : ¬ EndsField us) :
      extent written = some ((extent written).getD default) := by
    refine extent_of_ne_nil fun hnil => hstart ?_
    rw [h, hnil]
    exact hend
  split at hrun
  · rename_i hinline
    obtain ⟨hword, hinline⟩ := Bool.and_eq_true_iff.mp hinline
    obtain ⟨⟨⟨⟩, written⟩, c₅, hwritten, hrun⟩ := run_bind_iff.mp hrun
    cases hrun
    have happend : us = written ++ c'.rest := captured_append hc₄ hwritten
    refine ⟨front, name, place, joint, place', written, ?_, rfl, hextent written happend ?_,
      .inl (hunnamed hword)⟩
    · rw [hwhole, happend]
    · intro hends
      rw [startsInline_end hends] at hinline
      cases hinline
  · obtain ⟨⟨t, written⟩, c₅, hwritten, hrun⟩ := run_bind_iff.mp hrun
    cases hrun
    have htype := run_of_captured hwritten
    have happend : us = written ++ _ := captured_append hc₄ hwritten
    refine ⟨front, name, place, joint, place', written, ?_, rfl, hextent written happend ?_,
      .inr ⟨n, _, _, htype, happend, rfl⟩⟩
    · rw [hwhole, happend]
    · intro hends
      obtain ⟨fault, hfault⟩ := level_type_refuses_end n true ⟨us, _, _⟩ hends
      rw [hfault] at htype
      cases htype

theorem fieldsIn_of_listedFrom {trailing : Bool}
    (hrun : (listedFrom List.isEmpty "," (namedField (level n)) k).run c =
      .ok ((fields, trailing), c')) (hc : c.size ≤ s) : FieldsIn c.rest fields := by
  induction k generalizing c fields trailing with
  | zero => cases hrun
  | succ k ih =>
      unfold listedFrom at hrun
      obtain ⟨f, c₁, hf, hrun⟩ := run_bind_iff.mp hrun
      unfold namedField at hf
      rw [run_rest_bind] at hf hrun
      have hlater₁ : Later c c₁ := later_of_run hc hf
      split at hrun
      · rename_i hend
        cases hrun
        rw [List.isEmpty_iff] at hend
        have hfield := fieldIn_of_run hf hc (.inl hend)
        rw [hend] at hfield
        exact .last hfield
      · obtain ⟨⟨⟩, c₂, hcomma, hrun⟩ := run_bind_iff.mp hrun
        have hlater₂ : Later c c₂ := hlater₁.of_run hc hcomma
        obtain ⟨joint, place, vs, hvs, rfl⟩ := run_mark_singleton rfl hcomma
        have hfield := fieldIn_of_run hf hc (.inr ⟨joint, place, vs, hvs⟩)
        rw [hvs] at hfield
        rw [run_rest_bind] at hrun
        split at hrun
        · rename_i hend
          cases hrun
          obtain rfl : vs = [] := List.isEmpty_iff.mp hend
          exact .comma joint place hfield .nil
        · obtain ⟨⟨fields', trailing'⟩, c₃, hmore, hrun⟩ := run_bind_iff.mp hrun
          cases hrun
          exact .comma joint place hfield (ih hmore (hlater₂.size_le.trans hc))

theorem fieldsIn_of_inCommas {trailing : Bool}
    (hrun : (inCommas .brace (namedField (level n))).run c = .ok ((fields, trailing), c'))
    (hc : c.size ≤ s) : ∃ body p, c.rest = .group .brace body p :: c'.rest ∧
      FieldsIn body fields := by
  obtain ⟨body, p, ts, c₁, hts, hbody, rfl⟩ := run_inside_iff.mp hrun
  refine ⟨body, p, hts, ?_⟩
  unfold listed at hbody
  rw [run_rest_bind] at hbody
  split at hbody
  · rename_i hend
    cases hbody
    rw [List.isEmpty_iff] at hend
    rw [show body = [] from hend]
    exact .nil
  · rw [run_rest_bind] at hbody
    have hsize : Tree.sizeAll body ≤ c.size := by
      unfold Cursor.size
      rw [hts, Tree.sizeAll, Tree.size]
      omega
    exact fieldsIn_of_listedFrom hbody (hsize.trans hc)

end Fields

/-! Structs. -/

/-- Of `us` a struct is written: its name is what follows the word `struct`, and its fields, if they
have names, are all that stands in the braces at the end. -/
def StructIn (us : Source) (t : Struct) : Prop :=
  ∃ front p more, us = front ++ .ident "struct" p :: .ident t.name t.place :: more ∧
    ∀ fields trailing, t.shape = .named fields trailing →
      ∃ middle body q, more = middle ++ [.group .brace body q] ∧ FieldsIn body fields

theorem StructIn.typedIn {t : Struct} {trailing : Bool} {name : String} (h : StructIn us t)
    (hshape : t.shape = .named fields trailing) (hf : f ∈ fields) (hname : f.name = some name)
    (hne : name ≠ "_") : ∃ front body q, us = front ++ [.group .brace body q] ∧
      TypedIn body name f.type f.place := by
  obtain ⟨front, p, more, rfl, hfields⟩ := h
  obtain ⟨middle, body, q, rfl, hin⟩ := hfields fields trailing hshape
  refine ⟨front ++ .ident "struct" p :: .ident t.name t.place :: middle, body, q, ?_,
    hin.typedIn hf hname hne⟩
  simp

section Structs

variable [Nested (s + 1) (level n) (level n)]

theorem fieldsIn_of_structBody {given : Conditions} {shape : Shape}
    (hrun : (structBody (level n)).run c = .ok ((given, shape), c')) (hc : c.size ≤ s)
    (fields : List Field) (trailing : Bool) (hshape : shape = .named fields trailing) :
    ∃ middle body p, c.rest = middle ++ .group .brace body p :: c'.rest ∧ FieldsIn body fields := by
  subst hshape
  unfold structBody at hrun
  rw [run_rest_bind] at hrun
  split at hrun
  · obtain ⟨⟨fields', trailing'⟩, c₁, -, hrun⟩ := run_bind_iff.mp hrun
    rw [run_rest_bind] at hrun
    obtain ⟨given', c₂, -, hrun⟩ := run_bind_iff.mp hrun
    obtain ⟨ended, c₃, -, hrun⟩ := run_bind_iff.mp hrun
    cases ended <;> cases hrun
  · obtain ⟨given', c₁, hgiven, hrun⟩ := run_bind_iff.mp hrun
    have hlater : Later c c₁ := later_of_run hc hgiven
    rw [run_rest_bind] at hrun
    split at hrun
    · obtain ⟨⟨fields', trailing'⟩, c₂, hfields, hrun⟩ := run_bind_iff.mp hrun
      cases hrun
      obtain ⟨middle, hmiddle⟩ := hlater.rest
      obtain ⟨body, p, hbody, hin⟩ := fieldsIn_of_inCommas hfields (hlater.size_le.trans hc)
      exact ⟨middle, body, p, by rw [← hmiddle, hbody], hin⟩
    · obtain ⟨ended, c₂, -, hrun⟩ := run_bind_iff.mp hrun
      cases ended <;> cases hrun

theorem structIn_of_structRest {as : Attributes} {v : Visibility} {t : Struct} {front : Source}
    (hrun : (structRest (level n) as v).run c = .ok (t, c')) (hc : c.size ≤ s)
    (hend : c'.rest = []) : StructIn (front ++ c.rest) t := by
  unfold structRest at hrun
  obtain ⟨⟨⟩, c₁, hword, hrun⟩ := run_bind_iff.mp hrun
  rw [run_get_bind] at hrun
  obtain ⟨name, c₂, hname, hrun⟩ := run_bind_iff.mp hrun
  obtain ⟨params, c₃, hparams, hrun⟩ := run_bind_iff.mp hrun
  obtain ⟨⟨given, shape⟩, c₄, hbody, hrun⟩ := run_bind_iff.mp hrun
  cases hrun
  have hlater₁ : Later c c₁ := later_of_run hc hword
  have hlater₂ : Later c c₂ := hlater₁.of_run hc hname
  have hlater₃ : Later c₂ c₃ := later_of_run (hlater₂.size_le.trans hc) hparams
  obtain ⟨p, ts, hts, rfl⟩ := run_keyword_iff.mp hword
  obtain ⟨-, place, more, hmore, rfl⟩ := run_name_iff.mp hname
  obtain rfl : ts = .ident name place :: more := hmore
  obtain ⟨before, hbefore⟩ := hlater₃.rest
  refine ⟨front, p, more, by rw [hts]; rfl, fun fields trailing hshape => ?_⟩
  obtain ⟨middle, body, q, hq, hin⟩ := fieldsIn_of_structBody hbody
    ((hlater₂.trans hlater₃).size_le.trans hc) fields trailing hshape
  refine ⟨before ++ middle, body, q, ?_, hin⟩
  rw [List.append_assoc, ← hend, ← hq]
  exact hbefore.symm

theorem structIn_of_declared {t : Struct}
    (hrun : (declared (level n)).run c = .ok (.struct t, c')) (hc : c.size ≤ s)
    (hend : c'.rest = []) : StructIn c.rest t := by
  unfold declared at hrun
  obtain ⟨⟨found, written⟩, c₁, hfound, hrun⟩ := run_bind_iff.mp hrun
  cases found with
  | none => cases hrun
  | some t' =>
      cases hrun
      have hrun := run_of_captured hfound
      obtain ⟨as, c₂, has, hrun⟩ := run_bind_iff.mp hrun
      rw [run_get_bind] at hrun
      obtain ⟨v, c₃, hv, hrun⟩ := run_bind_iff.mp hrun
      have hlater₂ : Later c c₂ := later_of_run hc has
      have hlater₃ : Later c c₃ := hlater₂.of_run hc hv
      rw [run_rest_bind] at hrun
      split at hrun
      · obtain ⟨t', hstruct, heq⟩ := run_map_iff.mp hrun
        cases heq
        obtain ⟨front, hfront⟩ := hlater₃.rest
        rw [← hfront]
        exact structIn_of_structRest hstruct (hlater₃.size_le.trans hc) hend
      · obtain ⟨⟨⟩, c₄, -, hrun⟩ := run_bind_iff.mp hrun
        obtain ⟨i, c₅, -, hrun⟩ := run_bind_iff.mp hrun
        cases hrun

end Structs

/-! Items. -/

theorem structIn_of_read {t : Struct} (h : read declared us = .ok (.struct t)) : StructIn us t := by
  obtain ⟨c', hrun, -, hend⟩ := readAll_iff.mp h
  have : Nested (Tree.sizeAll us + 1) (level (4 * Tree.sizeAll us + 8))
      (level (4 * Tree.sizeAll us + 8)) := nested_level (by omega) (by omega)
  exact structIn_of_declared (s := Tree.sizeAll us) hrun (Nat.le_refl _) hend

/-- An item that is no struct is read from its first token to its last. -/
theorem extent_of_read {place : Span} (h : read declared us = .ok (.other place)) :
    extent us = some place := by
  have hne : us ≠ [] := by
    rintro rfl
    cases h
  obtain ⟨c', hrun, -, hend⟩ := readAll_iff.mp h
  unfold declared at hrun
  obtain ⟨⟨found, written⟩, c₁, hfound, hrun⟩ := run_bind_iff.mp hrun
  cases found with
  | some t => cases hrun
  | none =>
      cases hrun
      obtain rfl : written = us := captured_eq_of_end hfound hend
      exact extent_of_ne_nil hne

end ZonedAccessors.Grammar
