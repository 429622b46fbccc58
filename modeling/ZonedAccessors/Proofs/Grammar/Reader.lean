import ZonedAccessors.Grammar.Reader

/-!
What follows from a reading that succeeds, one step at a time.
-/

namespace ZonedAccessors

theorem bind_ok_iff {ε α β : Type} {x : Except ε α} {f : α → Except ε β} {b : β} :
    x >>= f = .ok b ↔ ∃ a, x = .ok a ∧ f a = .ok b := by
  cases x with
  | error e => simp [bind, Except.bind]
  | ok a => simp [bind, Except.bind]

theorem exists_of_isOk {ε α : Type} {x : Except ε α} (h : x.isOk = true) : ∃ a, x = .ok a := by
  cases x with
  | error e => cases h
  | ok a => exact ⟨a, rfl⟩

theorem toOption_eq_some_iff {ε α : Type} {x : Except ε α} {a : α} :
    x.toOption = some a ↔ x = .ok a := by
  cases x <;> simp [Except.toOption]

end ZonedAccessors

namespace ZonedAccessors.Grammar

open Token

variable {α β : Type} {c c' : Cursor}

/-! Steps from left to right. -/

theorem run_bind_iff {p : Reader α} {f : α → Reader β} {b : β} :
    (p >>= f).run c = .ok (b, c') ↔
      ∃ a c₁, p.run c = .ok (a, c₁) ∧ (f a).run c₁ = .ok (b, c') := by
  rw [StateT.run_bind, bind_ok_iff, Prod.exists]

theorem run_map_iff {p : Reader α} {f : α → β} {b : β} :
    (f <$> p).run c = .ok (b, c') ↔ ∃ a, p.run c = .ok (a, c') ∧ f a = b := by
  rw [map_eq_pure_bind, run_bind_iff]
  constructor
  · rintro ⟨a, c₁, ha, hb⟩
    cases hb
    exact ⟨a, ha, rfl⟩
  · rintro ⟨a, ha, rfl⟩
    exact ⟨a, c', ha, rfl⟩

theorem run_bind_of_ok {p : Reader α} {f : α → Reader β} {a : α} {c₁ : Cursor}
    (h : p.run c = .ok (a, c₁)) : (p >>= f).run c = (f a).run c₁ := by
  rw [StateT.run_bind, h]
  rfl

@[simp] theorem run_pure (a : α) : (pure a : Reader α).run c = .ok (a, c) := rfl

@[simp] theorem run_refuse (complaint : Complaint) : (refuse complaint : Reader α).run c =
    .error ⟨c.place, c.rest.isEmpty, complaint⟩ := rfl

@[simp] theorem run_refuseOptions (options : List String) :
    (refuseOptions options : Reader α).run c =
      .error ⟨c.place, c.rest.isEmpty, .expected options⟩ := rfl

@[simp] theorem run_refusePlainly (complaint : Complaint) :
    (refusePlainly complaint : Reader α).run c = .error ⟨c.place, false, complaint⟩ := rfl

@[simp] theorem run_advance (ts : Source) :
    (advance ts).run c = .ok ((), { c with rest := ts }) := rfl

@[simp] theorem run_rest_bind (f : Source → Reader β) : (rest >>= f).run c = (f c.rest).run c := rfl

@[simp] theorem run_get_bind (f : Cursor → Reader β) : (get >>= f).run c = (f c).run c := rfl

@[simp] theorem run_advance_bind (ts : Source) (f : Unit → Reader β) :
    (advance ts >>= f).run c = (f ()).run { c with rest := ts } := rfl

theorem run_mark_iff {text : String} {u : Unit} : (mark text).run c = .ok (u, c') ↔
    ∃ ts, afterMark text.toList c.rest = some ts ∧ c' = { c with rest := ts } := by
  unfold mark
  rw [run_rest_bind]
  split
  · rename_i ts h
    simp [eq_comm, h]
  · rename_i h
    simp [h]

theorem run_markIf (text : String) : (markIf text).run c =
    match afterMark text.toList c.rest with
    | some ts => .ok (true, { c with rest := ts })
    | none => .ok (false, c) := by
  unfold markIf
  rw [run_rest_bind]
  cases afterMark text.toList c.rest <;> rfl

theorem isWord_iff {text : String} {ts : Source} :
    isWord text ts = true ↔ ∃ place more, ts = .ident text place :: more := by
  unfold isWord
  split
  · simp only [beq_iff_eq, List.cons.injEq, Tree.ident.injEq]
    constructor
    · rintro rfl
      exact ⟨_, _, ⟨rfl, rfl⟩, rfl⟩
    · rintro ⟨_, _, ⟨rfl, -⟩, -⟩
      rfl
  · rename_i h
    simp only [Bool.false_eq_true, false_iff]
    rintro ⟨place, more, rfl⟩
    exact h text place more rfl

theorem run_keyword_iff {text : String} {u : Unit} : (keyword text).run c = .ok (u, c') ↔
    ∃ place ts, c.rest = .ident text place :: ts ∧ c' = { c with rest := ts } := by
  unfold keyword
  rw [run_rest_bind]
  split
  · rename_i h
    obtain ⟨place, more, hmore⟩ := isWord_iff.mp h
    rw [run_rest_bind, run_advance, hmore]
    simp only [skipped, Except.ok.injEq, Prod.mk.injEq, true_and, List.cons.injEq,
      Tree.ident.injEq]
    constructor
    · rintro rfl
      exact ⟨place, more, ⟨rfl, rfl⟩, rfl⟩
    · rintro ⟨_, _, ⟨-, rfl⟩, rfl⟩
      rfl
  · rename_i h
    simp only [run_refuseOptions, reduceCtorEq, false_iff]
    rintro ⟨place, ts, hts, -⟩
    exact h (isWord_iff.mpr ⟨place, ts, hts⟩)

theorem run_keywordIf (text : String) : (keywordIf text).run c =
    if isWord text c.rest then .ok (true, { c with rest := skipped c.rest }) else .ok (false, c) := by
  unfold keywordIf
  rw [run_rest_bind]
  cases isWord text c.rest <;> rfl

theorem run_anyName_iff {n : String} : anyName.run c = .ok (n, c') ↔
    ∃ place ts, c.rest = .ident n place :: ts ∧ c' = { c with rest := ts } := by
  unfold anyName
  rw [run_rest_bind]
  split
  · rename_i t place ts h
    simp only [h, run_advance_bind, run_pure, Except.ok.injEq, Prod.mk.injEq, List.cons.injEq,
      Tree.ident.injEq]
    constructor
    · rintro ⟨rfl, rfl⟩
      exact ⟨place, ts, ⟨⟨rfl, rfl⟩, rfl⟩, rfl⟩
    · rintro ⟨_, _, ⟨⟨rfl, rfl⟩, rfl⟩, rfl⟩
      exact ⟨rfl, rfl⟩
  · rename_i h
    simp only [run_refuse, reduceCtorEq, false_iff]
    rintro ⟨place, ts, hts, -⟩
    exact h n place ts hts

theorem run_name_iff {n : String} : name.run c = .ok (n, c') ↔
    isKeyword n = false ∧ ∃ place ts, c.rest = .ident n place :: ts ∧ c' = { c with rest := ts } := by
  unfold name
  rw [run_rest_bind]
  split
  · rename_i t place ts h
    split
    · rename_i hk
      constructor
      · intro hr
        cases hr
      · rintro ⟨hn, _, _, hts, -⟩
        rw [h] at hts
        cases hts
        rw [hk] at hn
        cases hn
    · rename_i hk
      change Except.ok (t, { c with rest := ts }) = .ok (n, c') ↔ _
      simp only [h, Except.ok.injEq, Prod.mk.injEq, List.cons.injEq, Tree.ident.injEq]
      constructor
      · rintro ⟨rfl, rfl⟩
        exact ⟨Bool.eq_false_iff.mpr hk, place, ts, ⟨⟨rfl, rfl⟩, rfl⟩, rfl⟩
      · rintro ⟨-, _, _, ⟨⟨rfl, rfl⟩, rfl⟩, rfl⟩
        exact ⟨rfl, rfl⟩
  · rename_i h
    simp only [run_refuseOptions, reduceCtorEq, false_iff]
    rintro ⟨-, place, ts, hts, -⟩
    exact h n place ts hts

theorem run_inside_iff {d : Delimiter} {body : Reader α} {a : α} :
    (inside d body).run c = .ok (a, c') ↔ ∃ inner p ts c₁, c.rest = .group d inner p :: ts ∧
      body.run ⟨inner, some p.tail, c.leftover⟩ = .ok (a, c₁) ∧
      c' = ⟨ts, c.closing, c₁.leftover.or (leftoverOf (some d) c₁.rest)⟩ := by
  unfold inside
  rw [run_get_bind]
  split
  · rename_i e inner p ts h
    split
    · rename_i hd
      subst hd
      rw [StateT.run_bind, StateT.run_monadLift, bind_ok_iff]
      constructor
      · rintro ⟨⟨⟨_, _⟩, _⟩, hbody, hset⟩
        obtain ⟨⟨_, c₁⟩, hrun, hlift⟩ := bind_ok_iff.mp hbody
        cases hlift
        cases hset
        exact ⟨inner, p, ts, _, h, hrun, rfl⟩
      · rintro ⟨_, _, _, c₁, heq, hbody, rfl⟩
        rw [h] at heq
        cases heq
        exact ⟨((a, c₁), c), bind_ok_iff.mpr ⟨_, hbody, rfl⟩, rfl⟩
    · rename_i hd
      simp only [run_refuseOptions, reduceCtorEq, false_iff, h]
      rintro ⟨_, _, _, _, heq, -⟩
      cases heq
      exact hd rfl
  · rename_i h
    simp only [run_refuseOptions, reduceCtorEq, false_iff]
    rintro ⟨inner, p, ts, _, heq, -⟩
    exact h d inner p ts heq

theorem run_of_captured {p : Reader α} {a : α} {ts : Source}
    (h : (captured p).run c = .ok ((a, ts), c')) : p.run c = .ok (a, c') := by
  unfold captured at h
  rw [run_rest_bind] at h
  obtain ⟨b, c₁, hb, h⟩ := run_bind_iff.mp h
  rw [run_rest_bind] at h
  cases h
  exact hb

/-! A whole text. -/

theorem run_of_readAll {p : Reader α} {ts : Source} {a : α} (h : readAll p ts = .ok a) :
    ∃ c', p.run ⟨ts, none, none⟩ = .ok (a, c') := by
  unfold readAll at h
  split at h
  · cases h
  · rename_i found c' hrun
    split at h
    · cases h
    · cases h
      exact ⟨c', hrun⟩

theorem readAll_of_run {p : Reader α} {ts : Source} {a : α} {closing : Option Span}
    (h : p.run ⟨ts, none, none⟩ = .ok (a, ⟨[], closing, none⟩)) : readAll p ts = .ok a := by
  unfold readAll
  rw [h]
  rfl

end ZonedAccessors.Grammar
