import ZonedAccessors.Attribute.Options
import ZonedAccessors.Proofs.Grammar.Reader
import ZonedAccessors.Proofs.Token.Lexed
import Mathlib.Data.List.Perm.Basic

/-!
How options are written: a text, then clauses with a comma before each, and maybe a last comma.
Exactly what is written so, with no slot filled twice, is read.
-/

namespace ZonedAccessors.Attribute

open Token Grammar

inductive Clause where
  | nullable (value : Bool)
  | fallback (text : Located String)
  | runtime (text : String) (path : Syntax.Path)

inductive Slot where
  | nullable
  | fallback
  | runtime
  deriving DecidableEq, Repr

def Clause.slot : Clause → Slot
  | .nullable _ => .nullable
  | .fallback _ => .fallback
  | .runtime .. => .runtime

def Clause.setting : Clause → Setting
  | .nullable b => .nullable b
  | .fallback t => .fallback t
  | .runtime _ p => .runtime p

/-- What a key and the token behind its equals sign say. Only the text of a path has no suffix. -/
def Clause.Spelled (key : String) (v : Token.Tree Span) : Clause → Prop
  | .nullable b => (key = "nullable" ∨ key = "optional") ∧ ∃ place, v = .ident (boolWord b) place
  | .fallback t => key = "fallback" ∧
      ∃ w marked, v = .literal w t.place ∧ literal w = .text t.value marked
  | .runtime t p => key = "crate" ∧ (∃ w place, v = .literal w place ∧ literal w = .text t false) ∧
      pathOfText t = some p

inductive Clauses : Source → List Clause → Prop
  | done : Clauses [] []
  | comma (joint place) : Clauses [.punct ',' joint place] []
  | clause {key v c rest cs} (j p k i q) : c.Spelled key v → Clauses rest cs →
      Clauses (.punct ',' j p :: .ident key k :: .punct '=' i q :: v :: rest) (c :: cs)

inductive Written : Source → Located String → List Clause → Prop
  | mk {w t marked rest cs} (place) : literal w = .text t marked → Clauses rest cs →
      Written (.literal w place :: rest) ⟨t, place⟩ cs

theorem boolWord_injective {a b : Bool} (h : boolWord a = boolWord b) : a = b := by
  revert a b
  decide

theorem Clause.Spelled.unique {key : String} {v : Token.Tree Span} {c d : Clause}
    (hc : c.Spelled key v) (hd : d.Spelled key v) : c = d := by
  cases c with
  | nullable a =>
      obtain ⟨hkey, place, rfl⟩ := hc
      cases d with
      | nullable b =>
          obtain ⟨-, _, hv⟩ := hd
          rw [boolWord_injective (Tree.ident.inj hv).1]
      | fallback t => obtain ⟨-, _, _, hv, -⟩ := hd; cases hv
      | runtime t p => obtain ⟨-, ⟨_, _, hv, -⟩, -⟩ := hd; cases hv
  | fallback s =>
      obtain ⟨rfl, w, marked, rfl, hw⟩ := hc
      cases d with
      | nullable b => obtain ⟨-, _, hv⟩ := hd; cases hv
      | fallback t =>
          obtain ⟨-, w', marked', hv, hw'⟩ := hd
          obtain ⟨rfl, hplace⟩ := Tree.literal.inj hv
          rw [hw] at hw'
          cases s
          cases t
          simp_all
      | runtime t p => exact absurd hd.1 (by decide)
  | runtime s p =>
      obtain ⟨rfl, ⟨w, place, rfl, hw⟩, hp⟩ := hc
      cases d with
      | nullable b => obtain ⟨-, _, hv⟩ := hd; cases hv
      | fallback t => exact absurd hd.1 (by decide)
      | runtime t q =>
          obtain ⟨-, ⟨w', place', hv, hw'⟩, hq⟩ := hd
          obtain ⟨rfl, -⟩ := Tree.literal.inj hv
          rw [hw] at hw'
          simp_all

theorem Clauses.unique {ts : Source} {cs ds : List Clause} (hc : Clauses ts cs)
    (hd : Clauses ts ds) : cs = ds := by
  induction hc generalizing ds with
  | done => cases hd; rfl
  | comma => cases hd; rfl
  | clause j p k i q hs _ ih =>
      cases hd with
      | clause _ _ _ _ _ hs' hd => rw [hs.unique hs', ih hd]

theorem Written.unique {ts : Source} {n m : Located String} {cs ds : List Clause}
    (hc : Written ts n cs) (hd : Written ts m ds) : n = m ∧ cs = ds := by
  cases hc with
  | mk place h hc =>
      cases hd with
      | mk _ h' hd =>
          rw [h] at h'
          cases h'
          exact ⟨rfl, hc.unique hd⟩

namespace Options

def Free (o : Options) : Slot → Prop
  | .nullable => o.nullable = none
  | .fallback => o.fallback = none
  | .runtime => o.runtime = none

def put (o : Options) : Clause → Options
  | .nullable b => { o with nullable := some b }
  | .fallback t => { o with fallback := some t }
  | .runtime _ p => { o with runtime := some p }

theorem set_setting_iff {o o' : Options} {place : Span} {c : Clause} :
    o.set place c.setting = .ok o' ↔ o.Free c.slot ∧ o' = o.put c := by
  cases c with
  | nullable b =>
      cases h : o.nullable <;> simp [Clause.setting, Clause.slot, set, Free, put, refuseAt, h, eq_comm]
  | fallback t =>
      cases h : o.fallback <;> simp [Clause.setting, Clause.slot, set, Free, put, refuseAt, h, eq_comm]
  | runtime t p =>
      cases h : o.runtime <;> simp [Clause.setting, Clause.slot, set, Free, put, refuseAt, h, eq_comm]

theorem free_put {o : Options} {c : Clause} {s : Slot} :
    (o.put c).Free s ↔ c.slot ≠ s ∧ o.Free s := by
  cases c <;> cases s <;> simp [put, Free, Clause.slot]

inductive Takes : Options → List Clause → Options → Prop
  | nil {o} : Takes o [] o
  | cons {o c cs o'} : o.Free c.slot → Takes (o.put c) cs o' → Takes o (c :: cs) o'

theorem exists_takes_iff {o : Options} {cs : List Clause} :
    (∃ o', Takes o cs o') ↔ (cs.map Clause.slot).Nodup ∧ ∀ c ∈ cs, o.Free c.slot := by
  induction cs generalizing o with
  | nil => simpa using ⟨o, .nil⟩
  | cons c cs ih =>
      have hcons : (∃ o', Takes o (c :: cs) o') ↔ o.Free c.slot ∧ ∃ o', Takes (o.put c) cs o' := by
        constructor
        · rintro ⟨o', h⟩
          cases h with
          | cons hf ht => exact ⟨hf, o', ht⟩
        · rintro ⟨hf, o', ht⟩
          exact ⟨o', .cons hf ht⟩
      rw [hcons, ih]
      simp only [free_put, List.map_cons, List.nodup_cons, List.mem_map, List.mem_cons,
        forall_eq_or_imp, not_exists, not_and]
      constructor
      · rintro ⟨hf, hn, hall⟩
        exact ⟨⟨fun d hd he => (hall d hd).1 he.symm, hn⟩, hf, fun d hd => (hall d hd).2⟩
      · rintro ⟨⟨hne, hn⟩, hf, hall⟩
        exact ⟨hf, hn, fun d hd => ⟨fun he => hne d hd he.symm, hall d hd⟩⟩

end Options

/-! Reading what is written. -/

theorem Clause.Spelled.setting_eq {key : String} {v : Token.Tree Span} {c : Clause}
    (h : c.Spelled key v) (place : Span) :
    isOption key = true ∧ ¬ (key = "true" ∨ key = "false") ∧
      ∃ w at', (∀ rest, afterLiteral (v :: rest) = some ((false, w), at', rest)) ∧
        Attribute.setting key place ⟨false, w, at'⟩ = .ok c.setting := by
  cases c with
  | nullable b =>
      obtain ⟨hkey, at', rfl⟩ := h
      have hbool : (⟨false, boolWord b, at'⟩ : Value).boolean = some b := by cases b <;> rfl
      refine ⟨?_, ?_, boolWord b, at', ?_, ?_⟩
      · rcases hkey with rfl | rfl <;> decide
      · rcases hkey with rfl | rfl <;> decide
      · intro rest
        cases b <;> rfl
      · simp [Attribute.setting, hkey, hbool, Clause.setting]
  | fallback t =>
      obtain ⟨rfl, w, marked, rfl, hw⟩ := h
      refine ⟨by decide, by decide, w, t.place, fun rest => rfl, ?_⟩
      simp [Attribute.setting, Value.text, hw, Clause.setting]
  | runtime t p =>
      obtain ⟨rfl, ⟨w, at', rfl, hw⟩, hp⟩ := h
      refine ⟨by decide, by decide, w, at', fun rest => rfl, ?_⟩
      simp [Attribute.setting, Value.text, hw, hp, Clause.setting]

theorem extend_clause {o o₁ : Options} {s : Setting} {key w : String} {negative i j : Bool}
    {p k q here : Span} {value more : Source} (hflag : ¬ (key = "true" ∨ key = "false"))
    (hkey : isOption key = true) (hv : afterLiteral value = some ((negative, w), here, more))
    (hs : Attribute.setting key k ⟨negative, w, here⟩ = .ok s) (ho : o.set k s = .ok o₁) :
    o.extend (.punct ',' j p :: .ident key k :: .punct '=' i q :: value) = o₁.extend more := by
  rw [Options.extend, if_neg hflag]
  simp only [hkey, Bool.not_true, Bool.false_eq_true, if_false]
  split
  · rename_i hfound
    rw [hv] at hfound
    cases hfound
    rw [hs]
    change (do let o ← o.set k s; o.extend more) = _
    rw [ho]
    rfl
  · rename_i hfound
    rw [hv] at hfound
    cases hfound

theorem extend_complete {ts : Source} {cs : List Clause} (h : Clauses ts cs) {o o' : Options}
    (ht : o.Takes cs o') : o.extend ts = .ok o' := by
  induction h generalizing o with
  | done =>
      cases ht
      rw [Options.extend]
  | comma =>
      cases ht
      rw [Options.extend]
  | @clause key v c rest cs j p k i q hs _ ih =>
      cases ht with
      | cons hf ht =>
          obtain ⟨hkey, hflag, w, at', hafter, hset⟩ := hs.setting_eq k
          have hput : o.set k c.setting = .ok (o.put c) := Options.set_setting_iff.mpr ⟨hf, rfl⟩
          exact (extend_clause hflag hkey (hafter rest) hset hput).trans (ih ht)

theorem Value.boolean_eq_some_iff {v : Value} {b : Bool} :
    v.boolean = some b ↔ v.written = boolWord b := by
  unfold Value.boolean
  split
  · rename_i h
    cases b <;> simp [h, boolWord]
  · split
    · rename_i h
      cases b <;> simp [h, boolWord]
    · cases b <;> simp_all [boolWord]

theorem Value.text_eq_some_iff {v : Value} {t : String} {marked : Bool} :
    v.text = some (t, marked) ↔ literal v.written = .text t marked := by
  unfold Value.text
  split
  · rename_i h
    simp [h]
  · rename_i h
    simp only [reduceCtorEq, false_iff]
    exact fun h' => h _ _ h'

section Front

variable {value more : Source} {negative : Bool} {w : String} {at' : Span}

theorem afterLiteral_cases (h : afterLiteral value = some ((negative, w), at', more)) :
    value = .literal w at' :: more ∨ (∃ b, w = boolWord b ∧ value = .ident w at' :: more) ∨
      literal w = .number := by
  unfold afterLiteral at h
  split at h
  · cases h
    exact .inl rfl
  · split at h
    · rename_i hw
      cases h
      rcases Bool.or_eq_true_iff.mp hw with hw | hw
      · exact .inr (.inl ⟨true, eq_of_beq hw, rfl⟩)
      · exact .inr (.inl ⟨false, eq_of_beq hw, rfl⟩)
    · cases h
  · split at h
    · rename_i hw
      cases h
      exact .inr (.inr hw)
    · cases h
  · cases h

theorem literal_boolWord (b : Bool) : literal (boolWord b) = .other := by
  cases b <;> decide

theorem ident_of_boolWord {b : Bool}
    (h : afterLiteral value = some ((negative, boolWord b), at', more)) (hl : LexedAll value) :
    value = .ident (boolWord b) at' :: more := by
  rcases afterLiteral_cases h with rfl | ⟨_, -, rfl⟩ | hn
  · exact absurd rfl (hl.1.ne_boolWord b)
  · rfl
  · rw [literal_boolWord] at hn
    cases hn

theorem literal_of_text {t : String} {marked : Bool}
    (h : afterLiteral value = some ((negative, w), at', more)) (ht : literal w = .text t marked) :
    value = .literal w at' :: more := by
  rcases afterLiteral_cases h with rfl | ⟨b, rfl, -⟩ | hn
  · rfl
  · rw [literal_boolWord] at ht
    cases ht
  · rw [hn] at ht
    cases ht

theorem setting_sound {key : String} {k : Span} {s : Setting}
    (hv : afterLiteral value = some ((negative, w), at', more)) (hl : LexedAll value)
    (h : setting key k ⟨negative, w, at'⟩ = .ok s) :
    ∃ (v : Token.Tree Span) (c : Clause), value = v :: more ∧ c.Spelled key v ∧ s = c.setting := by
  unfold setting at h
  split at h
  · rename_i hkey
    split at h
    · rename_i b hb
      cases h
      obtain rfl := Value.boolean_eq_some_iff.mp hb
      exact ⟨_, .nullable b, ident_of_boolWord hv hl, ⟨hkey, at', rfl⟩, rfl⟩
    · cases h
  split at h
  · rename_i hkey
    split at h
    · rename_i t marked ht
      cases h
      have hw := Value.text_eq_some_iff.mp ht
      exact ⟨_, .fallback ⟨t, at'⟩, literal_of_text hv hw, ⟨hkey, w, marked, rfl, hw⟩, rfl⟩
    · cases h
  split at h
  · rename_i hkey
    split at h
    · cases h
    · rename_i t marked ht
      have hw := Value.text_eq_some_iff.mp ht
      split at h
      · rename_i p hp
        cases h
        cases marked with
        | true => cases hp
        | false => exact ⟨_, .runtime t p, literal_of_text hv hw, ⟨hkey, ⟨w, at', rfl, hw⟩, hp⟩, rfl⟩
      · cases h
  · cases h

end Front

theorem extend_sound {o o' : Options} {ts : Source} (hl : LexedAll ts)
    (h : o.extend ts = .ok o') : ∃ cs, Clauses ts cs ∧ o.Takes cs o' := by
  fun_induction Options.extend o ts with
  | case1 o =>
      cases h
      exact ⟨[], .done, .nil⟩
  | case2 o j p =>
      cases h
      exact ⟨[], .comma j p, .nil⟩
  | case5 o j p key k _ i q value _ negative w at' more hv ih =>
      obtain ⟨-, -, -, hvalue⟩ := hl
      obtain ⟨s, hs, h⟩ := bind_ok_iff.mp h
      obtain ⟨o₁, ho, h⟩ := bind_ok_iff.mp h
      obtain ⟨v, c, rfl, hc, rfl⟩ := setting_sound hv hvalue hs
      obtain ⟨hf, rfl⟩ := Options.set_setting_iff.mp ho
      obtain ⟨cs, hcs, ht⟩ := ih (o.put c) hvalue.2 h
      exact ⟨c :: cs, .clause j p k i q hc hcs, .cons hf ht⟩
  | _ => cases h

theorem read_sound {o : Options} {ts : Source} (hl : LexedAll ts) (h : Options.read ts = .ok o) :
    ∃ name cs, Written ts name cs ∧ Options.Takes ⟨name, none, none, none⟩ cs o := by
  unfold Options.read at h
  split at h
  · split at h
    · rename_i hw
      obtain ⟨cs, hcs, ht⟩ := extend_sound hl.2 h
      exact ⟨_, cs, .mk _ hw hcs, ht⟩
    · cases h
  · cases h

theorem read_complete {o : Options} {ts : Source} {name : Located String} {cs : List Clause}
    (h : Written ts name cs) (ht : Options.Takes ⟨name, none, none, none⟩ cs o) :
    Options.read ts = .ok o := by
  cases h with
  | mk place hw hcs =>
      simp only [Options.read, hw]
      exact extend_complete hcs ht

/-! What the options hold. -/

structure Options.Holds (o : Options) (name : Located String) (cs : List Clause) : Prop where
  name_eq : o.name = name
  nullable_iff : ∀ b, o.nullable = some b ↔ .nullable b ∈ cs
  fallback_iff : ∀ t, o.fallback = some t ↔ .fallback t ∈ cs
  runtime_iff : ∀ p, o.runtime = some p ↔ ∃ t, .runtime t p ∈ cs

namespace Options

theorem Takes.keeps {o o' : Options} {cs : List Clause} (h : o.Takes cs o') :
    o'.name = o.name ∧ (∀ b, o'.nullable = some b ↔ o.nullable = some b ∨ .nullable b ∈ cs) ∧
      (∀ t, o'.fallback = some t ↔ o.fallback = some t ∨ .fallback t ∈ cs) ∧
      ∀ p, o'.runtime = some p ↔ o.runtime = some p ∨ ∃ t, .runtime t p ∈ cs := by
  induction h with
  | nil => simp
  | @cons o c cs o' hf _ ih =>
      obtain ⟨hn, hb, ht, hp⟩ := ih
      cases c with
      | nullable b =>
          have hfree : o.nullable = none := hf
          simp [hn, hb, ht, hp, put, hfree, eq_comm]
      | fallback t =>
          have hfree : o.fallback = none := hf
          simp [hn, hb, ht, hp, put, hfree, eq_comm]
      | runtime t p =>
          have hfree : o.runtime = none := hf
          simp [hn, hb, ht, hp, put, hfree, eq_comm, exists_or]

theorem Takes.holds {o : Options} {name : Located String} {cs : List Clause}
    (h : Takes ⟨name, none, none, none⟩ cs o) : o.Holds name cs := by
  obtain ⟨hn, hb, ht, hp⟩ := h.keeps
  exact ⟨hn, by simpa using hb, by simpa using ht, by simpa using hp⟩

theorem Holds.unique {o o' : Options} {name : Located String} {cs : List Clause}
    (h : o.Holds name cs) (h' : o'.Holds name cs) : o = o' := by
  cases o
  cases o'
  have hn := h.name_eq.trans h'.name_eq.symm
  have hb := Option.ext fun b => (h.nullable_iff b).trans (h'.nullable_iff b).symm
  have ht := Option.ext fun t => (h.fallback_iff t).trans (h'.fallback_iff t).symm
  have hp := Option.ext fun p => (h.runtime_iff p).trans (h'.runtime_iff p).symm
  simp_all

theorem Holds.perm {o : Options} {name : Located String} {cs ds : List Clause}
    (h : o.Holds name cs) (hp : cs.Perm ds) : o.Holds name ds where
  name_eq := h.name_eq
  nullable_iff b := (h.nullable_iff b).trans hp.mem_iff
  fallback_iff t := (h.fallback_iff t).trans hp.mem_iff
  runtime_iff p := (h.runtime_iff p).trans (exists_congr fun _ => hp.mem_iff)

end Options

/-! Forgetting places. -/

def Located.unplaced {α : Type} (l : Located α) : Located α := ⟨l.value, ⟨0, 0⟩⟩

def Clause.unplaced : Clause → Clause
  | .fallback t => .fallback t.unplaced
  | c => c

def Options.unplaced (o : Options) : Options :=
  ⟨o.name.unplaced, o.nullable, o.fallback.map Located.unplaced, o.runtime⟩

theorem Clause.slot_unplaced (c : Clause) : c.unplaced.slot = c.slot := by
  cases c <;> rfl

theorem Options.Holds.unplaced {o : Options} {name : Located String} {cs : List Clause}
    (h : o.Holds name cs) : o.unplaced.Holds name.unplaced (cs.map Clause.unplaced) where
  name_eq := congrArg Located.unplaced h.name_eq
  nullable_iff b := by
    refine (h.nullable_iff b).trans ⟨fun hc => List.mem_map.mpr ⟨_, hc, rfl⟩, fun hc => ?_⟩
    obtain ⟨c, hmem, he⟩ := List.mem_map.mp hc
    cases c <;> cases he
    exact hmem
  fallback_iff t := by
    simp only [Options.unplaced, Option.map_eq_some_iff, h.fallback_iff]
    constructor
    · rintro ⟨u, hu, rfl⟩
      exact List.mem_map.mpr ⟨_, hu, rfl⟩
    · intro hc
      obtain ⟨c, hmem, he⟩ := List.mem_map.mp hc
      cases c <;> cases he
      exact ⟨_, hmem, rfl⟩
  runtime_iff p := by
    refine (h.runtime_iff p).trans (exists_congr fun t => ?_)
    refine ⟨fun hc => List.mem_map.mpr ⟨_, hc, rfl⟩, fun hc => ?_⟩
    obtain ⟨c, hmem, he⟩ := List.mem_map.mp hc
    cases c <;> cases he
    exact hmem

theorem Options.exists_takes (name : Located String) {cs : List Clause}
    (h : (cs.map Clause.slot).Nodup) : ∃ o, Options.Takes ⟨name, none, none, none⟩ cs o :=
  Options.exists_takes_iff.mpr ⟨h, fun c _ => by cases c <;> rfl⟩

/-- Options written in another order, at other places, are the same but for the places. -/
theorem read_perm {ts' : Source} {name name' : Located String} {cs cs' : List Clause}
    {o : Options} (h : o.Holds name cs) (hn : (cs.map Clause.slot).Nodup)
    (hw : Written ts' name' cs') (hname : name'.unplaced = name.unplaced)
    (hp : (cs'.map Clause.unplaced).Perm (cs.map Clause.unplaced)) :
    ∃ o', Options.read ts' = .ok o' ∧ o'.unplaced = o.unplaced := by
  have hslots : (cs'.map Clause.slot).Perm (cs.map Clause.slot) := by
    simpa only [List.map_map, Function.comp_def, Clause.slot_unplaced] using hp.map Clause.slot
  obtain ⟨o', ht⟩ := Options.exists_takes name' (hslots.nodup_iff.mpr hn)
  refine ⟨o', read_complete hw ht, ?_⟩
  have h' := ht.holds.unplaced.perm hp
  rw [hname] at h'
  exact h'.unique h.unplaced

theorem read_ok_iff_written {text : String} {ts : Source} (h : Token.ofText text = some ts) :
    ((∃ o, Options.read ts = .ok o) ↔
      ∃ name cs, Written ts name cs ∧ (cs.map Clause.slot).Nodup) ∧
    ∀ o name cs, Options.read ts = .ok o → Written ts name cs →
      o.Holds name cs ∧
      ∀ ts' name' cs', Written ts' name' cs' → name'.unplaced = name.unplaced →
        (cs'.map Clause.unplaced).Perm (cs.map Clause.unplaced) →
        ∃ o', Options.read ts' = .ok o' ∧ o'.unplaced = o.unplaced := by
  have hl := ofText_lexed h
  have sound {o : Options} (hr : Options.read ts = .ok o) :
      ∃ name cs, Written ts name cs ∧ (cs.map Clause.slot).Nodup ∧ o.Holds name cs := by
    obtain ⟨name, cs, hw, ht⟩ := read_sound hl hr
    exact ⟨name, cs, hw, (Options.exists_takes_iff.mp ⟨o, ht⟩).1, ht.holds⟩
  refine ⟨⟨?_, ?_⟩, ?_⟩
  · rintro ⟨o, hr⟩
    obtain ⟨name, cs, hw, hn, -⟩ := sound hr
    exact ⟨name, cs, hw, hn⟩
  · rintro ⟨name, cs, hw, hn⟩
    obtain ⟨o, ht⟩ := Options.exists_takes name hn
    exact ⟨o, read_complete hw ht⟩
  · intro o name cs hr hw
    obtain ⟨name₁, cs₁, hw₁, hn, hh⟩ := sound hr
    obtain ⟨rfl, rfl⟩ := hw₁.unique hw
    exact ⟨hh, fun ts' name' cs' hw' hname hp => read_perm hh hn hw' hname hp⟩

theorem read_ok_iff_written_last_comma :
    ∃ ts, Token.ofText "\"bedtime\", optional = true, crate = \"a::b\"," = some ts ∧
      ∃ name cs, Written ts name cs ∧ (cs.map Clause.slot).Nodup := by
  have hsome : (Token.ofText "\"bedtime\", optional = true, crate = \"a::b\",").isSome = true := by
    decide +kernel
  have hread : (Options.read ((Token.ofText
      "\"bedtime\", optional = true, crate = \"a::b\",").get (by decide +kernel))).isOk = true := by
    decide +kernel
  have hts := (Option.some_get hsome).symm
  exact ⟨_, hts, (read_ok_iff_written hts).1.mp (exists_of_isOk hread)⟩

end ZonedAccessors.Attribute
