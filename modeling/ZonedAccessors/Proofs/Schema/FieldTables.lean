import ZonedAccessors.Proofs.Grammar.Reader
import ZonedAccessors.Proofs.Toml.Spelling
import ZonedAccessors.Schema.Decode
import Mathlib.Data.List.Pairwise

/-!
The table of a field, taken entry by entry. Entries are sorted before they are decoded, and a key
that comes twice is refused before that; together this amounts to filling each part of the field
once, in the order in which the entries are written.
-/

namespace ZonedAccessors.Schema

open Toml

/-! The parts of a field. -/

inductive Part where
  | name (text : String)
  | nullable (value : Bool)
  | policy (policy : Policy)

/-- The part that an entry gives. -/
def partOf (key : String) (v : Value) : Option Part :=
  if key = "name" then (text v).toOption.map .name
  else if key = "nullable" ∨ key = "optional" then (boolean v).toOption.map .nullable
  else if key = "fallback" then (policy v).toOption.map .policy
  else none

/-- The keys that give the same part. -/
def Part.keys : Part → List String
  | .name _ => ["name"]
  | .nullable _ => ["nullable", "optional"]
  | .policy _ => ["fallback"]

theorem mem_keys_of_partOf {key : String} {v : Value} {p : Part} (h : partOf key v = some p) :
    key ∈ p.keys := by
  unfold partOf at h
  split at h
  · rename_i hkey
    obtain ⟨s, -, rfl⟩ := Option.map_eq_some_iff.mp h
    simp [Part.keys, hkey]
  split at h
  · rename_i hkey
    obtain ⟨b, -, rfl⟩ := Option.map_eq_some_iff.mp h
    simpa [Part.keys] using hkey
  split at h
  · rename_i hkey
    obtain ⟨q, -, rfl⟩ := Option.map_eq_some_iff.mp h
    simp [Part.keys, hkey]
  · cases h

namespace FieldDraft

def has (d : FieldDraft) : Part → Bool
  | .name _ => d.name.isSome
  | .nullable _ => d.nullable.isSome
  | .policy _ => d.policy.isSome

def put (d : FieldDraft) : Part → FieldDraft
  | .name s => { d with name := some s }
  | .nullable b => { d with nullable := some b }
  | .policy p => { d with policy := some p }

/-- A part that is there already is not given again. -/
def take (d : FieldDraft) (key : String) (v : Value) : Option FieldDraft :=
  (partOf key v).bind fun p => if d.has p then none else some (d.put p)

def empty : FieldDraft := ⟨none, none, none⟩

def add? (d : FieldDraft) (entry : String × Value) : Option FieldDraft := (d.add entry).toOption

/-- Only whether a field is nullable is guarded by itself. -/
def guards (d : FieldDraft) : Part → Bool
  | .nullable _ => d.nullable.isSome
  | _ => false

theorem add?_eq (d : FieldDraft) (entry : String × Value) :
    d.add? entry = (partOf entry.1 entry.2).bind fun p =>
      if d.guards p then none else some (d.put p) := by
  unfold add? add partOf
  split
  · cases text entry.2 <;> rfl
  split
  · cases hn : d.nullable with
    | none =>
        cases boolean entry.2 with
        | error e => simp [Except.toOption, guards, hn]
        | ok b =>
            simp [Except.toOption, guards, hn]
            rfl
    | some b => cases boolean entry.2 <;> simp [Except.toOption, guards, hn]
  split
  · cases Schema.policy entry.2 <;> rfl
  · rfl

theorem has_put (d : FieldDraft) (p q : Part) :
    (d.put p).has q = true ↔ d.has q = true ∨ p.keys = q.keys := by
  cases p <;> cases q <;> simp [put, has, Part.keys]

end FieldDraft

theorem keys_eq_of_mem {p q : Part} {key : String} (hp : key ∈ p.keys) (hq : key ∈ q.keys) :
    p.keys = q.keys := by
  cases p <;> cases q <;> simp_all [Part.keys]

namespace FieldDraft

/-- Entries with different keys can be added in any order. -/
theorem add?_comm (d : FieldDraft) {e e' : String × Value} (h : e.1 ≠ e'.1) :
    (d.add? e).bind (·.add? e') = (d.add? e').bind (·.add? e) := by
  simp only [add?_eq]
  cases hp : partOf e.1 e.2 with
  | none => cases partOf e'.1 e'.2 <;> simp
  | some p =>
      cases hq : partOf e'.1 e'.2 with
      | none => simp
      | some q =>
          have hkey := mem_keys_of_partOf hp
          have hkey' := mem_keys_of_partOf hq
          -- only flags share a part, and of two flags neither is added after the other
          obtain ⟨name, nullable, policy⟩ := d
          cases nullable <;> cases p <;> cases q <;> simp_all [Part.keys, guards, put]

/-- An entry can be added first or last if its key is no other's. -/
theorem add?_foldlM {e : String × Value} {es : List (String × Value)} (h : ∀ x ∈ es, e.1 ≠ x.1)
    (d : FieldDraft) :
    (d.add? e).bind (es.foldlM add? ·) = (es.foldlM add? d).bind (·.add? e) := by
  induction es generalizing d with
  | nil => simp
  | cons x es ih =>
      have ih' := ih fun y hy => h y (by simp [hy])
      calc (d.add? e).bind (fun d => (x :: es).foldlM add? d)
          = ((d.add? e).bind (·.add? x)).bind (es.foldlM add? ·) := by
            rw [Option.bind_assoc]
            rfl
        _ = ((d.add? x).bind (·.add? e)).bind (es.foldlM add? ·) := by
            rw [add?_comm d (h x (by simp))]
        _ = (d.add? x).bind fun d => (es.foldlM add? d).bind (·.add? e) := by
            rw [Option.bind_assoc]
            exact congrArg _ (funext ih')
        _ = ((x :: es).foldlM add? d).bind (·.add? e) := by
            rw [← Option.bind_assoc]
            rfl

theorem foldlM_insertKey {key : String} {v : Value} {es : List (String × Value)}
    (h : ∀ x ∈ es, key ≠ x.1) (d : FieldDraft) :
    (insertKey key v es).foldlM add? d = (es.foldlM add? d).bind (·.add? (key, v)) := by
  induction es generalizing d with
  | nil => simp [insertKey]
  | cons x es ih =>
      rw [insertKey]
      split
      · exact add?_foldlM h d
      · have ih' := ih fun y hy => h y (by simp [hy])
        change (d.add? x).bind ((insertKey key v es).foldlM add? ·) =
          ((d.add? x).bind (es.foldlM add? ·)).bind (·.add? (key, v))
        rw [Option.bind_assoc]
        exact congrArg _ (funext ih')

/-- What is there after some entries. -/
theorem has_of_add? {d d' : FieldDraft} {e : String × Value} (h : d.add? e = some d') (p : Part) :
    d'.has p = true ↔ d.has p = true ∨ e.1 ∈ p.keys := by
  rw [add?_eq] at h
  obtain ⟨q, hq, h⟩ := Option.bind_eq_some_iff.mp h
  split at h
  · cases h
  · cases h
    rw [has_put]
    have hmem := mem_keys_of_partOf hq
    refine or_congr Iff.rfl ⟨fun heq => heq ▸ hmem, fun hp => keys_eq_of_mem hmem hp⟩

theorem has_of_foldlM {es : List (String × Value)} {d d' : FieldDraft}
    (h : es.foldlM add? d = some d') (p : Part) :
    d'.has p = true ↔ d.has p = true ∨ ∃ e ∈ es, e.1 ∈ p.keys := by
  induction es generalizing d with
  | nil =>
      cases h
      simp
  | cons e es ih =>
      obtain ⟨d₁, hd₁, h⟩ := Option.bind_eq_some_iff.mp h
      rw [ih h, has_of_add? hd₁]
      simp [or_assoc]

end FieldDraft

/-! The table of a field. -/

theorem entryValues_insertKey (key : String) (n : Node) (es : List (String × Node)) :
    entryValues (insertKey key n es) = insertKey key n.value (entryValues es) := by
  induction es with
  | nil => simp [insertKey, entryValues]
  | cons e es ih =>
      obtain ⟨k, m⟩ := e
      simp only [insertKey, entryValues]
      split
      · simp [entryValues]
      · simp [entryValues, ih]

theorem keys_entryValues (es : List (String × Node)) :
    (entryValues es).map (·.1) = es.map (·.1) := by
  induction es with
  | nil => simp [entryValues]
  | cons e es ih => simp [entryValues, ih]

/-- The parts of a field in its table. -/
def draftOf (t : Table) : Option FieldDraft := (entryValues t.entries).foldlM FieldDraft.add? .empty

theorem find?_eq_none_iff {t : Table} {key : String} :
    t.find? key = none ↔ ∀ e ∈ entryValues t.entries, key ≠ e.1 := by
  have hkeys : (∀ e ∈ entryValues t.entries, key ≠ e.1) ↔ key ∉ t.entries.map (·.1) := by
    rw [← keys_entryValues]
    simp only [List.mem_map, not_exists, not_and]
    exact forall₂_congr fun e _ => ne_comm
  rw [hkeys]
  unfold Table.find?
  simp [List.find?_eq_none]
  grind

theorem define_eq {t : Table} (ht : t.origin = .declared) (key : String) (v : Value) :
    t.define [key] v = if t.find? key = none then some (t.put key (.closed v)) else none := by
  unfold Table.define splitLast Table.within
  simp [ht]
  cases t.find? key <;> simp

theorem define_origin {t u : Table} (ht : t.origin = .declared) {key : String} {v : Value}
    (h : t.define [key] v = some u) : u.origin = .declared := by
  rw [define_eq ht] at h
  split at h
  · cases h
    exact ht
  · cases h

/-- Where no entry has the key, a part is guarded by itself. -/
theorem guards_of_fresh {t : Table} {d : FieldDraft} (hd : draftOf t = some d) {key : String}
    {v : Value} {p : Part} (hp : partOf key v = some p)
    (hfresh : ∀ e ∈ entryValues t.entries, key ≠ e.1) : d.guards p = d.has p := by
  have hmem := mem_keys_of_partOf hp
  have hsingle (hkeys : p.keys = [key]) : d.has p = false := by
    rw [Bool.eq_false_iff, ne_eq, FieldDraft.has_of_foldlM hd p, hkeys]
    rintro (hnone | ⟨e, he, hkey⟩)
    · cases p <;> cases hnone
    · exact hfresh e he (List.mem_singleton.mp hkey).symm
  cases p with
  | nullable b => rfl
  | name s =>
      rw [hsingle (by rw [List.mem_singleton.mp hmem]; rfl)]
      rfl
  | policy q =>
      rw [hsingle (by rw [List.mem_singleton.mp hmem]; rfl)]
      rfl

/-- No key is taken twice. -/
theorem take_of_mem {t : Table} {d : FieldDraft} (hd : draftOf t = some d) {e : String × Value}
    (he : e ∈ entryValues t.entries) (v : Value) : d.take e.1 v = none := by
  rw [FieldDraft.take]
  cases hp : partOf e.1 v with
  | none => rfl
  | some p =>
      have hhas := (FieldDraft.has_of_foldlM hd p).mpr (.inr ⟨e, he, mem_keys_of_partOf hp⟩)
      rw [Option.bind_some, if_pos hhas]

theorem draftOf_put {t : Table} {key : String} (hfind : t.find? key = none) (v : Value) :
    draftOf (t.put key (.closed v)) = (draftOf t).bind (·.add? (key, v)) := by
  have hothers : t.entries.filter (fun e => e.1 != key) = t.entries := by
    rw [List.filter_eq_self]
    unfold Table.find? at hfind
    simpa using hfind
  unfold draftOf Table.put
  rw [hothers, entryValues_insertKey]
  exact FieldDraft.foldlM_insertKey (find?_eq_none_iff.mp hfind) .empty

/-- One more entry. -/
theorem draftOf_define {t : Table} (ht : t.origin = .declared) (key : String) (v : Value) :
    (t.define [key] v).bind draftOf = (draftOf t).bind (·.take key v) := by
  rw [define_eq ht]
  cases hfind : t.find? key with
  | none =>
      rw [if_pos rfl, Option.bind_some, draftOf_put hfind]
      cases hd : draftOf t with
      | none => rfl
      | some d =>
          simp only [Option.bind_some, FieldDraft.add?_eq, FieldDraft.take]
          cases hp : partOf key v with
          | none => rfl
          | some p =>
              rw [Option.bind_some, Option.bind_some,
                guards_of_fresh hd hp (find?_eq_none_iff.mp hfind)]
  | some n =>
      obtain ⟨e, he, rfl⟩ : ∃ e ∈ entryValues t.entries, key = e.1 := by
        by_contra hno
        simp only [not_exists, not_and] at hno
        rw [find?_eq_none_iff.mpr hno] at hfind
        cases hfind
      rw [if_neg (by simp), Option.bind_none]
      cases hd : draftOf t with
      | none => rfl
      | some d => exact (take_of_mem hd he v).symm

theorem take_read {g : Given} {w : List Char} (hw : g.InToml w) (d : FieldDraft) (key : String) :
    (g.read w).bind (d.take key ·) = d.take key g.value := by
  cases g with
  | text s => rfl
  | boolean b => rfl
  | integer n =>
      have hnumber {v : Value}
          (hv : (∃ m, v = .integer m) ∨ (∃ r, v = .real r) ∨ v = .moment) : partOf key v = none := by
        rcases hv with ⟨m, rfl⟩ | ⟨r, rfl⟩ | rfl
        all_goals simp [partOf, text, boolean, Schema.policy, Except.toOption]
      have hnone : d.take key (Given.integer n).value = none := by
        change (partOf key (.integer n)).bind _ = none
        rw [hnumber (.inl ⟨n, rfl⟩), Option.bind_none]
      rw [hnone, Option.bind_eq_none_iff]
      intro v hv
      rw [FieldDraft.take, hnumber (read_integer hw hv), Option.bind_none]

/-! The document around it. -/

/-- One type, of one field. -/
def withField (type : String) (t : Table) : Table :=
  ⟨.declared, [("types", .tables [] ⟨.declared,
    [("fields", .tables [] t), ("name", .closed (.text type))]⟩)]⟩

theorem addLine_withField (type : String) (t : Table) (key : String) (v : Value) :
    addLine (withField type t, ["types", "fields"]) (.entry [key] v) =
      (t.define [key] v).map fun u => (withField type u, ["types", "fields"]) := by
  have hwithin (change : Table → Option Table) :
      (withField type t).within false change ["types", "fields"] =
        (change t).map (withField type) := by
    have horder : "fields" < "name" := by decide
    unfold withField
    simp [Table.within, Table.find?, Table.put, insertKey, Function.comp_def, horder]
  change ((withField type t).within false (·.define [key] v) ["types", "fields"]).map _ = _
  rw [hwithin, Option.map_map]
  rfl

def decoded (s : Table × List String) : Option Schema :=
  match s.1.value with
  | .table entries => (decode entries).toOption
  | _ => none

def FieldDraft.schema (d : FieldDraft) (type : String) : Option Schema :=
  d.finish.toOption.map fun f => [⟨type, none, none, [f]⟩]

theorem toOption_foldlM {ε σ α : Type} (f : σ → α → Except ε σ) (s : σ) (as : List α) :
    (as.foldlM f s).toOption = as.foldlM (fun s a => (f s a).toOption) s := by
  induction as generalizing s with
  | nil => rfl
  | cons a as ih =>
      rw [List.foldlM_cons, List.foldlM_cons]
      cases h : f s a with
      | error e => rfl
      | ok s' => exact ih s'

theorem decoded_withField (type : String) (t : Table) (path : List String) :
    decoded (withField type t, path) = (draftOf t).bind (·.schema type) := by
  obtain ⟨origin, es⟩ := t
  have hfield : (field (.table (entryValues es))).toOption =
      (draftOf ⟨origin, es⟩).bind (·.finish.toOption) := by
    have hdraft := toOption_foldlM FieldDraft.add .empty (entryValues es)
    change ((entryValues es).foldlM FieldDraft.add .empty).toOption = draftOf ⟨origin, es⟩ at hdraft
    rw [← hdraft]
    change ((entryValues es).foldlM FieldDraft.add .empty >>= FieldDraft.finish).toOption = _
    cases (entryValues es).foldlM FieldDraft.add .empty <;> rfl
  have hdecoded : decoded (withField type ⟨origin, es⟩, path) =
      (field (.table (entryValues es))).toOption.map fun f => [⟨type, none, none, [f]⟩] := by
    change (decode [("types", .array [.table [("fields", .array [.table (entryValues es)]),
      ("name", .text type)]])]).toOption = _
    cases h : field (.table (entryValues es)) with
    | error e =>
        simp [decode, add, listOf, typeEntry, TypeDraft.add, h]
        rfl
    | ok f =>
        simp [decode, add, listOf, typeEntry, TypeDraft.add, h]
        rfl
  rw [hdecoded, hfield, Option.map_bind]
  rfl

/-- What is read from the lines that are left. -/
def documentFrom (fuel : Nat) (cs : List Char) (s : Table × List String) :
    Option (Table × List String) :=
  (linesFrom fuel cs).bind (·.foldlM addLine s)

theorem documentFrom_line {cs rest : List Char} {l : Option Line}
    (h : line cs = l.map fun l => (l, '\n' :: rest)) (fuel : Nat) (s : Table × List String) :
    documentFrom (fuel + 1) cs s = l.bind fun l => (addLine s l).bind (documentFrom fuel rest) := by
  unfold documentFrom
  rw [linesFrom, h]
  cases l with
  | none => rfl
  | some l =>
      change ((linesFrom fuel rest).bind fun ls => some (l :: ls)).bind (·.foldlM addLine s) =
        (addLine s l).bind fun s => (linesFrom fuel rest).bind (·.foldlM addLine s)
      cases linesFrom fuel rest with
      | none => simp
      | some ls => rfl

inductive Entries : List Char → List (String × Given) → Prop
  | nil : Entries [] []
  | cons {key g w cs ps} : isPlainKey key = true → g.InToml w → Entries cs ps →
      Entries (key.toList ++ ' ' :: '=' :: ' ' :: (w ++ '\n' :: cs)) ((key, g) :: ps)

def takeAll (d : FieldDraft) (ps : List (String × Given)) : Option FieldDraft :=
  ps.foldlM (fun d p => d.take p.1 p.2.value) d

theorem documentFrom_entries {cs : List Char} {ps : List (String × Given)} (h : Entries cs ps)
    {fuel : Nat} (hfuel : ps.length < fuel) {t : Table} (ht : t.origin = .declared)
    (type : String) :
    (documentFrom fuel cs (withField type t, ["types", "fields"])).bind decoded =
      ((draftOf t).bind (takeAll · ps)).bind (·.schema type) := by
  induction h generalizing fuel t with
  | nil =>
      obtain ⟨fuel, rfl⟩ := Nat.exists_eq_add_one_of_ne_zero (Nat.ne_of_gt hfuel)
      change decoded (withField type t, ["types", "fields"]) = _
      rw [decoded_withField]
      cases draftOf t <;> rfl
  | @cons key g w cs ps hkey hw _ ih =>
      obtain ⟨fuel, rfl⟩ := Nat.exists_eq_add_one_of_ne_zero (Nat.ne_of_gt (Nat.zero_lt_of_lt hfuel))
      have hline : line (key.toList ++ ' ' :: '=' :: ' ' :: (w ++ '\n' :: cs)) =
          ((g.read w).map (Line.entry [key])).map fun l => (l, '\n' :: cs) := by
        rw [line_entry hkey hw, Option.map_map]
        rfl
      rw [documentFrom_line hline]
      have hrest (v : Value) : ((addLine (withField type t, ["types", "fields"])
          (.entry [key] v)).bind (documentFrom fuel cs)).bind decoded =
            (((draftOf t).bind (·.take key v)).bind (takeAll · ps)).bind (·.schema type) := by
        rw [addLine_withField, ← draftOf_define ht]
        cases hu : t.define [key] v with
        | none => rfl
        | some u => exact ih (Nat.lt_of_succ_lt_succ hfuel) (define_origin ht hu)
      cases hd : draftOf t with
      | none =>
          cases g.read w with
          | none => rfl
          | some v => exact (hrest v).trans (by rw [hd]; rfl)
      | some d =>
          have htake : takeAll d ((key, g) :: ps) = (d.take key g.value).bind (takeAll · ps) := rfl
          rw [Option.bind_some, htake, ← take_read hw d key]
          cases g.read w with
          | none => rfl
          | some v => exact (hrest v).trans (by rw [hd]; rfl)

theorem Entries.length_le {cs : List Char} {ps : List (String × Given)} (h : Entries cs ps) :
    ps.length ≤ cs.length := by
  induction h with
  | nil => exact Nat.le_refl 0
  | cons _ _ _ ih =>
      simp only [List.length_cons, List.length_append]
      omega

theorem exists_entries {ps : List (String × Given)} (h : ∀ p ∈ ps, isPlainKey p.1 = true) :
    ∃ cs, Entries cs ps := by
  induction ps with
  | nil => exact ⟨[], .nil⟩
  | cons p ps ih =>
      obtain ⟨cs, hcs⟩ := ih fun q hq => h q (by simp [hq])
      obtain ⟨w, hw⟩ := exists_inToml p.2
      exact ⟨_, .cons (h p (by simp)) hw hcs⟩

/-- A schema of one type with one field, the table of which has the name and then some entries. -/
def DeclaresField (text type name : String) (ps : List (String × Given)) : Prop :=
  ∃ w cs, (Given.text type).InToml w ∧ Entries cs (("name", .text name) :: ps) ∧
    text.toList = "[[types]]\n".toList ++ ("name = ".toList ++
      (w ++ '\n' :: ("[[types.fields]]\n".toList ++ cs)))

theorem exists_declaresField (type name : String) {ps : List (String × Given)}
    (h : ∀ p ∈ ps, isPlainKey p.1 = true) : ∃ text, DeclaresField text type name ps := by
  obtain ⟨w, hw⟩ := exists_inToml (.text type)
  have hall : ∀ p ∈ ("name", Given.text name) :: ps, isPlainKey p.1 = true := by
    intro p hp
    rcases List.mem_cons.mp hp with rfl | hp
    · change isPlainKey "name" = true
      decide
    · exact h p hp
  obtain ⟨cs, hcs⟩ := exists_entries hall
  exact ⟨String.ofList _, w, cs, hw, hcs, String.toList_ofList⟩

theorem line_types (rest : List Char) : line ("[[types]]\n".toList ++ rest) =
    (some (.arrayHeader ["types"])).map fun l => (l, '\n' :: rest) := rfl

theorem line_fields (rest : List Char) : line ("[[types.fields]]\n".toList ++ rest) =
    (some (.arrayHeader ["types", "fields"])).map fun l => (l, '\n' :: rest) := rfl

theorem document_ofText {text : String} {cs : List Char} (h : text.toList = '[' :: cs) :
    (Schema.ofText text).toOption =
      (documentFrom (text.toList.length + 1) text.toList (.empty .declared, [])).bind decoded := by
  have hdocument : document text =
      (documentFrom (text.toList.length + 1) text.toList (.empty .declared, [])).bind fun s =>
        match s.1.value with
        | .table entries => some entries
        | _ => none := by
    unfold document documentFrom
    rw [h]
    change ((linesFrom (('[' :: cs).length + 1) ('[' :: cs)).bind fun ls =>
      (ls.foldlM addLine (.empty .declared, [])).bind _) = _
    cases linesFrom (('[' :: cs).length + 1) ('[' :: cs) <;> rfl
  unfold Schema.ofText
  rw [hdocument]
  cases documentFrom (text.toList.length + 1) text.toList (.empty .declared, []) with
  | none => rfl
  | some s =>
      simp only [Option.bind_some, decoded]
      cases s.1.value with
      | table entries =>
          simp only
          cases decode entries <;> rfl
      | _ => rfl

theorem ofText_declaresField {text type name : String} {ps : List (String × Given)}
    (h : DeclaresField text type name ps) :
    (Schema.ofText text).toOption = (takeAll ⟨some name, none, none⟩ ps).bind (·.schema type) := by
  obtain ⟨w, cs, hw, hcs, htext⟩ := h
  obtain ⟨fuel, hfuel, hlength⟩ : ∃ fuel, text.toList.length + 1 = fuel + 3 ∧
      (("name", Given.text name) :: ps).length < fuel := by
    have hle := hcs.length_le
    have htotal : cs.length + 10 ≤ text.toList.length := by
      have hhead : "[[types]]\n".toList.length = 10 := rfl
      rw [htext]
      simp only [List.length_append, List.length_cons, hhead]
      omega
    exact ⟨text.toList.length - 2, by omega, by omega⟩
  have hname : line ("name = ".toList ++ (w ++ '\n' :: ("[[types.fields]]\n".toList ++ cs))) =
      (some (Line.entry ["name"] (.text type))).map fun l =>
        (l, '\n' :: ("[[types.fields]]\n".toList ++ cs)) :=
    line_entry (by decide : isPlainKey "name" = true) hw ("[[types.fields]]\n".toList ++ cs)
  have htypes : addLine (.empty .declared, []) (.arrayHeader ["types"]) =
      some (⟨.declared, [("types", .tables [] ⟨.declared, []⟩)]⟩, ["types"]) := rfl
  have htype : addLine (⟨.declared, [("types", .tables [] ⟨.declared, []⟩)]⟩, ["types"])
      (.entry ["name"] (.text type)) = some (⟨.declared, [("types", .tables []
        ⟨.declared, [("name", .closed (.text type))]⟩)]⟩, ["types"]) := rfl
  have hfields : addLine (⟨.declared, [("types", .tables []
      ⟨.declared, [("name", .closed (.text type))]⟩)]⟩, ["types"])
        (.arrayHeader ["types", "fields"]) =
          some (withField type (.empty .declared), ["types", "fields"]) := by
    have horder : "fields" < "name" := by decide
    simp [horder, addLine, Table.append, splitLast, Table.within, Table.find?, Table.put, insertKey,
      withField]
  rw [document_ofText (by rw [htext]; rfl), hfuel, htext,
    documentFrom_line (line_types _), Option.bind_some, htypes, Option.bind_some,
    documentFrom_line hname, Option.bind_some, htype, Option.bind_some,
    documentFrom_line (line_fields _), Option.bind_some, hfields, Option.bind_some,
    documentFrom_entries hcs hlength rfl]
  rfl

/-! What is taken. -/

theorem isSome_takeAll_iff {d : FieldDraft} {ps : List (String × Given)} :
    (takeAll d ps).isSome = true ↔
      (∀ p ∈ ps, ∃ q, partOf p.1 p.2.value = some q ∧ d.has q = false) ∧
      ps.Pairwise fun p p' => ∀ q : Part, p.1 ∈ q.keys → p'.1 ∉ q.keys := by
  induction ps generalizing d with
  | nil => simp [takeAll]
  | cons p ps ih =>
      have htake : takeAll d (p :: ps) = (d.take p.1 p.2.value).bind (takeAll · ps) := rfl
      rw [htake, List.forall_mem_cons, List.pairwise_cons]
      cases hq : partOf p.1 p.2.value with
      | none => simp [FieldDraft.take, hq]
      | some q =>
          have hmem := mem_keys_of_partOf hq
          cases hhas : d.has q with
          | true => simp [FieldDraft.take, hq, hhas]
          | false =>
              have htaken : d.take p.1 p.2.value = some (d.put q) := by
                simp [FieldDraft.take, hq, hhas]
              rw [htaken, Option.bind_some, ih]
              -- a part is still free after `q` if it was free before and is another one
              have hfree (r : Part) : (d.put q).has r = false ↔
                  d.has r = false ∧ q.keys ≠ r.keys := by
                rw [Bool.eq_false_iff, ne_eq, FieldDraft.has_put, not_or, Bool.not_eq_true]
              constructor
              · rintro ⟨hall, hpairs⟩
                refine ⟨⟨⟨q, rfl, hhas⟩, fun p' hp' => ?_⟩, fun p' hp' r hr hr' => ?_, hpairs⟩
                · obtain ⟨r, hr, hrfree⟩ := hall p' hp'
                  exact ⟨r, hr, ((hfree r).mp hrfree).1⟩
                · obtain ⟨r', hr'', hrfree⟩ := hall p' hp'
                  exact ((hfree r').mp hrfree).2 ((keys_eq_of_mem hmem hr).trans
                    (keys_eq_of_mem hr' (mem_keys_of_partOf hr'')))
              · rintro ⟨⟨-, hall⟩, hapart, hpairs⟩
                refine ⟨fun p' hp' => ?_, hpairs⟩
                obtain ⟨r, hr, hrfree⟩ := hall p' hp'
                refine ⟨r, hr, (hfree r).mpr ⟨hrfree, fun heq => ?_⟩⟩
                exact hapart p' hp' q hmem (heq ▸ mem_keys_of_partOf hr)

theorem name_takeAll {d d' : FieldDraft} {ps : List (String × Given)}
    (h : takeAll d ps = some d') (hd : d.name.isSome = true) : d'.name.isSome = true := by
  induction ps generalizing d with
  | nil =>
      cases h
      exact hd
  | cons p ps ih =>
      obtain ⟨d₁, hd₁, h⟩ := Option.bind_eq_some_iff.mp h
      refine ih h ?_
      obtain ⟨q, -, hq⟩ := Option.bind_eq_some_iff.mp hd₁
      split at hq
      · cases hq
      · cases hq
        cases q
        · rfl
        · exact hd
        · exact hd

/-- With a name there is a field. -/
theorem finish_takeAll {name : String} {d : FieldDraft} {ps : List (String × Given)}
    (h : takeAll ⟨some name, none, none⟩ ps = some d) : ∃ f, d.finish.toOption = some f := by
  obtain ⟨n, hn⟩ := Option.isSome_iff_exists.mp (name_takeAll h rfl)
  exact ⟨⟨n, d.nullable.getD false, d.policy.getD .local⟩, by simp [FieldDraft.finish, hn]; rfl⟩

/-- Keys and values that a field can have beside its name. -/
structure Declarable (ps : List (String × Given)) : Prop where
  known : ∀ p ∈ ps, ((p.1 = "nullable" ∨ p.1 = "optional") ∧ ∃ b, p.2 = .boolean b) ∨
    (p.1 = "fallback" ∧ ∃ q : Policy, p.2 = .text q.text)
  once : (ps.map (·.1)).Nodup
  apart : ¬ ("nullable" ∈ ps.map (·.1) ∧ "optional" ∈ ps.map (·.1))

theorem policyNamed_toOption (s : String) : (policyNamed s).toOption = Policy.ofText? s := by
  unfold policyNamed
  cases Policy.ofText? s <;> rfl

theorem partOf_known_iff {key : String} {g : Given} {name : String} :
    (∃ q, partOf key g.value = some q ∧ FieldDraft.has ⟨some name, none, none⟩ q = false) ↔
      ((key = "nullable" ∨ key = "optional") ∧ ∃ b, g = .boolean b) ∨
        (key = "fallback" ∧ ∃ q : Policy, g = .text q.text) := by
  unfold partOf
  split
  · rename_i hname
    subst hname
    simp [FieldDraft.has]
  rename_i hname
  split
  · rename_i hflag
    have hother : key ≠ "fallback" := by
      rintro rfl
      revert hflag
      decide
    cases g <;> simp [hflag, hother, Given.value, boolean, Except.toOption, FieldDraft.has]
  rename_i hflag
  split
  · rename_i hfallback
    cases g with
    | text s =>
        have hpolicy : (Schema.policy (Given.text s).value).toOption = Policy.ofText? s :=
          policyNamed_toOption s
        simp [hfallback, hpolicy, FieldDraft.has, Policy.ofText?_eq_some_iff]
    | boolean b => simp [hfallback, Given.value, Schema.policy, Except.toOption]
    | integer n => simp [hfallback, Given.value, Schema.policy, Except.toOption]
  · rename_i hfallback
    simp [hflag, hfallback]

theorem isSome_takeAll_iff_declarable (name : String) {ps : List (String × Given)} :
    (takeAll ⟨some name, none, none⟩ ps).isSome = true ↔ Declarable ps := by
  rw [isSome_takeAll_iff]
  simp only [partOf_known_iff]
  constructor
  · rintro ⟨hknown, hpairs⟩
    refine ⟨hknown, ?_, ?_⟩
    · unfold List.Nodup
      rw [List.pairwise_map]
      refine hpairs.imp_of_mem fun {p p'} hp _ hapart heq => ?_
      rcases hknown p hp with ⟨hkey, -⟩ | ⟨hkey, -⟩
      · have hmem : p.1 ∈ (Part.nullable true).keys := by simpa [Part.keys] using hkey
        exact hapart _ hmem (heq ▸ hmem)
      · have hmem : p.1 ∈ (Part.policy .local).keys := by simp [Part.keys, hkey]
        exact hapart _ hmem (heq ▸ hmem)
    · rintro ⟨hnullable, hoptional⟩
      obtain ⟨p, hp, hkey⟩ := List.mem_map.mp hnullable
      obtain ⟨p', hp', hkey'⟩ := List.mem_map.mp hoptional
      have hne : p ≠ p' := by
        rintro rfl
        rw [hkey] at hkey'
        exact absurd hkey' (by decide)
      have hsymm : Std.Symm fun x y : String × Given => ∀ q : Part, x.1 ∈ q.keys → y.1 ∉ q.keys :=
        ⟨fun x y h q hy hx => h q hx hy⟩
      exact hpairs.forall hp hp' hne (.nullable true) (by simp [Part.keys, hkey]) (by simp [Part.keys, hkey'])
  · rintro ⟨hknown, honce, hapart⟩
    refine ⟨hknown, ?_⟩
    unfold List.Nodup at honce
    rw [List.pairwise_map] at honce
    refine honce.imp_of_mem fun {p p'} hp hp' hne q hq hq' => ?_
    cases q with
    | name s => exact hne ((List.mem_singleton.mp hq).trans (List.mem_singleton.mp hq').symm)
    | policy r => exact hne ((List.mem_singleton.mp hq).trans (List.mem_singleton.mp hq').symm)
    | nullable b =>
        have hmem := List.mem_map_of_mem (f := Prod.fst) hp
        have hmem' := List.mem_map_of_mem (f := Prod.fst) hp'
        simp only [Part.keys, List.mem_cons, List.not_mem_nil, or_false] at hq hq'
        rcases hq with hq | hq <;> rcases hq' with hq' | hq'
        · exact hne (hq.trans hq'.symm)
        · exact hapart ⟨hq ▸ hmem, hq' ▸ hmem'⟩
        · exact hapart ⟨hq' ▸ hmem', hq ▸ hmem⟩
        · exact hne (hq.trans hq'.symm)

end ZonedAccessors.Schema
