import Mathlib.Data.List.Nodup
import ZonedAccessors.Toml.Document

/-!
No key stands twice in a table of a document, at whatever depth.
-/

namespace ZonedAccessors.Toml

/-- Neither an array nor a table. -/
def Value.IsScalar : Value → Prop
  | .array _ => False
  | .table _ => False
  | _ => True

/-- The keys of a table are distinct, and so are those of all tables in it. -/
inductive Value.Distinct : Value → Prop
  | scalar {v : Value} : v.IsScalar → Distinct v
  | array {items : List Value} : (∀ v ∈ items, Distinct v) → Distinct (.array items)
  | table {entries : List (String × Value)} : (entries.map Prod.fst).Nodup →
      (∀ e ∈ entries, Distinct e.2) → Distinct (.table entries)

theorem Value.distinct_array_iff {items : List Value} :
    (Value.array items).Distinct ↔ ∀ v ∈ items, v.Distinct := by
  refine ⟨fun h => ?_, .array⟩
  cases h with
  | scalar h => cases h
  | array h => exact h

theorem Value.distinct_table_iff {entries : List (String × Value)} :
    (Value.table entries).Distinct ↔
      (entries.map Prod.fst).Nodup ∧ ∀ e ∈ entries, e.2.Distinct := by
  refine ⟨fun h => ?_, fun h => .table h.1 h.2⟩
  cases h with
  | scalar h => cases h
  | table hkeys h => exact ⟨hkeys, h⟩

/-! Tables under construction. -/

theorem insertKey_perm {α : Type} (key : String) (value : α) (l : List (String × α)) :
    (insertKey key value l).Perm ((key, value) :: l) := by
  induction l with
  | nil => exact .refl _
  | cons e l ih =>
      rw [insertKey]
      split
      · exact .refl _
      · exact (ih.cons e).trans (.swap ..)

theorem entryValues_eq_map (es : List (String × Node)) :
    entryValues es = es.map fun e => (e.1, e.2.value) := by
  induction es with
  | nil => rfl
  | cons e es ih => rw [entryValues, ih, List.map_cons]

theorem tableValues_eq_map (ts : List Table) : tableValues ts = ts.map Table.value := by
  induction ts with
  | nil => rfl
  | cons t ts ih => rw [tableValues, ih, List.map_cons]

namespace Table

def Distinct (t : Table) : Prop := t.value.Distinct

theorem distinct_iff {t : Table} : t.Distinct ↔
    (t.entries.map Prod.fst).Nodup ∧ ∀ e ∈ t.entries, e.2.value.Distinct := by
  obtain ⟨origin, entries⟩ := t
  rw [Distinct, Table.value, Value.distinct_table_iff, entryValues_eq_map, List.map_map,
    List.forall_mem_map]
  rfl

theorem distinct_empty (origin : Origin) : (Table.empty origin).Distinct :=
  distinct_iff.mpr ⟨List.nodup_nil, nofun⟩

/-- A key of its own for each entry: the one that was there is taken out. -/
theorem Distinct.put {t : Table} (h : t.Distinct) (key : String) {n : Node}
    (hn : n.value.Distinct) : (t.put key n).Distinct := by
  obtain ⟨hkeys, hvalues⟩ := distinct_iff.mp h
  have hentries : (t.put key n).entries.Perm
      ((key, n) :: t.entries.filter fun e => e.1 != key) := insertKey_perm ..
  refine distinct_iff.mpr ⟨?_, fun e he => ?_⟩
  · rw [(hentries.map Prod.fst).nodup_iff, List.map_cons, List.nodup_cons]
    exact ⟨by simp, (List.filter_sublist.map Prod.fst).nodup hkeys⟩
  · rcases List.mem_cons.mp (hentries.mem_iff.mp he) with rfl | he
    · exact hn
    · exact hvalues e (List.mem_filter.mp he).1

theorem Distinct.find {t : Table} (h : t.Distinct) {key : String} {n : Node}
    (hfind : t.find? key = some n) : n.value.Distinct := by
  obtain ⟨e, he, rfl⟩ := Option.map_eq_some_iff.mp hfind
  exact (distinct_iff.mp h).2 _ (List.mem_of_find?_eq_some he)

theorem distinct_tables_iff {earlier : List Table} {last : Table} :
    (Node.tables earlier last).value.Distinct ↔ (∀ t ∈ earlier, t.Distinct) ∧ last.Distinct := by
  rw [Node.value, Value.distinct_array_iff, tableValues_eq_map]
  simp [or_imp, forall_and, Distinct]

/-- A change that keeps keys apart where it is made keeps them apart all around it. -/
theorem Distinct.within {dotted : Bool} {change : Table → Option Table}
    (hchange : ∀ {u u'}, change u = some u' → u.Distinct → u'.Distinct) {path : List String}
    {t t' : Table} (h : t.Distinct) (hwithin : t.within dotted change path = some t') :
    t'.Distinct := by
  -- at each key of the path the table that was found, or a new one, is put back changed
  induction path generalizing t t' with
  | nil => exact hchange hwithin h
  | cons key path ih =>
      rw [Table.within] at hwithin
      split at hwithin
      · obtain ⟨u, hu, rfl⟩ := Option.map_eq_some_iff.mp hwithin
        exact h.put key (ih (distinct_empty _) hu)
      · cases hwithin
      · rename_i u hfind
        split at hwithin
        · cases hwithin
        · obtain ⟨u', hu, rfl⟩ := Option.map_eq_some_iff.mp hwithin
          exact h.put key (ih (h.find hfind) hu)
      · rename_i earlier last hfind
        split at hwithin
        · cases hwithin
        · obtain ⟨u', hu, rfl⟩ := Option.map_eq_some_iff.mp hwithin
          obtain ⟨hearlier, hlast⟩ := distinct_tables_iff.mp (h.find hfind)
          exact h.put key (distinct_tables_iff.mpr ⟨hearlier, ih hlast hu⟩)

theorem Distinct.define {t t' : Table} (h : t.Distinct) {keys : List String} {v : Value}
    (hv : v.Distinct) (hdefine : t.define keys v = some t') : t'.Distinct := by
  obtain ⟨⟨path, key⟩, -, hdefine⟩ := Option.bind_eq_some_iff.mp hdefine
  refine h.within (fun {u u'} hchange hu => ?_) hdefine
  split at hchange
  · cases hchange
  · split at hchange
    · cases hchange
    · cases hchange
      exact hu.put key hv

theorem Distinct.declare {t t' : Table} (h : t.Distinct) {keys : List String}
    (hdeclare : t.declare keys = some t') : t'.Distinct := by
  obtain ⟨⟨path, key⟩, -, hdeclare⟩ := Option.bind_eq_some_iff.mp hdeclare
  refine h.within (fun {u u'} hchange hu => ?_) hdeclare
  split at hchange
  · cases hchange
    exact hu.put key (distinct_empty .declared)
  · rename_i v hfind
    split at hchange
    · cases hchange
      have hv : v.Distinct := hu.find hfind
      have hopened : (Table.mk .declared v.entries).Distinct :=
        distinct_iff.mpr (distinct_iff (t := v).mp hv)
      exact hu.put key hopened
    · cases hchange
  · cases hchange

theorem Distinct.append {t t' : Table} (h : t.Distinct) {keys : List String}
    (happend : t.append keys = some t') : t'.Distinct := by
  obtain ⟨⟨path, key⟩, -, happend⟩ := Option.bind_eq_some_iff.mp happend
  refine h.within (fun {u u'} hchange hu => ?_) happend
  split at hchange
  · cases hchange
    exact hu.put key (distinct_tables_iff.mpr ⟨nofun, distinct_empty _⟩)
  · rename_i earlier last hfind
    cases hchange
    obtain ⟨hearlier, hlast⟩ := distinct_tables_iff.mp (hu.find hfind)
    refine hu.put key (distinct_tables_iff.mpr ⟨fun v hv => ?_, distinct_empty _⟩)
    rcases List.mem_append.mp hv with hv | hv
    · exact hearlier v hv
    · rw [List.mem_singleton.mp hv]
      exact hlast
  · cases hchange

end Table

/-! Values as they are read. -/

/-- All values that a reader finds have distinct keys. -/
def ReadsDistinct (value : List Char → Option (Value × List Char)) : Prop :=
  ∀ {cs v rest}, value cs = some (v, rest) → v.Distinct

variable {value : List Char → Option (Value × List Char)}

theorem distinct_of_itemsWith (hvalue : ReadsDistinct value) {fuel : Nat} {cs rest : List Char}
    {vs : List Value} (h : itemsWith value fuel cs = some (vs, rest)) : ∀ v ∈ vs, v.Distinct := by
  induction fuel generalizing cs vs rest with
  | zero => cases h
  | succ fuel ih =>
      obtain ⟨cs₁, -, h⟩ := Option.bind_eq_some_iff.mp h
      split at h
      · cases h
        nofun
      · obtain ⟨⟨v, cs₂⟩, hv, h⟩ := Option.bind_eq_some_iff.mp h
        obtain ⟨cs₃, -, h⟩ := Option.bind_eq_some_iff.mp h
        split at h
        · obtain ⟨⟨more, cs₄⟩, hmore, h⟩ := Option.bind_eq_some_iff.mp h
          cases h
          exact List.forall_mem_cons.mpr ⟨hvalue hv, ih hmore⟩
        · cases h
          exact List.forall_mem_singleton.mpr (hvalue hv)
        · cases h

theorem distinct_of_entryWith (hvalue : ReadsDistinct value) {cs rest : List Char}
    {keys : List String} {v : Value} (h : entryWith value cs = some (keys, v, rest)) :
    v.Distinct := by
  obtain ⟨⟨ks, cs₁⟩, -, h⟩ := Option.bind_eq_some_iff.mp h
  dsimp only at h
  split at h
  · obtain ⟨⟨v', cs₂⟩, hv, h⟩ := Option.bind_eq_some_iff.mp h
    cases h
    exact hvalue hv
  · cases h

theorem distinct_of_entriesWith (hvalue : ReadsDistinct value) {fuel : Nat} {t t' : Table}
    {cs rest : List Char} (ht : t.Distinct) (h : entriesWith value fuel t cs = some (t', rest)) :
    t'.Distinct := by
  induction fuel generalizing t cs with
  | zero => cases h
  | succ fuel ih =>
      obtain ⟨cs₁, -, h⟩ := Option.bind_eq_some_iff.mp h
      split at h
      · cases h
        exact ht
      · obtain ⟨⟨ks, v, cs₂⟩, hv, h⟩ := Option.bind_eq_some_iff.mp h
        obtain ⟨u, hu, h⟩ := Option.bind_eq_some_iff.mp h
        obtain ⟨cs₃, -, h⟩ := Option.bind_eq_some_iff.mp h
        have hdistinct : u.Distinct := ht.define (distinct_of_entryWith hvalue hv) hu
        split at h
        · exact ih hdistinct h
        · cases h
          exact hdistinct
        · cases h

theorem distinct_of_plain {cs : List Char} {v : Value} (h : plain cs = some v) : v.Distinct := by
  refine .scalar ?_
  unfold plain at h
  split at h
  · cases h
    trivial
  split at h
  · cases h
    trivial
  split at h
  · cases h
    trivial
  split at h
  · cases h
    trivial
  split at h <;> cases h
  trivial

theorem distinct_of_quotedValue {cs rest : List Char} {v : Value}
    (h : quotedValue cs = some (v, rest)) : v.Distinct := by
  obtain ⟨⟨s, r⟩, -, h⟩ := Option.map_eq_some_iff.mp h
  cases h
  exact .scalar trivial

theorem readsDistinct_of_below {depth : Nat}
    (hbelow : ∀ d, depth = d + 1 → ReadsDistinct (valueWithin d)) :
    ReadsDistinct (valueWithin depth) := by
  intro cs v rest h
  unfold valueWithin at h
  split at h
  · cases h
  · obtain ⟨⟨vs, r⟩, hvs, h⟩ := Option.map_eq_some_iff.mp h
    cases h
    exact .array (distinct_of_itemsWith (hbelow _ rfl) hvs)
  · cases h
  · obtain ⟨⟨t, r⟩, ht, h⟩ := Option.map_eq_some_iff.mp h
    cases h
    exact distinct_of_entriesWith (hbelow _ rfl) (Table.distinct_empty _) ht
  · exact distinct_of_quotedValue h
  · exact distinct_of_quotedValue h
  · obtain ⟨v, hv, h⟩ := Option.map_eq_some_iff.mp h
    cases h
    exact distinct_of_plain hv

theorem readsDistinct_valueWithin (depth : Nat) : ReadsDistinct (valueWithin depth) := by
  induction depth with
  | zero => exact readsDistinct_of_below fun d hd => absurd hd (Nat.succ_ne_zero d).symm
  | succ depth ih =>
      refine readsDistinct_of_below fun d hd => ?_
      rwa [← Nat.succ.inj hd]

/-! Documents. -/

def Line.Distinct : Line → Prop
  | .entry _ v => v.Distinct
  | _ => True

theorem distinct_of_line {cs rest : List Char} {l : Line} (h : line cs = some (l, rest)) :
    l.Distinct := by
  unfold line at h
  split at h
  · obtain ⟨⟨ks, cs₁⟩, -, h⟩ := Option.bind_eq_some_iff.mp h
    dsimp only at h
    split at h <;> cases h
    trivial
  · obtain ⟨⟨ks, cs₁⟩, -, h⟩ := Option.bind_eq_some_iff.mp h
    dsimp only at h
    split at h <;> cases h
    trivial
  · dsimp only at h
    split_ifs at h
    · cases h
      trivial
    · obtain ⟨⟨ks, v, r⟩, hv, h⟩ := Option.map_eq_some_iff.mp h
      cases h
      exact distinct_of_entryWith (readsDistinct_valueWithin deepest) hv

theorem distinct_of_linesFrom {fuel : Nat} {cs : List Char} {ls : List Line}
    (h : linesFrom fuel cs = some ls) : ∀ l ∈ ls, l.Distinct := by
  induction fuel generalizing cs ls with
  | zero => cases h
  | succ fuel ih =>
      obtain ⟨⟨l, cs₁⟩, hl, h⟩ := Option.bind_eq_some_iff.mp h
      obtain ⟨cs₂, -, h⟩ := Option.bind_eq_some_iff.mp h
      split at h
      · cases h
        exact List.forall_mem_singleton.mpr (distinct_of_line hl)
      · obtain ⟨cs₃, -, h⟩ := Option.bind_eq_some_iff.mp h
        obtain ⟨more, hmore, h⟩ := Option.bind_eq_some_iff.mp h
        cases h
        exact List.forall_mem_cons.mpr ⟨distinct_of_line hl, ih hmore⟩

theorem distinct_of_addLine {s s' : Table × List String} {l : Line} (hs : s.1.Distinct)
    (hl : l.Distinct) (h : addLine s l = some s') : s'.1.Distinct := by
  cases l with
  | blank =>
      cases h
      exact hs
  | entry ks v =>
      obtain ⟨t, ht, rfl⟩ := Option.map_eq_some_iff.mp h
      exact hs.within (fun hdefine hu => hu.define hl hdefine) ht
  | header ks =>
      obtain ⟨t, ht, rfl⟩ := Option.map_eq_some_iff.mp h
      exact hs.declare ht
  | arrayHeader ks =>
      obtain ⟨t, ht, rfl⟩ := Option.map_eq_some_iff.mp h
      exact hs.append ht

theorem distinct_of_foldlM_addLine {ls : List Line} {s s' : Table × List String}
    (hs : s.1.Distinct) (hls : ∀ l ∈ ls, l.Distinct) (h : ls.foldlM addLine s = some s') :
    s'.1.Distinct := by
  induction ls generalizing s with
  | nil =>
      cases h
      exact hs
  | cons l ls ih =>
      obtain ⟨s₁, hs₁, h⟩ := Option.bind_eq_some_iff.mp h
      obtain ⟨hl, hls⟩ := List.forall_mem_cons.mp hls
      exact ih (distinct_of_addLine hs hl hs₁) hls h

theorem distinct_of_document {text : String} {entries : List (String × Value)}
    (h : document text = some entries) : (Value.table entries).Distinct := by
  unfold document at h
  obtain ⟨ls, hls, h⟩ := Option.bind_eq_some_iff.mp h
  obtain ⟨⟨t, path⟩, ht, h⟩ := Option.bind_eq_some_iff.mp h
  have hdistinct : t.Distinct := distinct_of_foldlM_addLine (s := (Table.empty .declared, []))
    (Table.distinct_empty _) (distinct_of_linesFrom hls) ht
  dsimp only at h
  split at h
  · rename_i es hvalue
    cases h
    rwa [Table.Distinct, hvalue] at hdistinct
  · cases h

end ZonedAccessors.Toml
