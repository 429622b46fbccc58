import Mathlib.Data.List.Forall2
import ZonedAccessors.Proofs.Toml.Distinct

/-!
Values that differ only in the order of the keys of their tables, at whatever depth.
-/

namespace ZonedAccessors.Toml.Value

/-- Arrays keep their order. Tables have the same keys, in any order, and each the same value but
for what is reordered in it. -/
inductive Reorders : Value → Value → Prop
  | scalar {v : Value} : v.IsScalar → Reorders v v
  | array {vs ws : List Value} : vs.length = ws.length →
      (∀ i (hv : i < vs.length) (hw : i < ws.length), Reorders vs[i] ws[i]) →
      Reorders (.array vs) (.array ws)
  | table {es fs : List (String × Value)} : (es.map Prod.fst).Perm (fs.map Prod.fst) →
      (∀ e ∈ es, ∀ f ∈ fs, e.1 = f.1 → Reorders e.2 f.2) → Reorders (.table es) (.table fs)

variable {v w : Value} {es fs : List (String × Value)}

namespace Reorders

theorem symm (h : v.Reorders w) : w.Reorders v := by
  induction h with
  | scalar h => exact .scalar h
  | array hlength hitems ih => exact .array hlength.symm fun i hw hv => ih i hv hw
  | table hkeys hvalues ih =>
      exact .table hkeys.symm fun f hf e he hkey => ih e he f hf hkey.symm

theorem eq_of_scalar (h : v.Reorders w) (hv : v.IsScalar) : w = v := by
  cases h with
  | scalar _ => rfl
  | array _ _ => cases hv
  | table _ _ => cases hv

/-- What stands at a key stands there, reordered, in the other table. -/
theorem exists_mem (h : (Value.table es).Reorders (.table fs)) {key : String} (he : (key, v) ∈ es) :
    ∃ w, (key, w) ∈ fs ∧ v.Reorders w := by
  cases h with
  | scalar h => cases h
  | table hkeys hvalues =>
      have hkey : key ∈ fs.map Prod.fst := hkeys.mem_iff.mp (List.mem_map.mpr ⟨_, he, rfl⟩)
      obtain ⟨⟨key', w⟩, hf, rfl⟩ := List.mem_map.mp hkey
      exact ⟨w, hf, hvalues _ he _ hf rfl⟩

theorem forall₂_of_array {vs : List Value} (h : (Value.array vs).Reorders w) :
    ∃ ws, w = .array ws ∧ List.Forall₂ Reorders vs ws := by
  cases h with
  | scalar h => cases h
  | @array _ ws hlength hitems =>
      exact ⟨ws, rfl, List.forall₂_iff_get.mpr ⟨hlength, hitems⟩⟩

theorem exists_table (h : (Value.table es).Reorders w) : ∃ fs, w = .table fs := by
  cases h with
  | scalar h => cases h
  | table _ _ => exact ⟨_, rfl⟩

/-- The tables of an array stay where they are, each reordered in itself. -/
theorem forall₂_of_tables {tables : List (List (String × Value))}
    (h : (Value.array (tables.map .table)).Reorders w) :
    ∃ others : List (List (String × Value)), w = .array (others.map .table) ∧
      List.Forall₂ (fun es fs => (Value.table es).Reorders (.table fs)) tables others := by
  obtain ⟨ws, rfl, hitems⟩ := h.forall₂_of_array
  rw [List.forall₂_map_left_iff] at hitems
  clear h
  induction hitems with
  | nil => exact ⟨[], rfl, .nil⟩
  | cons hes _ ih =>
      obtain ⟨fs, rfl⟩ := hes.exists_table
      obtain ⟨others, hothers, hforall⟩ := ih
      cases hothers
      exact ⟨fs :: others, rfl, .cons hes hforall⟩

theorem distinct (h : v.Reorders w) (hv : v.Distinct) : w.Distinct := by
  induction h with
  | scalar _ => exact hv
  | @array vs ws hlength hitems ih =>
      rw [distinct_array_iff] at hv ⊢
      intro w hw
      obtain ⟨i, hi, rfl⟩ := List.getElem_of_mem hw
      exact ih i (hlength ▸ hi) hi (hv _ (List.getElem_mem _))
  | @table es fs hkeys hvalues ih =>
      rw [distinct_table_iff] at hv ⊢
      refine ⟨hkeys.nodup_iff.mp hv.1, fun f hf => ?_⟩
      -- the value was at the same key before
      obtain ⟨e, he, hkey⟩ := List.mem_map.mp (hkeys.mem_iff.mpr (List.mem_map_of_mem hf))
      exact ih e he f hf hkey (hv.2 e he)

end Reorders

end ZonedAccessors.Toml.Value
