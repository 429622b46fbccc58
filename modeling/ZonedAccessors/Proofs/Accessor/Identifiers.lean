import ZonedAccessors.Proofs.Accessor.SnakeCase
import ZonedAccessors.Proofs.Accessor.Tree

/-!
The four identifiers of a field: which names have them, and which of them two fields may share.
-/

namespace ZonedAccessors

open Unicode Token

/-! Identifiers. -/

/-- A word that is written as it stands and is no keyword. -/
structure Identifier (text : String) : Prop where
  isName : IsName text.toList
  notKeyword : Grammar.isKeyword text = false

variable {n w : String}

theorem isIdentifier_iff : Name.isIdentifier n = true ↔ Identifier n := by
  unfold Name.isIdentifier
  constructor
  · intro h
    split at h
    · cases h
    · rename_i c cs hn
      simp only [Bool.and_eq_true, Bool.not_eq_true', List.all_eq_true] at h
      exact ⟨by rw [hn]; exact .mk h.1.1 h.1.2, h.2⟩
  · rintro ⟨hname, hkeyword⟩
    generalize hn : n.toList = cs at hname
    obtain ⟨hc, hcs⟩ := hname
    simpa [hkeyword, hc] using hcs

theorem IsName.forall_continue {cs : List Char} (h : IsName cs) :
    ∀ c ∈ cs, isIdentContinue c = true := by
  obtain ⟨hc, hcs⟩ := h
  exact List.forall_mem_cons.mpr ⟨isIdentContinue_of_isIdentStart hc, hcs⟩

theorem IsName.append {cs ds : List Char} (h : IsName cs)
    (hds : ∀ d ∈ ds, isIdentContinue d = true) : IsName (cs ++ ds) := by
  obtain ⟨hc, hcs⟩ := h
  exact .mk hc (List.forall_mem_append.mpr ⟨hcs, hds⟩)

theorem Identifier.not_blank (h : Identifier n) : Name.isBlankText n = false := by
  obtain ⟨hname, -⟩ := h
  unfold Name.isBlankText
  generalize n.toList = cs at hname
  obtain ⟨hc, -⟩ := hname
  simp [isBlank_of_isIdentStart hc]

/-- An identifier is read as one name. -/
theorem Identifier.read (h : Identifier n) : Grammar.ofText (fun _ => Grammar.name) n = some n := by
  obtain ⟨place, hword⟩ := ofText_word (.plain h.isName)
  have hrun : Grammar.name.run ⟨[.ident n place], none, none⟩ = .ok (n, ⟨[], none, none⟩) :=
    Grammar.run_name_iff.mpr ⟨h.notKeyword, place, [], rfl, rfl⟩
  unfold Grammar.ofText
  rw [hword]
  exact toOption_eq_some_iff.mpr (Grammar.readAll_of_run hrun)

namespace Accessor

variable {a b : Accessor}

def methods (a : Accessor) : List String := [a.name, a.setter]

def backing (a : Accessor) : List String := [a.utcField, a.tzField]

def names (a : Accessor) : List String := a.methods ++ a.backing

theorem identifier_names (h : Identifier a.name) : ∀ n ∈ a.names, Identifier n := by
  have hset : IsName a.setter.toList := by
    have hfront : IsName "set_".toList := .mk (by decide) (forall_mem_of_all (by decide))
    rw [setter, String.toList_append]
    exact IsName.append hfront (IsName.forall_continue h.isName)
  have hutc : IsName a.utcField.toList := by
    rw [utcField, String.toList_append]
    exact IsName.append h.isName (forall_mem_of_all (by decide))
  have htz : IsName a.tzField.toList := by
    rw [tzField, String.toList_append]
    exact IsName.append h.isName (forall_mem_of_all (by decide))
  intro n hn
  simp only [names, methods, backing, List.mem_append, List.mem_cons, List.not_mem_nil,
    or_false] at hn
  rcases hn with (rfl | rfl) | (rfl | rfl)
  · exact h
  · exact ⟨hset, Grammar.isKeyword_setter a⟩
  · exact ⟨hutc, Grammar.isKeyword_utcField a⟩
  · exact ⟨htz, Grammar.isKeyword_tzField a⟩

/-! Names that differ. -/

theorem append_ne_self (hw : w ≠ "") : n ++ w ≠ n ∧ w ++ n ≠ n := by
  constructor <;> intro h <;> exact hw (by simpa using h)

theorem setter_ne_name (a : Accessor) : a.setter ≠ a.name := (append_ne_self (by decide)).2

/-- Their lengths are the same, but the setter has one `s` more than the name, and the field none. -/
theorem setter_ne_utcField (a : Accessor) : a.setter ≠ a.utcField := by
  intro h
  have hcount : a.setter.toList.count 's' = a.utcField.toList.count 's' := by rw [h]
  simp only [setter, utcField, String.toList_append, List.count_append] at hcount
  have hset : "set_".toList.count 's' = 1 := by decide
  have hutc : "_utc".toList.count 's' = 0 := by decide
  omega

theorem setter_ne_tzField (a : Accessor) : a.setter ≠ a.tzField := by
  intro h
  have hlength : a.setter.toList.length = a.tzField.toList.length := by rw [h]
  simp only [setter, tzField, String.toList_append, List.length_append] at hlength
  have hset : "set_".toList.length = 4 := by decide
  have htz : "_tz".toList.length = 3 := by decide
  omega

theorem utcField_ne_tzField (a b : Accessor) : a.utcField ≠ b.tzField := by
  intro h
  have hlast : a.utcField.toList.getLast? = b.tzField.toList.getLast? := by rw [h]
  simp [utcField, tzField, String.toList_append, List.getLast?_append] at hlast

theorem nodup_names (a : Accessor) : a.names.Nodup := by
  have hutc : a.utcField ≠ a.name := (append_ne_self (by decide)).1
  have htz : a.tzField ≠ a.name := (append_ne_self (by decide)).1
  simp [names, methods, backing, a.setter_ne_name.symm, hutc.symm, htz.symm, setter_ne_utcField,
    setter_ne_tzField, utcField_ne_tzField]

theorem disjoint_backing (h : a.name ≠ b.name) : a.backing.Disjoint b.backing := by
  have hutc : b.utcField ≠ a.utcField := by simpa [utcField] using h.symm
  have htz : b.tzField ≠ a.tzField := by simpa [tzField] using h.symm
  simp [backing, hutc, htz, utcField_ne_tzField, (utcField_ne_tzField a b).symm]

theorem not_nodup_methods_iff (h : a.name ≠ b.name) :
    ¬ (a.methods ++ b.methods).Nodup ↔ a.name = b.setter ∨ b.name = a.setter := by
  have hset : a.setter ≠ b.setter := by simpa [setter] using h
  have ha : a.name ≠ a.setter := a.setter_ne_name.symm
  have hb : b.name ≠ b.setter := b.setter_ne_name.symm
  simp only [methods, List.cons_append, List.nil_append, List.nodup_cons, List.mem_cons,
    List.not_mem_nil, or_false, not_false_eq_true, List.nodup_nil, and_true]
  rw [eq_comm (a := b.name)]
  tauto

end Accessor

namespace DateField

variable {f g : DateField} {a b : Accessor}

theorem accessor_identifier (h : f.accessor = .ok a) : Identifier a.name := by
  obtain ⟨-, -, hidentifier, rfl⟩ := accessor_ok_iff.mp h
  exact isIdentifier_iff.mp hidentifier

/-- The names of fields are identifiers, those of one field all different. Two fields store nothing
in common, and have a method in common only if one of them is named as the setter of the other. -/
theorem accessor_names_apart (hf : f.accessor = .ok a) (hg : g.accessor = .ok b) :
    (∀ n ∈ a.names ++ b.names,
      Identifier n ∧ Grammar.ofText (fun _ => Grammar.name) n = some n) ∧
    a.names.Nodup ∧ b.names.Nodup ∧
    (a.name ≠ b.name → a.backing.Disjoint b.backing ∧
      (¬ (a.methods ++ b.methods).Nodup ↔
        a.name = "set_" ++ b.name ∨ b.name = "set_" ++ a.name)) := by
  have ha : ∀ n ∈ a.names, Identifier n := Accessor.identifier_names (accessor_identifier hf)
  have hb : ∀ n ∈ b.names, Identifier n := Accessor.identifier_names (accessor_identifier hg)
  have hnames : ∀ n ∈ a.names ++ b.names, Identifier n := List.forall_mem_append.mpr ⟨ha, hb⟩
  refine ⟨fun n hn => ⟨hnames n hn, (hnames n hn).read⟩, a.nodup_names, b.nodup_names, ?_⟩
  exact fun hne => ⟨Accessor.disjoint_backing hne, Accessor.not_nodup_methods_iff hne⟩

theorem accessor_names_apart_setter :
    Grammar.ofText (fun _ => Grammar.name) "set_set_wake" = some "set_set_wake" ∧
      ["set_wake_utc", "set_wake_tz"].Disjoint ["wake_utc", "wake_tz"] ∧
      ¬ ["set_wake", "set_set_wake", "wake", "set_wake"].Nodup := by
  have hapart := accessor_names_apart (f := ⟨"setWake", false, .local⟩)
    (g := ⟨"Wake", true, .error⟩) (a := ⟨"set_wake", false, .local⟩) (b := ⟨"wake", true, .error⟩)
    (by decide +kernel) (by decide +kernel)
  obtain ⟨hbacking, hmethods⟩ := hapart.2.2.2 (by decide)
  exact ⟨(hapart.1 "set_set_wake" (by decide)).2, hbacking, hmethods.mpr (.inl rfl)⟩

/-! Names without capitals. -/

theorem worded_of_isAscii (h : Identifier n) (hascii : IsAscii n.toList) :
    Name.Worded n.toList := by
  intro c hc
  have hcontinue : isIdentContinue c = true := IsName.forall_continue h.isName c hc
  rw [isIdentContinue_ascii (hascii c hc)] at hcontinue
  simpa [Name.isUnderscore] using hcontinue

/-- A name without capitals is an accessor as it stands, if it is an identifier of letters, digits
and underscores. Other identifiers are refused, though none of these are of ASCII characters. -/
theorem accessor_of_lower (hlower : ∀ c ∈ f.name.toList, isUpper c = false) :
    (∀ a, f.accessor = .ok a ↔
      Identifier f.name ∧ Name.Worded f.name.toList ∧ a = ⟨f.name, f.nullable, f.policy⟩) ∧
    (Identifier f.name → ¬ Name.Worded f.name.toList →
      f.accessor = .error (.invalidName f.name f.name)) ∧
    (IsAscii f.name.toList → ((∃ a, f.accessor = .ok a) ↔ Identifier f.name)) := by
  have hsame : Name.normalised f.name = f.name :=
    Name.normalised_of_not_any (by simpa using hlower)
  have haccessor (a : Accessor) : f.accessor = .ok a ↔
      Identifier f.name ∧ Name.Worded f.name.toList ∧ a = ⟨f.name, f.nullable, f.policy⟩ := by
    rw [accessor_ok_iff, hsame, isIdentifier_iff, Name.isWordText_iff]
    constructor
    · rintro ⟨-, hword, hidentifier, ha⟩
      exact ⟨hidentifier, hword, ha⟩
    · rintro ⟨hidentifier, hword, ha⟩
      exact ⟨hidentifier.not_blank, hword, hidentifier, ha⟩
  refine ⟨haccessor, fun hidentifier hword => ?_, fun hascii => ?_⟩
  · rw [← Name.isWordText_iff] at hword
    simp [accessor, hidentifier.not_blank, hword, hsame]
  · constructor
    · rintro ⟨a, ha⟩
      exact ((haccessor a).mp ha).1
    · intro hidentifier
      exact ⟨_, (haccessor _).mpr ⟨hidentifier, worded_of_isAscii hidentifier hascii, rfl⟩⟩

theorem accessor_of_lower_accented : accessor ⟨"été", false, .local⟩ = .ok ⟨"été", false, .local⟩ :=
  ((accessor_of_lower (forall_mem_of_all (by decide +kernel))).1 _).mpr
    ⟨isIdentifier_iff.mp (by decide +kernel), forall_mem_of_all (by decide +kernel), rfl⟩

/-- An accent of its own may stand in an identifier but is no letter. -/
theorem accessor_accent_apart :
    (∀ c ∈ "e\u0301".toList, isUpper c = false) ∧ Identifier "e\u0301" ∧
      accessor ⟨"e\u0301", false, .local⟩ = .error (.invalidName "e\u0301" "e\u0301") :=
  ⟨forall_mem_of_all (by decide +kernel), isIdentifier_iff.mp (by decide +kernel),
    by decide +kernel⟩

end DateField

end ZonedAccessors
