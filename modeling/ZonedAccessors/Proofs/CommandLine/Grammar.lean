import Mathlib.Data.List.Forall2
import Mathlib.Data.List.TakeWhile
import ZonedAccessors.CommandLine.Read
import ZonedAccessors.Proofs.Grammar.Reader

/-!
The command line as a language: options in any order, each at most once. A request is read from what
spells it, and from nothing else.
-/

namespace ZonedAccessors.CommandLine

open Generation (Request)

/-! Words. -/

def Setting.name : Setting → String
  | .schema => "schema"
  | .out => "out"

def Setting.flag (s : Setting) : String := "--" ++ s.name

/-- A value that is not taken for an option. -/
def StandsAlone (value : String) : Prop := value = "-" ∨ value.toList.head? ≠ some '-'

theorem Word.long_eq_setting_iff {name : List Char} {attached given : Option String} {s : Setting} :
    Word.long name attached = .setting s given ↔ name = s.name.toList ∧ attached = given := by
  unfold Word.long
  cases s with
  | schema =>
      split
      · rename_i h
        simp [h, Setting.name]
      · rename_i h
        simp only [Setting.name, h, false_and, iff_false]
        split_ifs <;> simp
  | out =>
      split
      · rename_i h
        subst h
        simp [Setting.name]
      · split
        · rename_i h
          simp [h, Setting.name]
        · rename_i h
          simp only [Setting.name, h, false_and, iff_false]
          split_ifs <;> simp

theorem Word.long_eq_check_iff {name : List Char} {attached : Option String} :
    Word.long name attached = .check ↔ name = "check".toList ∧ attached = none := by
  unfold Word.long
  cases attached <;> split_ifs <;> simp_all

theorem Word.long_ne_value {name : List Char} {attached : Option String} {text : String} :
    Word.long name attached ≠ .value text := by
  unfold Word.long
  split_ifs <;> simp

theorem Word.long_ne_endOfOptions {name : List Char} {attached : Option String} :
    Word.long name attached ≠ .endOfOptions := by
  unfold Word.long
  split_ifs <;> simp

theorem isAttaching_of_notMem {cs : List Char} (h : '=' ∉ cs) :
    ∀ c ∈ cs, (!isAttaching c) = true := by
  intro c hc
  simp only [isAttaching, Bool.not_eq_true', beq_eq_false_iff_ne, ne_eq]
  rintro rfl
  exact h hc

theorem Word.ofLong_of_notMem {cs : List Char} (h : '=' ∉ cs) : Word.ofLong cs = .long cs none := by
  rw [Word.ofLong, List.dropWhile_eq_nil_iff.mpr (isAttaching_of_notMem h)]

theorem Word.ofLong_append {name : List Char} (h : '=' ∉ name) (rest : List Char) :
    Word.ofLong (name ++ '=' :: rest) = .long name (some (String.ofList rest)) := by
  have hall := isAttaching_of_notMem h
  have hdrop : (name ++ '=' :: rest).dropWhile (!isAttaching ·) = '=' :: rest := by
    rw [List.dropWhile_append_of_pos hall, List.dropWhile_cons_of_neg (by decide)]
  have htake : (name ++ '=' :: rest).takeWhile (!isAttaching ·) = name := by
    rw [List.takeWhile_append_of_pos hall, List.takeWhile_cons_of_neg (by decide), List.append_nil]
  rw [Word.ofLong, hdrop, htake]

theorem Setting.notMem_name (s : Setting) : '=' ∉ s.name.toList := by
  cases s <;> decide

/-- What is long: a name without an equals sign, or such a name, the sign and a value. -/
theorem Word.ofLong_eq_setting_iff {cs : List Char} {s : Setting} {given : Option String} :
    Word.ofLong cs = .setting s given ↔
      cs = s.name.toList ++ (given.map fun value => '=' :: value.toList).getD [] := by
  constructor
  · intro h
    by_cases hmem : '=' ∈ cs
    · obtain ⟨name, rest, rfl, hname⟩ := List.eq_append_cons_of_mem hmem
      rw [Word.ofLong_append hname, Word.long_eq_setting_iff] at h
      obtain ⟨rfl, rfl⟩ := h
      simp
    · rw [Word.ofLong_of_notMem hmem, Word.long_eq_setting_iff] at h
      obtain ⟨rfl, rfl⟩ := h
      simp
  · rintro rfl
    cases given with
    | none =>
        rw [Option.map_none, Option.getD_none, List.append_nil,
          Word.ofLong_of_notMem s.notMem_name, Word.long_eq_setting_iff]
        exact ⟨rfl, rfl⟩
    | some value =>
        rw [Option.map_some, Option.getD_some, Word.ofLong_append s.notMem_name,
          Word.long_eq_setting_iff, String.ofList_toList]
        exact ⟨rfl, rfl⟩

theorem Word.ofLong_eq_check_iff {cs : List Char} :
    Word.ofLong cs = .check ↔ cs = "check".toList := by
  by_cases hmem : '=' ∈ cs
  · obtain ⟨name, rest, rfl, hname⟩ := List.eq_append_cons_of_mem hmem
    rw [Word.ofLong_append hname, Word.long_eq_check_iff]
    have hname' : '=' ∉ "check".toList := by decide
    constructor
    · rintro ⟨-, ⟨⟩⟩
    · intro h
      rw [← h] at hname'
      simp at hname'
  · rw [Word.ofLong_of_notMem hmem, Word.long_eq_check_iff]
    simp

theorem Word.ofLong_cases (cs : List Char) :
    ∃ name attached, Word.ofLong cs = .long name attached := by
  by_cases hmem : '=' ∈ cs
  · obtain ⟨name, rest, rfl, hname⟩ := List.eq_append_cons_of_mem hmem
    exact ⟨_, _, Word.ofLong_append hname rest⟩
  · exact ⟨_, _, Word.ofLong_of_notMem hmem⟩

/-- Two dashes alone, a long option, a value, or what a single dash begins. -/
theorem Word.ofText_cases (text : String) :
    (text.toList = ['-', '-'] ∧ Word.ofText text = .endOfOptions) ∨
    (∃ c cs, text.toList = '-' :: '-' :: c :: cs ∧ Word.ofText text = .ofLong (c :: cs)) ∨
    (StandsAlone text ∧ Word.ofText text = .value text) ∨
    ∃ c cs, text.toList = '-' :: c :: cs ∧ c ≠ '-' ∧
      (Word.ofText text = .help ∨ Word.ofText text = .version ∨ Word.ofText text = .unknown) := by
  unfold Word.ofText StandsAlone
  split
  · rename_i h
    exact .inl ⟨h, rfl⟩
  · rename_i cs hne h
    cases cs with
    | nil => exact absurd rfl hne
    | cons c cs => exact .inr (.inl ⟨c, cs, h, rfl⟩)
  · rename_i h
    exact .inr (.inr (.inl ⟨.inl (String.toList_inj.mp h), rfl⟩))
  · rename_i cs h
    exact .inr (.inr (.inr ⟨'h', cs, h, by decide, .inl rfl⟩))
  · rename_i cs h
    exact .inr (.inr (.inr ⟨'V', cs, h, by decide, .inr (.inl rfl)⟩))
  · rename_i cs _ hlong hne _ _ h
    cases cs with
    | nil => exact absurd rfl hne
    | cons c cs =>
        refine .inr (.inr (.inr ⟨c, cs, h, ?_, .inr (.inr rfl)⟩))
        rintro rfl
        exact hlong cs rfl
  · rename_i hdash
    refine .inr (.inr (.inl ⟨.inr fun hhead => ?_, rfl⟩))
    obtain ⟨cs, h⟩ := List.head?_eq_some_iff.mp hhead
    exact hdash cs h

theorem Setting.toList_flag (s : Setting) : s.flag.toList = '-' :: '-' :: s.name.toList := by
  cases s <;> rfl

theorem Setting.name_ne_nil (s : Setting) : s.name.toList ≠ [] := by
  cases s <;> decide

/-- A long option as it is written. -/
def Setting.spelled (s : Setting) : Option String → String
  | none => s.flag
  | some value => s.flag ++ "=" ++ value

theorem Setting.toList_spelled (s : Setting) (given : Option String) :
    (s.spelled given).toList =
      '-' :: '-' :: (s.name.toList ++ (given.map fun value => '=' :: value.toList).getD []) := by
  cases given with
  | none => simp [spelled, toList_flag]
  | some value => simp [spelled, toList_flag]

/-! What a text can be is told by its first characters. -/

theorem StandsAlone.not_dashes {text : String} (h : StandsAlone text) {cs : List Char} :
    text.toList ≠ '-' :: '-' :: cs := by
  intro hdashes
  rcases h with rfl | hhead
  · cases hdashes
  · rw [hdashes] at hhead
    exact hhead rfl

theorem Word.ofText_eq_setting_iff {text : String} {s : Setting} {given : Option String} :
    Word.ofText text = .setting s given ↔ text = s.spelled given := by
  rw [← String.toList_inj, Setting.toList_spelled]
  rcases Word.ofText_cases text with ⟨htext, hword⟩ | ⟨c, cs, htext, hword⟩ | ⟨halone, hword⟩ |
    ⟨c, cs, htext, hc, hword⟩
  · simp [hword, htext, s.name_ne_nil]
  · simp [hword, htext, Word.ofLong_eq_setting_iff]
  · simp [hword, halone.not_dashes]
  · rcases hword with hword | hword | hword <;> simp [hword, htext, hc]

theorem Word.ofText_eq_check_iff {text : String} :
    Word.ofText text = .check ↔ text = "--check" := by
  rw [← String.toList_inj, show "--check".toList = '-' :: '-' :: "check".toList from rfl]
  rcases Word.ofText_cases text with ⟨htext, hword⟩ | ⟨c, cs, htext, hword⟩ | ⟨halone, hword⟩ |
    ⟨c, cs, htext, hc, hword⟩
  · simp [hword, htext]
  · simp [hword, htext, Word.ofLong_eq_check_iff]
  · simp only [hword, reduceCtorEq, halone.not_dashes]
  · rcases hword with hword | hword | hword <;> simp [hword, htext, hc]

theorem Word.ofText_eq_value_iff {text value : String} :
    Word.ofText text = .value value ↔ StandsAlone text ∧ text = value := by
  rcases Word.ofText_cases text with ⟨htext, hword⟩ | ⟨c, cs, htext, hword⟩ | ⟨halone, hword⟩ |
    ⟨c, cs, htext, hc, hword⟩
  · have hnot : ¬ StandsAlone text := fun h => h.not_dashes htext
    simp [hword, hnot]
  · have hnot : ¬ StandsAlone text := fun h => h.not_dashes htext
    obtain ⟨name, attached, hlong⟩ := Word.ofLong_cases (c :: cs)
    simp [hword, hlong, Word.long_ne_value, hnot]
  · simp [hword, halone]
  · have hnot : ¬ StandsAlone text := by
      rintro (rfl | hhead)
      · cases htext
      · exact hhead (by rw [htext, List.head?_cons])
    rcases hword with hword | hword | hword <;> simp [hword, hnot]

theorem Word.ofText_eq_endOfOptions_iff {text : String} :
    Word.ofText text = .endOfOptions ↔ text = "--" := by
  rw [← String.toList_inj, show "--".toList = ['-', '-'] from rfl]
  rcases Word.ofText_cases text with ⟨htext, hword⟩ | ⟨c, cs, htext, hword⟩ | ⟨halone, hword⟩ |
    ⟨c, cs, htext, hc, hword⟩
  · simp [hword, htext]
  · obtain ⟨name, attached, hlong⟩ := Word.ofLong_cases (c :: cs)
    simp [hword, htext, hlong, Word.long_ne_endOfOptions]
  · simp [hword, halone.not_dashes]
  · rcases hword with hword | hword | hword <;> simp [hword, htext, hc]

/-! Choices. -/

inductive Choice where
  | setting (s : Setting) (value : String)
  | check
  deriving DecidableEq, Repr

/-- The arguments that make one choice. -/
inductive Choice.Spelled : Choice → List String → Prop
  | attached (s : Setting) (value : String) : Spelled (.setting s value) [s.flag ++ "=" ++ value]
  | apart (s : Setting) {value : String} : StandsAlone value →
      Spelled (.setting s value) [s.flag, value]
  | check : Spelled .check ["--check"]

/-- The arguments make these choices, one after the other. -/
inductive Spells : List Choice → List String → Prop
  | nil : Spells [] []
  | cons {c cs front rest} : Choice.Spelled c front → Spells cs rest →
      Spells (c :: cs) (front ++ rest)

theorem Spells.append {cs ds : List Choice} {front rest : List String} (h : Spells cs front)
    (h' : Spells ds rest) : Spells (cs ++ ds) (front ++ rest) := by
  induction h with
  | nil => exact h'
  | cons hc _ ih =>
      rw [List.cons_append, List.append_assoc]
      exact .cons hc ih

theorem Spells.single {c : Choice} {front : List String} (h : c.Spelled front) :
    Spells [c] front := by
  have hspells := Spells.cons h .nil
  rwa [List.append_nil] at hspells

/-! What choices come to. -/

namespace Draft

def take (d : Draft) : Choice → Except Misuse Draft
  | .setting s value => d.assign value s
  | .check => d.setCheck

/-- What has been chosen so far. -/
def choices (d : Draft) : List Choice :=
  d.schema.toList.map (.setting .schema) ++ d.out.toList.map (.setting .out) ++
    if d.check then [.check] else []

theorem mem_choices {d : Draft} {c : Choice} : c ∈ d.choices ↔ match c with
    | .setting .schema value => d.schema = some value
    | .setting .out value => d.out = some value
    | .check => d.check = true := by
  obtain ⟨schema, out, check⟩ := d
  rcases c with ⟨_ | _, value⟩ | _ <;> cases check <;> simp [choices]

theorem eq_of_choices_perm {d d' : Draft} (h : d.choices.Perm d'.choices) : d = d' := by
  have hmem (c : Choice) : c ∈ d.choices ↔ c ∈ d'.choices := h.mem_iff
  simp only [mem_choices] at hmem
  obtain ⟨schema, out, check⟩ := d
  obtain ⟨schema', out', check'⟩ := d'
  have hschema : schema = schema' := Option.ext fun value => hmem (.setting .schema value)
  have hout : out = out' := Option.ext fun value => hmem (.setting .out value)
  have hcheck : check = check' := Bool.eq_iff_iff.mpr (hmem .check)
  rw [hschema, hout, hcheck]

end Draft

/-- What is chosen at most once. -/
def Choice.slot : Choice → Option Setting
  | .setting s _ => some s
  | .check => none

namespace Draft

theorem nodup_slots (d : Draft) : (d.choices.map Choice.slot).Nodup := by
  obtain ⟨_ | schema, _ | out, _ | _⟩ := d <;> simp [choices, Choice.slot]

theorem choices_of_take {d d' : Draft} {c : Choice} (h : d.take c = .ok d') :
    (c :: d.choices).Perm d'.choices := by
  obtain ⟨schema, out, check⟩ := d
  rcases c with ⟨_ | _, value⟩ | _
  · cases schema <;> cases h
    simp [choices]
  · cases out <;> cases h
    simpa [choices] using List.perm_middle.symm
  · cases check <;> cases h
    simp only [choices, Bool.false_eq_true, if_false, List.append_nil, if_true]
    exact (List.perm_append_singleton _ _).symm

theorem exists_take {d : Draft} {c : Choice} (h : c.slot ∉ d.choices.map Choice.slot) :
    ∃ d', d.take c = .ok d' := by
  obtain ⟨schema, out, check⟩ := d
  rcases c with ⟨_ | _, value⟩ | _
  · cases schema with
    | none => exact ⟨_, rfl⟩
    | some _ => simp [choices, Choice.slot] at h
  · cases out with
    | none => exact ⟨_, rfl⟩
    | some _ => simp [choices, Choice.slot] at h
  · cases check with
    | false => exact ⟨_, rfl⟩
    | true => simp [choices, Choice.slot] at h

/-- Choices that are taken one by one add up, whatever their order. -/
theorem foldlM_take_iff {d d' : Draft} {cs : List Choice} :
    cs.foldlM take d = .ok d' ↔ (cs ++ d.choices).Perm d'.choices := by
  induction cs generalizing d with
  | nil =>
      constructor
      · rintro ⟨⟩
        exact .refl _
      · intro h
        rw [eq_of_choices_perm h]
        rfl
  | cons c cs ih =>
      rw [List.foldlM_cons, bind_ok_iff, List.cons_append]
      constructor
      · rintro ⟨d₁, htake, h⟩
        exact (List.perm_middle.symm.trans ((choices_of_take htake).append_left cs)).trans (ih.mp h)
      · intro h
        have hnodup : ((c :: (cs ++ d.choices)).map Choice.slot).Nodup :=
          (h.map Choice.slot).nodup_iff.mpr d'.nodup_slots
        have hfree : c.slot ∉ d.choices.map Choice.slot := fun hmem =>
          (List.nodup_cons.mp hnodup).1 (by simp [List.mem_map.mp hmem])
        obtain ⟨d₁, htake⟩ := exists_take hfree
        exact ⟨d₁, htake,
          ih.mpr (((choices_of_take htake).append_left cs).symm.trans (List.perm_middle.trans h))⟩

theorem finish_ok_iff {d : Draft} {r : Request} : d.finish = .ok r ↔
    d = ⟨some r.schema, r.out, r.check⟩ ∧ (r.check = true → r.out.isSome = true) := by
  obtain ⟨schema, out, check⟩ := d
  obtain ⟨path, out', check'⟩ := r
  unfold finish
  cases schema with
  | none => simp
  | some schema => cases out <;> cases check <;> simp <;> grind

end Draft

/-! Reading. -/

variable {d d' : Draft} {o : Open} {r : Request} {cs ds : List Choice} {arguments : List String}

/-- Arguments that have been read and not yet taken into account. -/
def Open.texts : Open → List String
  | .none => []
  | .awaiting s => [s.flag]
  | .given s value => [s.flag, value]

def Open.Sound : Open → Prop
  | .given _ value => StandsAlone value
  | _ => True

theorem spells_of_settle (ho : o.Sound) (h : settle d o = .ok d') :
    ∃ cs, Spells cs o.texts ∧ cs.foldlM Draft.take d = .ok d' := by
  cases o with
  | none => exact ⟨[], .nil, h⟩
  | awaiting s => cases h
  | given s value =>
      refine ⟨[.setting s value], .single (.apart s ho), ?_⟩
      rw [List.foldlM_cons, Draft.take, show d.assign value s = .ok d' from h]
      rfl

theorem foldlM_take_append {d₁ : Draft} (h : cs.foldlM Draft.take d = .ok d₁)
    (h' : ds.foldlM Draft.take d₁ = .ok d') : (cs ++ ds).foldlM Draft.take d = .ok d' := by
  rw [List.foldlM_append, h]
  exact h'

/-- Arguments that spell choices which make a draft the one of a request. -/
def Reaches (d : Draft) (texts : List String) (r : Request) : Prop :=
  ∃ cs d', Spells cs texts ∧ cs.foldlM Draft.take d = .ok d' ∧ d'.finish = .ok r

theorem Reaches.cons {c : Choice} {front : List String} (hc : c.Spelled front)
    (htake : d.take c = .ok d') (h : Reaches d' arguments r) : Reaches d (front ++ arguments) r := by
  obtain ⟨cs, d₂, hcs, hd₂, hr⟩ := h
  refine ⟨c :: cs, d₂, .cons hc hcs, ?_, hr⟩
  rw [List.foldlM_cons, htake]
  exact hd₂

/-- What is open comes before all that is read next. -/
theorem Reaches.settled (ho : o.Sound) (hsettle : settle d o = .ok d')
    (h : Reaches d' arguments r) : Reaches d (o.texts ++ arguments) r := by
  obtain ⟨before, hbefore, hd'⟩ := spells_of_settle ho hsettle
  obtain ⟨cs, d₂, hcs, hd₂, hr⟩ := h
  exact ⟨before ++ cs, d₂, hbefore.append hcs, foldlM_take_append hd' hd₂, hr⟩

/-- A request is read only from arguments that spell choices, and it holds what they come to. -/
theorem reaches_of_readWords (hdashes : "--" ∉ arguments) (ho : o.Sound)
    (h : readWords d o (arguments.map Word.ofText) = .ok (.generate r)) :
    Reaches d (o.texts ++ arguments) r := by
  induction arguments generalizing d o with
  | nil =>
      obtain ⟨d', hsettle, h⟩ := bind_ok_iff.mp h
      obtain ⟨r', hr, h⟩ := bind_ok_iff.mp h
      cases h
      exact .settled ho hsettle ⟨[], d', .nil, rfl, hr⟩
  | cons text arguments ih =>
      rw [List.mem_cons, not_or] at hdashes
      rw [List.map_cons] at h
      cases hword : Word.ofText text with
      | value value =>
          obtain ⟨halone, rfl⟩ := Word.ofText_eq_value_iff.mp hword
          rw [hword] at h
          cases o with
          | awaiting s => exact ih hdashes.2 (o := .given s text) halone h
          | none | given => cases h
      | setting s given =>
          obtain rfl := Word.ofText_eq_setting_iff.mp hword
          rw [hword] at h
          cases given with
          | none =>
              obtain ⟨d₁, hsettle, h⟩ := bind_ok_iff.mp h
              exact .settled ho hsettle (ih hdashes.2 (o := .awaiting s) trivial h)
          | some value =>
              obtain ⟨d₁, hsettle, h⟩ := bind_ok_iff.mp h
              obtain ⟨d₂, htake, h⟩ := bind_ok_iff.mp h
              exact .settled ho hsettle
                (.cons (.attached s value) htake (ih hdashes.2 (o := .none) trivial h))
      | check =>
          obtain rfl := Word.ofText_eq_check_iff.mp hword
          rw [hword] at h
          obtain ⟨d₁, hsettle, h⟩ := bind_ok_iff.mp h
          obtain ⟨d₂, htake, h⟩ := bind_ok_iff.mp h
          exact .settled ho hsettle (.cons .check htake (ih hdashes.2 (o := .none) trivial h))
      | help | version =>
          rw [hword] at h
          obtain ⟨d₁, -, h⟩ := bind_ok_iff.mp h
          cases h
      | surplus | unknown =>
          rw [hword] at h
          cases h
      | endOfOptions => exact absurd (Word.ofText_eq_endOfOptions_iff.mp hword).symm hdashes.1

/-- What spells choices is read as them, one after the other. -/
theorem readWords_of_spells (h : Spells cs arguments) (d : Draft) (o : Open) :
    readWords d o (arguments.map Word.ofText) = settle d o >>= fun d =>
      cs.foldlM Draft.take d >>= fun d => return .generate (← d.finish) := by
  induction h generalizing d o with
  | nil => rfl
  | @cons c cs front rest hc _ ih =>
      cases hc with
      | attached s value =>
          have hword : Word.ofText (s.flag ++ "=" ++ value) = .setting s (some value) :=
            Word.ofText_eq_setting_iff.mpr rfl
          simp only [List.singleton_append, List.map_cons, hword, readWords, ih, List.foldlM_cons,
            Draft.take, bind_assoc]
          rfl
      | apart s halone =>
          rename_i value
          have hword : Word.ofText s.flag = .setting s none := Word.ofText_eq_setting_iff.mpr rfl
          have hvalue : Word.ofText value = .value value :=
            Word.ofText_eq_value_iff.mpr ⟨halone, rfl⟩
          simp only [List.cons_append, List.nil_append, List.map_cons, hword, hvalue, readWords, ih,
            List.foldlM_cons, Draft.take, bind_assoc]
          rfl
      | check =>
          have hword : Word.ofText "--check" = .check := Word.ofText_eq_check_iff.mpr rfl
          simp only [List.singleton_append, List.map_cons, hword, readWords, ih, List.foldlM_cons,
            Draft.take, bind_assoc]
          rfl

/-- The choices that a request stands for. -/
def choicesOf (r : Request) : List Choice :=
  .setting .schema r.schema ::
    (r.out.toList.map (.setting .out) ++ if r.check then [.check] else [])

theorem read_ok_iff_of_spells (h : Spells cs arguments) : read arguments = .ok (.generate r) ↔
    cs.Perm (choicesOf r) ∧ (r.check = true → r.out.isSome = true) := by
  have hread : read arguments =
      cs.foldlM Draft.take .empty >>= fun d => return .generate (← d.finish) :=
    readWords_of_spells h .empty .none
  rw [hread]
  simp only [bind_ok_iff, Draft.foldlM_take_iff]
  constructor
  · rintro ⟨d, hperm, r', hfinish, h⟩
    cases h
    obtain ⟨rfl, hout⟩ := Draft.finish_ok_iff.mp hfinish
    exact ⟨by simpa [Draft.choices, Draft.empty, choicesOf] using hperm, hout⟩
  · rintro ⟨hperm, hout⟩
    exact ⟨⟨some r.schema, r.out, r.check⟩,
      by simpa [Draft.choices, Draft.empty, choicesOf] using hperm,
      r, Draft.finish_ok_iff.mpr ⟨rfl, hout⟩, rfl⟩

/-- A request is read from arguments just if they spell, in some order, a schema, an output if it
has one and the check if it asks for one, which needs an output; and any other order of the same
choices reads as the same request. -/
theorem read_ok_iff_spelled (hdashes : "--" ∉ arguments) :
    (∀ r, read arguments = .ok (.generate r) ↔
      (r.check = true → r.out.isSome = true) ∧ ∃ cs, cs.Perm (choicesOf r) ∧ Spells cs arguments) ∧
    ∀ r cs reordered others, read arguments = .ok (.generate r) → Spells cs arguments →
      reordered.Perm cs → Spells reordered others → read others = .ok (.generate r) := by
  refine ⟨fun r => ⟨fun h => ?_, fun ⟨hout, cs, hperm, hcs⟩ => ?_⟩,
    fun r cs reordered others h hcs hperm hothers => ?_⟩
  · obtain ⟨cs, d, hcs, -, -⟩ := reaches_of_readWords (o := .none) hdashes trivial h
    obtain ⟨hperm, hout⟩ := (read_ok_iff_of_spells hcs).mp h
    exact ⟨hout, cs, hperm, hcs⟩
  · exact (read_ok_iff_of_spells hcs).mpr ⟨hperm, hout⟩
  · obtain ⟨hperm', hout⟩ := (read_ok_iff_of_spells hcs).mp h
    exact (read_ok_iff_of_spells hothers).mpr ⟨hperm.trans hperm', hout⟩

/-- A value that looks like an option where it is attached, and one that is a dash. -/
theorem read_ok_iff_spelled_dash :
    read ["--check", "--out", "-", "--schema=--check"] =
      .ok (.generate ⟨"--check", some "-", true⟩) ∧
    read ["--schema=--check", "--out=-", "--check"] =
      .ok (.generate ⟨"--check", some "-", true⟩) := by
  have hspells : Spells [.check, .setting .out "-", .setting .schema "--check"]
      ["--check", "--out", "-", "--schema=--check"] :=
    .cons .check (.cons (.apart .out (.inl rfl)) (.cons (.attached .schema "--check") .nil))
  have hreordered : Spells [.setting .schema "--check", .setting .out "-", .check]
      ["--schema=--check", "--out=-", "--check"] :=
    .cons (.attached .schema "--check") (.cons (.attached .out "-") (.cons .check .nil))
  have hdashes : "--" ∉ ["--check", "--out", "-", "--schema=--check"] := by decide
  obtain ⟨hread, horder⟩ := read_ok_iff_spelled hdashes
  have hfirst := (hread ⟨"--check", some "-", true⟩).mpr ⟨fun _ => rfl, _, by decide, hspells⟩
  exact ⟨hfirst, horder _ _ _ _ hfirst hspells (by decide) hreordered⟩

end ZonedAccessors.CommandLine
