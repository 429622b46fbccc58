import ZonedAccessors.Proofs.Token.Lexed
import ZonedAccessors.Toml.Document
import Mathlib.Algebra.Group.Nat.Defs
import Mathlib.Data.Nat.Basic

/-!
Plain values and how a document and a program spell them.
-/

namespace ZonedAccessors

open Token (boolWord)

/-- A value that an option and an entry of a table can both have. -/
inductive Given where
  | text (value : String)
  | boolean (value : Bool)
  | integer (value : Int)
  deriving DecidableEq, Repr

/-! Characters by their codes. -/

namespace Token

/-- `k` hexadecimal digits, the last ones of a number. -/
def hexOf : Nat → Nat → List Char
  | 0, _ => []
  | k + 1, n => hexOf k (n / 16) ++ [Nat.digitChar (n % 16)]

theorem hexDigit_digitChar {d : Nat} (h : d < 16) : hexDigit (Nat.digitChar d) = some d := by
  revert d
  decide

theorem hexOf_digits {k n : Nat} (h : n < 16 ^ k) : ∃ ds, (hexOf k n).mapM hexDigit = some ds ∧
    ds.length = k ∧ ds.foldl (fun v d => 16 * v + d) 0 = n := by
  induction k generalizing n with
  | zero =>
      obtain rfl : n = 0 := by simpa using h
      exact ⟨[], rfl, rfl, rfl⟩
  | succ k ih =>
      have hn : n / 16 < 16 ^ k := by
        rw [Nat.div_lt_iff_lt_mul (by decide), ← Nat.pow_succ]
        exact h
      obtain ⟨ds, hds, hlength, hvalue⟩ := ih hn
      refine ⟨ds ++ [n % 16], ?_, by simp [hlength], ?_⟩
      · have hlast := hexDigit_digitChar (Nat.mod_lt n (y := 16) (by decide))
        simp [hexOf, List.mapM_append, hds, hlast]
      · rw [List.foldl_append, hvalue]
        exact Nat.div_add_mod n 16

theorem hexOf_length (k n : Nat) : (hexOf k n).length = k := by
  induction k generalizing n with
  | zero => rfl
  | succ k ih => simp [hexOf, ih]

theorem scalar_toNat (c : Char) : scalar c.toNat = some c := by
  have hvalid : c.toNat.isValidChar := c.valid
  unfold scalar
  rw [dif_pos hvalid]
  rfl

theorem toNat_lt (c : Char) : c.toNat < 16 ^ 6 := by
  have := c.valid
  simp [UInt32.isValidChar, Nat.isValidChar] at this
  have h : c.toNat = c.val.toNat := rfl
  omega

end Token

namespace Given

open Toml

def value : Given → Value
  | .text s => .text s
  | .boolean b => .boolean b
  | .integer n => .integer n

/-- The word stands for the value where a line ends behind it. A number may be too large to be
read. -/
def InToml : Given → List Char → Prop
  | .text s, w => ∀ rest, stringValue (w ++ '\n' :: rest) = some (s.toList, '\n' :: rest)
  | .boolean b, w => w = (boolWord b).toList
  | .integer n, w => integerOf w = some n ∧ ∀ c ∈ w, Toml.isPlain c = true

/-- What is read of a word. -/
def read : Given → List Char → Option Value
  | .integer _, w => plain w
  | g, _ => some g.value

end Given

namespace Toml

open Token (hexDigit hexOf hexOf_digits hexOf_length scalar_toNat toNat_lt)

theorem takeWhile_word {p : Char → Bool} {w : List Char} (hw : ∀ c ∈ w, p c = true) {d : Char}
    (hd : p d = false) (rest : List Char) : (w ++ d :: rest).takeWhile p = w := by
  rw [List.takeWhile_append_of_pos hw, List.takeWhile_cons_of_neg (by simp [hd]), List.append_nil]

theorem dropWhile_word {p : Char → Bool} {w : List Char} (hw : ∀ c ∈ w, p c = true) {d : Char}
    (hd : p d = false) (rest : List Char) : (w ++ d :: rest).dropWhile p = d :: rest := by
  rw [List.dropWhile_append_of_pos hw, List.dropWhile_cons_of_neg (by simp [hd])]

theorem plainWord_word {w : List Char} (hw : ∀ c ∈ w, isPlain c = true) (rest : List Char) :
    plainWord (w ++ '\n' :: rest) = (w, '\n' :: rest) := by
  unfold plainWord
  simp only [takeWhile_word hw (d := '\n') rfl, dropWhile_word hw (d := '\n') rfl]
  rfl

theorem value_of_isPlain {c : Char} (hc : isPlain c = true) (cs : List Char) :
    value (c :: cs) = plainValue (c :: cs) := by
  unfold value
  generalize deepest = depth
  unfold valueWithin
  split
  case h_7 => rfl
  all_goals
    rename_i heq
    obtain ⟨rfl, -⟩ := List.cons.inj heq
    exact absurd hc (by decide)

theorem value_plain {w : List Char} (hne : w ≠ []) (hw : ∀ c ∈ w, isPlain c = true)
    (rest : List Char) :
    value (w ++ '\n' :: rest) = (plain w).map fun v => (v, '\n' :: rest) := by
  obtain ⟨c, cs, rfl⟩ := List.exists_cons_of_ne_nil hne
  rw [List.cons_append, value_of_isPlain (hw c (by simp)), ← List.cons_append]
  unfold plainValue
  rw [plainWord_word hw]

theorem skipBlanks_of_not {c : Char} (h : isBlank c = false) (cs : List Char) :
    skipBlanks (c :: cs) = c :: cs := by
  simp [skipBlanks, h]

theorem value_text {w : List Char} {s : String}
    (h : ∀ rest, stringValue (w ++ '\n' :: rest) = some (s.toList, '\n' :: rest)) :
    (∃ c cs, w = c :: cs ∧ (c = '"' ∨ c = '\'')) ∧
      ∀ rest, value (w ++ '\n' :: rest) = some (.text s, '\n' :: rest) := by
  obtain ⟨c, cs, rfl, hc⟩ : ∃ c cs, w = c :: cs ∧ (c = '"' ∨ c = '\'') := by
    have hstart := h []
    cases w with
    | nil => cases hstart
    | cons c cs =>
        refine ⟨c, cs, rfl, ?_⟩
        unfold stringValue at hstart
        split at hstart
        all_goals grind
  refine ⟨⟨c, cs, rfl, hc⟩, fun rest => ?_⟩
  have hquoted : quotedValue (c :: cs ++ '\n' :: rest) = some (.text s, '\n' :: rest) := by
    unfold quotedValue
    rw [h rest]
    simp
  rw [← hquoted]
  rcases hc with rfl | rfl
  · rfl
  · rfl

/-- No blank stands before a word that spells something. -/
theorem value_word {g : Given} {w : List Char} (h : g.InToml w) (rest : List Char) :
    skipBlanks (w ++ '\n' :: rest) = w ++ '\n' :: rest ∧
      value (w ++ '\n' :: rest) = (g.read w).map fun v => (v, '\n' :: rest) := by
  cases g with
  | text s =>
      obtain ⟨⟨c, cs, rfl, hc⟩, hvalue⟩ := value_text h
      refine ⟨skipBlanks_of_not ?_ _, hvalue rest⟩
      rcases hc with rfl | rfl
      · rfl
      · rfl
  | boolean b =>
      obtain rfl : w = _ := h
      have hvalue := value_plain (w := (boolWord b).toList) (by cases b <;> decide)
        (List.all_eq_true.mp (by cases b <;> rfl)) rest
      refine ⟨by cases b <;> rfl, hvalue.trans ?_⟩
      cases b
      · rfl
      · rfl
  | integer n =>
      obtain ⟨hn, hw⟩ := h
      cases w with
      | nil => cases hn
      | cons c cs =>
          refine ⟨skipBlanks_of_not ?_ _, value_plain (by simp) hw rest⟩
          rw [Bool.eq_false_iff]
          intro hblank
          simp only [isBlank, Bool.or_eq_true, beq_iff_eq] at hblank
          have hc := hw c (by simp)
          rcases hblank with rfl | rfl
          · exact absurd hc (by decide)
          · exact absurd hc (by decide)

/-- A number, be it whole or not, or a date, is neither a text nor a flag. -/
theorem read_integer {n : Int} {w : List Char} (h : (Given.integer n).InToml w) {v : Value}
    (hv : (Given.integer n).read w = some v) :
    (∃ m, v = .integer m) ∨ (∃ r, v = .real r) ∨ v = .moment := by
  obtain ⟨hn, -⟩ := h
  change plain w = some v at hv
  unfold plain at hv
  split at hv
  · rename_i hw
    rw [hw] at hn
    cases hn
  split at hv
  · rename_i hw
    rw [hw] at hn
    cases hn
  split at hv
  · cases hv
    exact .inl ⟨_, rfl⟩
  split at hv
  · cases hv
    exact .inr (.inl ⟨_, rfl⟩)
  split at hv
  · cases hv
    exact .inr (.inr rfl)
  · cases hv

/-! Words for texts and numbers. -/

/-- A character by its code. -/
def escapeOf (c : Char) : List Char := '\\' :: 'U' :: hexOf 8 c.toNat

theorem escaped_escapeOf (c : Char) (rest : List Char) :
    escaped ('U' :: hexOf 8 c.toNat ++ rest) = some (c, rest) := by
  obtain ⟨ds, hds, hlength, hvalue⟩ := hexOf_digits (k := 8) (n := c.toNat)
    (Nat.lt_trans (toNat_lt c) (by decide))
  have htake : (hexOf 8 c.toNat ++ rest).take 8 = hexOf 8 c.toNat :=
    List.take_left' (hexOf_length ..)
  have hdrop : (hexOf 8 c.toNat ++ rest).drop 8 = rest := List.drop_left' (hexOf_length ..)
  change codePoint 8 (hexOf 8 c.toNat ++ rest) = _
  unfold codePoint
  simp [htake, hdrop, hds, hlength, hvalue, scalar_toNat]

theorem basicString_escaped {s : List Char} {fuel : Nat} (h : s.length < fuel) (rest : List Char) :
    basicString fuel (s.flatMap escapeOf ++ '"' :: rest) = some (s, rest) := by
  induction s generalizing fuel with
  | nil =>
      obtain ⟨fuel, rfl⟩ := Nat.exists_eq_add_one_of_ne_zero (Nat.ne_of_gt h)
      rfl
  | cons c s ih =>
      obtain ⟨fuel, rfl⟩ := Nat.exists_eq_add_one_of_ne_zero (Nat.ne_of_gt (Nat.zero_lt_of_lt h))
      rw [List.flatMap_cons, List.append_assoc]
      change (escaped ('U' :: hexOf 8 c.toNat ++ (s.flatMap escapeOf ++ '"' :: rest))).bind
        (fun d => (basicString fuel d.2).bind fun s => some (d.1 :: s.1, s.2)) = _
      rw [escaped_escapeOf]
      simp [ih (Nat.lt_of_succ_lt_succ h)]

theorem length_flatMap_escapeOf (s : List Char) : s.length ≤ (s.flatMap escapeOf).length := by
  induction s with
  | nil => exact Nat.le_refl 0
  | cons c s ih =>
      rw [List.flatMap_cons, List.length_append, List.length_cons]
      have : 0 < (escapeOf c).length := by simp [escapeOf]
      omega

/-! Numbers in decimal digits. -/

theorem ungrouped_digits {ds : List Char} (hne : ds ≠ []) (hds : ∀ c ∈ ds, isDigit c = true) :
    ungrouped isDigit ds = some ds := by
  induction ds with
  | nil => cases hne rfl
  | cons c ds ih =>
      have hc := hds c (by simp)
      cases ds with
      | nil => simp [ungrouped, hc]
      | cons d ds =>
          have hd : d ≠ '_' := by
            rintro rfl
            exact absurd (hds '_' (by simp)) (by decide)
          have hrest := ih (by simp) fun e he => hds e (by simp [he])
          unfold ungrouped
          split
          · cases ‹c :: d :: ds = []›
          · cases ‹c :: d :: ds = [_]›
          · rename_i heq
            exact absurd (List.cons.inj (List.cons.inj heq).2).1 hd
          · rename_i heq
            obtain ⟨rfl, rfl⟩ := List.cons.inj heq
            simp [hc, hrest]

theorem head_toDigits {n : Nat} (h : 0 < n) : ∃ c cs, Nat.toDigits 10 n = c :: cs ∧ c ≠ '0' := by
  induction n using Nat.strongRecOn with
  | ind n ih =>
      by_cases hsmall : n < 10
      · refine ⟨n.digitChar, [], Nat.toDigits_of_lt_base hsmall, ?_⟩
        rw [ne_eq, Nat.digitChar_eq_zero]
        omega
      · obtain ⟨c, cs, hcs, hc⟩ := ih (n / 10) (by omega) (by omega)
        refine ⟨c, cs ++ [Nat.digitChar (n % 10)], ?_, hc⟩
        rw [Nat.toDigits_of_base_le (by decide) (by omega), hcs, List.cons_append]

theorem isDigit_of_mem {n : Nat} {c : Char} (h : c ∈ Nat.toDigits 10 n) : isDigit c = true := by
  have := Nat.isDigit_of_mem_toDigits (by decide) (by decide) h
  simpa [isDigit, Char.isDigit, Char.le_def] using this

theorem digitValue_of_isDigit {c : Char} (h : isDigit c = true) : digitValue c = c.toNat - 48 := by
  have h' : ('0' ≤ c && c ≤ '9') = true := h
  simp [digitValue, hexDigit, h']

theorem number_toDigits (n : Nat) : number 10 (Nat.toDigits 10 n) = n := by
  have hfold (cs : List Char) (hcs : ∀ c ∈ cs, isDigit c = true) (v : Nat) :
      cs.foldl (fun n c => 10 * n + digitValue c) v = Nat.ofDigitChars 10 cs v := by
    induction cs generalizing v with
    | nil => rfl
    | cons c cs ih =>
        rw [List.foldl_cons, Nat.ofDigitChars_cons, digitValue_of_isDigit (hcs c (by simp))]
        exact ih (fun d hd => hcs d (by simp [hd])) _
  unfold number
  rw [hfold _ fun c hc => isDigit_of_mem hc]
  exact Nat.ofDigitChars_ten_toDigits

theorem wholePart_toDigits (n : Nat) :
    wholePart (Nat.toDigits 10 n) = some (Nat.toDigits 10 n) := by
  unfold wholePart
  rw [ungrouped_digits Nat.toDigits_ne_nil fun c hc => isDigit_of_mem hc]
  split
  · rename_i heq
    have hds := Option.some.inj heq
    cases n with
    | zero => cases hds
    | succ n =>
        obtain ⟨c, cs, hcs, hc⟩ := head_toDigits n.succ_pos
        rw [hcs] at hds
        exact absurd (List.cons.inj hds).1 hc
  · rfl

theorem integerOf_toDigits (n : Nat) : integerOf (Nat.toDigits 10 n) = some (n : Int) := by
  have hdigits : ∀ c ∈ Nat.toDigits 10 n, isDigit c = true := fun c hc => isDigit_of_mem hc
  have hwhole := wholePart_toDigits n
  have hnumber := number_toDigits n
  generalize Nat.toDigits 10 n = ds at hdigits hwhole hnumber
  have hsigned : signed ds = (false, ds) := by
    unfold signed
    split
    · exact absurd (hdigits '-' (by simp)) (by decide)
    · exact absurd (hdigits '+' (by simp)) (by decide)
    · rfl
  unfold integerOf
  split
  · exact absurd (hdigits 'x' (by simp)) (by decide)
  · exact absurd (hdigits 'o' (by simp)) (by decide)
  · exact absurd (hdigits 'b' (by simp)) (by decide)
  · simp [hsigned, hwhole, hnumber]

def decimal : Int → List Char
  | .ofNat n => Nat.toDigits 10 n
  | .negSucc n => '-' :: Nat.toDigits 10 (n + 1)

theorem integerOf_decimal (n : Int) : integerOf (decimal n) = some n := by
  cases n with
  | ofNat n =>
      exact integerOf_toDigits n
  | negSucc n =>
      change (wholePart (Nat.toDigits 10 (n + 1))).map _ = _
      rw [wholePart_toDigits, Option.map_some, number_toDigits]
      rfl

theorem stringValue_word (s rest : List Char) :
    stringValue ('"' :: s.flatMap escapeOf ++ '"' :: '\n' :: rest) = some (s, '\n' :: rest) := by
  have hlength := length_flatMap_escapeOf s
  cases s with
  | nil => rfl
  | cons c s =>
      have hfuel : (c :: s).length < ((c :: s).flatMap escapeOf ++ '"' :: '\n' :: rest).length + 1 := by
        rw [List.length_append]
        omega
      exact basicString_escaped hfuel ('\n' :: rest)

theorem isPlain_of_isDigit {c : Char} (h : isDigit c = true) : isPlain c = true := by
  have hc : c.isDigit = true := by
    simpa [isDigit, Char.isDigit, Char.le_def] using h
  simp [isPlain, isBare, Char.isAlphanum, hc]

/-- Every value has a word. -/
theorem exists_inToml (g : Given) : ∃ w, g.InToml w := by
  cases g with
  | text s =>
      refine ⟨'"' :: s.toList.flatMap escapeOf ++ ['"'], fun rest => ?_⟩
      rw [List.append_assoc]
      exact stringValue_word s.toList rest
  | boolean b => exact ⟨(boolWord b).toList, rfl⟩
  | integer n =>
      refine ⟨decimal n, integerOf_decimal n, fun c hc => ?_⟩
      cases n with
      | ofNat n => exact isPlain_of_isDigit (isDigit_of_mem hc)
      | negSucc n =>
          rcases List.mem_cons.mp hc with rfl | hc
          · rfl
          · exact isPlain_of_isDigit (isDigit_of_mem hc)

/-! Lines. -/

/-- An identifier of ASCII characters. -/
def isPlainKey (key : String) : Bool :=
  match key.toList with
  | [] => false
  | c :: cs => (c.isAlpha || c == '_') && cs.all fun d => d.isAlphanum || d == '_'

/-- What no key starts with. -/
def keyless : List Char := ['"', '\'', ' ', '\t', '[', '#', '\n', '\r']

theorem isPlainKey_start {key : String} (h : isPlainKey key = true) :
    (∃ c cs, key.toList = c :: cs ∧ c ∉ keyless) ∧ ∀ d ∈ key.toList, isBare d = true := by
  unfold isPlainKey at h
  split at h
  · cases h
  · rename_i c cs hkey
    rw [hkey]
    obtain ⟨hc, hcs⟩ := Bool.and_eq_true_iff.mp h
    have hletter : c.isAlphanum = true ∨ c = '_' := by
      simp only [Bool.or_eq_true, beq_iff_eq] at hc
      rcases hc with hc | hc
      · exact .inl (by simp [Char.isAlphanum, hc])
      · exact .inr hc
    refine ⟨⟨c, cs, rfl, ?_⟩, ?_⟩
    · intro hmem
      simp only [keyless, List.mem_cons, List.not_mem_nil, or_false] at hmem
      rcases hmem with rfl | rfl | rfl | rfl | rfl | rfl | rfl | rfl
      all_goals revert hletter; decide
    · intro d hd
      rcases List.mem_cons.mp hd with rfl | hd
      · simp only [isBare, Bool.or_eq_true, beq_iff_eq]
        exact .inl hletter
      · have := List.all_eq_true.mp hcs d hd
        simp only [Bool.or_eq_true] at this
        simp only [isBare, Bool.or_eq_true]
        exact .inl this

theorem keys_plain {key : String} (h : isPlainKey key = true) (rest : List Char) :
    keys (key.toList ++ ' ' :: '=' :: rest) = some ([key], '=' :: rest) := by
  obtain ⟨⟨c, cs, hkey, hc⟩, hbare⟩ := isPlainKey_start h
  have hsimple : simpleKey (key.toList ++ ' ' :: '=' :: rest) = some (key, ' ' :: '=' :: rest) := by
    unfold simpleKey
    split
    · rename_i heq
      rw [hkey] at heq
      obtain ⟨rfl, -⟩ := List.cons.inj heq
      exact absurd (by decide) hc
    · rename_i heq
      rw [hkey] at heq
      obtain ⟨rfl, -⟩ := List.cons.inj heq
      exact absurd (by decide) hc
    · rw [takeWhile_word hbare (by decide), dropWhile_word hbare (by decide),
        if_neg (by simp [hkey]), String.ofList_toList]
  have hblank : skipBlanks (key.toList ++ ' ' :: '=' :: rest) = key.toList ++ ' ' :: '=' :: rest := by
    rw [hkey]
    refine skipBlanks_of_not ?_ _
    rw [Bool.eq_false_iff]
    intro hc'
    simp only [isBlank, Bool.or_eq_true, beq_iff_eq] at hc'
    rcases hc' with rfl | rfl
    all_goals exact absurd (by decide) hc
  unfold keys keysFrom
  rw [hblank, hsimple]
  rfl

theorem line_entry {key : String} (hkey : isPlainKey key = true) {g : Given} {w : List Char}
    (hw : g.InToml w) (rest : List Char) :
    line (key.toList ++ ' ' :: '=' :: ' ' :: (w ++ '\n' :: rest)) =
      (g.read w).map fun v => (.entry [key] v, '\n' :: rest) := by
  obtain ⟨hblank, hvalue⟩ := value_word hw rest
  have hentry : entryWith value (key.toList ++ ' ' :: '=' :: ' ' :: (w ++ '\n' :: rest)) =
      (g.read w).map fun v => ([key], v, '\n' :: rest) := by
    unfold entryWith
    rw [keys_plain hkey]
    change (value (skipBlanks (w ++ '\n' :: rest))).bind (fun v => some ([key], v.1, v.2)) = _
    rw [hblank, hvalue]
    cases g.read w <;> rfl
  obtain ⟨⟨c, cs, hcs, hc⟩, -⟩ := isPlainKey_start hkey
  rw [hcs, List.cons_append] at hentry ⊢
  simp only [keyless, List.mem_cons, List.not_mem_nil, or_false, not_or] at hc
  obtain ⟨-, -, hspace, htab, hbracket, hhash, hbreak, hreturn⟩ := hc
  have hskip : isBlank c = false := by simp [isBlank, hspace, htab]
  have hline : newline (c :: (cs ++ ' ' :: '=' :: ' ' :: (w ++ '\n' :: rest))) = none := by
    unfold newline
    split
    · cases hbreak (List.cons.inj ‹_›).1
    · cases hreturn (List.cons.inj ‹_›).1
    · rfl
  unfold line
  rw [skipBlanks_of_not hskip]
  split
  · cases hbracket (List.cons.inj ‹_›).1
  · cases hbracket (List.cons.inj ‹_›).1
  · rw [hentry]
    simp only [Option.map_map]
    split
    · cases ‹_ :: _ = []›
    · cases hhash (List.cons.inj ‹_›).1
    · simp [hline, Function.comp_def]

end Toml

end ZonedAccessors
