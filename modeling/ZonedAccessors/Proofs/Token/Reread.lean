import ZonedAccessors.Proofs.Token.Lexed
import ZonedAccessors.Proofs.Unicode.Ascii
import ZonedAccessors.Token.Text

/-!
Tokens that are written out as text and read again. Names, marks and groups come back as they were;
quotes, slashes and literals are left out.
-/

namespace ZonedAccessors.Unicode

def apart (xs ys : List (Nat × Nat)) : Bool :=
  xs.all fun x => ys.all fun y => x.2 < y.1 || y.2 < x.1

theorem covers_iff {xs : List (Nat × Nat)} {n : Nat} :
    covers xs n = true ↔ ∃ x ∈ xs, x.1 ≤ n ∧ n ≤ x.2 := by
  induction xs with
  | nil => simp [covers]
  | cons x xs ih => simp [covers, ih]

theorem covers_eq_false_of_apart {xs ys : List (Nat × Nat)} (h : apart xs ys = true) {n : Nat}
    (hn : covers xs n = true) : covers ys n = false := by
  obtain ⟨x, hx, hx₁, hx₂⟩ := covers_iff.mp hn
  rw [Bool.eq_false_iff]
  intro hy
  obtain ⟨y, hy, hy₁, hy₂⟩ := covers_iff.mp hy
  have hxy := List.all_eq_true.mp (List.all_eq_true.mp h x hx) y hy
  simp only [Bool.or_eq_true, decide_eq_true_eq] at hxy
  omega

theorem isIdentStart_ascii {c : Char} (h : isIdentStart c = true) (hc : c.toNat < 128) :
    65 ≤ c.toNat ∧ c.toNat ≤ 122 :=
  of_ascii (fun c => isIdentStart c = true → 65 ≤ c.toNat ∧ c.toNat ≤ 122) (by decide) hc h

theorem isBlank_of_isIdentStart {c : Char} (h : isIdentStart c = true) : isBlank c = false := by
  by_cases hc : c.toNat < 128
  · have hrange := isIdentStart_ascii h hc
    have hspace : c ≠ ' ' := by
      rintro rfl
      exact absurd hrange.1 (by decide)
    simp only [isBlank, hc, if_true, Bool.or_eq_false_iff, beq_eq_false_iff_ne,
      Bool.and_eq_false_iff, decide_eq_false_iff_not]
    exact ⟨hspace, by omega⟩
  · simp only [isIdentStart, isBlank, hc, if_false] at h ⊢
    have hapart : apart identifierStarts blanks = true := by decide +kernel
    exact covers_eq_false_of_apart hapart h

theorem isAsciiDigit_of_isIdentStart {c : Char} (h : isIdentStart c = true) :
    isAsciiDigit c = false := by
  rw [Bool.eq_false_iff]
  intro hd
  simp only [isAsciiDigit, Bool.and_eq_true, decide_eq_true_eq] at hd
  have hhigh : c.toNat ≤ 57 := hd.2
  have hrange := isIdentStart_ascii h (by omega)
  omega

end ZonedAccessors.Unicode

namespace ZonedAccessors.Token

open Unicode

def Ends (rest : List Char) : Prop := ∀ c ∈ rest.head?, c ∈ [' ', ')', ']', '\x7d']

theorem Ends.breaks {rest : List Char} (h : Ends rest) : Breaks rest := by
  intro c hc
  have hends : ∀ d ∈ [' ', ')', ']', '\x7d'], isIdentContinue d = false :=
    forall_mem_of_all (by decide +kernel)
  exact hends c (h c hc)

def InName (cs : List Char) : Prop :=
  ∃ name rest, cs = name ++ rest ∧ (∀ d ∈ name, isIdentContinue d = true) ∧ Ends rest

theorem InName.tail {c : Char} {cs : List Char} (h : InName (c :: cs))
    (hc : isIdentContinue c = true) : InName cs := by
  obtain ⟨name, rest, heq, hname, hrest⟩ := h
  cases name with
  | nil =>
      obtain rfl : c :: cs = rest := heq
      rw [hrest.breaks c rfl] at hc
      cases hc
  | cons d name =>
      obtain ⟨rfl, rfl⟩ := List.cons.inj heq
      exact ⟨name, rest, rfl, fun d hd => hname d (by simp [hd]), hrest⟩

theorem InName.head {c : Char} {cs : List Char} (h : InName (c :: cs)) :
    c ∉ ['"', '#', '\''] := by
  obtain ⟨name, rest, heq, hname, hrest⟩ := h
  cases name with
  | nil =>
      obtain rfl : c :: cs = rest := heq
      have hends : ∀ d ∈ [' ', ')', ']', '\x7d'], d ∉ ['"', '#', '\''] :=
        forall_mem_of_all (by decide)
      exact hends c (hrest c rfl)
  | cons d name =>
      obtain ⟨rfl, rfl⟩ := List.cons.inj heq
      intro hin
      have hquotes : ∀ d ∈ ['"', '#', '\''], isIdentContinue d = false :=
        forall_mem_of_all (by decide +kernel)
      exact absurd ((hname c (by simp)).symm.trans (hquotes c hin)) (by simp)

theorem InName.countHashes {cs : List Char} (h : InName cs) : countHashes cs = 0 := by
  unfold Token.countHashes
  split
  · exact absurd (by simp) h.head
  · rfl

theorem InName.readHashed {cs : List Char} (h : InName cs) (f : Flavour) :
    readHashed f cs = none := by
  unfold Token.readHashed
  simp only [h.countHashes, List.drop_zero]
  split
  · exact absurd (by simp) h.head
  · rfl

theorem IsName.inName {name rest : List Char} (h : IsName name) (hr : Ends rest) :
    ∃ c cs, name ++ rest = c :: cs ∧ isIdentStart c = true ∧ InName cs := by
  obtain ⟨hc, hcs⟩ := h
  exact ⟨_, _, rfl, hc, _, rest, rfl, hcs, hr⟩

/-- How a word goes on behind its first character. -/
def InWord (c : Char) (cs : List Char) : Prop :=
  isIdentStart c = true ∧ (InName cs ∨ c = 'r' ∧ ∃ d ds, cs = '#' :: d :: ds ∧
    isIdentStart d = true ∧ InName ds)

theorem IsWord.inWord {w rest : List Char} (h : IsWord w) (hr : Ends rest) :
    ∃ c cs, w ++ rest = c :: cs ∧ InWord c cs := by
  cases h with
  | plain hn =>
      obtain ⟨c, cs, heq, hc, hcs⟩ := hn.inName hr
      exact ⟨c, cs, heq, hc, .inl hcs⟩
  | raw hn _ =>
      obtain ⟨d, ds, heq, hd, hds⟩ := hn.inName hr
      exact ⟨'r', '#' :: (_ ++ rest), rfl, by decide, .inr ⟨rfl, d, ds, by rw [heq], hd, hds⟩⟩

theorem InWord.inName {c : Char} {cs : List Char} (h : InWord c cs) (hc : c ≠ 'r') : InName cs :=
  h.2.resolve_right fun hr => hc hr.1

theorem InWord.readRawString {c : Char} {cs : List Char} (h : InWord c cs) (f : Flavour) :
    readRawString f cs = none := by
  rcases h.2 with hcs | ⟨-, d, ds, rfl, hd, -⟩
  · simp [Token.readRawString, hcs.readHashed]
  · have hhash : d ≠ '#' := by
      rintro rfl
      exact absurd hd (by decide)
    have hquote : d ≠ '"' := by
      rintro rfl
      exact absurd hd (by decide)
    simp [Token.readRawString, readHashed, countHashes, hhash, hquote]

theorem readLiteral_word {c : Char} {cs : List Char} (h : InWord c cs) :
    readLiteral (c :: cs) = none := by
  have hr : isIdentContinue 'r' = true := by decide
  unfold readLiteral
  split
  case h_1 heq =>
    cases heq
    exact absurd h.1 (by decide)
  case h_2 heq =>
    cases heq
    exact h.readRawString .text
  case h_3 heq =>
    cases heq
    exact absurd (by simp) (h.inName (by decide)).head
  case h_4 heq =>
    cases heq
    simp [readRawString, ((h.inName (by decide)).tail hr).readHashed]
  case h_5 heq =>
    cases heq
    exact absurd (by simp) (h.inName (by decide)).head
  case h_6 heq =>
    cases heq
    exact absurd (by simp) (h.inName (by decide)).head
  case h_7 heq =>
    cases heq
    simp [readRawString, ((h.inName (by decide)).tail hr).readHashed]
  case h_8 heq =>
    cases heq
    exact absurd h.1 (by decide)
  case h_9 =>
    rw [Option.eq_none_iff_forall_ne_some]
    intro rest hn
    have hd := readNumber_start hn
    rw [isAsciiDigit_of_isIdentStart h.1] at hd
    cases hd

theorem InWord.next {c d : Char} {cs : List Char} (h : InWord c (d :: cs)) : d ∉ ['"', '\''] := by
  rcases h.2 with hcs | ⟨-, e, es, heq, -⟩
  · have hquotes : ∀ q ∈ ['"', '\''], q ∈ ['"', '#', '\''] := forall_mem_of_all (by decide)
    exact fun hd => hcs.head (hquotes d hd)
  · cases heq
    decide

theorem opensLiteral_word {c : Char} {cs : List Char} (h : InWord c cs) :
    ["r\"", "r#\"", "r##", "b\"", "b'", "br\"", "br#", "c\"", "cr\"", "cr#"].any
      (opens · (c :: cs)) = false := by
  have hraw {d : Char} {rest : List Char} (hc : isIdentStart d = false)
      (heq : c :: cs = 'r' :: '#' :: d :: rest) : False := by
    cases heq
    rcases h.2 with hcs | ⟨-, e, es, heq, he, -⟩
    · exact hcs.head (by simp)
    · cases heq
      rw [hc] at he
      cases he
  have hlong {a d : Char} {rest : List Char} (ha : a ≠ 'r') (hd : d ∈ ['"', '#', '\''])
      (heq : c :: cs = a :: 'r' :: d :: rest) : False := by
    cases heq
    exact ((h.inName ha).tail (by decide)).head hd
  have hshort {a d : Char} {rest : List Char} (hd : d ∈ ['"', '\''])
      (heq : c :: cs = a :: d :: rest) : False := by
    cases heq
    exact h.next hd
  rw [Bool.eq_false_iff]
  intro hany
  obtain ⟨p, hp, ho⟩ := List.any_eq_true.mp hany
  obtain ⟨rest, heq⟩ := startsWith_iff.mp ho
  simp only [List.mem_cons, List.not_mem_nil, or_false] at hp
  rcases hp with rfl | rfl | rfl | rfl | rfl | rfl | rfl | rfl | rfl | rfl
  · exact hshort (by decide) heq
  · exact hraw (by decide) heq
  · exact hraw (by decide) heq
  · exact hshort (by decide) heq
  · exact hshort (by decide) heq
  · exact hlong (by decide) (by decide) heq
  · exact hlong (by decide) (by decide) heq
  · exact hshort (by decide) heq
  · exact hlong (by decide) (by decide) heq
  · exact hlong (by decide) (by decide) heq

theorem readWord_word {w rest : List Char} (hw : IsWord w) (hr : Ends rest) :
    readWord (w ++ rest) = some rest := by
  cases hw with
  | plain hn =>
      obtain ⟨c, cs, heq, -, hcs⟩ := hn.inName hr
      have hopens : opens "r#" (w ++ rest) = false := by
        rw [Bool.eq_false_iff]
        intro ho
        obtain ⟨more, hmore⟩ := startsWith_iff.mp ho
        rw [heq] at hmore
        obtain ⟨rfl, rfl⟩ := List.cons.inj hmore
        exact hcs.head (c := '#') (by decide)
      simp [readWord, hopens, readName_complete hn hr.breaks]
  | @raw name hn hnever =>
      have hopens : opens "r#" ('r' :: '#' :: name ++ rest) = true := startsWith_iff.mpr ⟨_, rfl⟩
      have hnever : ["_", "super", "self", "Self", "crate"].contains (String.ofList name) = false := by
        simpa [neverRaw] using hnever
      simp only [readWord, hopens, if_true]
      change (readName (name ++ rest)).bind _ = _
      rw [readName_complete hn hr.breaks]
      simp only [Option.bind_some, hnever, Bool.false_eq_true, if_false]

/-! One piece at a time. -/

theorem readPiece_bare {c : Char} (hspace : isSpace c = false) (hslash : c ≠ '/') {rest : List Char}
    (herror : opens errorText (c :: rest) = false) :
    readPiece (c :: rest) = match readDelimiter c with
      | some piece => some (piece, rest)
      | none =>
          match readLiteral (c :: rest) with
          | some rest => some (.literal, rest)
          | none =>
              match readMark (c :: rest) with
              | some (m, joint, rest) => some (.mark m joint, rest)
              | none => (readIdentifier (c :: rest)).map fun rest => (.word, rest) := by
  have hblank : readBlank (c :: rest) = none := by
    simp [readBlank, opens, startsWith_of_ne hslash, hspace]
  have hdoc : readDoc (c :: rest) = none := by
    simp [readDoc, opens, startsWith_of_ne hslash]
  simp only [readPiece, hblank, hdoc, herror, Bool.false_eq_true, if_false]
  rfl

theorem readPiece_space (rest : List Char) : readPiece (' ' :: rest) = some (.blank, rest) := by
  rfl

theorem isSpace_of_isIdentStart {c : Char} (h : isIdentStart c = true) : isSpace c = false := by
  have hne {n : Nat} (hn : isIdentStart (Char.ofNat n) = false) : c.toNat ≠ n := by
    rintro rfl
    rw [Char.ofNat_toNat, h] at hn
    cases hn
  have hleft : c.toNat ≠ 0x200e := hne (by decide +kernel)
  have hright : c.toNat ≠ 0x200f := hne (by decide +kernel)
  simp [isSpace, isBlank_of_isIdentStart h, hleft, hright]

theorem isMark_eq_false {c : Char} (h : c ∉ "~!@#$%^&*-=+|;:,<.>/?'".toList) (cs : List Char) :
    isMark (c :: cs) = false := by
  unfold isMark
  rw [Bool.and_eq_false_iff, Bool.and_eq_false_iff]
  exact .inl (.inl (by simpa using h))

theorem readPiece_word {w rest : List Char} (hw : IsWord w) (hr : Ends rest) :
    readPiece (w ++ rest) = some (.word, rest) := by
  obtain ⟨c, cs, heq, h⟩ := hw.inWord hr
  have hno {d : Char} (hd : isIdentStart d = false) : c ≠ d := by
    rintro rfl
    exact absurd (h.1.symm.trans hd) (by simp)
  have herror : opens errorText (c :: cs) = false := startsWith_of_ne (hno (by decide)) _ _
  have hdelimiter : readDelimiter c = none := by
    unfold readDelimiter
    split
    case h_7 => rfl
    all_goals exact absurd h.1 (by decide)
  have hmark : readMark (c :: cs) = none := by
    have hmarks : ∀ d ∈ "~!@#$%^&*-=+|;:,<.>/?'".toList, isIdentStart d = false :=
      forall_mem_of_all (by decide)
    have hc : isMark (c :: cs) = false :=
      isMark_eq_false (fun hin => hno (hmarks c hin) rfl) cs
    simp [readMark, hc]
  have hread := readWord_word hw hr
  rw [heq] at hread ⊢
  rw [readPiece_bare (isSpace_of_isIdentStart h.1) (hno (by decide)) herror, hdelimiter]
  simp only [readLiteral_word h, hmark, readIdentifier, opensLiteral_word h, hread,
    Bool.false_eq_true, if_false, Option.map_some]

/-- Marks that begin neither a comment nor a lifetime. -/
def plainMarks : List Char := "~!@#$%^&*-=+|;:,<.>?".toList

theorem isMark_plain {c : Char} (h : c ∈ plainMarks) (rest : List Char) :
    isMark (c :: rest) = true := by
  have hmark : ∀ d ∈ plainMarks, d ∈ "~!@#$%^&*-=+|;:,<.>/?'".toList ∧ d ≠ '/' :=
    forall_mem_of_all (by decide)
  obtain ⟨hin, hslash⟩ := hmark c h
  unfold isMark
  simp only [opens, Bool.and_eq_true, List.contains_iff_mem]
  refine ⟨⟨hin, ?_⟩, ?_⟩
  · exact congrArg (!·) (startsWith_of_ne hslash ['/'] rest)
  · exact congrArg (!·) (startsWith_of_ne hslash ['*'] rest)

theorem readLiteral_eq_none {c : Char} (h : ¬ LiteralStart c) (rest : List Char) :
    readLiteral (c :: rest) = none := by
  rw [Option.eq_none_iff_forall_ne_some]
  exact fun _ hl => h (readLiteral_start hl)

theorem readPiece_mark {c : Char} (h : c ∈ plainMarks) (rest : List Char) :
    readPiece (c :: rest) = some (.mark c (isMark rest), rest) := by
  have hall : ∀ d ∈ plainMarks, isSpace d = false ∧ d ≠ '/' ∧ d ≠ '(' ∧ d ≠ '\'' ∧
      (readDelimiter d).isNone = true ∧ isAsciiDigit d = false ∧
      d ∉ ['(', '"', 'r', 'b', 'c', '\''] :=
    forall_mem_of_all (by decide)
  obtain ⟨hspace, hslash, hparen, hquote, hdelimiter, hdigit, hstart⟩ := hall c h
  have herror : opens errorText (c :: rest) = false := startsWith_of_ne hparen _ _
  have hliteral : ¬ LiteralStart c := fun hl => by
    rcases hl with hl | hl
    · rw [hdigit] at hl
      cases hl
    · exact hstart hl
  have hmark : readMark (c :: rest) = some (c, isMark rest, rest) := by
    simp [readMark, isMark_plain h, hquote]
  rw [readPiece_bare hspace hslash herror, Option.isNone_iff_eq_none.mp hdelimiter]
  simp only [readLiteral_eq_none hliteral, hmark]

theorem readPiece_opening (d : Delimiter) {rest : List Char} (h : rest.head? ≠ some '/') :
    readPiece (d.opening :: rest) = some (.opening d, rest) := by
  have herror : opens errorText (d.opening :: rest) = false := by
    rw [Bool.eq_false_iff]
    intro ho
    obtain ⟨more, hmore⟩ := startsWith_iff.mp ho
    obtain ⟨-, rfl⟩ := List.cons.inj hmore
    exact h rfl
  rw [readPiece_bare (by cases d <;> decide) (by cases d <;> decide) herror]
  cases d <;> rfl

theorem readPiece_closing (d : Delimiter) (rest : List Char) :
    readPiece (d.closing :: rest) = some (.closing d, rest) := by
  rw [readPiece_bare (by cases d <;> decide) (by cases d <;> decide) (by cases d <;> rfl)]
  cases d <;> rfl

theorem readPiece_byteOrderMark (rest : List Char) :
    readPiece (Char.ofNat 0xfeff :: rest) = none := by
  have hmark : isMark (Char.ofNat 0xfeff :: rest) = false := isMark_eq_false (by decide) rest
  have hliteral : ¬ LiteralStart (Char.ofNat 0xfeff) := by
    unfold LiteralStart
    decide
  have hdelimiter : readDelimiter (Char.ofNat 0xfeff) = none := rfl
  have hword : readIdentifier (Char.ofNat 0xfeff :: rest) = none := by
    have hstart : isIdentStart (Char.ofNat 0xfeff) = false := by decide +kernel
    have hraw : opens "r#" (Char.ofNat 0xfeff :: rest) = false :=
      startsWith_of_ne (by decide) ['#'] rest
    have hnone : readWord (Char.ofNat 0xfeff :: rest) = none := by
      simp [readWord, hraw, readName, hstart]
    unfold readIdentifier
    split
    · rfl
    · exact hnone
  rw [readPiece_bare (by decide +kernel) (by decide) (by rfl), hdelimiter]
  simp only [readLiteral_eq_none hliteral, readMark, hmark, hword, Bool.not_false, if_true,
    Option.map_none]

/-! From pieces to trees. -/

/-- Pieces that stand for some tokens, wherever they stand. -/
def Spells (ps : List (Piece × String × Span)) (ts : Tokens) : Prop :=
  ∃ us : Source, Source.bare us = ts ∧ ∀ stack done more,
    nest stack done (ps ++ more) = nest stack (us.reverse ++ done) more

/-- Characters that are read as some tokens where `rest` follows. -/
def Rereads (cs rest : List Char) (ts : Tokens) : Prop :=
  ∀ start, ∃ stop ps, Spells ps ts ∧
    ∀ qs, scan stop rest = some qs → scan start (cs ++ rest) = some (ps ++ qs)

theorem spells_nil : Spells [] [] := ⟨[], rfl, fun _ _ _ => rfl⟩

theorem Spells.append {ps qs : List (Piece × String × Span)} {ts us : Tokens} (hp : Spells ps ts)
    (hq : Spells qs us) : Spells (ps ++ qs) (ts ++ us) := by
  obtain ⟨xs, rfl, hxs⟩ := hp
  obtain ⟨ys, rfl, hys⟩ := hq
  refine ⟨xs ++ ys, Tree.relabelAll_append _ xs ys, fun stack done more => ?_⟩
  rw [List.append_assoc, hxs, hys, List.reverse_append, List.append_assoc]

theorem Rereads.append {cs ds rest : List Char} {ts us : Tokens} (hc : Rereads cs (ds ++ rest) ts)
    (hd : Rereads ds rest us) : Rereads (cs ++ ds) rest (ts ++ us) := by
  intro start
  obtain ⟨middle, ps, hps, hscan⟩ := hc start
  obtain ⟨stop, qs, hqs, hscan'⟩ := hd middle
  refine ⟨stop, ps ++ qs, hps.append hqs, fun more hmore => ?_⟩
  rw [List.append_assoc, List.append_assoc]
  exact hscan _ (hscan' more hmore)

theorem rereads_nil (rest : List Char) : Rereads [] rest [] := by
  intro start
  exact ⟨start, [], spells_nil, fun qs h => h⟩

theorem scan_piece {cs rest : List Char} {piece : Piece} {qs : List (Piece × String × Span)}
    (hcs : cs ≠ []) (h : readPiece (cs ++ rest) = some (piece, rest)) {start : Nat}
    (hq : scan (start + cs.length) rest = some qs) :
    scan start (cs ++ rest) =
      some ((piece, String.ofList cs, ⟨start, start + cs.length⟩) :: qs) := by
  obtain ⟨c, cs, rfl⟩ := List.exists_cons_of_ne_nil hcs
  have hlt : rest.length < (c :: (cs ++ rest)).length := by
    simp only [List.length_cons, List.length_append]
    omega
  have hlength : (c :: (cs ++ rest)).length - rest.length = (c :: cs).length := by
    simp only [List.length_cons, List.length_append]
    omega
  have htake : (c :: (cs ++ rest)).take (c :: cs).length = c :: cs := by
    simp
  rw [List.cons_append] at h ⊢
  rw [scan]
  simp only [h, hlt, dite_true, hlength, htake, hq, Option.map_some]

theorem rereads_piece {cs rest : List Char} {piece : Piece} {ts : Tokens} (hcs : cs ≠ [])
    (h : readPiece (cs ++ rest) = some (piece, rest))
    (hp : ∀ place, Spells [(piece, String.ofList cs, place)] ts) : Rereads cs rest ts := by
  intro start
  exact ⟨start + cs.length, _, hp _, fun qs hq => scan_piece hcs h hq⟩

theorem rereads_space (rest : List Char) : Rereads [' '] rest [] :=
  rereads_piece (by simp) (readPiece_space rest) fun _ => ⟨[], rfl, fun _ _ _ => by simp [nest]⟩

theorem rereads_word {w rest : List Char} (hw : IsWord w) (hr : Ends rest) :
    Rereads w rest [.ident (String.ofList w) ()] := by
  have hne : w ≠ [] := by
    rintro rfl
    cases hw with
    | plain hn => cases hn
  refine rereads_piece hne (readPiece_word hw hr) fun place => ?_
  exact ⟨[.ident (String.ofList w) place], rfl, fun _ _ _ => by simp [nest]⟩

theorem rereads_mark {c : Char} (hc : c ∈ plainMarks) (rest : List Char) :
    Rereads [c] rest [.punct c (isMark rest) ()] := by
  refine rereads_piece (by simp) (readPiece_mark hc rest) fun place => ?_
  exact ⟨[.punct c (isMark rest) place], rfl, fun _ _ _ => by simp [nest]⟩

theorem rereads_group {d : Delimiter} {cs rest : List Char} {ts : Tokens}
    (hcs : (cs ++ d.closing :: rest).head? ≠ some '/') (h : Rereads cs (d.closing :: rest) ts) :
    Rereads (d.opening :: cs ++ [d.closing]) rest [.group d ts ()] := by
  intro start
  obtain ⟨stop, ps, ⟨us, rfl, hus⟩, hscan⟩ := h (start + 1)
  have hopen : readPiece ([d.opening] ++ (cs ++ d.closing :: rest)) =
      some (.opening d, cs ++ d.closing :: rest) := readPiece_opening d hcs
  have hclose : readPiece ([d.closing] ++ rest) = some (.closing d, rest) := readPiece_closing d rest
  refine ⟨stop + 1, (.opening d, String.ofList [d.opening], ⟨start, start + 1⟩) :: ps ++
    [(.closing d, String.ofList [d.closing], ⟨stop, stop + 1⟩)], ?_, fun qs hqs => ?_⟩
  · refine ⟨[.group d us ⟨start, stop + 1⟩], rfl, fun stack done more => ?_⟩
    simp [nest, hus]
  · have hclosed := scan_piece (by simp) hclose hqs
    have hopened := scan_piece (by simp) hopen (hscan _ hclosed)
    simpa using hopened

def Tree.isJoint {σ : Type} : Tree σ → Bool
  | .punct _ joint _ => joint
  | _ => false

theorem charsAfter_cons {σ : Type} (tight : Bool) (t : Tree σ) (ts : List (Tree σ)) :
    charsAfter tight (t :: ts) =
      (if tight then [] else [' ']) ++ t.chars ++ charsAfter t.isJoint ts := by
  cases t <;> rfl

def Tree.JointBefore (t : Tree Unit) (ts : Tokens) : Prop :=
  match t with
  | .punct _ true _ => ∃ c joint, ts.head? = some (.punct c joint ())
  | _ => True

mutual

/-- What is written out and read again without loss. -/
def Tree.Plain : Tree Unit → Prop
  | .ident w _ => IsWord w.toList
  | .punct c _ _ => c ∈ plainMarks
  | .literal .. => False
  | .group _ body _ => PlainAll body

def PlainAll : Tokens → Prop
  | [] => True
  | t :: ts => t.Plain ∧ t.JointBefore ts ∧ PlainAll ts

end

def Tree.EndsAt (rest : List Char) : Tree Unit → Prop
  | .ident .. => Ends rest
  | .punct _ joint _ => isMark rest = joint
  | .literal .. => True
  | .group .. => True

theorem Ends.charsAfter {rest : List Char} (h : Ends rest) (ts : Tokens) :
    Ends (charsAfter false ts ++ rest) := by
  cases ts with
  | nil => simpa [Token.charsAfter] using h
  | cons t ts =>
      intro c hc
      simp only [Token.charsAfter, Bool.false_eq_true, if_false, List.append_assoc,
        List.cons_append, List.nil_append, List.head?_cons, Option.mem_def,
        Option.some.injEq] at hc
      simp [← hc]

theorem Ends.isMark {rest : List Char} (h : Ends rest) : isMark rest = false := by
  have hends : ∀ d ∈ [' ', ')', ']', '\x7d'], d ∉ "~!@#$%^&*-=+|;:,<.>/?'".toList :=
    forall_mem_of_all (by decide)
  cases rest with
  | nil => rfl
  | cons c cs => exact isMark_eq_false (hends c (h c rfl)) cs

theorem head_chars {t : Tree Unit} (h : t.Plain) : ∃ c cs, t.chars = c :: cs ∧ c ≠ '/' := by
  cases t with
  | ident w u =>
      have hends : Ends [] := by simp [Ends]
      obtain ⟨c, cs, heq, hc⟩ := IsWord.inWord h hends
      refine ⟨c, cs, by simpa [Tree.chars] using heq, ?_⟩
      rintro rfl
      exact absurd hc.1 (by decide)
  | punct c joint u =>
      have hall : ∀ d ∈ plainMarks, d ≠ '/' := forall_mem_of_all (by decide)
      exact ⟨c, [], rfl, hall c h⟩
  | literal w u => exact h.elim
  | group d body u => cases d <;> exact ⟨_, _, rfl, by decide⟩

theorem endsAt_charsAfter {t : Tree Unit} {ts : Tokens} (ht : t.JointBefore ts) (hts : PlainAll ts)
    {rest : List Char} (hr : Ends rest) :
    t.EndsAt (charsAfter t.isJoint ts ++ rest) := by
  cases t with
  | ident w u => exact hr.charsAfter ts
  | literal w u => trivial
  | group d body u => trivial
  | punct c joint u =>
      cases joint with
      | false => exact (hr.charsAfter ts).isMark
      | true =>
          obtain ⟨d, joint, hd⟩ := ht
          cases ts with
          | nil => cases hd
          | cons t ts =>
              cases hd
              exact isMark_plain hts.1 _

theorem head_charsAfter {ts : Tokens} (h : PlainAll ts) {rest : List Char} (hr : Ends rest) :
    (charsAfter true ts ++ rest).head? ≠ some '/' := by
  cases ts with
  | nil =>
      have hends : ∀ d ∈ [' ', ')', ']', '\x7d'], d ≠ '/' := forall_mem_of_all (by decide)
      exact fun hs => hends '/' (hr '/' hs) rfl
  | cons t ts =>
      obtain ⟨c, cs, heq, hc⟩ := head_chars h.1
      simpa [charsAfter_cons, heq] using hc

theorem ends_closing (d : Delimiter) (rest : List Char) : Ends (d.closing :: rest) := by
  intro c hc
  obtain rfl := Option.some.inj hc
  cases d <;> decide

theorem ends_space (rest : List Char) : Ends (' ' :: rest) := by
  intro c hc
  obtain rfl := Option.some.inj hc
  decide

theorem rereads_enclosed {body : Tokens} (hplain : PlainAll body)
    (h : ∀ rest, Ends rest → Rereads (charsAfter true body) rest body) (d : Delimiter)
    (rest : List Char) : Rereads (Tree.group d body ()).chars rest [.group d body ()] := by
  have hclose := ends_closing d rest
  have htight : Rereads (d.opening :: charsAfter true body ++ [d.closing]) rest
      [.group d body ()] :=
    rereads_group (head_charsAfter hplain hclose) (h _ hclose)
  cases d with
  | paren => exact htight
  | bracket => exact htight
  | brace =>
      cases body with
      | nil => exact rereads_group (by simp) (rereads_space _)
      | cons t ts =>
          have hspaced := (h _ (ends_space _)).append (rereads_space (Delimiter.brace.closing :: rest))
          have hinner := (rereads_space _).append hspaced
          simp only [List.nil_append, List.append_nil] at hinner
          have hgroup := rereads_group (by simp) hinner
          simpa [Tree.chars, Delimiter.before, Delimiter.after] using hgroup

mutual

theorem rereads_tree (t : Tree Unit) (ht : t.Plain) (rest : List Char) (hr : t.EndsAt rest) :
    Rereads t.chars rest [t] := by
  match t with
  | .ident w () =>
      have hword := rereads_word ht hr
      rwa [String.ofList_toList] at hword
  | .punct c joint () =>
      have hmark := rereads_mark ht rest
      rwa [show isMark rest = joint from hr] at hmark
  | .literal w () => exact ht.elim
  | .group d body () => exact rereads_enclosed ht (rereads_trees body ht true) d rest

theorem rereads_trees (ts : Tokens) (hts : PlainAll ts) (tight : Bool) (rest : List Char)
    (hr : Ends rest) : Rereads (charsAfter tight ts) rest ts := by
  match ts with
  | [] => exact rereads_nil rest
  | t :: ts =>
      obtain ⟨ht, hjoint, hmore⟩ := hts
      have hfirst := rereads_tree t ht _ (endsAt_charsAfter hjoint hmore hr)
      have hboth := hfirst.append (rereads_trees ts hmore _ rest hr)
      rw [charsAfter_cons, List.append_assoc]
      cases tight with
      | true => exact hboth
      | false => exact (rereads_space _).append hboth

end

theorem ofText_of_scan {cs : List Char} {ps : List (Piece × String × Span)} {us : Source}
    (hscan : scan 0 cs = some ps) (hnest : nest [] [] ps = some us) :
    ofText (String.ofList cs) = some us := by
  unfold ofText
  rw [String.toList_ofList]
  cases cs with
  | nil =>
      simp only [scan, Option.some.injEq] at hscan
      subst hscan
      simpa [nest] using hnest
  | cons c cs =>
      have hc : c.toNat ≠ 0xfeff := by
        -- the mark would be passed over in front, but no piece begins with it
        intro hn
        have hmark : c = Char.ofNat 0xfeff := by rw [← hn, Char.ofNat_toNat]
        rw [hmark, scan, readPiece_byteOrderMark] at hscan
        cases hscan
      simp [hc, hscan, hnest]

theorem ofText_text {ts : Tokens} (h : PlainAll ts) :
    ∃ us, ofText (Tokens.text ts) = some us ∧ Source.bare us = ts := by
  obtain ⟨stop, ps, ⟨us, rfl, hus⟩, hscan⟩ := rereads_trees ts h true [] (by simp [Ends]) 0
  have hps : scan 0 (charsAfter true (Source.bare us)) = some ps := by
    simpa using hscan [] (by simp [scan])
  have hnest : nest [] [] ps = some us := by
    simpa [nest] using hus [] [] []
  exact ⟨us, ofText_of_scan hps hnest, rfl⟩

/-! Trees with their places left out. -/

theorem bare_eq_nil {us : Source} (h : Source.bare us = []) : us = [] := by
  cases us with
  | nil => rfl
  | cons u us => cases h

theorem bare_eq_ident {us : Source} {w : String} {ts : Tokens}
    (h : Source.bare us = .ident w () :: ts) :
    ∃ place more, us = .ident w place :: more ∧ Source.bare more = ts := by
  cases us with
  | nil => cases h
  | cons u us =>
      obtain ⟨hu, hus⟩ := List.cons.inj h
      cases u <;> cases hu
      exact ⟨_, us, rfl, hus⟩

theorem bare_eq_literal {us : Source} {w : String} {ts : Tokens}
    (h : Source.bare us = .literal w () :: ts) :
    ∃ place more, us = .literal w place :: more ∧ Source.bare more = ts := by
  cases us with
  | nil => cases h
  | cons u us =>
      obtain ⟨hu, hus⟩ := List.cons.inj h
      cases u <;> cases hu
      exact ⟨_, us, rfl, hus⟩

theorem bare_eq_punct {us : Source} {m : Char} {joint : Bool} {ts : Tokens}
    (h : Source.bare us = .punct m joint () :: ts) :
    ∃ place more, us = .punct m joint place :: more ∧ Source.bare more = ts := by
  cases us with
  | nil => cases h
  | cons u us =>
      obtain ⟨hu, hus⟩ := List.cons.inj h
      cases u <;> cases hu
      exact ⟨_, us, rfl, hus⟩

theorem bare_eq_group {us : Source} {d : Delimiter} {body ts : Tokens}
    (h : Source.bare us = .group d body () :: ts) :
    ∃ inner place more, us = .group d inner place :: more ∧ Source.bare inner = body ∧
      Source.bare more = ts := by
  cases us with
  | nil => cases h
  | cons u us =>
      obtain ⟨hu, hus⟩ := List.cons.inj h
      cases u <;> cases hu
      exact ⟨_, _, us, rfl, rfl, hus⟩

theorem ofText_word {w : String} (hw : IsWord w.toList) :
    ∃ place, ofText w = some [.ident w place] := by
  have htext : Tokens.text [.ident w ()] = w := by simp [Tokens.text, charsAfter, Tree.chars]
  have hplain : PlainAll [.ident w ()] := ⟨hw, trivial, trivial⟩
  obtain ⟨us, hus, hbare⟩ := ofText_text hplain
  obtain ⟨place, us', rfl, hnil⟩ := bare_eq_ident hbare
  obtain rfl := bare_eq_nil hnil
  rw [htext] at hus
  exact ⟨place, hus⟩

end ZonedAccessors.Token
