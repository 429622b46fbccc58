import ZonedAccessors.Token.Lexer

/-!
What the tokens of a text are made of: each name is a word, and no literal is one of the words
that stand for truth values.
-/

namespace ZonedAccessors.Token

open Unicode

theorem startsWith_iff {ps cs : List Char} : startsWith ps cs = true ↔ ∃ rest, cs = ps ++ rest := by
  induction ps generalizing cs with
  | nil => simp [startsWith]
  | cons p ps ih =>
      cases cs with
      | nil => simp [startsWith]
      | cons c cs =>
          simp only [startsWith, Bool.and_eq_true, beq_iff_eq, ih, List.cons_append, List.cons.injEq]
          constructor
          · rintro ⟨rfl, rest, rfl⟩
            exact ⟨rest, rfl, rfl⟩
          · rintro ⟨rest, rfl, rfl⟩
            exact ⟨rfl, rest, rfl⟩

theorem startsWith_of_ne {p c : Char} (h : c ≠ p) (ps cs : List Char) :
    startsWith (p :: ps) (c :: cs) = false := by
  simp [startsWith, h.symm]

/-- Nothing here reads on into a name. -/
def Breaks (rest : List Char) : Prop := ∀ c ∈ rest.head?, isIdentContinue c = false

inductive IsName : List Char → Prop
  | mk {c cs} : isIdentStart c = true → (∀ d ∈ cs, isIdentContinue d = true) → IsName (c :: cs)

theorem dropWhile_breaks (cs : List Char) : Breaks (cs.dropWhile isIdentContinue) := by
  intro c hc
  have h := List.head?_dropWhile_not isIdentContinue cs
  rw [Option.mem_def.mp hc] at h
  simpa using h

theorem readName_sound {cs name rest : List Char} (h : readName cs = some (name, rest)) :
    IsName name ∧ cs = name ++ rest ∧ Breaks rest := by
  cases cs with
  | nil => simp [readName] at h
  | cons c cs =>
      simp only [readName] at h
      split at h
      · rename_i hc
        obtain ⟨rfl, rfl⟩ := Prod.mk.inj (Option.some.inj h)
        refine ⟨.mk hc ?_, ?_, dropWhile_breaks cs⟩
        · exact List.all_eq_true.mp List.all_takeWhile
        · simp
      · cases h

theorem readName_complete {name rest : List Char} (h : IsName name) (hr : Breaks rest) :
    readName (name ++ rest) = some (name, rest) := by
  obtain ⟨hc, hcs⟩ := h
  rename_i c cs
  have htake : rest.takeWhile isIdentContinue = [] := by
    cases rest with
    | nil => rfl
    | cons d rest => simp [hr d rfl]
  have hdrop : rest.dropWhile isIdentContinue = rest := by
    cases rest with
    | nil => rfl
    | cons d rest => simp [hr d rfl]
  simp [readName, hc, List.takeWhile_append_of_pos hcs, List.dropWhile_append_of_pos hcs, htake,
    hdrop]

def neverRaw : List String := ["_", "super", "self", "Self", "crate"]

inductive IsWord : List Char → Prop
  | plain {name} : IsName name → IsWord name
  | raw {name} : IsName name → String.ofList name ∉ neverRaw → IsWord ('r' :: '#' :: name)

theorem isWord_of_readName {w : List Char} (h : readName w = some (w, [])) : IsWord w :=
  .plain (readName_sound h).1

theorem readWord_sound {cs rest : List Char} (h : readWord cs = some rest) :
    ∃ w, IsWord w ∧ cs = w ++ rest := by
  unfold readWord at h
  split at h
  · rename_i hraw
    obtain ⟨tail, rfl⟩ := startsWith_iff.mp hraw
    obtain ⟨⟨name, rest'⟩, hname, hrest⟩ := Option.bind_eq_some_iff.mp h
    obtain ⟨hn, htail, -⟩ := readName_sound hname
    change tail = name ++ rest' at htail
    simp only at hrest
    split at hrest
    · cases hrest
    · rename_i hnever
      obtain rfl := Option.some.inj hrest
      exact ⟨_, .raw hn (by simpa [neverRaw] using hnever), by simp [htail]⟩
  · obtain ⟨⟨name, rest'⟩, hname, rfl⟩ := Option.map_eq_some_iff.mp h
    obtain ⟨hn, hcs, -⟩ := readName_sound hname
    exact ⟨name, .plain hn, hcs⟩

theorem readIdentifier_sound {cs rest : List Char} (h : readIdentifier cs = some rest) :
    ∃ w, IsWord w ∧ cs = w ++ rest := by
  unfold readIdentifier at h
  split at h
  · cases h
  · exact readWord_sound h

/-- How a literal begins: with a digit, a quote, a letter before one, or as a token that failed. -/
def LiteralStart (c : Char) : Prop := isAsciiDigit c = true ∨ c ∈ ['(', '"', 'r', 'b', 'c', '\'']

theorem readFloat_start {c : Char} {cs rest : List Char} (h : readFloat (c :: cs) = some rest) :
    isAsciiDigit c = true := by
  simp only [readFloat] at h
  split at h
  · assumption
  · cases h

theorem readDigits_start {c : Char} {cs rest : List Char}
    (h : readDigits 10 true (c :: cs) = some rest) : isAsciiDigit c = true := by
  cases hc : isAsciiDigit c with
  | true => rfl
  | false =>
      simp only [readDigits, digitIn, hc] at h
      split at h <;> simp at h

theorem readInteger_start {c : Char} {cs rest : List Char}
    (h : readInteger (c :: cs) = some rest) : isAsciiDigit c = true := by
  unfold readInteger at h
  split at h
  · rename_i heq
    obtain ⟨rfl, -⟩ := List.cons.inj heq
    rfl
  · rename_i heq
    obtain ⟨rfl, -⟩ := List.cons.inj heq
    rfl
  · rename_i heq
    obtain ⟨rfl, -⟩ := List.cons.inj heq
    rfl
  · obtain ⟨_, hd, -⟩ := Option.bind_eq_some_iff.mp h
    exact readDigits_start hd

theorem readNumber_start {c : Char} {cs rest : List Char}
    (h : ((readFloat (c :: cs)).orElse fun _ => readInteger (c :: cs)) = some rest) :
    isAsciiDigit c = true := by
  cases hf : readFloat (c :: cs) with
  | some r => exact readFloat_start hf
  | none => exact readInteger_start (by simpa [hf] using h)

theorem readLiteral_start {c : Char} {cs rest : List Char}
    (h : readLiteral (c :: cs) = some rest) : LiteralStart c := by
  unfold readLiteral at h
  split at h
  case h_9 => exact .inl (readNumber_start h)
  all_goals
    rename_i heq
    obtain ⟨rfl, -⟩ := List.cons.inj heq
    exact .inr (by decide)

def IsLiteral (w : String) : Prop := ∃ c ∈ w.toList.head?, LiteralStart c

theorem IsLiteral.ne_of_start {w v : String} (h : IsLiteral w)
    (hv : ∀ c ∈ v.toList.head?, ¬ LiteralStart c) : w ≠ v := by
  rintro rfl
  obtain ⟨c, hc, hs⟩ := h
  exact hv c hc hs

def boolWord : Bool → String
  | true => "true"
  | false => "false"

theorem IsLiteral.ne_boolWord {w : String} (h : IsLiteral w) (b : Bool) : w ≠ boolWord b := by
  apply h.ne_of_start
  intro c hc
  cases b <;> (obtain rfl := Option.some.inj (Option.mem_def.mp hc); unfold LiteralStart; decide)

/-! From pieces of text to trees. -/

def Piece.Lexed (piece : Piece) (text : String) : Prop :=
  match piece with
  | .word => IsWord text.toList
  | .literal => IsLiteral text
  | _ => True

mutual

def Tree.Lexed : Tree Span → Prop
  | .ident w _ => IsWord w.toList
  | .literal w _ => IsLiteral w
  | .punct .. => True
  | .group _ body _ => LexedAll body

def LexedAll : Source → Prop
  | [] => True
  | t :: ts => t.Lexed ∧ LexedAll ts

end

theorem lexedAll_iff {ts : Source} : LexedAll ts ↔ ∀ t ∈ ts, t.Lexed := by
  induction ts with
  | nil => simp [LexedAll]
  | cons t ts ih => simp [LexedAll, ih]

theorem readPiece_lexed {cs rest : List Char} {piece : Piece}
    (h : readPiece cs = some (piece, rest)) (hlt : rest.length < cs.length) :
    piece.Lexed (String.ofList (cs.take (cs.length - rest.length))) := by
  obtain ⟨c, cs, rfl⟩ := List.exists_cons_of_length_pos (Nat.zero_lt_of_lt hlt)
  have hstart (hs : LiteralStart c) :
      IsLiteral (String.ofList ((c :: cs).take ((c :: cs).length - rest.length))) := by
    obtain ⟨n, hn⟩ : ∃ n, (c :: cs).length - rest.length = n + 1 :=
      Nat.exists_eq_succ_of_ne_zero (Nat.sub_ne_zero_of_lt hlt)
    rw [hn]
    exact ⟨c, by simp, hs⟩
  unfold readPiece at h
  split at h
  · obtain ⟨rfl, -⟩ := Prod.mk.inj (Option.some.inj h)
    trivial
  split at h
  · obtain ⟨rfl, -⟩ := Prod.mk.inj (Option.some.inj h)
    trivial
  split at h
  · rename_i herr
    obtain ⟨rfl, -⟩ := Prod.mk.inj (Option.some.inj h)
    obtain ⟨tail, htail⟩ := startsWith_iff.mp herr
    obtain ⟨rfl, -⟩ := List.cons.inj htail
    exact hstart (.inr (by decide))
  split at h
  · rename_i p hp
    obtain ⟨rfl, -⟩ := Prod.mk.inj (Option.some.inj h)
    simp only [List.head?_cons, Option.bind_some, readDelimiter] at hp
    cases p with
    | opening d => trivial
    | closing d => trivial
    | _ => split at hp <;> cases hp
  split at h
  · rename_i hl
    obtain ⟨rfl, rfl⟩ := Prod.mk.inj (Option.some.inj h)
    exact hstart (readLiteral_start hl)
  split at h
  · obtain ⟨rfl, -⟩ := Prod.mk.inj (Option.some.inj h)
    trivial
  · obtain ⟨rest', hid, heq⟩ := Option.map_eq_some_iff.mp h
    obtain ⟨rfl, rfl⟩ := Prod.mk.inj heq
    obtain ⟨w, hw, hcs⟩ := readIdentifier_sound hid
    simpa [Piece.Lexed, hcs] using hw

theorem scan_lexed {start : Nat} {cs : List Char} {ps : List (Piece × String × Span)}
    (h : scan start cs = some ps) : ∀ p ∈ ps, p.1.Lexed p.2.1 := by
  fun_induction scan start cs generalizing ps with
  | case1 => simp_all
  | case2 => cases h
  | case3 start c tail piece rest hp hlt n =>
      rename_i ih
      obtain ⟨found, hfound, rfl⟩ := Option.map_eq_some_iff.mp h
      intro p hp'
      rcases List.mem_cons.mp hp' with rfl | hin
      · exact readPiece_lexed hp hlt
      · exact ih hfound p hin
  | case4 => cases h

theorem lexedAll_append {ts us : Source} (ht : LexedAll ts) (hu : LexedAll us) :
    LexedAll (ts ++ us) := by
  rw [lexedAll_iff] at ht hu ⊢
  intro t h
  exact (List.mem_append.mp h).elim (ht t) (hu t)

theorem lexedAll_reverse {ts : Source} (h : LexedAll ts) : LexedAll ts.reverse := by
  rw [lexedAll_iff] at h ⊢
  exact fun t ht => h t (List.mem_reverse.mp ht)

theorem LexedAll.of_suffix {ts us : Source} (h : us <:+ ts) (ht : LexedAll ts) : LexedAll us := by
  rw [lexedAll_iff] at ht ⊢
  exact fun u hu => ht u (h.subset hu)

theorem docTokens_lexed (inner : Bool) (body : List Char) (place : Span) :
    LexedAll (docTokens inner body place) := by
  have hdoc : IsWord "doc".toList := isWord_of_readName (by decide)
  have hquote : IsLiteral (quote (String.ofList body)) := ⟨'"', by simp [quote], .inr (by decide)⟩
  cases inner
  · exact ⟨trivial, ⟨hdoc, trivial, hquote, trivial⟩, trivial⟩
  · exact ⟨trivial, trivial, ⟨hdoc, trivial, hquote, trivial⟩, trivial⟩

theorem nest_lexed {stack : List Enclosing} {done : Source} {ps : List (Piece × String × Span)}
    {ts : Source} (h : nest stack done ps = some ts) (hps : ∀ p ∈ ps, p.1.Lexed p.2.1)
    (hstack : ∀ e ∈ stack, LexedAll e.before) (hdone : LexedAll done) : LexedAll ts := by
  induction ps generalizing stack done with
  | nil =>
      cases stack with
      | nil =>
          obtain rfl := Option.some.inj h
          exact lexedAll_reverse hdone
      | cons e stack => cases h
  | cons p ps ih =>
      obtain ⟨piece, text, place⟩ := p
      have hp : piece.Lexed text := hps (piece, text, place) (by simp)
      have hmore : ∀ p ∈ ps, p.1.Lexed p.2.1 := fun p h => hps p (by simp [h])
      cases piece with
      | blank =>
          simp only [nest] at h
          exact ih h hmore hstack hdone
      | doc inner body =>
          simp only [nest] at h
          have hdoc := lexedAll_append (lexedAll_reverse (docTokens_lexed inner body place)) hdone
          exact ih h hmore hstack hdoc
      | opening d =>
          simp only [nest] at h
          have hopen : ∀ e ∈ (⟨d, place.first, done⟩ : Enclosing) :: stack, LexedAll e.before := by
            simpa using ⟨hdone, hstack⟩
          exact ih h hmore hopen trivial
      | closing d =>
          cases stack with
          | nil => cases h
          | cons top stack =>
              simp only [nest] at h
              split at h
              · have htop := hstack top (by simp)
                exact ih h hmore (fun e he => hstack e (by simp [he]))
                  ⟨lexedAll_reverse hdone, htop⟩
              · cases h
      | mark c joint =>
          simp only [nest] at h
          exact ih h hmore hstack ⟨trivial, hdone⟩
      | word =>
          simp only [nest] at h
          exact ih h hmore hstack ⟨hp, hdone⟩
      | literal =>
          simp only [nest] at h
          exact ih h hmore hstack ⟨hp, hdone⟩

theorem ofText_lexed {text : String} {ts : Source} (h : ofText text = some ts) : LexedAll ts := by
  have close {start : Nat} {cs : List Char} (h : (scan start cs).bind (nest [] []) = some ts) :
      LexedAll ts := by
    obtain ⟨ps, hps, hts⟩ := Option.bind_eq_some_iff.mp h
    exact nest_lexed hts (scan_lexed hps) (by simp) trivial
  unfold ofText at h
  split at h
  · split at h
    · exact close h
    · exact close h
  · obtain rfl := Option.some.inj h
    trivial

end ZonedAccessors.Token
