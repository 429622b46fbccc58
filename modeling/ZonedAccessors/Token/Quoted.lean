/-!
Quoted literals, read from just behind the opening quote. A reader returns the characters the
literal stands for and the text behind its closing quote.
-/

namespace ZonedAccessors.Token

/-- Byte literals are ASCII; terminated ones hold no zero character. -/
inductive Flavour where
  | text
  | bytes
  | terminated
  deriving DecidableEq, Repr

def Flavour.admits : Flavour → Char → Bool
  | .text, _ => true
  | .bytes, c => c.toNat < 128
  | .terminated, c => c.toNat != 0

def hexDigit (c : Char) : Option Nat :=
  if '0' ≤ c && c ≤ '9' then some (c.toNat - 48)
  else if 'a' ≤ c && c ≤ 'f' then some (c.toNat - 87)
  else if 'A' ≤ c && c ≤ 'F' then some (c.toNat - 55)
  else none

def scalar (n : Nat) : Option Char :=
  if h : n.isValidChar then some (Char.ofNatAux n h) else none

inductive QuoteState where
  | plain
  | carriage
  | escape
  | hexHigh
  | hexLow (high : Nat)
  | brace
  | code (value digits : Nat)
  | gap
  | gapCarriage
  deriving DecidableEq, Repr

inductive QuoteStep where
  | refuse
  | close
  | move (next : QuoteState) (shown : Option Char)
  deriving DecidableEq, Repr

def plainStep (f : Flavour) (c : Char) : QuoteStep :=
  if c == '"' then .close
  else if c == '\\' then .move .escape none
  else if c == '\r' then .move .carriage none
  else if f.admits c then .move .plain (some c)
  else .refuse

def escapeStep (f : Flavour) (c : Char) : QuoteStep :=
  match c with
  | 'x' => .move .hexHigh none
  | 'n' => .move .plain (some '\n')
  | 'r' => .move .plain (some '\r')
  | 't' => .move .plain (some '\t')
  | '\\' => .move .plain (some '\\')
  | '\'' => .move .plain (some '\'')
  | '"' => .move .plain (some '"')
  | '0' => if f == .terminated then .refuse else .move .plain (some (Char.ofNat 0))
  | 'u' => if f == .bytes then .refuse else .move .brace none
  | '\n' => .move .gap none
  | '\r' => .move .gapCarriage none
  | _ => .refuse

def showCode (f : Flavour) (n : Nat) : QuoteStep :=
  match scalar n with
  | some c => if f == .terminated && n == 0 then .refuse else .move .plain (some c)
  | none => .refuse

/-- Behind an escaped line break; other blanks stand for themselves. -/
def isGapBlank (c : Char) : Bool := c == ' ' || c == '\t' || c == '\n'

def quoteStep (f : Flavour) : QuoteState → Char → QuoteStep
  | .plain, c => plainStep f c
  | .carriage, c => if c == '\n' then .move .plain (some '\n') else .refuse
  | .escape, c => escapeStep f c
  | .hexHigh, c =>
      match hexDigit c with
      | some d => if f == .text && 8 ≤ d then .refuse else .move (.hexLow d) none
      | none => .refuse
  | .hexLow high, c =>
      match hexDigit c with
      | some d => showCode f (16 * high + d)
      | none => .refuse
  | .brace, c => if c == '\x7b' then .move (.code 0 0) none else .refuse
  | .code value digits, c =>
      if 0 < digits && c == '\x7d' then showCode f value
      else if 0 < digits && c == '_' then .move (.code value digits) none
      else match hexDigit c with
        | some d => if digits < 6 then .move (.code (16 * value + d) (digits + 1)) none else .refuse
        | none => .refuse
  | .gap, c =>
      if c == '\r' then .move .gapCarriage none
      else if isGapBlank c then .move .gap none
      else plainStep f c
  | .gapCarriage, c => if c == '\n' then .move .gap none else .refuse

def readQuoted (f : Flavour) : QuoteState → List Char → Option (List Char × List Char)
  | _, [] => none
  | s, c :: cs =>
      match quoteStep f s c with
      | .refuse => none
      | .close => some ([], cs)
      | .move next none => readQuoted f next cs
      | .move next (some shown) =>
          (readQuoted f next cs).map fun (value, rest) => (shown :: value, rest)

/-- An escaped line break stands for nothing, with the blanks behind it, up to anything else. -/
theorem readQuoted_gap (f : Flavour) {blanks : List Char} (hblanks : blanks.all isGapBlank = true)
    {c : Char} (hc : isGapBlank c = false) (hreturn : c ≠ '\r') (cs : List Char) :
    readQuoted f .gap (blanks ++ c :: cs) = readQuoted f .plain (c :: cs) := by
  induction blanks with
  | nil => simp [readQuoted, quoteStep, hc, hreturn]
  | cons b bs ih =>
      rw [List.all_cons, Bool.and_eq_true] at hblanks
      have hb : b ≠ '\r' := by
        rintro rfl
        cases hblanks.1
      have hstep : quoteStep f .gap b = .move .gap none := by
        simp [quoteStep, hb, hblanks.1]
      rw [List.cons_append, readQuoted, hstep]
      exact ih hblanks.2

/-- A form feed is no such blank. -/
example : readQuoted .text .plain "a\\\n \x0cb\"".toList = some ("a\x0cb".toList, []) := by decide

/-- Nor is any other space. -/
example : readQuoted .text .plain "a\\\n\t\u3000b\"".toList = some ("a\u3000b".toList, []) := by
  decide

def dropHashes : Nat → List Char → Option (List Char)
  | 0, cs => some cs
  | n + 1, '#' :: cs => dropHashes n cs
  | _ + 1, _ => none

def startsLine : List Char → Bool
  | '\n' :: _ => true
  | _ => false

/-- A raw literal closes at a quote that as many hashes follow as stood before its opening one. -/
def readRaw (f : Flavour) (hashes : Nat) : List Char → Option (List Char × List Char)
  | [] => none
  | c :: cs =>
      match if c == '"' then dropHashes hashes cs else none with
      | some rest => some ([], rest)
      | none =>
          if !f.admits c || (c == '\r' && !startsLine cs) then none
          else (readRaw f hashes cs).map fun (value, rest) => (c :: value, rest)

def countHashes : List Char → Nat
  | '#' :: cs => countHashes cs + 1
  | _ => 0

/-- From just behind the letter that makes a literal raw. -/
def readHashed (f : Flavour) (cs : List Char) : Option (List Char × List Char) :=
  let n := countHashes cs
  match cs.drop n with
  | '"' :: rest => if n ≤ 255 then readRaw f n rest else none
  | _ => none

/-- A character between single quotes; a byte has no `\u` escape and is ASCII. -/
def readCharacter (f : Flavour) : List Char → Option (List Char)
  | '\\' :: 'x' :: a :: b :: '\'' :: rest =>
      match hexDigit a, hexDigit b with
      | some d, some _ => if f == .text && 8 ≤ d then none else some rest
      | _, _ => none
  | '\\' :: 'u' :: rest =>
      if f == .bytes then none else readCode .brace rest
  | '\\' :: c :: '\'' :: rest => if "nrt\\0'\"".toList.contains c then some rest else none
  | '\\' :: _ => none
  | c :: '\'' :: rest => if f.admits c then some rest else none
  | _ => none
where
  readCode : QuoteState → List Char → Option (List Char)
    | _, [] => none
    | .plain, c :: cs => if c == '\'' then some cs else none
    | s, c :: cs =>
        match quoteStep .text s c with
        | .move next _ => readCode next cs
        | _ => none

end ZonedAccessors.Token
