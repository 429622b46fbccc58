import ZonedAccessors.Token.Basic
import ZonedAccessors.Token.Number
import ZonedAccessors.Token.Quoted
import ZonedAccessors.Token.Escape
import ZonedAccessors.Unicode.Letter

/-!
Text to tokens. A text is cut into pieces; blanks and comments vanish, a doc comment becomes the
attribute it stands for, and delimiters are matched.
-/

namespace ZonedAccessors.Token

open Unicode

def startsWith : List Char → List Char → Bool
  | [], _ => true
  | _ :: _, [] => false
  | p :: ps, c :: cs => p == c && startsWith ps cs

def opens (text : String) (cs : List Char) : Bool := startsWith text.toList cs

/-- Whitespace, or one of the two direction marks. -/
def isSpace (c : Char) : Bool := isBlank c || c.toNat == 0x200e || c.toNat == 0x200f

/-- A line and what follows it; a line feed is left in place, and of `\r\n` the first is dropped. -/
def readLine : List Char → List Char × List Char
  | [] => ([], [])
  | '\n' :: cs => ([], '\n' :: cs)
  | '\r' :: '\n' :: cs => ([], '\n' :: cs)
  | c :: cs => ((c :: (readLine cs).1), (readLine cs).2)

/-- From inside a block comment: its text up to the closing mark, and what follows that mark. -/
def readBlock : Nat → List Char → Option (List Char × List Char)
  | depth, '/' :: '*' :: cs =>
      (readBlock (depth + 1) cs).map fun (body, rest) => ('/' :: '*' :: body, rest)
  | 0, '*' :: '/' :: cs => some ([], cs)
  | depth + 1, '*' :: '/' :: cs =>
      (readBlock depth cs).map fun (body, rest) => ('*' :: '/' :: body, rest)
  | depth, c :: cs => (readBlock depth cs).map fun (body, rest) => (c :: body, rest)
  | _, [] => none

/-- Each carriage return is followed by a line feed. -/
def wholeLines : List Char → Bool
  | [] => true
  | '\r' :: cs => startsLine cs && wholeLines cs
  | _ :: cs => wholeLines cs

def readBlank (cs : List Char) : Option (List Char) :=
  match cs with
  | [] => none
  | c :: rest =>
      if opens "//" cs && (!opens "///" cs || opens "////" cs) && !opens "//!" cs then
        some (readLine cs).2
      else if opens "/**/" cs then some (cs.drop 4)
      else if opens "/*" cs && (!opens "/**" cs || opens "/***" cs) && !opens "/*!" cs then
        (readBlock 0 (cs.drop 2)).map (·.2)
      else if isSpace c then some rest
      else none

/-- A doc comment: whether it documents what encloses it, its text, and what follows. -/
def readDoc (cs : List Char) : Option (Bool × List Char × List Char) :=
  let found :=
    if opens "//!" cs then some (true, readLine (cs.drop 3))
    else if opens "/*!" cs then (readBlock 0 (cs.drop 2)).map fun (b, r) => (true, b.drop 1, r)
    else if opens "///" cs && !opens "////" cs then some (false, readLine (cs.drop 3))
    else if opens "/**" cs && !opens "/***" cs then
      (readBlock 0 (cs.drop 2)).map fun (b, r) => (false, b.drop 1, r)
    else none
  found.filter fun (_, body, _) => wholeLines body

def readString (f : Flavour) (cs : List Char) : Option (List Char) :=
  (readQuoted f .plain cs).map fun (_, rest) => dropSuffix rest

def readRawString (f : Flavour) (cs : List Char) : Option (List Char) :=
  (readHashed f cs).map fun (_, rest) => dropSuffix rest

def readLiteral : List Char → Option (List Char)
  | '"' :: cs => readString .text cs
  | 'r' :: cs => readRawString .text cs
  | 'b' :: '"' :: cs => readString .bytes cs
  | 'b' :: 'r' :: cs => readRawString .bytes cs
  | 'b' :: '\'' :: cs => (readCharacter .bytes cs).map dropSuffix
  | 'c' :: '"' :: cs => readString .terminated cs
  | 'c' :: 'r' :: cs => readRawString .terminated cs
  | '\'' :: cs => (readCharacter .text cs).map dropSuffix
  | cs => (readFloat cs).orElse fun _ => readInteger cs

def isMark (cs : List Char) : Bool :=
  match cs with
  | c :: _ => "~!@#$%^&*-=+|;:,<.>/?'".toList.contains c && !opens "//" cs && !opens "/*" cs
  | [] => false

/-- A name that may be raw; `r#` cannot make a name of one of five words. -/
def readWord (cs : List Char) : Option (List Char) :=
  if opens "r#" cs then
    (readName (cs.drop 2)).bind fun (name, rest) =>
      if ["_", "super", "self", "Self", "crate"].contains (String.ofList name) then none
      else some rest
  else (readName cs).map (·.2)

/-- A mark, and whether it is joint. A quote begins a lifetime. -/
def readMark (cs : List Char) : Option (Char × Bool × List Char) :=
  match cs with
  | c :: rest =>
      if !isMark cs then none
      else if c == '\'' then
        (readWord rest).bind fun after =>
          if opens "'" after || (opens "#" after && !opens "r#" rest) then none
          else some (c, true, rest)
      else some (c, isMark rest, rest)
  | [] => none

def readIdentifier (cs : List Char) : Option (List Char) :=
  if ["r\"", "r#\"", "r##", "b\"", "b'", "br\"", "br#", "c\"", "cr\"", "cr#"].any (opens · cs) then
    none
  else readWord cs

/-- What stands for a token that failed elsewhere. -/
def errorText : String := "(/*ERROR*/)"

inductive Piece where
  | blank
  | doc (inner : Bool) (body : List Char)
  | opening (d : Delimiter)
  | closing (d : Delimiter)
  | mark (c : Char) (joint : Bool)
  | word
  | literal
  deriving Repr

def readDelimiter (c : Char) : Option Piece :=
  match c with
  | '(' => some (.opening .paren)
  | '[' => some (.opening .bracket)
  | '\x7b' => some (.opening .brace)
  | ')' => some (.closing .paren)
  | ']' => some (.closing .bracket)
  | '\x7d' => some (.closing .brace)
  | _ => none

def readPiece (cs : List Char) : Option (Piece × List Char) :=
  match readBlank cs with
  | some rest => some (.blank, rest)
  | none =>
  match readDoc cs with
  | some (inner, body, rest) => some (.doc inner body, rest)
  | none =>
  if opens errorText cs then some (.literal, cs.drop errorText.length) else
  match cs.head?.bind readDelimiter with
  | some piece => some (piece, cs.tail)
  | none =>
  match readLiteral cs with
  | some rest => some (.literal, rest)
  | none =>
  match readMark cs with
  | some (c, joint, rest) => some (.mark c joint, rest)
  | none => (readIdentifier cs).map fun rest => (.word, rest)

/-- The pieces with their text and their place, counted from `start`. -/
def scan (start : Nat) (cs : List Char) : Option (List (Piece × String × Span)) :=
  match cs with
  | [] => some []
  | c :: tail =>
      match readPiece (c :: tail) with
      | none => none
      | some (piece, rest) =>
          if _h : rest.length < (c :: tail).length then
            let n := (c :: tail).length - rest.length
            (scan (start + n) rest).map fun found =>
              (piece, String.ofList ((c :: tail).take n), ⟨start, start + n⟩) :: found
          else none
termination_by cs.length
decreasing_by exact _h

def docTokens (inner : Bool) (body : List Char) (place : Span) : Source :=
  [.punct '#' false place] ++ (if inner then [.punct '!' false place] else []) ++
    [.group .bracket
      [.ident "doc" place, .punct '=' false place, .literal (quote (String.ofList body)) place]
      place]

structure Enclosing where
  delimiter : Delimiter
  first : Nat
  before : Source

/-- Matches delimiters; `done` holds the trees of the innermost open group, last one first. -/
def nest : List Enclosing → Source → List (Piece × String × Span) → Option Source
  | [], done, [] => some done.reverse
  | _ :: _, _, [] => none
  | stack, done, (.blank, _) :: more => nest stack done more
  | stack, done, (.doc inner body, _, place) :: more =>
      nest stack ((docTokens inner body place).reverse ++ done) more
  | stack, done, (.opening d, _, place) :: more => nest (⟨d, place.first, done⟩ :: stack) [] more
  | top :: stack, done, (.closing d, _, place) :: more =>
      if top.delimiter = d then
        nest stack (.group d done.reverse ⟨top.first, place.last⟩ :: top.before) more
      else none
  | [], _, (.closing _, _) :: _ => none
  | stack, done, (.mark c joint, _, place) :: more => nest stack (.punct c joint place :: done) more
  | stack, done, (.word, text, place) :: more => nest stack (.ident text place :: done) more
  | stack, done, (.literal, text, place) :: more => nest stack (.literal text place :: done) more

/-- A byte order mark in front is not part of the text, but counts as a place. -/
def ofText (text : String) : Option Source :=
  match text.toList with
  | c :: cs => if c.toNat == 0xfeff then (scan 1 cs).bind (nest [] []) else (scan 0 (c :: cs)).bind (nest [] [])
  | [] => some []

end ZonedAccessors.Token
