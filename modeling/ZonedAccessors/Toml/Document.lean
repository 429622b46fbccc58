import ZonedAccessors.Toml.Number
import ZonedAccessors.Toml.Quoted
import ZonedAccessors.Toml.Tree

/-!
Documents. Each reader returns what it read and the text behind it.
-/

namespace ZonedAccessors.Toml

/-- Behind a comment, at the end of its line. -/
def comment : List Char → Option (List Char)
  | [] => some []
  | c :: cs =>
      match newline (c :: cs) with
      | some _ => some (c :: cs)
      | none => if isControl c then none else comment cs

/-- Behind blanks and at most one comment. -/
def lineEnd (cs : List Char) : Option (List Char) :=
  match skipBlanks cs with
  | '#' :: cs => comment cs
  | cs => some cs

/-- Behind blanks, comments and line breaks. -/
def gap : Nat → List Char → Option (List Char)
  | 0, _ => none
  | fuel + 1, cs => do
      let cs ← lineEnd cs
      match newline cs with
      | some cs => gap fuel cs
      | none => some cs

def skipGap (cs : List Char) : Option (List Char) := gap (cs.length + 1) cs

def isBare (c : Char) : Bool := c.isAlphanum || c == '_' || c == '-'

def simpleKey (cs : List Char) : Option (String × List Char) :=
  match cs with
  | '"' :: cs => (basicString (cs.length + 1) cs).map fun (s, r) => (String.ofList s, r)
  | '\'' :: cs => (literalString cs).map fun (s, r) => (String.ofList s, r)
  | cs =>
      if (cs.takeWhile isBare).isEmpty then none
      else some (String.ofList (cs.takeWhile isBare), cs.dropWhile isBare)

def keysFrom : Nat → List Char → Option (List String × List Char)
  | 0, _ => none
  | fuel + 1, cs => do
      let (k, cs) ← simpleKey (skipBlanks cs)
      match skipBlanks cs with
      | '.' :: cs =>
          let (ks, cs) ← keysFrom fuel cs
          some (k :: ks, cs)
      | cs => some ([k], cs)

/-- A key with its dots. -/
def keys (cs : List Char) : Option (List String × List Char) := keysFrom (cs.length + 1) cs

def isPlain (c : Char) : Bool := isBare c || c == '+' || c == '.' || c == ':'

/-- A word without quotes; a date and a time may have a blank between them. -/
def plainWord (cs : List Char) : List Char × List Char :=
  let first := cs.takeWhile isPlain
  match cs.dropWhile isPlain with
  | ' ' :: rest =>
      if date first = some [] && (clock rest).isSome then
        (first ++ ' ' :: rest.takeWhile isPlain, rest.dropWhile isPlain)
      else (first, ' ' :: rest)
  | rest => (first, rest)

def plainValue (cs : List Char) : Option (Value × List Char) :=
  (plain (plainWord cs).1).map fun v => (v, (plainWord cs).2)

def quotedValue (cs : List Char) : Option (Value × List Char) :=
  (stringValue cs).map fun (s, r) => (.text (String.ofList s), r)

/-- The items of an array up to its closing bracket. -/
def itemsWith (value : List Char → Option (Value × List Char)) :
    Nat → List Char → Option (List Value × List Char)
  | 0, _ => none
  | fuel + 1, cs => do
      let cs ← skipGap cs
      match cs with
      | ']' :: cs => some ([], cs)
      | cs =>
          let (v, cs) ← value cs
          let cs ← skipGap cs
          match cs with
          | ',' :: cs =>
              let (vs, cs) ← itemsWith value fuel cs
              some (v :: vs, cs)
          | ']' :: cs => some ([v], cs)
          | _ => none

/-- A key, its value, and what follows. -/
def entryWith (value : List Char → Option (Value × List Char)) (cs : List Char) :
    Option (List String × Value × List Char) := do
  let (ks, cs) ← keys cs
  match cs with
  | '=' :: cs =>
      let (v, cs) ← value (skipBlanks cs)
      some (ks, v, cs)
  | _ => none

/-- The entries of an inline table up to its closing brace. -/
def entriesWith (value : List Char → Option (Value × List Char)) :
    Nat → Table → List Char → Option (Table × List Char)
  | 0, _, _ => none
  | fuel + 1, t, cs => do
      let cs ← skipGap cs
      match cs with
      | '\x7d' :: cs => some (t, cs)
      | cs =>
          let (ks, v, cs) ← entryWith value cs
          let t ← t.define ks v
          let cs ← skipGap cs
          match cs with
          | ',' :: cs => entriesWith value fuel t cs
          | '\x7d' :: cs => some (t, cs)
          | _ => none

/-- As many arrays and inline tables may be opened in each other. -/
def deepest : Nat := 80

/-- Opens `depth` arrays and inline tables in each other at most. -/
def valueWithin (depth : Nat) (cs : List Char) : Option (Value × List Char) :=
  match cs, depth with
  | '[' :: _, 0 => none
  | '[' :: cs, depth + 1 =>
      (itemsWith (valueWithin depth) (cs.length + 1) cs).map fun (vs, r) => (.array vs, r)
  | '\x7b' :: _, 0 => none
  | '\x7b' :: cs, depth + 1 =>
      (entriesWith (valueWithin depth) (cs.length + 1) (.empty .declared) cs).map fun (t, r) =>
        (t.value, r)
  | '"' :: _, _ => quotedValue cs
  | '\'' :: _, _ => quotedValue cs
  | cs, _ => plainValue cs

def value (cs : List Char) : Option (Value × List Char) := valueWithin deepest cs

inductive Line where
  | blank
  | entry (keys : List String) (value : Value)
  | header (keys : List String)
  | arrayHeader (keys : List String)

def line (cs : List Char) : Option (Line × List Char) :=
  match skipBlanks cs with
  | '[' :: '[' :: cs => do
      let (ks, cs) ← keys cs
      match cs with
      | ']' :: ']' :: cs => some (.arrayHeader ks, cs)
      | _ => none
  | '[' :: cs => do
      let (ks, cs) ← keys cs
      match cs with
      | ']' :: cs => some (.header ks, cs)
      | _ => none
  | cs =>
      let ended := match cs with
        | [] => true
        | '#' :: _ => true
        | cs => (newline cs).isSome
      if ended then some (.blank, cs)
      else (entryWith value cs).map fun (ks, v, r) => (.entry ks v, r)

def linesFrom : Nat → List Char → Option (List Line)
  | 0, _ => none
  | fuel + 1, cs => do
      let (l, cs) ← line cs
      match ← lineEnd cs with
      | [] => some [l]
      | cs =>
          let cs ← newline cs
          let ls ← linesFrom fuel cs
          some (l :: ls)

/-- The whole document so far, and the path of the header above. -/
def addLine (s : Table × List String) (l : Line) : Option (Table × List String) :=
  match l with
  | .blank => some s
  | .entry ks v => (s.1.within false (·.define ks v) s.2).map fun t => (t, s.2)
  | .header ks => (s.1.declare ks).map fun t => (t, ks)
  | .arrayHeader ks => (s.1.append ks).map fun t => (t, ks)

def document (text : String) : Option (List (String × Value)) := do
  let cs := match text.toList with
    | c :: cs => if c.toNat = 0xfeff then cs else c :: cs
    | [] => []
  let ls ← linesFrom (cs.length + 1) cs
  let (t, _) ← ls.foldlM addLine (.empty .declared, [])
  match t.value with
  | .table entries => some entries
  | _ => none

end ZonedAccessors.Toml
