import ZonedAccessors.Layout.Break
import ZonedAccessors.Layout.Comment
import ZonedAccessors.Layout.Macro

/-!
Parts of a layout that need no trees below them, or take these already laid out.
-/

namespace ZonedAccessors.Layout

open Token Syntax

def literalText (negative : Bool) (text : String) : String := if negative then "-" ++ text else text

def lifetimeText (name : String) : String := "'" ++ name

def wordDocs (texts : List String) : Docs := texts.map fun t => .text (t ++ " ")

def wordIf (written : Bool) (text : String) : Docs := if written then [.text (text ++ " ")] else []

def labelDocs : Option String → Docs
  | none => []
  | some name => [.text (lifetimeText name ++ ": ")]

def conventionDocs (c : Convention) : Docs :=
  .text "extern " :: match c.name with
    | none => []
    | some text => [.text text, .text " "]

def qualifierDocs (q : Qualifiers) : Docs :=
  wordDocs q.words ++ match q.convention with
    | none => []
    | some c => conventionDocs c

/-- The word `in` stands only where it must. -/
def visibilityDocs : Visibility → Docs
  | .inherited => []
  | .everywhere => [.text "pub "]
  | .restricted _ p =>
      let isNear := match p with
        | ⟨false, [n]⟩ => ["self", "super", "crate"].contains n
        | _ => false
      .text (if isNear then "pub(" else "pub(in ") :: modPath p ++ [.text ") "]

def receiverText : Receiver → String
  | .owned mutable => if mutable then "mut self" else "self"
  | .borrowed l mutable =>
      "&" ++ (match l with | some name => lifetimeText name ++ " " | none => "") ++
        if mutable then "mut self" else "self"

def capturedDocs : Captured → Docs
  | .lifetime name => [.text (lifetimeText name)]
  | .name text => [.text text]

/-! Imports. -/

def endsInGroup : Import → Bool
  | .under _ rest => endsInGroup rest
  | .group .. => true
  | _ => false

mutual

def importDocs : Import → Docs
  | .name text => [.text text]
  | .renamed text new => [.text (text ++ " as " ++ new)]
  | .all => [.text "*"]
  | .under text rest => .text (text ++ "::") :: importDocs rest
  | .group items _ =>
      .text "\x7b" :: box step (dedented (soft :: looseBox 0 (importsDocs items) ++ [comma])) ++
        [.text "\x7d"]

/-- A group ends its line. -/
def importsDocs : List Import → Docs
  | [] => []
  | [i] => importDocs i
  | i :: is => importDocs i ++ [.text ",", if endsInGroup i then hard else blank] ++ importsDocs is

end

/-! Conditions. -/

/-- Bounds behind a colon. -/
def spaced (bounds : List Docs) : Docs :=
  if bounds.isEmpty then [] else .text " " :: summed bounds

/-- Conditions on lines of their own, and the blank or the semicolon behind them. -/
def conditionLines (ended : Bool) (predicates : List Docs) : Docs :=
  match predicates with
  | [] => [.text (if ended then ";" else " ")]
  | ps =>
      let opening := dedented [hard] ++ [.text "where", hard]
      if ended then
        opening ++ ps.dropLast.flatMap (· ++ [.text ",", hard]) ++ ps.getLastD [] ++ [.text ";"]
      else dedented (opening ++ ps.flatMap (· ++ [.text ",", hard]))

/-- As `conditionLines`, but on one line if they fit. -/
def conditionLine (ended : Bool) (predicates : List Docs) : Docs :=
  match predicates with
  | [] => [.text (if ended then ";" else " ")]
  | ps =>
      let opening := dedented [blank] ++ [.text "where", blank]
      if ended then
        opening ++ ps.dropLast.flatMap (· ++ [.text ",", blank]) ++ ps.getLastD [] ++ [.text ";"]
      else dedented (opening ++ separated commaOrBlank ps)

/-! Expressions. -/

/-- How an expression stands: first on its line, or before a member of it. -/
structure Manner where
  first : Bool
  chained : Bool
  deriving DecidableEq, Repr

namespace Manner

def plain : Manner := ⟨false, false⟩

def line : Manner := ⟨true, false⟩

/-- What begins a chain stands one step before its other links. -/
def head (m : Manner) (inner : Docs) : Docs := if m.chained then box (-step) inner else inner

/-- The last link of a chain holds all of it. -/
def link (m : Manner) (inner : Docs) : Docs := if m.chained then inner else box step inner

def receiver (m : Manner) : Manner := ⟨m.first, true⟩

/-- What is called in a chain begins no line. -/
def callee (m : Manner) : Manner := ⟨m.first && !m.chained, m.chained⟩

/-- The gap before a member. -/
def gap (m : Manner) (base : Expr) : Docs :=
  if m.first && isShort base then []
  else [.gap { noGap with flat := if endsInPoint base then [' '] else [] }]

/-- Arguments behind a short name that begins a line are not indented twice. -/
def argumentIndent (m : Manner) (base : Expr) : Int :=
  if m.first && !m.chained && isShort base then -step else 0

end Manner

/-- A condition up to the brace behind it. -/
def conditionBox (e : Expr) (inner : Docs) : Docs :=
  box 0 (inner ++ [if mayWrap e then blank else .text " "])

/-- A sole argument with brackets of its own is not indented. -/
def callArguments (arguments : List Expr) (inner : List Docs) : Docs :=
  match arguments, inner with
  | [e], [d] => if isBracketed e then d else listBox step [d]
  | _, ds => listBox step ds

def arrayDocs (items : List Expr) (inner : List Docs) : Docs :=
  if items.isEmpty then [.text "[]"]
  else if items.all isSimple then
    box step (dedented ([.text "[", soft] ++ looseBox 0 (filled inner) ++ [comma]) ++ [.text "]"])
  else .text "[" :: listBox step inner ++ [.text "]"]

/-- Fields up to the closing brace; `rest` is what the others are taken from. -/
def fieldsDocs (fields : List Docs) (rest : Option Docs) : Docs :=
  match rest with
  | none => separated commaOrBlank fields
  | some d => fields.flatMap (· ++ [.text ",", blank]) ++ d ++ [blank]

def structDocs (path : Docs) (fields : List Docs) (rest : Option Docs) : Docs :=
  boxWithin 34 step
    (dedented (looseBox (-step) path ++ [.text " \x7b", blankIf] ++ fieldsDocs fields rest)) ++
    [.text "\x7d"]

/-- Brackets around an expression stand only if it does not fit on its line. -/
def braced (e : Expr) (closing : String) (flat : List Char) (inner : Docs) : Docs :=
  let stands := mayBeStatement e
  let opening := Doc.gap { noGap with before := [if stands then '\x7b' else '('] }
  let ending := Doc.gap { noGap with
    offset := -step
    before := if stands && takesSemicolon e then [';'] else []
    after := if stands then ['\x7d'] else closing.toList
    flat := flat }
  box step (opening :: inner ++ [ending])

def armBox (e : Expr) (inner : Docs) : Docs :=
  fixed :: braced e ")," (if e.isBlock then [] else [',']) inner

def closureBody (e : Expr) (inner : Docs) : Docs :=
  if isClosureBody e then inner else braced e ")" [] inner

/-- The inputs of a closure; a gap stands behind the last bar unless a type follows. -/
def closureInputs (typed : Bool) (inputs : List Docs) : Docs :=
  let first := .text "|" :: (if inputs.isEmpty then [] else [soft]) ++ filled inputs
  if typed then
    box step ((if inputs.isEmpty then first else dedented (first ++ [comma])) ++ [.text "|"])
  else box step (dedented (first ++ [.text "|", blank]))

def isUnit : Expr → Bool
  | .tuple [] _ => true
  | _ => false

/-- The body of an arm: without the braces of a block of one expression, with those of other
blocks. -/
@[macro_inline]
def armBody (e : Expr) (peeled block inner : Docs) : Docs :=
  if isSole e then peeled
  else if isUnit e then [.text "\x7b", fixed, .text "\x7d"]
  else if isBareBlock e then block
  else armBox e inner

/-- Lines in braces on the line that they begin. -/
def blockLines (body : Docs) : Docs := [.text "\x7b", fixed] ++ lines body ++ [.text "\x7d"]

/-! Items. -/

/-- A declaration with lines in braces. -/
def declaration (head body : Docs) : Docs :=
  box step (dedented (head ++ [.text "\x7b", hardIf] ++ body)) ++ [.text "\x7d", hard]

/-- A line each, with a comma. -/
def commaLines (items : List Docs) : Docs := items.flatMap (· ++ [.text ",", hard])

def bar (inner : List Docs) : Docs :=
  match inner with
  | [] => []
  | d :: ds => d ++ ds.flatMap fun d => [blank, .text "| "] ++ d

end ZonedAccessors.Layout
