import ZonedAccessors.Layout.Box
import ZonedAccessors.Syntax.Name

/-!
Tokens that have no tree: those of a macro call, of the rules of a macro, and of an attribute.
-/

namespace ZonedAccessors.Layout

open Token Syntax

/-- Words that are no names where the tokens of a macro are laid out. -/
def reserved : List String :=
  ["as", "async", "await", "box", "break", "const", "continue", "crate", "dyn", "else", "enum",
    "extern", "fn", "for", "if", "impl", "in", "let", "loop", "macro", "match", "mod", "move",
    "mut", "pub", "ref", "return", "static", "struct", "trait", "type", "unsafe", "use", "where",
    "while", "yield"]

/-- What stands before a token, as far as blanks depend on it. -/
inductive Before where
  | start
  | dollar
  | variable
  | variableColon
  | repetition
  | separator
  | pound
  | poundMark
  | point
  | colon
  | colons
  | name
  | call
  | group
  | other
  deriving DecidableEq, Repr

/-- Whether a blank stands before a token, and what stands before the next one. -/
def Before.next (isMatcher : Bool) (b : Before) (t : Token.Tree Unit) : Bool × Before :=
  match b, t with
  | .dollar, .ident .. => (false, if isMatcher then .variable else .other)
  | .variable, .punct ':' false _ => (false, .variableColon)
  | .variableColon, .ident .. => (false, .other)
  | .repetition, .punct '+' false _ => (false, .other)
  | .repetition, .punct '*' false _ => (false, .other)
  | .repetition, .punct '?' false _ => (false, .other)
  | .repetition, .ident .. => (false, .separator)
  | .repetition, .literal .. => (false, .separator)
  | .repetition, .punct _ joint _ => (false, if joint then .repetition else .separator)
  | .separator, .punct '+' _ _ => (false, .other)
  | .separator, .punct '*' _ _ => (false, .other)
  | .pound, .punct '!' _ _ => (false, .poundMark)
  | .dollar, .group .paren _ _ => (false, .repetition)
  | .pound, .group .bracket _ _ => (false, .other)
  | .poundMark, .group .bracket _ _ => (false, .other)
  | .name, .group .paren _ _ => (false, .group)
  | .name, .group .bracket _ _ => (false, .group)
  | .name, .punct '!' false _ => (false, .call)
  | .call, .group .paren _ _ => (false, .other)
  | .call, .group .bracket _ _ => (false, .other)
  | .colon, .punct ':' _ _ => (false, .colons)
  | _, .group .brace _ _ => (true, .other)
  | _, .group _ _ _ => (true, .group)
  | b, .ident text _ =>
      if reserved.contains text then (true, .other) else (b ≠ .point && b ≠ .colons, .name)
  | b, .literal .. => (b ≠ .point, .name)
  | _, .punct ',' _ _ => (false, .other)
  | _, .punct ';' _ _ => (false, .other)
  | b, .punct '.' _ _ =>
      if isMatcher then (true, .other) else (b ≠ .name && b ≠ .group, .point)
  | b, .punct ':' joint _ => if joint then (b ≠ .name, .colon) else (true, .other)
  | _, .punct '$' _ _ => (true, .dollar)
  | _, .punct '#' _ _ => (true, .pound)
  | _, .punct .. => (true, .other)

/-- Whether nothing stands between a token and the next one. -/
def isTight : Token.Tree Unit → Bool
  | .punct '$' _ _ => true
  | .punct _ joint _ => joint
  | _ => false

def isPoint : Token.Tree Unit → Bool
  | .punct '.' _ _ => true
  | _ => false

/-- The gap before a token. -/
def gapBefore (tight spaced : Bool) (t : Token.Tree Unit) : Docs :=
  if tight then [] else if spaced then [blank] else if isPoint t then [soft] else []

def opening (d : Delimiter) : Doc := .text (String.ofList [d.opening])

def closing (d : Delimiter) : Doc := .text (String.ofList [d.closing])

/-- Blanks stand only in braces with something in them. -/
def grouped (d : Delimiter) (isEmpty : Bool) (body : Docs) : Docs :=
  match d with
  | .brace => if isEmpty then [opening d, closing d] else opening d :: blank :: body ++ [blank, closing d]
  | d => opening d :: body ++ [closing d]

mutual

def tree (isMatcher : Bool) : Token.Tree Unit → Docs
  | .ident text _ => [.text text]
  | .punct c _ _ => [.text (String.ofList [c])]
  | .literal text _ => [.text text]
  | .group d body _ => grouped d body.isEmpty (trees isMatcher .start true body)

def trees (isMatcher : Bool) (b : Before) (tight : Bool) : Tokens → Docs
  | [] => []
  | t :: ts =>
      let (spaced, after) := b.next isMatcher t
      gapBefore tight spaced t ++ tree isMatcher t ++ trees isMatcher after (isTight t) ts

end

def isolated (isMatcher : Bool) (ts : Tokens) : Docs := looseBox 0 (trees isMatcher .start true ts)

/-! The rules of a macro. -/

inductive RulePart where
  | start
  | matcher
  | equal
  | greater
  | expander
  deriving DecidableEq, Repr

def matcherDocs (d : Delimiter) (body : Tokens) : Docs :=
  opening d ::
    (if body.isEmpty then [] else box step (dedented (soft :: isolated true body ++ [soft]))) ++
    [closing d]

def expanderDocs (body : Tokens) : Docs :=
  [.text " \x7b", fixed] ++
    (if body.isEmpty then [] else box step (dedented (hard :: isolated false body ++ [hard]))) ++
    [.text "\x7d"]

def rulesFrom : RulePart → Tokens → Docs
  | .start, [] => []
  | .expander, [] => [.text ";", hard]
  | _, [] => [hard]
  | .start, .group d body _ :: ts => matcherDocs d body ++ rulesFrom .matcher ts
  | .matcher, .punct '=' true _ :: ts => .text " =" :: rulesFrom .equal ts
  | .equal, .punct '>' _ _ :: ts => .text ">" :: rulesFrom .greater ts
  | .greater, .group _ body _ :: ts => expanderDocs body ++ rulesFrom .expander ts
  | .expander, .punct ';' _ _ :: ts => .text ";" :: hard :: rulesFrom .start ts
  | part, _ :: ts => rulesFrom part ts

def rules (name : String) (ts : Tokens) : Docs :=
  [.text "macro_rules! ", .text name, .text " \x7b"] ++
    box step (dedented (hardIf :: rulesFrom .start ts)) ++ [.text "\x7d"]

/-! Calls. -/

def modPath (p : ModPath) : Docs :=
  (if p.rooted then [.text "::"] else []) ++ joined "::" (p.names.map fun n => [.text n])

def between (d : Delimiter) (body : Tokens) : Docs :=
  let edge := match d with
    | .brace => hard
    | _ => soft
  if body.isEmpty then [] else box step (dedented (edge :: isolated false body ++ [edge]))

def invocation (c : Invocation) (name : Option String) (ended : Bool) : Docs :=
  match c, name with
  | ⟨⟨false, ["macro_rules"]⟩, .group _ body _⟩, some n => rules n body
  | ⟨path, .group d body _⟩, name =>
      modPath path ++ [.text "!"] ++
        (match name with
          | none => []
          | some n => [.text " ", .text n]) ++
        (match d with
          | .brace => [.text " "]
          | _ => []) ++
        opening d :: between d body ++ closing d :: if ended then [.text ";"] else []
  | ⟨path, _⟩, _ => modPath path

/-! Attributes. -/

/-- What stands before a token of an attribute. -/
inductive Last where
  | word
  | mark
  | comma
  deriving DecidableEq, Repr

mutual

/-- A token of an attribute, and what it is for the next one; `isLast` says that none follows. -/
def metaTree (before : Last) (isLast : Bool) : Token.Tree Unit → Docs × Last
  | .ident text _ => ((if before = .word then [blank] else []) ++ [.text text], .word)
  | .literal text _ => ((if before = .word then [blank] else []) ++ [.text text], .word)
  | .punct ',' _ _ => if isLast then ([comma], .comma) else ([.text ",", blank], .mark)
  | .punct '=' _ _ => ((if before = .word then [.text " "] else []) ++ [.text "=", .text " "], .mark)
  | .punct c _ _ => ([.text (String.ofList [c])], .mark)
  | .group d body _ =>
      let (inner, last) := metaTrees .mark body
      match d with
      | .paren =>
          let edge := if last = .comma then [] else [soft]
          (.text "(" :: box step (dedented (soft :: inner ++ edge)) ++ [.text ")"], .mark)
      | d => (opening d :: inner ++ [closing d], .mark)

def metaTrees (before : Last) : Tokens → Docs × Last
  | [] => ([], before)
  | t :: ts =>
      let (first, last) := metaTree before ts.isEmpty t
      let (more, last) := metaTrees last ts
      (first ++ more, last)

end

def metaBody (body : Token.Tree Unit) : Docs := (metaTree .mark true body).1

end ZonedAccessors.Layout
