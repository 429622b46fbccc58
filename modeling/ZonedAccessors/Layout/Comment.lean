import ZonedAccessors.Layout.Box
import ZonedAccessors.Syntax.Basic
import ZonedAccessors.Token.Literal

/-!
Comments, which are attributes with a text.
-/

namespace ZonedAccessors.Layout

open Token Syntax

/-- The text that an attribute of this name is given. -/
def textOf (name : String) : Meta → Option String
  | .value ⟨false, [n]⟩ (.literal false written) =>
      if n = name then
        match literal written with
        | .text value _ => some value
        | _ => none
      else none
  | _ => none

def trimmed (text : List Char) : List Char := (text.reverse.dropWhile (· == ' ')).reverse

def isOneLine (text : String) : Bool := !text.toList.contains '\n'

/-- Every line but the last without blanks at its end. -/
def trimmedLines : List Char → List Char
  | [] => []
  | c :: cs =>
      let rest := trimmedLines cs
      if c == ' ' && rest.head? == some '\n' then rest else c :: rest

/-- How many comments are still open behind a text, unless one is closed too often. -/
def depthBehind : Nat → List Char → Option Nat
  | n, '/' :: '*' :: cs => depthBehind (n + 1) cs
  | 0, '*' :: '/' :: _ => none
  | n + 1, '*' :: '/' :: cs => depthBehind n cs
  | n, _ :: cs => depthBehind n cs
  | n, [] => some n

/-- Whether a text may stand in a comment of several lines. -/
def fitsComment (text : String) : Bool :=
  depthBehind 0 text.toList == some 0 && text.toList.getLast? != some '/'

def startsWithOne (marks : List Char) (text : String) : Bool :=
  text.toList.head?.any marks.contains

def lineComment (opening text : String) : Docs :=
  [.text opening, .text (String.ofList (trimmed text.toList)), hard]

def blockComment (opening text : String) : Docs :=
  [.text opening, .text (String.ofList (trimmedLines text.toList)), .text "*/", hard]

/-- Documentation of what encloses it, or of what follows. -/
def documentation (inner : Bool) (text : String) : Option Docs :=
  if isOneLine text && (inner || !startsWithOne ['/'] text) then
    some (lineComment (if inner then "//!" else "///") text)
  else if fitsComment text && (inner || !startsWithOne ['*', '/'] text) then
    some (blockComment (if inner then "/*!" else "/**") text)
  else none

def remark (text : String) : Option Docs :=
  if isOneLine text then some (lineComment "//" text)
  else if fitsComment text && !startsWithOne ['*', '!'] text then some (blockComment "/*" text)
  else none

/-- An attribute as a comment, if it can be one. -/
def comment? (inner : Bool) (m : Meta) : Option Docs :=
  match textOf "doc" m with
  | some text => documentation inner text
  | none => (textOf "comment" m).bind remark

end ZonedAccessors.Layout
