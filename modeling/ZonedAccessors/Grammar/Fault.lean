import ZonedAccessors.Token.Basic

/-!
Why a text has no reading, and where. A fault at the end of the whole text has no place.
-/

namespace ZonedAccessors.Grammar

open Token

inductive Rule where
  | segmentAfterPath
  | expression
  | statementEnd
  | chainedComparison
  | nestedAttribute
  | genericConditions
  | preciseCapture
  | constBound
  | conditionalBound
  | objectTrait
  | implTrait
  | loopOrBlock
  | traitPath
  | negativeImpl
  | delimiter
  | anyName
  | binderModifier
  | labelledBreak
  | rangeAttribute
  | rangeEnd
  | rangeInSlice
  | castFollowed (form : String)
  | integer
  | integerDigits
  | integerSize
  | integerSuffix
  | secondReceiver
  | lateReceiver
  | depth
  deriving DecidableEq, Repr

def Rule.text : Rule → String
  | .segmentAfterPath => "expected path segment after `::`"
  | .expression => "expected an expression"
  | .statementEnd => "unexpected token, expected `;`"
  | .chainedComparison => "comparison operators cannot be chained"
  | .nestedAttribute => "unexpected attribute inside of attribute"
  | .genericConditions => "generic parameters on `where` clauses are reserved for future use"
  | .preciseCapture => "`use<...>` precise capturing syntax is not allowed here"
  | .constBound => "`const` is not allowed here"
  | .conditionalBound => "`[const]` is not allowed here"
  | .objectTrait => "at least one trait is required for an object type"
  | .implTrait => "at least one trait must be specified"
  | .loopOrBlock => "expected loop or block expression"
  | .traitPath => "expected trait path"
  | .negativeImpl => "inherent impls cannot be negative"
  | .delimiter => "expected delimiter"
  | .anyName => "expected ident"
  | .binderModifier => "`for<...>` binder not allowed with `?` trait polarity modifier"
  | .labelledBreak => "parentheses required"
  | .rangeAttribute => "attributes are not allowed on range expressions starting with `..`"
  | .rangeEnd => "expected range upper bound"
  | .rangeInSlice => "range pattern is not allowed unparenthesized inside slice pattern"
  | .castFollowed form => "casts cannot be followed by " ++ form
  | .integer => "expected integer literal"
  | .integerDigits => "invalid digit found in string"
  | .integerSize => "number too large to fit in target type"
  | .integerSuffix => "expected unsuffixed integer"
  | .secondReceiver => "unexpected second method receiver"
  | .lateReceiver => "unexpected method receiver"
  | .depth => "nested too deeply"

inductive Complaint where
  /-- None of these stands here. -/
  | expected (options : List String)
  /-- A keyword stands where a name should. -/
  | keyword (text : String)
  /-- Something follows what was read, in a group or at the end. -/
  | leftover (inside : Option Delimiter)
  | broken (rule : Rule)
  deriving DecidableEq, Repr

def alternatives : List String → String
  | [] => ""
  | [a] => "expected " ++ a
  | [a, b] => "expected " ++ a ++ " or " ++ b
  | options => "expected one of: " ++ String.intercalate ", " options

structure Fault where
  place : Option Span
  /-- The text ended where more was wanted. -/
  ended : Bool
  complaint : Complaint
  deriving DecidableEq, Repr

def Fault.message (f : Fault) : String :=
  match f.complaint with
  | .expected [] => if f.ended then "unexpected end of input" else "unexpected token"
  | .expected options => ending ++ alternatives options
  | .keyword text => ending ++ "expected identifier, found keyword `" ++ text ++ "`"
  | .leftover none => "unexpected token"
  | .leftover (some d) => "unexpected token, expected `" ++ d.closing.toString ++ "`"
  | .broken rule => ending ++ rule.text
where
  ending := if f.ended then "unexpected end of input, " else ""

end ZonedAccessors.Grammar
