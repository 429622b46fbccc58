import ZonedAccessors.Accessor.Field
import ZonedAccessors.Syntax.Tokens
import ZonedAccessors.Token.Escape

/-!
The accessors as tokens: a getter that puts the two stored fields together and a setter that takes
a value apart into them.
-/

namespace ZonedAccessors

open Token

/-- What the accessors are added to, each part as tokens. -/
structure Target where
  self : Tokens
  parameters : Tokens
  conditions : Tokens
  visibility : Tokens
  runtime : Tokens

def runtimeTokens : Option Syntax.Path → Tokens
  | none => word "region_field"
  | some p => p.tokens

namespace Target

/-- A type without parameters of its own. -/
def ofType (t : Syntax.Ty) (v : Syntax.Visibility) (runtime : Option Syntax.Path) : Target where
  self := t.tokens
  parameters := []
  conditions := []
  visibility := v.tokens
  runtime := runtimeTokens runtime

def ofStruct (s : Syntax.Struct) (runtime : Option Syntax.Path) : Target where
  self := word s.name ++ s.generics.argumentTokens
  parameters := s.generics.parameterTokens
  conditions := s.conditions.tokens
  visibility := s.visibility.tokens
  runtime := runtimeTokens runtime

end Target

namespace Template

/-- Something in the runtime. -/
def runtime (t : Target) (name : String) : Tokens := t.runtime ++ op "::" ++ word name

def core (names : List String) : Tokens :=
  ("core" :: names).flatMap fun n => op "::" ++ word n

def option : Tokens := core ["option", "Option"]

def optionOf (inner : Tokens) : Tokens := option ++ op "<" ++ inner ++ op ">"

def some (inner : Tokens) : Tokens := core ["option", "Option", "Some"] ++ parens inner

def none : Tokens := core ["option", "Option", "None"]

def date (t : Target) : Tokens := runtime t "DateInRegion"

def own (field : String) : Tokens := word "self" ++ op "." ++ word field

def pair (a b : Tokens) : Tokens := parens (a ++ op "," ++ b)

def doc (text : String) : Tokens :=
  op "#" ++ brackets (word "doc" ++ op "=" ++ lit (quote text))

def mustUse : Tokens := op "#" ++ brackets (word "must_use")

def outOfRange : Policy → String
  | .local => "falling back to the local zone when the offset is out of range"
  | .error => "failing when the offset is out of range"

def getterDoc (a : Accessor) : String :=
  " Returns `" ++ a.utcField ++ "` presented in the zone stored in `" ++ a.tzField ++ "`, " ++
    outOfRange a.policy ++ "." ++
    if a.nullable then " `None` unless both fields are set." else ""

def setterDoc (a : Accessor) : String :=
  " Stores the instant of `value` in `" ++ a.utcField ++ "` and its UTC offset in `" ++ a.tzField ++
    "`." ++ if a.nullable then " Assigning `None` leaves both fields unchanged." else ""

def function (t : Target) (name : String) (inputs output body : Tokens) : Tokens :=
  t.visibility ++ word "fn" ++ word name ++ parens inputs ++ output ++ braces body

def receiver : Tokens := op "&" ++ word "self"

/-- The arms for a pair of optional fields that are both set, and for any other pair. -/
def bothSet (a : Accessor) (found missing : Tokens) : Tokens :=
  word "match" ++ pair (own a.tzField) (own a.utcField) ++
    braces (pair (some (word "seconds")) (some (word "utc")) ++ op "=>" ++ braces found ++
      word "_" ++ op "=>" ++ missing ++ op ",")

/-- The two closing brackets of a fallible optional getter are one operator. -/
def getter (t : Target) (a : Accessor) : Tokens :=
  match a.nullable, a.policy with
  | false, .local =>
      doc (getterDoc a) ++ mustUse ++
        function t a.name receiver (op "->" ++ date t)
          (runtime t "in_region" ++ pair (own a.utcField) (own a.tzField))
  | false, .error =>
      doc (getterDoc a) ++
        function t a.name receiver
          (op "->" ++ runtime t "RegionResult" ++ op "<" ++ date t ++ op ">")
          (runtime t "try_in_region" ++ pair (own a.utcField) (own a.tzField))
  | true, .local =>
      doc (getterDoc a) ++ mustUse ++
        function t a.name receiver (op "->" ++ optionOf (date t))
          (bothSet a (some (runtime t "in_region" ++ pair (word "utc") (word "seconds"))) none)
  | true, .error =>
      doc (getterDoc a) ++
        function t a.name (receiver ++ op ",")
          (op "->" ++ runtime t "RegionResult" ++ op "<" ++ option ++ op "<" ++ date t ++ op ">>")
          (bothSet a
            (runtime t "try_in_region" ++ pair (word "utc") (word "seconds") ++ op "." ++
              word "map" ++ parens (core ["option", "Option", "Some"]))
            (core ["result", "Result", "Ok"] ++ parens none))

def assign (field : String) (value : Tokens) : Tokens := own field ++ op "=" ++ value ++ op ";"

/-- Takes the value of that name apart. -/
def takeApart (t : Target) (value : String) : Tokens :=
  word "let" ++ pair (word "utc") (word "seconds") ++ op "=" ++ runtime t "split" ++
    parens (op "&" ++ word value) ++ op ";"

def setterInputs (type : Tokens) : Tokens :=
  op "&" ++ word "mut" ++ word "self" ++ op "," ++ word "value" ++ op ":" ++ type

def setter (t : Target) (a : Accessor) : Tokens :=
  doc (setterDoc a) ++
    if a.nullable then
      function t a.setter (setterInputs (optionOf (date t))) []
        (word "if" ++ word "let" ++ some (word "assigned") ++ op "=" ++ word "value" ++
          braces (takeApart t "assigned" ++ assign a.utcField (some (word "utc")) ++
            assign a.tzField (some (word "seconds"))))
    else
      function t a.setter (setterInputs (date t)) []
        (takeApart t "value" ++ assign a.utcField (word "utc") ++
          assign a.tzField (word "seconds"))

end Template

namespace Target

/-- The getter and the setter of one accessor. -/
def pair (t : Target) (a : Accessor) : Tokens := Template.getter t a ++ Template.setter t a

def header (t : Target) : Tokens := word "impl" ++ t.parameters ++ t.self ++ t.conditions

def body (t : Target) (as : List Accessor) : Tokens := as.flatMap t.pair

/-- One block with all of the accessors. -/
def block (t : Target) (as : List Accessor) : Tokens := t.header ++ braces (t.body as)

end Target

end ZonedAccessors
