import ZonedAccessors.Syntax.Struct
import ZonedAccessors.Syntax.Separated

/-!
Syntax trees as tokens.
-/

namespace ZonedAccessors.Syntax

open Token

def wordsTokens (texts : List String) : Tokens := texts.flatMap word

def literalTokens (negative : Bool) (text : String) : Tokens :=
  (if negative then op "-" else []) ++ lit text

def wordIf (written : Bool) (text : String) : Tokens := if written then word text else []

def lifetimeTokens : Option String → Tokens
  | none => []
  | some name => lifetime name

def labelTokens : Option String → Tokens
  | none => []
  | some name => lifetime name ++ op ":"

/-- A member is a name, or the position of a component. -/
def memberTokens (member : String) : Tokens :=
  if member.toList.all Char.isDigit then lit member else word member

def ModPath.tokens (p : ModPath) : Tokens :=
  (if p.rooted then op "::" else []) ++ colons (p.names.map word)

def Invocation.tokens (c : Invocation) : Tokens := c.path.tokens ++ op "!" ++ [c.body]

def Visibility.tokens : Visibility → Tokens
  | .inherited => []
  | .everywhere => word "pub"
  | .restricted written path => word "pub" ++ parens (wordIf written "in" ++ path.tokens)

def Convention.tokens (c : Convention) : Tokens :=
  word "extern" ++ match c.name with
    | none => []
    | some text => lit text

def Qualifiers.tokens (q : Qualifiers) : Tokens :=
  wordsTokens q.words ++ match q.convention with
    | none => []
    | some c => c.tokens

def Receiver.tokens : Receiver → Tokens
  | .owned mutable => wordIf mutable "mut" ++ word "self"
  | .borrowed l mutable => op "&" ++ lifetimeTokens l ++ wordIf mutable "mut" ++ word "self"

def Captured.tokens : Captured → Bool × Tokens
  | .lifetime text => (true, Token.lifetime text)
  | .name text => (false, word text)

mutual

def Import.tokens : Import → Tokens
  | .name text => word text
  | .renamed text new => word text ++ word "as" ++ word new
  | .all => op "*"
  | .under text rest => word text ++ op "::" ++ rest.tokens
  | .group items trailing => braces (commas trailing (importsTokens items))

def importsTokens : List Import → List Tokens
  | [] => []
  | i :: is => i.tokens :: importsTokens is

end

def attributed (inner : Bool) (content : Tokens) : Tokens :=
  op "#" ++ (if inner then op "!" else []) ++ brackets content

/-- Fields in the place that their style gives them; conditions stand before named fields. -/
def styled (style : FieldStyle) (fields : Tokens) (conditions : Tokens) (close : Tokens) : Tokens :=
  match style with
  | .named => conditions ++ braces fields
  | .positional => parens fields ++ conditions ++ close
  | .absent => conditions ++ close

mutual

def Ty.tokens : Ty → Tokens
  | .path p => p.tokens
  | .tuple items trailing => parens (commas trailing (tysTokens items))
  | .paren inner => parens inner.tokens
  | .array item length => brackets (item.tokens ++ op ";" ++ length.tokens)
  | .slice item => brackets item.tokens
  | .pointer mutable target => op "*" ++ word (if mutable then "mut" else "const") ++ target.tokens
  | .reference l mutable target => op "&" ++ lifetimeTokens l ++ wordIf mutable "mut" ++ target.tokens
  | .never => op "!"
  | .infer => word "_"
  | .more => op "..."
  | .function binder head inputs trailing output =>
      binder.binderTokens ++ head.tokens ++ word "fn" ++
        parens (commas trailing (inputsTokens inputs)) ++ outputTokens output
  | .bounded none bounds trailing => pluses trailing (boundsTokens bounds)
  | .bounded (some keyword) bounds trailing =>
      word keyword ++ pluses trailing (boundsTokens bounds)
  | .invocation call => call.tokens
  | .verbatim tokens => tokens

def tysTokens : List Ty → List Tokens
  | [] => []
  | t :: ts => t.tokens :: tysTokens ts

def outputTokens : Option Ty → Tokens
  | none => []
  | some t => op "->" ++ t.tokens

def equalTypeTokens : Option Ty → Tokens
  | none => []
  | some t => op "=" ++ t.tokens

def Input.tokens : Input → Tokens
  | ⟨attributes, none, type⟩ => attributesTokens attributes ++ type.tokens
  | ⟨attributes, some name, type⟩ =>
      attributesTokens attributes ++ word name ++ op ":" ++ type.tokens

def inputsTokens : List Input → List Tokens
  | [] => []
  | i :: is => i.tokens :: inputsTokens is

def TyPath.tokens : TyPath → Tokens
  | .plain p => p.tokens
  | .projected self rest => angles self.tokens ++ op "::" ++ colons (segmentsTokens rest)
  | .viewed self view rest =>
      angles (self.tokens ++ word "as" ++ view.tokens) ++ op "::" ++ colons (segmentsTokens rest)

def Path.tokens : Path → Tokens
  | ⟨rooted, segments⟩ => (if rooted then op "::" else []) ++ colons (segmentsTokens segments)

def Segment.tokens : Segment → Tokens
  | .plain name => word name
  | .angled name turbofish items trailing =>
      word name ++ (if turbofish then op "::" else []) ++
        angles (arranged trailing (argumentsTokens items))
  | .call name inputs trailing output =>
      word name ++ parens (commas trailing (tysTokens inputs)) ++ outputTokens output

def segmentsTokens : List Segment → List Tokens
  | [] => []
  | s :: ss => s.tokens :: segmentsTokens ss

def Argument.tokens : Argument → Bool × Tokens
  | .lifetime name => (true, lifetime name)
  | .type t => (false, t.tokens)
  | .value e => (false, e.tokens)
  | .equalType name t => (false, name.tokens ++ op "=" ++ t.tokens)
  | .equalValue name e => (false, name.tokens ++ op "=" ++ e.tokens)
  | .constraint name bounds trailing =>
      (false, name.tokens ++ op ":" ++ pluses trailing (boundsTokens bounds))

def argumentsTokens : List Argument → List (Bool × Tokens)
  | [] => []
  | a :: as => a.tokens :: argumentsTokens as

def Bound.tokens : Bound → Tokens
  | .lifetime name => lifetime name
  | .trait enclosed maybe binder path =>
      let inner := (if maybe then op "?" else []) ++ binder.binderTokens ++ path.tokens
      if enclosed then parens inner else inner
  | .captured parameters trailing =>
      word "use" ++ angles (arranged trailing (parameters.map Captured.tokens))
  | .verbatim tokens => tokens

def boundsTokens : List Bound → List Tokens
  | [] => []
  | b :: bs => b.tokens :: boundsTokens bs

/-- Behind a `for`. -/
def Generics.binderTokens : Generics → Tokens
  | .none => []
  | .over parameters trailing =>
      word "for" ++ angles (commas trailing ((parametersTokens parameters).map (·.2)))

/-- Behind a name. -/
def Generics.tokens : Generics → Tokens
  | .none => []
  | .over [] _ => []
  | .over parameters trailing => angles (arranged trailing (parametersTokens parameters))

def Parameter.tokens : Parameter → Bool × Tokens
  | .lifetime attributes name bounds trailing =>
      (true, attributesTokens attributes ++ lifetime name ++
        colonBefore trailing (boundsTokens bounds))
  | .type attributes name bounds trailing default =>
      (false, attributesTokens attributes ++ word name ++
        colonBefore trailing (boundsTokens bounds) ++ equalTypeTokens default)
  | .value attributes name t default =>
      (false, attributesTokens attributes ++ word "const" ++ word name ++ op ":" ++ t.tokens ++
        equalTokens default)

def parametersTokens : List Parameter → List (Bool × Tokens)
  | [] => []
  | p :: ps => p.tokens :: parametersTokens ps

def Conditions.tokens : Conditions → Tokens
  | ⟨[], _⟩ => []
  | ⟨predicates, trailing⟩ => word "where" ++ commas trailing (predicatesTokens predicates)

def Predicate.tokens : Predicate → Tokens
  | .lifetime name bounds trailing =>
      lifetime name ++ op ":" ++ pluses trailing (boundsTokens bounds)
  | .type binder subject bounds trailing =>
      binder.binderTokens ++ subject.tokens ++ op ":" ++ pluses trailing (boundsTokens bounds)

def predicatesTokens : List Predicate → List Tokens
  | [] => []
  | p :: ps => p.tokens :: predicatesTokens ps

def Meta.tokens : Meta → Tokens
  | .path p => p.tokens
  | .list p body => p.tokens ++ [body]
  | .value p e => p.tokens ++ op "=" ++ e.tokens

def attributesTokens : List Meta → Tokens
  | [] => []
  | a :: as => attributed false a.tokens ++ attributesTokens as

/-- Attributes of what encloses them. -/
def innerTokens : List Meta → Tokens
  | [] => []
  | a :: as => attributed true a.tokens ++ innerTokens as

def Expr.tokens : Expr → Tokens
  | .literal negative text => literalTokens negative text
  | .infer => word "_"
  | .path p => p.tokens
  | .invocation call => call.tokens
  | .tuple items trailing => parens (commas trailing (exprsTokens items))
  | .paren inner => parens inner.tokens
  | .array items trailing => brackets (commas trailing (exprsTokens items))
  | .copies item length => brackets (item.tokens ++ op ";" ++ length.tokens)
  | .struct p fields trailing more rest =>
      p.tokens ++ braces (commas trailing (exprsTokens fields) ++
        (if more then op ".." else []) ++ optionTokens rest)
  | .entry member value => memberTokens member ++ op ":" ++ value.tokens
  | .call callee arguments trailing =>
      callee.tokens ++ parens (commas trailing (exprsTokens arguments))
  | .method receiver name arguments trailing =>
      receiver.tokens ++ op "." ++ name.tokens ++ parens (commas trailing (exprsTokens arguments))
  | .field base member => base.tokens ++ op "." ++ memberTokens member
  | .index base position => base.tokens ++ brackets position.tokens
  | .question inner => inner.tokens ++ op "?"
  | .await inner => inner.tokens ++ op "." ++ word "await"
  | .unary mark inner => marks [mark] ++ inner.tokens
  | .borrow mutable inner => op "&" ++ wordIf mutable "mut" ++ inner.tokens
  | .address mutable inner =>
      op "&" ++ word "raw" ++ word (if mutable then "mut" else "const") ++ inner.tokens
  | .binary mark left right => left.tokens ++ op mark ++ right.tokens
  | .assign left right => left.tokens ++ op "=" ++ right.tokens
  | .cast inner target => inner.tokens ++ word "as" ++ target.tokens
  | .range first closed last =>
      optionTokens first ++ op (if closed then "..=" else "..") ++ optionTokens last
  | .binding pattern inner => word "let" ++ pattern.tokens ++ op "=" ++ inner.tokens
  | .conditional condition yes no =>
      word "if" ++ condition.tokens ++ braces (stmtsTokens yes) ++ elseTokens no
  | .select subject inner arms =>
      word "match" ++ subject.tokens ++ braces (innerTokens inner ++ stmtsTokens arms)
  | .block texts label inner body =>
      labelTokens label ++ wordsTokens texts ++ braces (innerTokens inner ++ stmtsTokens body)
  | .forever label inner body =>
      labelTokens label ++ word "loop" ++ braces (innerTokens inner ++ stmtsTokens body)
  | .whilst label condition inner body =>
      labelTokens label ++ word "while" ++ condition.tokens ++
        braces (innerTokens inner ++ stmtsTokens body)
  | .each label pattern source inner body =>
      labelTokens label ++ word "for" ++ pattern.tokens ++ word "in" ++ source.tokens ++
        braces (innerTokens inner ++ stmtsTokens body)
  | .closure binder texts inputs trailing output body =>
      binder.binderTokens ++ wordsTokens texts ++ op "|" ++ commas trailing (patternsTokens inputs) ++
        op "|" ++ outputTokens output ++ body.tokens
  | .jump text label value => word text ++ lifetimeTokens label ++ optionTokens value
  | .attributed attributes (.range first closed last) =>
      attributesTokens attributes ++ parens (optionTokens first ++
        op (if closed then "..=" else "..") ++ optionTokens last)
  | .attributed attributes inner => attributesTokens attributes ++ inner.tokens
  | .verbatim tokens => tokens

def exprsTokens : List Expr → List Tokens
  | [] => []
  | e :: es => e.tokens :: exprsTokens es

def optionTokens : Option Expr → Tokens
  | none => []
  | some e => e.tokens

def equalTokens : Option Expr → Tokens
  | none => []
  | some e => op "=" ++ e.tokens

def elseTokens : Option Expr → Tokens
  | none => []
  | some e => word "else" ++ e.tokens

def guardTokens : Option Expr → Tokens
  | none => []
  | some e => word "if" ++ e.tokens

/-- The body of a function, or the mark in its place. -/
def bodyTokens : Option Expr → Tokens
  | none => op ";"
  | some e => e.tokens

def Pattern.tokens : Pattern → Tokens
  | .wild => word "_"
  | .rest => op ".."
  | .more => op "..."
  | .name borrowed mutable text => wordIf borrowed "ref" ++ wordIf mutable "mut" ++ word text
  | .bound borrowed mutable text inner =>
      wordIf borrowed "ref" ++ wordIf mutable "mut" ++ word text ++ op "@" ++ inner.tokens
  | .value e => e.tokens
  | .invocation call => call.tokens
  | .tuple items trailing => parens (commas trailing (patternsTokens items))
  | .paren inner => parens inner.tokens
  | .slice items trailing => brackets (commas trailing (patternsTokens items))
  | .applied p items trailing => p.tokens ++ parens (commas trailing (patternsTokens items))
  | .struct p items trailing => p.tokens ++ braces (commas trailing (patternsTokens items))
  | .entry member inner => memberTokens member ++ op ":" ++ inner.tokens
  | .reference mutable inner => op "&" ++ wordIf mutable "mut" ++ inner.tokens
  | .range first closed last =>
      optionTokens first ++ op (if closed then "..=" else "..") ++ optionTokens last
  | .alternatives leading items =>
      (if leading then op "|" else []) ++ separated (op "|") false (patternsTokens items)
  | .typed inner t => inner.tokens ++ op ":" ++ t.tokens
  | .receiver r none => r.tokens
  | .receiver r (some t) => r.tokens ++ op ":" ++ t.tokens
  | .attributed attributes inner => attributesTokens attributes ++ inner.tokens
  | .verbatim tokens => tokens

def patternsTokens : List Pattern → List Tokens
  | [] => []
  | p :: ps => p.tokens :: patternsTokens ps

def Stmt.tokens : Stmt → Tokens
  | .binding pattern value otherwise =>
      word "let" ++ pattern.tokens ++ equalTokens value ++ elseTokens otherwise ++ op ";"
  | .item i => i.tokens
  | .expr e ended => e.tokens ++ if ended then op ";" else []
  | .invocation call ended => call.tokens ++ if ended then op ";" else []
  | .arm pattern guard body comma =>
      pattern.tokens ++ guardTokens guard ++ op "=>" ++ body.tokens ++ if comma then op "," else []
  | .attributed attributes inner => attributesTokens attributes ++ inner.tokens
  | .empty => op ";"

def stmtsTokens : List Stmt → Tokens
  | [] => []
  | s :: ss => s.tokens ++ stmtsTokens ss

def Item.tokens : Item → Tokens
  | .constant v preset name t value =>
      v.tokens ++ wordIf preset "default" ++ word "const" ++ word name ++ op ":" ++ t.tokens ++
        equalTokens value ++ op ";"
  | .static v mutable name t value =>
      v.tokens ++ word "static" ++ wordIf mutable "mut" ++ word name ++ op ":" ++ t.tokens ++
        equalTokens value ++ op ";"
  | .function v preset head name generics inputs trailing output conditions body =>
      v.tokens ++ wordIf preset "default" ++ head.tokens ++ word "fn" ++ word name ++
        generics.tokens ++ parens (commas trailing (patternsTokens inputs)) ++ outputTokens output ++
        conditions.tokens ++ bodyTokens body
  | .submodule v guarded name =>
      v.tokens ++ wordIf guarded "unsafe" ++ word "mod" ++ word name ++ op ";"
  | .enclosed v guarded name inner items =>
      v.tokens ++ wordIf guarded "unsafe" ++ word "mod" ++ word name ++
        braces (innerTokens inner ++ (itemsTokens items).flatten)
  | .foreign guarded convention inner items =>
      wordIf guarded "unsafe" ++ convention.tokens ++
        braces (innerTokens inner ++ (itemsTokens items).flatten)
  | .crate v name rename =>
      v.tokens ++ word "extern" ++ word "crate" ++ word name ++
        (match rename with
          | none => []
          | some new => word "as" ++ word new) ++ op ";"
  | .imports v rooted tree =>
      v.tokens ++ word "use" ++ (if rooted then op "::" else []) ++ tree.tokens ++ op ";"
  | .struct v name generics conditions style fields trailing =>
      v.tokens ++ word "struct" ++ word name ++ generics.tokens ++
        styled style (commas trailing (itemsTokens fields)) conditions.tokens (op ";")
  | .enum v name generics conditions variants trailing =>
      v.tokens ++ word "enum" ++ word name ++ generics.tokens ++ conditions.tokens ++
        braces (commas trailing (itemsTokens variants))
  | .union v name generics conditions fields trailing =>
      v.tokens ++ word "union" ++ word name ++ generics.tokens ++ conditions.tokens ++
        braces (commas trailing (itemsTokens fields))
  | .trait v texts name generics bounds trailing conditions inner items =>
      v.tokens ++ wordsTokens texts ++ word "trait" ++ word name ++ generics.tokens ++
        colonBefore trailing (boundsTokens bounds) ++ conditions.tokens ++
        braces (innerTokens inner ++ (itemsTokens items).flatten)
  | .traitAlias v name generics bounds trailing conditions =>
      v.tokens ++ word "trait" ++ word name ++ generics.tokens ++ op "=" ++
        pluses trailing (boundsTokens bounds) ++ conditions.tokens ++ op ";"
  | .type v preset name generics bounds trailing before equal conditions =>
      v.tokens ++ wordIf preset "default" ++ word "type" ++ word name ++ generics.tokens ++
        colonBefore trailing (boundsTokens bounds) ++
        (if before then conditions.tokens ++ equalTypeTokens equal
          else equalTypeTokens equal ++ conditions.tokens) ++ op ";"
  | .impl texts generics self conditions inner items =>
      wordsTokens texts ++ word "impl" ++ generics.tokens ++ self.tokens ++ conditions.tokens ++
        braces (innerTokens inner ++ (itemsTokens items).flatten)
  | .implTrait texts generics negative view self conditions inner items =>
      wordsTokens texts ++ word "impl" ++ generics.tokens ++ (if negative then op "!" else []) ++
        view.tokens ++ word "for" ++ self.tokens ++ conditions.tokens ++
        braces (innerTokens inner ++ (itemsTokens items).flatten)
  | .invocation call name =>
      call.path.tokens ++ op "!" ++
        (match name with
          | none => []
          | some text => word text) ++ [call.body] ++ if call.isBraced then [] else op ";"
  | .field v none t => v.tokens ++ t.tokens
  | .field v (some name) t => v.tokens ++ word name ++ op ":" ++ t.tokens
  | .variant name style fields trailing value =>
      word name ++ styled style (commas trailing (itemsTokens fields)) [] [] ++ equalTokens value
  | .attributed attributes inner => attributesTokens attributes ++ inner.tokens
  | .verbatim tokens => tokens

def itemsTokens : List Item → List Tokens
  | [] => []
  | i :: is => i.tokens :: itemsTokens is

end

def Struct.tokens (s : Struct) : Tokens := s.toItem.tokens

/-! The parameters of a declaration where it is used. -/

namespace Parameter

def isLifetime : Parameter → Bool
  | .lifetime .. => true
  | _ => false

def name : Parameter → Tokens
  | .lifetime _ name _ _ => Token.lifetime name
  | .type _ name _ _ _ => word name
  | .value _ name _ _ => word name

def withoutDefault : Parameter → Parameter
  | .lifetime attributes name bounds trailing => .lifetime attributes name bounds trailing
  | .type attributes name bounds trailing _ => .type attributes name bounds trailing none
  | .value attributes name t _ => .value attributes name t none

end Parameter

/-- As parameters of an `impl`, which have no defaults. -/
def Generics.parameterTokens (g : Generics) : Tokens :=
  match g with
  | .none => []
  | .over parameters trailing =>
      (Generics.over (parameters.map Parameter.withoutDefault) trailing).tokens

/-- As arguments of the declared type. -/
def Generics.argumentTokens (g : Generics) : Tokens :=
  if g.parameters.isEmpty then []
  else angles (arranged g.trailing (g.parameters.map fun p => (p.isLifetime, p.name)))

end ZonedAccessors.Syntax
