import ZonedAccessors.Syntax.Name

/-!
Declarations as trees: paths, types, expressions, patterns, statements and items. A list written
with commas or pluses records whether a last separator follows its last item. Attributes stand
around what they belong to; those written inside braces are kept with the braces.
-/

namespace ZonedAccessors.Syntax

open Token

mutual

inductive Ty where
  | path (p : TyPath)
  | tuple (items : List Ty) (trailing : Bool)
  | paren (inner : Ty)
  | array (item : Ty) (length : Expr)
  | slice (item : Ty)
  | pointer (mutable : Bool) (target : Ty)
  | reference (lifetime : Option String) (mutable : Bool) (target : Ty)
  | never
  | infer
  /-- Any number of further inputs. -/
  | more
  | function (binder : Generics) (head : Qualifiers) (inputs : List Input) (trailing : Bool)
      (output : Option Ty)
  | bounded (keyword : Option String) (bounds : List Bound) (trailing : Bool)
  | invocation (call : Invocation)
  | verbatim (tokens : Tokens)

structure Input where
  attributes : List Meta
  name : Option String
  type : Ty

/-- A path, or one that starts from a type, maybe seen as a trait: `<Self as View>::rest`. -/
inductive TyPath where
  | plain (p : Path)
  | projected (self : Ty) (rest : List Segment)
  | viewed (self : Ty) (view : Path) (rest : List Segment)

structure Path where
  rooted : Bool
  segments : List Segment

inductive Segment where
  | plain (name : String)
  | angled (name : String) (turbofish : Bool) (items : List Argument) (trailing : Bool)
  | call (name : String) (inputs : List Ty) (trailing : Bool) (output : Option Ty)

inductive Argument where
  | lifetime (name : String)
  | type (t : Ty)
  | value (e : Expr)
  | equalType (name : Segment) (t : Ty)
  | equalValue (name : Segment) (e : Expr)
  | constraint (name : Segment) (bounds : List Bound) (trailing : Bool)

inductive Bound where
  | lifetime (name : String)
  | trait (enclosed maybe : Bool) (binder : Generics) (path : Path)
  | captured (parameters : List Captured) (trailing : Bool)
  | verbatim (tokens : Tokens)

/-- Parameters between angle brackets, behind a name or a `for`. -/
inductive Generics where
  | none
  | over (parameters : List Parameter) (trailing : Bool)

/-- One parameter; the bounds of a lifetime are lifetimes. -/
inductive Parameter where
  | lifetime (attributes : List Meta) (name : String) (bounds : List Bound) (trailing : Bool)
  | type (attributes : List Meta) (name : String) (bounds : List Bound) (trailing : Bool)
      (default : Option Ty)
  | value (attributes : List Meta) (name : String) (type : Ty) (default : Option Expr)

structure Conditions where
  predicates : List Predicate
  trailing : Bool

inductive Predicate where
  | lifetime (name : String) (bounds : List Bound) (trailing : Bool)
  | type (binder : Generics) (subject : Ty) (bounds : List Bound) (trailing : Bool)

/-- An attribute without its brackets. -/
inductive Meta where
  | path (p : ModPath)
  | list (p : ModPath) (body : Token.Tree Unit)
  | value (p : ModPath) (e : Expr)

inductive Expr where
  | literal (negative : Bool) (text : String)
  | infer
  | path (p : TyPath)
  | invocation (call : Invocation)
  | tuple (items : List Expr) (trailing : Bool)
  | paren (inner : Expr)
  | array (items : List Expr) (trailing : Bool)
  | copies (item length : Expr)
  /-- The rest is another value to take fields from; it may be left out. -/
  | struct (p : TyPath) (fields : List Expr) (trailing more : Bool) (rest : Option Expr)
  /-- A field of a struct with its value. -/
  | entry (member : String) (value : Expr)
  | call (callee : Expr) (arguments : List Expr) (trailing : Bool)
  | method (receiver : Expr) (name : Segment) (arguments : List Expr) (trailing : Bool)
  | field (base : Expr) (member : String)
  | index (base position : Expr)
  | question (inner : Expr)
  | await (inner : Expr)
  | unary (op : Char) (inner : Expr)
  | borrow (mutable : Bool) (inner : Expr)
  | address (mutable : Bool) (inner : Expr)
  | binary (op : String) (left right : Expr)
  | assign (left right : Expr)
  | cast (inner : Expr) (target : Ty)
  | range (first : Option Expr) (closed : Bool) (last : Option Expr)
  | binding (pattern : Pattern) (inner : Expr)
  | conditional (condition : Expr) (yes : List Stmt) (no : Option Expr)
  | select (subject : Expr) (inner : List Meta) (arms : List Stmt)
  /-- Braces behind a word such as `async`, or behind none. -/
  | block (words : List String) (label : Option String) (inner : List Meta) (body : List Stmt)
  | forever (label : Option String) (inner : List Meta) (body : List Stmt)
  | whilst (label : Option String) (condition : Expr) (inner : List Meta) (body : List Stmt)
  | each (label : Option String) (pattern : Pattern) (source : Expr) (inner : List Meta)
      (body : List Stmt)
  | closure (binder : Generics) (words : List String) (inputs : List Pattern) (trailing : Bool)
      (output : Option Ty) (body : Expr)
  /-- Leaves a loop or a function: `break`, `continue`, `return` or `yield`. -/
  | jump (word : String) (label : Option String) (value : Option Expr)
  | attributed (attributes : List Meta) (inner : Expr)
  | verbatim (tokens : Tokens)

inductive Pattern where
  | wild
  | rest
  /-- Any number of further inputs. -/
  | more
  | name (borrowed mutable : Bool) (text : String)
  | bound (borrowed mutable : Bool) (text : String) (inner : Pattern)
  /-- A literal, a path, or a block that computes a constant. -/
  | value (e : Expr)
  | invocation (call : Invocation)
  | tuple (items : List Pattern) (trailing : Bool)
  | paren (inner : Pattern)
  | slice (items : List Pattern) (trailing : Bool)
  | applied (p : TyPath) (items : List Pattern) (trailing : Bool)
  | struct (p : TyPath) (items : List Pattern) (trailing : Bool)
  /-- A field of a struct with its pattern. -/
  | entry (member : String) (inner : Pattern)
  | reference (mutable : Bool) (inner : Pattern)
  | range (first : Option Expr) (closed : Bool) (last : Option Expr)
  | alternatives (leading : Bool) (items : List Pattern)
  | typed (inner : Pattern) (type : Ty)
  /-- The receiver of a method, maybe with its type. -/
  | receiver (r : Receiver) (type : Option Ty)
  | attributed (attributes : List Meta) (inner : Pattern)
  | verbatim (tokens : Tokens)

/-- What stands on lines of its own between braces: a statement, or an arm of a `match`. -/
inductive Stmt where
  | binding (pattern : Pattern) (value otherwise : Option Expr)
  | item (i : Item)
  | expr (e : Expr) (ended : Bool)
  | invocation (call : Invocation) (ended : Bool)
  | arm (pattern : Pattern) (guard : Option Expr) (body : Expr) (comma : Bool)
  | attributed (attributes : List Meta) (inner : Stmt)
  | empty

/-- What a module, a block or a type declares; members, fields and variants are items as well. -/
inductive Item where
  | constant (v : Visibility) (preset : Bool) (name : String) (type : Ty) (value : Option Expr)
  | static (v : Visibility) (mutable : Bool) (name : String) (type : Ty) (value : Option Expr)
  | function (v : Visibility) (preset : Bool) (head : Qualifiers) (name : String)
      (generics : Generics) (inputs : List Pattern) (trailing : Bool) (output : Option Ty)
      (conditions : Conditions) (body : Option Expr)
  | submodule (v : Visibility) (guarded : Bool) (name : String)
  | enclosed (v : Visibility) (guarded : Bool) (name : String) (inner : List Meta)
      (items : List Item)
  | foreign (guarded : Bool) (convention : Convention) (inner : List Meta) (items : List Item)
  | crate (v : Visibility) (name : String) (rename : Option String)
  | imports (v : Visibility) (rooted : Bool) (tree : Import)
  | struct (v : Visibility) (name : String) (generics : Generics) (conditions : Conditions)
      (style : FieldStyle) (fields : List Item) (trailing : Bool)
  | enum (v : Visibility) (name : String) (generics : Generics) (conditions : Conditions)
      (variants : List Item) (trailing : Bool)
  | union (v : Visibility) (name : String) (generics : Generics) (conditions : Conditions)
      (fields : List Item) (trailing : Bool)
  | trait (v : Visibility) (words : List String) (name : String) (generics : Generics)
      (bounds : List Bound) (trailing : Bool) (conditions : Conditions) (inner : List Meta)
      (items : List Item)
  | traitAlias (v : Visibility) (name : String) (generics : Generics) (bounds : List Bound)
      (trailing : Bool) (conditions : Conditions)
  /-- The conditions stand before the type it equals, or behind it. -/
  | type (v : Visibility) (preset : Bool) (name : String) (generics : Generics)
      (bounds : List Bound) (trailing before : Bool) (equal : Option Ty) (conditions : Conditions)
  | impl (words : List String) (generics : Generics) (self : Ty) (conditions : Conditions)
      (inner : List Meta) (items : List Item)
  | implTrait (words : List String) (generics : Generics) (negative : Bool) (view : Path)
      (self : Ty) (conditions : Conditions) (inner : List Meta) (items : List Item)
  /-- A macro call may define a name. -/
  | invocation (call : Invocation) (name : Option String)
  | field (v : Visibility) (name : Option String) (type : Ty)
  | variant (name : String) (style : FieldStyle) (fields : List Item) (trailing : Bool)
      (value : Option Expr)
  | attributed (attributes : List Meta) (inner : Item)
  | verbatim (tokens : Tokens)

end

abbrev Attributes := List Meta

def Segment.name : Segment → String
  | .plain name => name
  | .angled name .. => name
  | .call name .. => name

def Segment.isPlain : Segment → Bool
  | .plain _ => true
  | _ => false

def Path.ofName (name : String) : Path := ⟨false, [.plain name]⟩

/-- The names, if there is nothing else. -/
def Path.names? (p : Path) : Option ModPath :=
  if p.segments.all Segment.isPlain then some ⟨p.rooted, p.segments.map Segment.name⟩ else none

def TyPath.last : TyPath → Option Segment
  | .plain p => p.segments.getLast?
  | .projected _ rest => rest.getLast?
  | .viewed _ view rest => rest.getLast?.or view.segments.getLast?

def Generics.parameters : Generics → List Parameter
  | .none => []
  | .over parameters _ => parameters

def Generics.trailing : Generics → Bool
  | .none => false
  | .over _ trailing => trailing

/-- Whether it is written at all. -/
def Generics.isWritten : Generics → Bool
  | .none => false
  | .over .. => true

def Conditions.empty : Conditions := ⟨[], false⟩

/-! Attributes put around something. -/

def Expr.within (attributes : Attributes) (e : Expr) : Expr :=
  match attributes, e with
  | [], e => e
  | _, .verbatim tokens => .verbatim tokens
  | as, .attributed bs inner => .attributed (as ++ bs) inner
  | as, e => .attributed as e

def Pattern.within (attributes : Attributes) (p : Pattern) : Pattern :=
  if attributes.isEmpty then p else .attributed attributes p

def Stmt.within (attributes : Attributes) (s : Stmt) : Stmt :=
  if attributes.isEmpty then s else .attributed attributes s

def Item.within (attributes : Attributes) (i : Item) : Item :=
  match attributes, i with
  | [], i => i
  | _, .verbatim tokens => .verbatim tokens
  | as, i => .attributed as i

end ZonedAccessors.Syntax
