import ZonedAccessors.Proofs.Grammar.Names

/-!
Structs that are printed as they are written: lifetimes stand before other parameters and arguments,
no separator stands alone, and where a value stands it is a literal, a path of names, or one that is
known to be read back from its own tokens.
-/

namespace ZonedAccessors.Syntax

open Token Grammar

/-- A last separator stands behind an item. -/
def endsWell {α : Type} (items : List α) (trailing : Bool) : Bool := !(items.isEmpty && trailing)

/-- No marked item stands behind one without a mark. -/
def marksFirst (marks : List Bool) : Bool := (marks.dropWhile id).all (!·)

def Argument.isLifetime : Argument → Bool
  | .lifetime _ => true
  | _ => false

def Bound.isLifetime : Bound → Bool
  | .lifetime _ => true
  | _ => false

/-- In an expression colons stand before arguments. -/
def Segment.fits (inExpr : Bool) : Segment → Bool
  | .angled _ turbofish .. => !inExpr || turbofish
  | _ => true

theorem Segment.fits_type (s : Segment) : s.fits false = true := by
  cases s <;> rfl

def ModPath.isTidy (p : ModPath) : Bool := !p.names.isEmpty && p.names.all (decide <| Nameable ·)

theorem ModPath.readable_of_tidy {p : ModPath} (h : p.isTidy = true) : ModPath.Readable p := by
  simpa [ModPath.isTidy, ModPath.Readable] using h

/-- Only a number has a sign. -/
def Expr.isLiteral : Expr → Bool
  | .literal negative text => !negative || decide (Token.literal text = .number)
  | _ => false

def Expr.isName : Expr → Bool
  | .path (.plain ⟨false, [.plain n]⟩) => !isKeyword n
  | _ => false

theorem Expr.exists_of_isName {e : Expr} (h : e.isName = true) :
    ∃ n, isKeyword n = false ∧ e = .path (.plain (.ofName n)) := by
  unfold Expr.isName at h
  split at h
  · exact ⟨_, by simpa using h, rfl⟩
  · cases h

/-- A literal or a path of names; a sign would be read as an operator. -/
def Expr.isSimple : Expr → Bool
  | .literal negative _ => !negative
  | .path (.plain p) => p.names?.any ModPath.isTidy
  | _ => false

/-- A value whose own tokens are read as this value, where nothing else stands. -/
def Expr.ReadsBack (e : Expr) : Prop :=
  Reads ((level (2 * Tree.sizeAll e.tokens + 2)).expr true) e.tokens.placed e []

/-- Values that are known to be read back. -/
structure Values where
  holds : Expr → Bool
  readsBack {e : Expr} : holds e = true → e.ReadsBack

/-- The number of items in an array, and what stands between braces where a type may stand. -/
def Values.covers (known : Values) (e : Expr) : Bool := e.isSimple || known.holds e

/-- Braces without a word or a label before them. -/
def Expr.isBraced : Expr → Bool
  | .block [] none _ _ => true
  | _ => false

theorem Expr.exists_of_isBraced {e : Expr} (h : e.isBraced = true) :
    ∃ inner body, e = .block [] none inner body := by
  unfold Expr.isBraced at h
  split at h
  · exact ⟨_, _, rfl⟩
  · cases h

/-- Behind the equals sign of an attribute a literal alone may have a sign, and no further attribute
may stand. -/
def Expr.isAssigned (e : Expr) : Bool :=
  !isMark "#" e.tokens.placed && (afterLiteral e.tokens.placed).all (!·.2.2.isEmpty)

variable (known : Values)

/-- A value where a type may stand as well. -/
def Expr.isArgument (e : Expr) : Bool := e.isLiteral || (e.isBraced && known.holds e)

def Meta.isTidy : Meta → Bool
  | .path p => p.isTidy
  | .list p (.group ..) => p.isTidy
  | .value p e => p.isTidy && (e.isLiteral || (e.isAssigned && known.covers e))
  | _ => false

def Invocation.isTidy (c : Invocation) : Bool :=
  match c.body with
  | .group .. => c.path.isTidy
  | _ => false

/-- What may stand before the word `fn` in a type. -/
def Qualifiers.isTidy (q : Qualifiers) : Bool :=
  (q.words == [] || q.words == ["unsafe"]) && q.convention.all (·.name.all isText)

mutual

/-- Where `plus` allows it, bounds may be added up. -/
def Ty.isTidy (plus : Bool) : Ty → Bool
  | .path p => p.isTidy
  | .tuple [] trailing => !trailing
  | .tuple [t] trailing => t.isTidy true && trailing
  | .tuple (t :: t' :: ts) _ => t.isTidy true && (t'.isTidy true && tysTidy ts)
  | .paren inner => inner.isTidy true
  | .array item length => item.isTidy true && known.covers length
  | .slice item => item.isTidy true
  | .pointer _ target => target.isTidy false
  | .reference _ _ target => target.isTidy false
  | .never => true
  | .infer => true
  | .function binder head inputs trailing output =>
      binder.isTidyBinder && head.isTidy && inputsTidy inputs && (!inputs.isEmpty || trailing) &&
        optionTidy false output
  | .bounded none (.trait false false binder p :: bounds) trailing =>
      binder.isTidyBinder && p.isTidy && boundsTidy bounds && !trailing &&
        (plus || bounds.isEmpty) && (if binder.isWritten then !p.rooted else !bounds.isEmpty)
  | .bounded (some keyword) bounds trailing =>
      (keyword == "dyn" || keyword == "impl") && boundsTidy bounds && bounds.any Bound.isTrait &&
        !trailing && (plus || bounds.length == 1)
  | .invocation call => call.isTidy
  | _ => false

def tysTidy : List Ty → Bool
  | [] => true
  | t :: ts => t.isTidy true && tysTidy ts

def optionTidy (plus : Bool) : Option Ty → Bool
  | none => true
  | some t => t.isTidy plus

def Input.isTidy : Input → Bool
  | ⟨attributes, name, type⟩ =>
      attributes.all (Meta.isTidy known) && name.all (fun n => !isKeyword n || n == "_") &&
        type.isTidy true

def inputsTidy : List Input → Bool
  | [] => true
  | i :: is => i.isTidy && inputsTidy is

def TyPath.isTidy : TyPath → Bool
  | .plain p => p.isTidy
  | .projected self rest => self.isTidy true && !rest.isEmpty && segmentsTidy rest
  | .viewed self view rest => self.isTidy true && view.isTidy && !rest.isEmpty && segmentsTidy rest

def Path.isTidy : Path → Bool
  | ⟨_, []⟩ => false
  | ⟨_, s :: ss⟩ => s.isTidy && segmentsTidy ss

/-- The path of a trait, which may end in inputs and an output. -/
def Path.isTidyTrait : Path → Bool
  | ⟨_, segments⟩ => traitTidy segments

def traitTidy : List Segment → Bool
  | [] => false
  | [.call name inputs trailing output] =>
      decide (Nameable name) && tysTidy inputs && endsWell inputs trailing && optionTidy false output
  | [s] => s.isTidy
  | s :: s' :: ss => s.isTidy && traitTidy (s' :: ss)

def Segment.isTidy : Segment → Bool
  | .plain name => decide (Nameable name)
  | .angled name _ items trailing =>
      (!isKeyword name || name == "Self") && argumentsTidy items &&
        marksFirst (items.map Argument.isLifetime) && endsWell items trailing
  | .call .. => false

def segmentsTidy : List Segment → Bool
  | [] => true
  | s :: ss => s.isTidy && segmentsTidy ss

def Argument.isTidy : Argument → Bool
  | .lifetime _ => true
  | .type t => t.isTidy true
  | .value e => e.isArgument known
  | .equalType name t => name.isTidy && t.isTidy true
  | .equalValue name e => name.isTidy && e.isArgument known
  | .constraint name bounds trailing => name.isTidy && boundsTidy bounds && endsWell bounds trailing

def argumentsTidy : List Argument → Bool
  | [] => true
  | a :: as => a.isTidy && argumentsTidy as

def Bound.isTidy : Bound → Bool
  | .lifetime _ => true
  | .trait _ maybe binder path =>
      binder.isTidyBinder && !(maybe && binder.isWritten) && path.isTidyTrait
  | _ => false

def boundsTidy : List Bound → Bool
  | [] => true
  | b :: bs => b.isTidy && boundsTidy bs

/-- Parameters behind a `for`. -/
def Generics.isTidyBinder : Generics → Bool
  | .none => true
  | .over parameters trailing => parametersTidy parameters && endsWell parameters trailing

def Parameter.isTidy : Parameter → Bool
  | .lifetime attributes _ bounds trailing =>
      attributes.all (Meta.isTidy known) && bounds.all Bound.isLifetime && endsWell bounds trailing
  | .type attributes name bounds trailing default =>
      attributes.all (Meta.isTidy known) && !isKeyword name && boundsTidy bounds &&
        endsWell bounds trailing && optionTidy true default
  | .value attributes name type default =>
      attributes.all (Meta.isTidy known) && !isKeyword name && type.isTidy true &&
        default.all fun e => e.isArgument known || e.isName

def parametersTidy : List Parameter → Bool
  | [] => true
  | p :: ps => p.isTidy && parametersTidy ps

end

def Visibility.isTidy : Visibility → Bool
  | .restricted false p => ["crate", "self", "super"].any (p == ModPath.ofName ·)
  | .restricted true p => p.isTidy
  | _ => true

def Generics.isTidy : Generics → Bool
  | .none => true
  | .over parameters _ =>
      !parameters.isEmpty && parametersTidy known parameters &&
        marksFirst (parameters.map Parameter.isLifetime)

/-- The parameters that a type brings with it. -/
def Ty.binder : Ty → Generics
  | .function binder .. => binder
  | .bounded none (.trait _ _ binder _ :: _) _ => binder
  | _ => .none

/-- Behind a `where` the angle bracket of `<T>::A` would open parameters. -/
def Ty.isProjected : Ty → Bool
  | .path (.projected ..) => true
  | _ => false

/-- A `for` belongs to the condition before it belongs to its type. -/
def Predicate.isTidy : Predicate → Bool
  | .lifetime _ bounds trailing => bounds.all Bound.isLifetime && endsWell bounds trailing
  | .type binder subject bounds trailing =>
      binder.isTidyBinder known && subject.isTidy known true && boundsTidy known bounds &&
        endsWell bounds trailing && !subject.isProjected &&
        (binder.isWritten || !subject.binder.isWritten)

def Conditions.isTidy (c : Conditions) : Bool :=
  c.predicates.all (Predicate.isTidy known) && endsWell c.predicates c.trailing

def Field.isTidy (f : Field) : Bool :=
  f.attributes.all (Meta.isTidy known) && f.visibility.isTidy && f.name.any (!isKeyword ·) &&
    f.type.isTidy known true

def Shape.isTidy : Shape → Bool
  | .named fields trailing => fields.all (Field.isTidy known) && endsWell fields trailing
  | _ => false

def Struct.isTidy (s : Struct) : Bool :=
  s.attributes.all (Meta.isTidy known) && s.visibility.isTidy && !isKeyword s.name &&
    s.generics.isTidy known && s.conditions.isTidy known && s.shape.isTidy known

end ZonedAccessors.Syntax
