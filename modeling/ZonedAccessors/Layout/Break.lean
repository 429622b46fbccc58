import ZonedAccessors.Syntax.Shape
import ZonedAccessors.Token.Number

/-!
Where lines with expressions in them may be broken, and which marks a broken line needs.
-/

namespace ZonedAccessors.Layout

open Token Syntax

/-- A name alone that is no longer than an indent. -/
def isShort : Expr → Bool
  | .path (.plain ⟨false, [.plain name]⟩) => name.utf8ByteSize ≤ 4
  | _ => false

/-- A point right behind it would be read as part of it. -/
def endsInPoint : Expr → Bool
  | .literal _ text => text.toList.getLast? == some '.'
  | _ => false

def startsWithPoint : Expr → Bool
  | .range none .. => true
  | _ => false

/-- Whether it is written with a semicolon even if it has none. -/
def takesSemicolon (e : Expr) : Bool :=
  match e.bare with
  | .assign .. => true
  | .binary text _ _ => ["+=", "-=", "*=", "/=", "%=", "^=", "&=", "|=", "<<=", ">>="].contains text
  | .jump .. => true
  | _ => false

/-- Whether it is written without a semicolon even if it has one. -/
def dropsSemicolon : Expr → Bool
  | .conditional _ _ none => true
  | .conditional _ _ (some no) => dropsSemicolon no
  | .whilst .. => true
  | .each .. => true
  | .attributed _ e => dropsSemicolon e
  | _ => false

/-- Whether the brace behind it may stand on a line of its own. -/
def mayWrap : Expr → Bool
  | .assign .. | .await _ | .binary .. | .cast .. | .field .. | .index .. | .method .. => true
  | .call callee _ _ => mayWrap callee
  | .jump _ _ (some e) | .range _ _ (some e) => mayWrap e
  | .binding _ e | .paren e | .address _ e | .borrow _ e | .question e | .unary _ e => mayWrap e
  | .attributed _ e => mayWrap e
  | _ => false

/-- Whether its own brackets hold its lines together. -/
def isBracketed : Expr → Bool
  | .array .. | .closure .. | .struct .. | .tuple .. | .block .. => true
  | _ => false

/-- Whether a closure may have it as a body without braces. -/
def isClosureBody : Expr → Bool
  | .select .. | .call .. => true
  | e => isBracketed e

/-- Whether nothing in it would be taken for a statement of its own. -/
def mayBeStatement : Expr → Bool
  | .binding .. => false
  | .assign left _ | .binary _ left _ => left.needsSemicolon && mayBeStatement left
  | .call callee _ _ => callee.needsSemicolon && mayBeStatement callee
  | .cast inner _ => inner.needsSemicolon && mayBeStatement inner
  | .index base _ => base.needsSemicolon && mayBeStatement base
  | .range (some first) _ _ => first.needsSemicolon && mayBeStatement first
  | .await inner | .field inner _ | .method inner _ _ _ | .question inner => mayBeStatement inner
  | .attributed _ e => mayBeStatement e
  | _ => true

/-- Whether many of it may stand on a line. -/
def isSimple (e : Expr) : Bool :=
  match e.bare with
  | .literal _ text =>
      match text.toList with
      | 'b' :: '\'' :: _ => true
      | '\'' :: _ => true
      | cs => text == "true" || text == "false" || (integerOf cs).isSome
  | _ => false

/-- A block of one expression and nothing else. -/
def isSole : Expr → Bool
  | .block [] none [] [.expr _ false] => true
  | _ => false

def isBareBlock (e : Expr) : Bool :=
  match e.bare with
  | .block [] _ _ _ => true
  | _ => false

/-- Whether it stands for any number of inputs. -/
def isOpenType : Ty → Bool
  | .more => true
  | _ => false

/-- An input that stands for any number of them. -/
def isOpenInput : Pattern → Bool
  | .more => true
  | .typed _ .more => true
  | .attributed _ p => isOpenInput p
  | _ => false

def isRestOf : Pattern → Bool
  | .rest => true
  | .attributed _ p => isRestOf p
  | _ => false

/-- Whether it is a literal, or stands for anything. -/
def isPlainCase (p : Pattern) : Bool :=
  match p with
  | .wild => true
  | .value (.literal ..) => true
  | _ => false

end ZonedAccessors.Layout
