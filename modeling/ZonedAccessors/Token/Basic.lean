/-!
Token trees of source text. A tree carries a mark of type `σ` at each node: the place it was read
from, or nothing.
-/

namespace ZonedAccessors.Token

inductive Delimiter where
  | paren
  | bracket
  | brace
  deriving DecidableEq, Repr

def Delimiter.opening : Delimiter → Char
  | .paren => '('
  | .bracket => '['
  | .brace => '\x7b'

def Delimiter.closing : Delimiter → Char
  | .paren => ')'
  | .bracket => ']'
  | .brace => '\x7d'

/-- Half-open range of character positions in a text. -/
structure Span where
  first : Nat
  last : Nat
  deriving DecidableEq, Repr, Inhabited

namespace Span

def join (a b : Span) : Span := ⟨a.first, b.last⟩

def head (s : Span) : Span := ⟨s.first, min (s.first + 1) s.last⟩

def tail (s : Span) : Span := ⟨max (s.last - 1) s.first, s.last⟩

end Span

/-- A joint mark is written directly against the token after it. -/
inductive Tree (σ : Type) where
  | ident (text : String) (place : σ)
  | punct (mark : Char) (joint : Bool) (place : σ)
  | literal (text : String) (place : σ)
  | group (delimiter : Delimiter) (body : List (Tree σ)) (place : σ)
  deriving Repr, BEq

abbrev Tokens := List (Tree Unit)

abbrev Source := List (Tree Span)

namespace Tree

def place {σ : Type} : Tree σ → σ
  | .ident _ p => p
  | .punct _ _ p => p
  | .literal _ p => p
  | .group _ _ p => p

mutual

def relabel {σ τ : Type} (f : σ → τ) : Tree σ → Tree τ
  | .ident t p => .ident t (f p)
  | .punct m j p => .punct m j (f p)
  | .literal t p => .literal t (f p)
  | .group d body p => .group d (relabelAll f body) (f p)

def relabelAll {σ τ : Type} (f : σ → τ) : List (Tree σ) → List (Tree τ)
  | [] => []
  | t :: ts => t.relabel f :: relabelAll f ts

end

mutual

def size {σ : Type} : Tree σ → Nat
  | .ident .. => 1
  | .punct .. => 1
  | .literal .. => 1
  | .group _ body _ => 2 + sizeAll body

def sizeAll {σ : Type} : List (Tree σ) → Nat
  | [] => 0
  | t :: ts => t.size + sizeAll ts

end

theorem relabelAll_append {σ τ : Type} (f : σ → τ) (xs ys : List (Tree σ)) :
    relabelAll f (xs ++ ys) = relabelAll f xs ++ relabelAll f ys := by
  induction xs with
  | nil => rfl
  | cons x xs ih => simp [relabelAll, ih]

theorem sizeAll_append {σ : Type} (xs ys : List (Tree σ)) :
    sizeAll (xs ++ ys) = sizeAll xs + sizeAll ys := by
  induction xs with
  | nil => simp [sizeAll]
  | cons x xs ih => simp [sizeAll, ih, Nat.add_assoc]

end Tree

def Source.bare (ts : Source) : Tokens := Tree.relabelAll (fun _ => ()) ts

/-- Tokens that were made and not read all stand at one empty place. -/
def Tokens.placed (ts : Tokens) : Source := Tree.relabelAll (fun _ => ⟨0, 0⟩) ts

/-! Making tokens. -/

def word (text : String) : Tokens := [.ident text ()]

def lit (text : String) : Tokens := [.literal text ()]

/-- The characters of one operator: all but the last are joint. -/
def marks : List Char → Tokens
  | [] => []
  | [c] => [.punct c false ()]
  | c :: cs => .punct c true () :: marks cs

def op (text : String) : Tokens := marks text.toList

def enclose (d : Delimiter) (body : Tokens) : Tokens := [.group d body ()]

def parens (body : Tokens) : Tokens := enclose .paren body

def brackets (body : Tokens) : Tokens := enclose .bracket body

def braces (body : Tokens) : Tokens := enclose .brace body

/-- A lifetime is a joint quote and its name; `name` has no quote. -/
def lifetime (name : String) : Tokens := [.punct '\'' true (), .ident name ()]

end ZonedAccessors.Token
