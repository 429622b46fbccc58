import ZonedAccessors.Grammar.Fault
import ZonedAccessors.Token.Literal

/-!
Reading token trees from left to right. What a group holds beyond what was read of it is noted, and
is a fault once everything else has been read.
-/

namespace ZonedAccessors.Grammar

open Token

/-- Words that name nothing unless written raw. -/
def keywords : List String :=
  ["_", "abstract", "as", "async", "await", "become", "box", "break", "const", "continue", "crate",
    "do", "dyn", "else", "enum", "extern", "false", "final", "fn", "for", "if", "impl", "in", "let",
    "loop", "macro", "match", "mod", "move", "mut", "override", "priv", "pub", "ref", "return",
    "Self", "self", "static", "struct", "super", "trait", "true", "try", "type", "typeof", "unsafe",
    "unsized", "use", "virtual", "where", "while", "yield"]

def isKeyword (text : String) : Bool := keywords.contains text

def tick (text : String) : String := "`" ++ text ++ "`"

/-- The tokens not read yet, and the delimiter that ends them, if they are in a group. -/
structure Cursor where
  rest : Source
  closing : Option Span
  leftover : Option Fault

abbrev Reader := StateT Cursor (Except Fault)

/-! What stands at the front. -/

/-- What follows an operator: its marks but the last are joint. -/
def afterMark : List Char → Source → Option Source
  | [], ts => some ts
  | [c], .punct m _ _ :: ts => if c == m then some ts else none
  | c :: cs, .punct m joint _ :: ts => if c == m && joint then afterMark cs ts else none
  | _ :: _, _ => none

def isMark (text : String) (ts : Source) : Bool := (afterMark text.toList ts).isSome

def isWord (text : String) : Source → Bool
  | .ident t _ :: _ => t == text
  | _ => false

def isName : Source → Bool
  | .ident t _ :: _ => !isKeyword t
  | _ => false

def isAnyName : Source → Bool
  | .ident .. :: _ => true
  | _ => false

def isLifetime : Source → Bool
  | .punct '\'' true _ :: .ident .. :: _ => true
  | _ => false

def isGroup (d : Delimiter) : Source → Bool
  | .group e _ _ :: _ => d == e
  | _ => false

/-- Without the first token; a lifetime is one token. -/
def skipped : Source → Source
  | .punct '\'' true _ :: .ident .. :: ts => ts
  | _ :: ts => ts
  | [] => []

def second (p : Source → Bool) (ts : Source) : Bool := p (skipped ts)

def third (p : Source → Bool) (ts : Source) : Bool := p (skipped (skipped ts))

def afterLiteral : Source → Option ((Bool × String) × Span × Source)
  | .literal t p :: ts => some ((false, t), p, ts)
  | .ident t p :: ts => if t == "true" || t == "false" then some ((false, t), p, ts) else none
  | .punct '-' _ p :: .literal t q :: ts =>
      if literal t = .number then some ((true, t), p.join q, ts) else none
  | _ => none

/-- Whether a literal is a text, with a suffix or without. -/
def isText (written : String) : Bool :=
  match literal written with
  | .text .. => true
  | _ => false

def isLiteral (ts : Source) : Bool := (afterLiteral ts).isSome

/-! Places. -/

def openPlace : Token.Tree Span → Span
  | .group _ _ p => p.head
  | t => t.place

def Cursor.place (c : Cursor) : Option Span :=
  match c.rest with
  | t :: _ => some (openPlace t)
  | [] => c.closing

/-- From the first of some trees to the last. -/
def extent : Source → Option Span
  | [] => none
  | t :: ts => some (t.place.join ((t :: ts).getLast (by simp)).place)

/-! Steps. -/

def rest : Reader Source := return (← get).rest

def advance (ts : Source) : Reader Unit := modify fun c => { c with rest := ts }

def refuse {α : Type} (complaint : Complaint) : Reader α := do
  let c ← get
  throw ⟨c.place, c.rest.isEmpty, complaint⟩

/-- The same words whether or not the text has ended. -/
def refusePlainly {α : Type} (complaint : Complaint) : Reader α := do
  throw ⟨(← get).place, false, complaint⟩

def refuseAt {α : Type} (place : Option Span) (complaint : Complaint) : Reader α :=
  throw ⟨place, false, complaint⟩

def refuseOptions {α : Type} (options : List String) : Reader α := refuse (.expected options)

/-- A fault where nothing was looked for; it covers all of a group. -/
def refuseWhole {α : Type} : Reader α := do
  match ← rest with
  | t :: _ => refuseAt (some t.place) (.expected [])
  | [] => refuseOptions []

def mark (text : String) : Reader Unit := do
  match afterMark text.toList (← rest) with
  | some ts => advance ts
  | none => refusePlainly (.expected [tick text])

def markIf (text : String) : Reader Bool := do
  match afterMark text.toList (← rest) with
  | some ts => advance ts; return true
  | none => return false

def keyword (text : String) : Reader Unit := do
  if isWord text (← rest) then advance (skipped (← rest)) else refuseOptions [tick text]

def keywordIf (text : String) : Reader Bool := do
  if isWord text (← rest) then advance (skipped (← rest)); return true else return false

def anyName : Reader String := do
  match ← rest with
  | .ident t _ :: ts => advance ts; return t
  | _ => refuse (.broken .anyName)

def name : Reader String := do
  match ← rest with
  | .ident t _ :: ts => if isKeyword t then refuse (.keyword t) else advance ts; return t
  | _ => refuseOptions ["identifier"]

def lifetimeName : Reader String := do
  match ← rest with
  | .punct '\'' true _ :: .ident t _ :: ts => advance ts; return t
  | _ => refuseOptions ["lifetime"]

def anyNameOr (texts : List String) : Reader String := do
  if texts.any (isWord · (← rest)) then anyName else name

def lifetimeIf : Reader (Option String) := do
  if isLifetime (← rest) then return some (← lifetimeName) else return none

/-- The sign and the text of a literal. -/
def literalText : Reader (Bool × String) := do
  match afterLiteral (← rest) with
  | some (l, _, ts) => advance ts; return l
  | none => refuseOptions ["literal"]

def delimiterName : Delimiter → String
  | .paren => "parentheses"
  | .bracket => "square brackets"
  | .brace => "curly braces"

def leftoverOf (d : Option Delimiter) : Source → Option Fault
  | [] => none
  | t :: _ => some ⟨some t.place, false, .leftover d⟩

/-- Reads the body of a group; the first thing left over anywhere is kept. -/
def inside {α : Type} (d : Delimiter) (body : Reader α) : Reader α := do
  let outer ← get
  match outer.rest with
  | .group e inner p :: ts =>
      if d = e then
        let (found, c) ← body.run ⟨inner, some p.tail, outer.leftover⟩
        set (Cursor.mk ts outer.closing (c.leftover.or (leftoverOf (some d) c.rest)))
        return found
      else refuseOptions [delimiterName d]
  | _ => refuseOptions [delimiterName d]

/-- A group as it stands. -/
def anyGroup : Reader (Token.Tree Unit) := do
  match ← rest with
  | .group d body p :: ts => advance ts; return (Token.Tree.group d body p).relabel fun _ => ()
  | _ => refuse (.broken .delimiter)

def groupIf (d : Delimiter) : Reader Bool := do
  if isGroup d (← rest) then advance (skipped (← rest)); return true else return false

/-- A group that is passed over. -/
def skipGroup (d : Delimiter) : Reader Unit := do
  if !(← groupIf d) then refuseOptions [delimiterName d]

/-- What was read, with the tokens it was read from. -/
def captured {α : Type} (p : Reader α) : Reader (α × Source) := do
  let before ← rest
  let found ← p
  let after ← rest
  return (found, before.take (before.length - after.length))

def capturedTokens (p : Reader Unit) : Reader Tokens := return Source.bare (← captured p).2

/-- What stands between two points of a text. -/
def between (before : Source) : Reader Source := do
  let after ← rest
  return before.take (before.length - after.length)

/-- Reads nothing if `p` has a fault. -/
def attempt {α : Type} (p : Reader α) : Reader (Option α) := fun c =>
  match p.run c with
  | .ok (found, after) => .ok (some found, after)
  | .error _ => .ok (none, c)

/-- Items with a separator between them, until `stop`; `fuel` bounds their number. -/
def listedFrom {α : Type} (stop : Source → Bool) (sep : String) (item : Reader α) :
    Nat → Reader (List α × Bool)
  | 0 => refuse (.broken .depth)
  | fuel + 1 => do
      let x ← item
      if stop (← rest) then return ([x], false)
      mark sep
      if stop (← rest) then return ([x], true)
      let (xs, trailing) ← listedFrom stop sep item fuel
      return (x :: xs, trailing)

def listed {α : Type} (stop : Source → Bool) (sep : String) (item : Reader α) :
    Reader (List α × Bool) := do
  if stop (← rest) then return ([], false)
  listedFrom stop sep item ((← rest).length + 1)

/-- Items as long as a separator follows and nothing that stops them. -/
def chainedFrom {α : Type} (stop : Source → Bool) (sep : String) (item : Reader α) :
    Nat → Reader (List α × Bool)
  | 0 => refuse (.broken .depth)
  | fuel + 1 => do
      let x ← item
      if !(← markIf sep) then return ([x], false)
      if stop (← rest) then return ([x], true)
      let (xs, trailing) ← chainedFrom stop sep item fuel
      return (x :: xs, trailing)

def chained {α : Type} (stop : Source → Bool) (sep : String) (item : Reader α) :
    Reader (List α × Bool) := do
  if stop (← rest) then return ([], false)
  chainedFrom stop sep item ((← rest).length + 1)

def manyFrom {α : Type} (more : Source → Bool) (item : Reader α) : Nat → Reader (List α)
  | 0 => refuse (.broken .depth)
  | fuel + 1 => do
      if more (← rest) then
        let x ← item
        let xs ← manyFrom more item fuel
        return x :: xs
      else return []

/-- Items as long as one begins. -/
def many {α : Type} (more : Source → Bool) (item : Reader α) : Reader (List α) := do
  manyFrom more item ((← rest).length + 1)

def inCommas {α : Type} (d : Delimiter) (item : Reader α) : Reader (List α × Bool) :=
  inside d (listed List.isEmpty "," item)

/-- Reads all of a text. -/
def readAll {α : Type} (p : Reader α) (ts : Source) : Except Fault α :=
  match p.run ⟨ts, none, none⟩ with
  | .error f => .error f
  | .ok (found, c) =>
      match c.leftover.or (leftoverOf none c.rest) with
      | some f => .error f
      | none => .ok found

end ZonedAccessors.Grammar
