/-!
Text with optional line breaks. A box that fits stays on its line; the gaps of one that does not
are line breaks, and the boxes in it are decided one by one.
-/

namespace ZonedAccessors.Layout

/-- Columns of a line, and the least room a line has however deep it is indented. -/
def margin : Int := 89

def leastRoom : Int := 60

/-- Wider than any line. -/
def endless : Nat := 65535

/-- A place for a line break. Flat it is some blanks and `flat`; broken it is `before`, a line break
and `after`. An `optional` one is dropped where nothing follows it in its box. -/
structure Gap where
  blanks : Nat
  offset : Int
  before : List Char
  after : List Char
  flat : List Char
  never : Bool
  optional : Bool
  deriving DecidableEq, Repr

inductive Doc where
  | text (s : String)
  | gap (g : Gap)
  /-- No text, but no line has room for it. -/
  | strut
  /-- All gaps of a consistent box break together, those of another one only where they must. -/
  | box (consistent : Bool) (indent : Int) (body : List Doc)

abbrev Docs := List Doc

mutual

/-- Bytes on one line. -/
def Doc.width : Doc → Nat
  | .text s => s.utf8ByteSize
  | .gap g => g.blanks
  | .strut => endless
  | .box _ _ body => widthAll body

def widthAll : Docs → Nat
  | [] => 0
  | d :: ds => d.width + widthAll ds

end

/-- What stands before the first gap, or all of it and `after`. -/
def lead (after : Nat) : Docs → Nat
  | [] => after
  | .gap _ :: _ => 0
  | d :: ds => d.width + lead after ds

inductive Frame where
  | flat
  | broken (consistent : Bool)
  deriving DecidableEq, Repr

/-- What has been written, the room left on the line, the indent of the box, and blanks that are
written only if more text follows. -/
structure Pen where
  written : String
  room : Int
  indent : Int
  pending : Nat

namespace Pen

def start : Pen := ⟨"", margin, 0, 0⟩

def put (p : Pen) (s : String) : Pen :=
  { p with
    written := p.written ++ String.ofList (List.replicate p.pending ' ') ++ s
    room := p.room - s.utf8ByteSize
    pending := 0 }

def putChars (p : Pen) (cs : List Char) : Pen := if cs.isEmpty then p else p.put (String.ofList cs)

def newline (p : Pen) (offset : Int) : Pen :=
  { p with
    written := p.written ++ "\n"
    room := max (margin - (p.indent + offset)) leastRoom
    pending := (p.indent + offset).toNat }

def breakLine (p : Pen) (g : Gap) : Pen := ((p.putChars g.before).newline g.offset).putChars g.after

def leave (p : Pen) (g : Gap) : Pen :=
  let blank := { p with pending := p.pending + g.blanks, room := p.room - g.blanks }
  if g.flat.isEmpty then blank
  else { blank with
    written := blank.written ++ String.ofList g.flat
    room := blank.room - (String.ofList g.flat).utf8ByteSize }

/-- `follow` is the width behind the gap up to the next one. -/
def space (p : Pen) (frame : Frame) (follow : Nat) (g : Gap) : Pen :=
  let stays := g.never || match frame with
    | .flat => true
    | .broken true => false
    | .broken false => (g.blanks + follow : Int) ≤ p.room
  if stays then p.leave g else p.breakLine g

end Pen

mutual

def Doc.draw (frame : Frame) (follow : Nat) : Doc → Pen → Pen
  | .text s, p => p.put s
  | .gap g, p => p.space frame follow g
  | .strut, p => p
  | .box consistent indent body, p =>
      if p.room < widthAll body + follow then
        { drawAll (.broken consistent) follow body { p with indent := p.indent + indent } with
          indent := p.indent }
      else drawAll .flat follow body p

def drawAll (frame : Frame) (after : Nat) : Docs → Pen → Pen
  | [], p => p
  | d :: ds, p => drawAll frame after ds (d.draw frame (lead after ds) p)

end

def render (ds : Docs) : String := (drawAll (.broken false) 0 ds Pen.start).written

end ZonedAccessors.Layout
