import ZonedAccessors.Layout.Doc

/-!
Gaps and boxes by name. A box of one gap alone is nothing at all.
-/

namespace ZonedAccessors.Layout

def step : Int := 4

def noGap : Gap := ⟨0, 0, [], [], [], false, false⟩

/-- Nothing, or a line break. -/
def soft : Doc := .gap noGap

/-- A blank, or a line break. -/
def blank : Doc := .gap { noGap with blanks := 1 }

def hard : Doc := .gap { noGap with blanks := endless }

/-- A blank, if anything follows. -/
def blankIf : Doc := .gap { noGap with blanks := 1, optional := true }

def hardIf : Doc := .gap { noGap with blanks := endless, optional := true }

/-- No line break, but the end of what counts for the boxes before it. -/
def fixed : Doc := .gap { noGap with never := true }

/-- A last comma, which stands only before a line break. -/
def comma : Doc := .gap { noGap with before := [','] }

def commaOrBlank : Doc := .gap { noGap with blanks := 1, before := [','] }

/-- A last gap as it is at the end of a box: an optional one only ends what counts. -/
def settled (body : Docs) : Docs :=
  match body.getLast? with
  | some (.gap g) => if g.optional then body.dropLast ++ [fixed] else body
  | _ => body

def enclosed (consistent : Bool) (indent : Int) (body : Docs) : Docs :=
  match body with
  | [.gap _] => []
  | body => [.box consistent indent (settled body)]

def box (indent : Int) (body : Docs) : Docs := enclosed true indent body

def looseBox (indent : Int) (body : Docs) : Docs := enclosed false indent body

/-- A box that is broken where its body is wider than `limit`. -/
def boxWithin (limit : Nat) (indent : Int) (body : Docs) : Docs :=
  box indent (if limit < widthAll body then body ++ [.strut] else body)

/-- A last gap breaks one step further back. -/
def dedented (body : Docs) : Docs :=
  match body.getLast? with
  | some (.gap g) => body.dropLast ++ [.gap { g with offset := g.offset - step }]
  | _ => body

/-! Lists. -/

/-- Items with commas between them and `last` behind the last one. -/
def separated (last : Doc) : List Docs → Docs
  | [] => []
  | [d] => d ++ [last]
  | d :: ds => d ++ [.text ",", blank] ++ separated last ds

def listed (items : List Docs) : Docs := separated comma items

/-- Items on lines of their own, unless they fit. -/
def listBox (indent : Int) (items : List Docs) : Docs :=
  box indent (dedented (soft :: listed items))

/-- As `listBox`, but no comma follows the last item if it stands for any number of items. -/
def openListBox (indent : Int) (isOpen : Bool) (items : List Docs) : Docs :=
  box indent (dedented (soft :: separated (if isOpen then soft else comma) items))

/-- A tuple of one keeps its comma. -/
def tupleBox (items : List Docs) : Docs :=
  match items with
  | [d] => box step (dedented (soft :: d ++ [.text ",", soft]))
  | items => listBox step items

/-- As many items on a line as fit. -/
def filled : List Docs → Docs
  | [] => []
  | [d] => d
  | d :: ds => d ++ [.text ",", blank] ++ filled ds

def joined (sep : String) : List Docs → Docs
  | [] => []
  | [d] => d
  | d :: ds => d ++ [.text sep] ++ joined sep ds

/-- Items with a plus before each but the first, where a line may be broken. -/
def summed : List Docs → Docs
  | [] => []
  | [d] => d
  | d :: ds => d ++ [blank, .text "+ "] ++ summed ds

/-- Marked items first. -/
def markedFirst (items : List (Bool × Docs)) : List Docs :=
  (items.filter (·.1)).map (·.2) ++ (items.filter (!·.1)).map (·.2)

/-- Lines in braces; `{}` if there is none. -/
def lines (body : Docs) : Docs := box step (dedented (hardIf :: body))

end ZonedAccessors.Layout
