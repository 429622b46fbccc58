import ZonedAccessors.Toml.Value

/-!
Tables while a document is read. A table that a header or a dotted key passes through comes into
being without being declared; a header may declare it later.
-/

namespace ZonedAccessors.Toml

inductive Origin where
  /-- By its own header. -/
  | declared
  /-- On the way to another header. -/
  | passed
  /-- On the way to a key with dots. -/
  | dotted
  deriving DecidableEq, Repr

mutual

inductive Node where
  | closed (value : Value)
  | table (t : Table)
  | tables (earlier : List Table) (last : Table)

structure Table where
  origin : Origin
  entries : List (String × Node)

end

def Table.empty (origin : Origin) : Table := ⟨origin, []⟩

def Table.find? (t : Table) (key : String) : Option Node :=
  (t.entries.find? fun e => e.1 == key).map (·.2)

def Table.put (t : Table) (key : String) (n : Node) : Table :=
  ⟨t.origin, insertKey key n (t.entries.filter fun e => e.1 != key)⟩

/-- Changes the table that a path of keys leads to. A key with dots does not enter a declared one. -/
def Table.within (dotted : Bool) (change : Table → Option Table) :
    List String → Table → Option Table
  | [], t => change t
  | key :: path, t =>
      match t.find? key with
      | none =>
          (Table.within dotted change path (.empty (if dotted then .dotted else .passed))).map
            fun u => t.put key (.table u)
      | some (.closed _) => none
      | some (.table u) =>
          if dotted && u.origin = .declared then none
          else (Table.within dotted change path u).map fun u => t.put key (.table u)
      | some (.tables earlier last) =>
          if dotted then none
          else (Table.within dotted change path last).map fun u => t.put key (.tables earlier u)

/-- The keys before the last one, and the last one. -/
def splitLast : List String → Option (List String × String)
  | [] => none
  | [k] => some ([], k)
  | k :: ks => (splitLast ks).map fun (path, last) => (k :: path, last)

/-- A value at a key of a table, which has none yet. -/
def Table.define (keys : List String) (v : Value) (t : Table) : Option Table := do
  let (path, key) ← splitLast keys
  t.within true (fun u =>
    if decide (u.origin = .dotted) == path.isEmpty then none
    else match u.find? key with
      | some _ => none
      | none => some (u.put key (.closed v))) path

/-- A header in single brackets. -/
def Table.declare (keys : List String) (t : Table) : Option Table := do
  let (path, key) ← splitLast keys
  t.within false (fun u =>
    match u.find? key with
    | none => some (u.put key (.table (.empty .declared)))
    | some (.table v) =>
        if v.origin = .passed then some (u.put key (.table ⟨.declared, v.entries⟩)) else none
    | some _ => none) path

/-- A header in double brackets. -/
def Table.append (keys : List String) (t : Table) : Option Table := do
  let (path, key) ← splitLast keys
  t.within false (fun u =>
    match u.find? key with
    | none => some (u.put key (.tables [] (.empty .declared)))
    | some (.tables earlier last) =>
        some (u.put key (.tables (earlier ++ [last]) (.empty .declared)))
    | some _ => none) path

mutual

def Node.value : Node → Value
  | .closed v => v
  | .table t => t.value
  | .tables earlier last => .array (tableValues earlier ++ [last.value])

def Table.value : Table → Value
  | ⟨_, entries⟩ => .table (entryValues entries)

def tableValues : List Table → List Value
  | [] => []
  | t :: ts => t.value :: tableValues ts

def entryValues : List (String × Node) → List (String × Value)
  | [] => []
  | (key, n) :: es => (key, n.value) :: entryValues es

end

end ZonedAccessors.Toml
