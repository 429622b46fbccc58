import ZonedAccessors.Attribute.Refusal
import ZonedAccessors.Grammar.Text

/-!
The options of an attribute: the name of the field, then `key = literal` with commas between.
-/

namespace ZonedAccessors.Attribute

open Token Grammar

structure Located (α : Type) where
  value : α
  place : Span

structure Options where
  name : Located String
  nullable : Option Bool
  fallback : Option (Located String)
  runtime : Option Syntax.Path

inductive Setting where
  | nullable (value : Bool)
  | fallback (value : Located String)
  | runtime (value : Syntax.Path)

def refuseAt {α : Type} (place : Span) (cause : Cause) : Except Refusal α :=
  .error ⟨.options, some place, false, cause⟩

/-- A fault at the first of some tokens, or at the end. -/
def refuseFront {α : Type} (ts : Source) (cause : Cause) : Except Refusal α :=
  .error ⟨.options, ts.head?.map openPlace, ts.isEmpty, cause⟩

/-- As `refuseFront`, in the same words at the end. -/
def refusePlainly {α : Type} (ts : Source) (cause : Cause) : Except Refusal α :=
  .error ⟨.options, ts.head?.map openPlace, false, cause⟩

/-- What a literal stands for, where it stands, and what follows. -/
structure Value where
  negative : Bool
  written : String
  place : Span

def Value.boolean (v : Value) : Option Bool :=
  if v.written = "true" then some true
  else if v.written = "false" then some false
  else none

/-- The text of a string literal, and whether it has a suffix. -/
def Value.text (v : Value) : Option (String × Bool) :=
  match literal v.written with
  | .text value marked => some (value, marked)
  | _ => none

theorem afterLiteral_length {ts r : Source} {l : Bool × String} {p : Span}
    (h : afterLiteral ts = some (l, p, r)) : r.length < ts.length := by
  unfold afterLiteral at h
  split at h
  · cases h; exact Nat.lt_succ_self _
  · split at h
    · cases h; exact Nat.lt_succ_self _
    · cases h
  · split at h
    · cases h
      simp only [List.length_cons]
      omega
    · cases h
  · cases h

/-- The value of one option. -/
def setting (key : String) (place : Span) (v : Value) : Except Refusal Setting :=
  if key = "nullable" ∨ key = "optional" then
    match v.boolean with
    | some b => .ok (.nullable b)
    | none => refuseAt v.place (.wrongLiteral key .boolean)
  else if key = "fallback" then
    match v.text with
    | some (s, _) => .ok (.fallback ⟨s, v.place⟩)
    | none => refuseAt v.place (.wrongLiteral key .text)
  else if key = "crate" then
    match v.text with
    | none => refuseAt v.place (.wrongLiteral key .text)
    | some (s, marked) =>
        match if marked then none else pathOfText s with
        | some p => .ok (.runtime p)
        | none => refuseAt v.place (.declaration (.invalidRuntime s))
  else refuseAt place (.unknownOption key)

def isOption (key : String) : Bool := ["nullable", "optional", "fallback", "crate"].contains key

/-- No option is set twice. -/
def Options.set (o : Options) (place : Span) : Setting → Except Refusal Options
  | .nullable b =>
      if o.nullable.isSome then refuseAt place (.repeated "nullable")
      else .ok { o with nullable := some b }
  | .fallback s =>
      if o.fallback.isSome then refuseAt place (.repeated "fallback")
      else .ok { o with fallback := some s }
  | .runtime p =>
      if o.runtime.isSome then refuseAt place (.repeated "crate")
      else .ok { o with runtime := some p }

/-- What follows the name. -/
def Options.extend (o : Options) (ts : Source) : Except Refusal Options :=
  match ts with
  | [] => .ok o
  | .punct ',' _ _ :: [] => .ok o
  | .punct ',' _ _ :: .ident key place :: after =>
      if key = "true" ∨ key = "false" then refuseAt place (.bareFlag key)
      else match after with
        | .punct '=' _ _ :: value =>
            if !isOption key then refuseAt place (.unknownOption key)
            else match _h : afterLiteral value with
              | some ((negative, written), at', more) => do
                  let s ← setting key place ⟨negative, written, at'⟩
                  let o ← o.set place s
                  o.extend more
              | none => refuseFront value (.grammar (.expected ["literal"]))
        | after => refusePlainly after (.grammar (.expected [tick "="]))
  | .punct ',' _ _ :: ts => refuseFront ts (.grammar (.broken .anyName))
  | ts => refusePlainly ts (.grammar (.expected [tick ","]))
termination_by ts.length
decreasing_by
  have := afterLiteral_length _h
  simp only [List.length_cons]
  omega

def Options.read (ts : Source) : Except Refusal Options :=
  match ts with
  | .literal written place :: more =>
      match literal written with
      | .text name _ => Options.extend ⟨⟨name, place⟩, none, none, none⟩ more
      | _ => refuseFront ts .usage
  | _ => refuseFront ts .usage

/-- The field that the options declare. -/
def Options.field (o : Options) : Except Refusal DateField :=
  match o.fallback with
  | none => .ok ⟨o.name.value, o.nullable.getD false, .local⟩
  | some s =>
      match Policy.ofText s.value with
      | .ok p => .ok ⟨o.name.value, o.nullable.getD false, p⟩
      | .error e => refuseAt s.place (.declaration e)

end ZonedAccessors.Attribute
