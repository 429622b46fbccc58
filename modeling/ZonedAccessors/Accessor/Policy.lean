/-!
What a getter does when the stored offset is not that of a zone.
-/

namespace ZonedAccessors

inductive Policy where
  /-- Show the instant in the local zone. -/
  | local
  /-- Fail. -/
  | error
  deriving DecidableEq, Repr, Inhabited

def Policy.text : Policy → String
  | .local => "local"
  | .error => "error"

def Policy.ofText? (text : String) : Option Policy :=
  if text = "local" then some .local
  else if text = "error" then some .error
  else none

theorem Policy.ofText?_text (p : Policy) : Policy.ofText? p.text = some p := by
  cases p <;> rfl

theorem Policy.ofText?_eq_some_iff {text : String} {p : Policy} :
    Policy.ofText? text = some p ↔ text = p.text := by
  constructor
  · intro h
    unfold Policy.ofText? at h
    split at h
    · cases h
      assumption
    · split at h
      · cases h
        assumption
      · cases h
  · rintro rfl
    exact Policy.ofText?_text p

end ZonedAccessors
