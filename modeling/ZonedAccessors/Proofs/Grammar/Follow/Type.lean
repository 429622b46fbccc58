import ZonedAccessors.Grammar.Type
import ZonedAccessors.Proofs.Grammar.Follow.Bound

/-!
Types are read in step.
-/

namespace ZonedAccessors.Grammar

open Token Syntax

set_option synthInstance.maxSize 20000
set_option synthInstance.maxHeartbeats 200000

variable {us : Source} [Neutral us] {s n : Nat} {g g' : Inner} [Nested s g g'] {b b' : Bool}
  {r : Reach} {e e' : Edge}

instance {start start' : Source} {rule : Rule} {p q : Reader (List Bound × Bool)}
    [InStep us r s n e e' p q] :
    InStep us r s n e e' (traitBounds start rule p) (traitBounds start' rule q) := by
  unfold traitBounds
  exact .bind (d := e') inferInstance fun _ => inferInstance

instance : InStep us .all s n .shut .spent (lifetimeObject g) (lifetimeObject g') := by
  unfold lifetimeObject
  infer_instance

instance : InStep us .all s n .spent .spent (plusBounds g) (plusBounds g') := by
  unfold plusBounds
  infer_instance

instance : Agrees .fewer s (enclosedType g) (enclosedType g') := by
  have hsum : Agrees .fewer s (traitBound g true false) (traitBound g' true false) := inferInstance
  unfold enclosedType
  refine .rest fun ts => ?_
  split
  · infer_instance
  · split
    · infer_instance
    · split
      · exact hsum.bind fun found => by cases found <;> infer_instance
      · infer_instance

instance : InStep us .all s n .spent .spent (parenType g b) (parenType g' b) := by
  unfold parenType
  refine .bind_eats (d := .spent) inferInstance fun found => ?_
  cases found with
  | done t => infer_instance
  | sum first => infer_instance
  | sole t =>
      dsimp only
      cases enclosedBound t <;> infer_instance

/-! Functions. -/

instance : InStep us .all s n .spent .spent conventionIf conventionIf := by
  unfold conventionIf
  refine .keywordIf (r := .all) (.front ?_ ?_) inferInstance inferInstance
  · intro
    infer_instance
  · intro t ts c _ he hts
    have hrest : Edge.shut.Admits us c.rest := hts ▸ he
    cases t with
    | literal text place =>
        dsimp only
        split
        · exact .advance (hts ▸ List.suffix_cons _ _) (.found (he.tail (by simp)).spent (.refl _))
        · exact .found hrest.spent (.refl _)
    | _ => exact .found hrest.spent (.refl _)

instance {words : List String} : InStep us .all s n .shut .shut (wordsIf words) (wordsIf words) := by
  induction words with
  | nil => exact inferInstanceAs (InStep us .all s n .shut .shut (pure []) (pure []))
  | cons word words ih =>
      unfold wordsIf
      infer_instance

instance {as : Attributes} : Agrees .all s (furtherInputs as) (furtherInputs as) := by
  unfold furtherInputs
  infer_instance

instance {as : Attributes} : Agrees .fewer s (input g as b) (input g' as b) := by
  unfold input
  infer_instance

instance {m : Nat} : Agrees .fewer s (inputsFrom g b m) (inputsFrom g' b m) := by
  induction m generalizing b with
  | zero => exact inferInstanceAs (Agrees .fewer s (refuse _) (refuse _))
  | succ m ih =>
      unfold inputsFrom
      infer_instance

instance {binder : Generics} :
    InStep us .all s n .shut .spent (functionType g binder) (functionType g' binder) := by
  unfold functionType
  infer_instance

/-! Other types. -/

instance {p : ModPath} : InStep us .all s n .spent .spent (invocationAt p) (invocationAt p) := by
  unfold invocationAt
  infer_instance

instance {ts : Left us .spent} : Alike (isInvoked ts.tokens) (isInvoked (ts.tokens ++ us)) := by
  unfold isInvoked
  infer_instance

instance {binder : Generics} :
    InStep us .all s n .shut .spent (pathType g b binder) (pathType g' b binder) := by
  unfold pathType
  refine .bind (d := .spent) inferInstance fun p => ?_
  cases p with
  | plain p =>
      refine .rest fun ts => ?_
      rw [← ts.admits.alike isInvoked isInvoked]
      cases (if isInvoked ts.tokens = true then p.names? else none) <;> infer_instance
  | _ => infer_instance

instance : InStep us .all s n .shut .spent (objectType g b) (objectType g' b) := by
  unfold objectType
  infer_instance

instance : InStep us .all s n .shut .spent (implType g b) (implType g' b) := by
  unfold implType
  infer_instance

instance : InStep us .all s n .spent .shut (bracketType g) (bracketType g') := by
  unfold bracketType
  infer_instance

instance : InStep us .all s n .spent .spent (pointerType g) (pointerType g') := by
  unfold pointerType
  infer_instance

instance : InStep us .all s n .spent .spent (referenceType g) (referenceType g') := by
  unfold referenceType
  infer_instance

instance : InStep us .all s n .shut .spent builtin builtin := by
  unfold builtin
  infer_instance

instance {ts : Left us .shut} : Alike (startsBuiltin ts.tokens) (startsBuiltin (ts.tokens ++ us)) := by
  unfold startsBuiltin
  infer_instance

instance {ts : Left us .shut} :
    Alike (startsFunction ts.tokens) (startsFunction (ts.tokens ++ us)) := by
  unfold startsFunction
  infer_instance

instance : InStep us .all s n .shut .spent (type g b) (type g' b) := by
  unfold type
  infer_instance

end ZonedAccessors.Grammar
