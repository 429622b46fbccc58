import ZonedAccessors.Grammar.Pattern
import ZonedAccessors.Proofs.Grammar.Follow.Type

/-!
Patterns are read in step.
-/

namespace ZonedAccessors.Grammar

open Token Syntax

set_option synthInstance.maxSize 20000
set_option synthInstance.maxHeartbeats 200000

variable {us : Source} [Neutral us] {s n : Nat} {g g' : Inner} [Nested s g g'] {b b' : Bool}

instance {ts : Left us .spent} :
    Alike (startsAlternative ts.tokens) (startsAlternative (ts.tokens ++ us)) := by
  unfold startsAlternative
  infer_instance

instance : InStep us .fewer s n .shut .spent (anyPattern g) (anyPattern g') := by
  unfold anyPattern
  infer_instance

/-! Ranges. -/

instance {ts : Left us .shut} : Alike (endsBound ts.tokens) (endsBound (ts.tokens ++ us)) := by
  unfold endsBound
  infer_instance

instance : InStep us .all s n .shut .spent (constBlock g) (constBlock g') := by
  unfold constBlock
  infer_instance

instance : InStep us .all s n .shut .spent (rangeBound g) (rangeBound g') := by
  unfold rangeBound
  infer_instance

instance : InStep us .all s n .spent .shut points points := by
  unfold points
  infer_instance

instance : Eats points := by
  unfold points
  infer_instance

instance : InStep us .all s n .spent .shut pointsOrDots pointsOrDots := by
  unfold pointsOrDots
  infer_instance

instance {first : Expr} :
    InStep us .all s n .spent .spent (rangeFrom g first) (rangeFrom g' first) := by
  have hlast : InStep us .all s n .shut .spent (rangeBound g) (rangeBound g') := inferInstance
  unfold rangeFrom
  refine .bind (d := .shut) inferInstance fun closed => hlast.bind fun last => ?_
  cases last <;> infer_instance

instance : InStep us .all s n .shut .spent (valuePattern g) (valuePattern g') := by
  unfold valuePattern
  refine .bind (d := .spent) inferInstance fun first => ?_
  cases first <;> infer_instance

instance : InStep us .all s n .shut .spent (openRange g) (openRange g') := by
  have hlast : InStep us .all s n .shut .spent (rangeBound g) (rangeBound g') := inferInstance
  unfold openRange
  refine .bind (d := .shut) inferInstance fun closed => hlast.bind fun last => ?_
  cases last <;> infer_instance

/-! Names, fields and groups. -/

instance : InStep us .all s n .shut .spent (namePattern g) (namePattern g') := by
  unfold namePattern
  infer_instance

instance {place : Span} {written : String} :
    InStep us .all s n .shut .shut (positionAt place written) (positionAt place written) := by
  unfold positionAt
  split <;> infer_instance

instance {α : Type} {place : Span} {written : String} :
    Fails (negativePosition place written : Reader α) := by
  unfold negativePosition
  split <;> infer_instance

instance : InStep us .all s n .shut .shut member member := by
  unfold member
  refine .front (fun _ => inferInstance) fun t ts c hc he hts => ?_
  have hsuffix : ts <:+ c.rest := by
    rw [hts]
    exact List.suffix_cons _ _
  cases t with
  | ident text place =>
      refine .ite rfl (.of_fails inferInstance inferInstance) ?_
      exact .advance hsuffix (.found (he.tail (by simp)) (.refl _))
  | literal text place =>
      have hposition : InStep us .all s n .shut .shut (positionAt place text) (positionAt place text) :=
        inferInstance
      refine .ite rfl (.advance hsuffix ?_) (.of_fails inferInstance inferInstance)
      exact hposition.run _ (hc.later ⟨hsuffix, id, rfl⟩) (he.tail (by simp))
  | punct m joint place =>
      refine .of_fails ?_ ?_ <;> split <;> first | infer_instance | (rename_i h; cases h)
  | group d body place => exact .of_fails inferInstance inferInstance

instance : Agrees .fewer s (fieldPattern g) (fieldPattern g') := by
  unfold fieldPattern
  infer_instance

instance {m : Nat} : Agrees .fewer s (fieldPatternsFrom g m) (fieldPatternsFrom g' m) := by
  induction m with
  | zero => exact inferInstanceAs (Agrees .fewer s (refuse _) (refuse _))
  | succ m ih =>
      unfold fieldPatternsFrom
      infer_instance

instance : InStep us .all s n .shut .spent (pathPattern g) (pathPattern g') := by
  unfold pathPattern
  refine .bind (d := .spent) inferInstance fun p => .rest fun ts => ?_
  rw [← ts.admits.alike isInvoked isInvoked]
  dsimp only
  split <;> infer_instance

instance : InStep us .all s n .spent .shut (parenPattern g) (parenPattern g') := by
  unfold parenPattern
  refine .bind (d := .shut) inferInstance fun (items, trailing) => ?_
  dsimp only
  split <;> infer_instance

instance : Agrees .fewer s (sliceItem g) (sliceItem g') := by
  unfold sliceItem
  infer_instance

instance {ts : Left us .shut} :
    Alike (startsPathPattern ts.tokens) (startsPathPattern (ts.tokens ++ us)) := by
  unfold startsPathPattern
  infer_instance

instance : InStep us .all s n .shut .spent (pattern g) (pattern g') := by
  unfold pattern
  infer_instance

end ZonedAccessors.Grammar
