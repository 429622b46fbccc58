import ZonedAccessors.Grammar.Type
import ZonedAccessors.Proofs.Grammar.Follow.Steps

/-!
Types, with the paths, bounds and parameters in them, are read in step.
-/

namespace ZonedAccessors.Grammar

open Token Syntax

/-- Readers for what is nested that are in step on fewer than `s` tokens. -/
class Nested (s : Nat) (g g' : Inner) : Prop where
  type : ∀ us n [Neutral us] plus, InStep us .fewer s n .shut .spent (g.type plus) (g'.type plus)
  argument : ∀ us n [Neutral us], InStep us .fewer s n .shut .spent g.argument g'.argument
  parameter : ∀ us n [Neutral us], InStep us .fewer s n .shut .spent g.parameter g'.parameter
  expr : ∀ us n [Neutral us] structs,
    InStep us .fewer s n .shut .spent (g.expr structs) (g'.expr structs)
  unary : ∀ us n [Neutral us] structs,
    InStep us .fewer s n .shut .spent (g.unary structs) (g'.unary structs)
  climb : ∀ us n [Neutral us] structs b left,
    InStep us .fewer s n .spent .spent (g.climb structs b left) (g'.climb structs b left)
  statement : Agrees .fewer s g.statement g'.statement
  pattern : ∀ us n [Neutral us], InStep us .fewer s n .shut .spent g.pattern g'.pattern
  block : ∀ us n [Neutral us], InStep us .fewer s n .spent .spent g.block g'.block
  body : Agrees .fewer s g.body g'.body
  item : Agrees .fewer s g.item g'.item

theorem Nested.mono {s t : Nat} {g g' : Inner} (h : Nested s g g') (ht : t ≤ s) :
    Nested t g g' where
  type us n _ plus := (h.type us n plus).shrink ht
  argument us n _ := (h.argument us n).shrink ht
  parameter us n _ := (h.parameter us n).shrink ht
  expr us n _ structs := (h.expr us n structs).shrink ht
  unary us n _ structs := (h.unary us n structs).shrink ht
  climb us n _ structs b left := (h.climb us n structs b left).shrink ht
  statement := h.statement.shrink ht
  pattern us n _ := (h.pattern us n).shrink ht
  block us n _ := (h.block us n).shrink ht
  body := h.body.shrink ht
  item := h.item.shrink ht

/-- They are in step on `s` tokens as well, where that may be asked of them. -/
class Adjacent (s : Nat) (g g' : Inner) : Prop extends Nested s g g' where
  type_all : ∀ us n [Neutral us] plus, InStep us .all s n .shut .spent (g.type plus) (g'.type plus)
  item_all : Agrees .all s g.item g'.item

attribute [instance] Nested.type Nested.argument Nested.parameter Nested.expr Nested.unary
  Nested.climb Nested.statement Nested.pattern Nested.block Nested.body Nested.item
  Adjacent.type_all Adjacent.item_all

set_option synthInstance.maxSize 20000
set_option synthInstance.maxHeartbeats 200000

variable {us : Source} [Neutral us] {s n : Nat} {g g' : Inner}

section

variable [Nested s g g'] {b b' : Bool} {e : Edge}

instance : InStep us .all s n .spent .spent (output g b) (output g' b) := by
  unfold output
  infer_instance

instance : InStep us .all s n .shut .shut (segment g b) (segment g' b) := by
  unfold segment
  infer_instance

instance : InStep us .all s n .shut .shut (path g b) (path g' b) := by
  unfold path
  infer_instance

instance : InStep us .all s n .shut .shut (tyPath g b) (tyPath g' b) := by
  unfold tyPath
  infer_instance

instance : InStep us .all s n .shut .spent (traitPath g) (traitPath g') := by
  unfold traitPath
  infer_instance


/-! Attributes. -/

instance {ts : Left us .shut} : Alike (startsPath ts.tokens) (startsPath (ts.tokens ++ us)) := by
  unfold startsPath
  infer_instance

instance : InStep us .all s n .shut .shut modPath modPath := by
  unfold modPath
  infer_instance

instance : Agrees .fewer s (metaValue g) (metaValue g') := by
  unfold metaValue
  refine .rest fun ts => ?_
  split <;> infer_instance

instance : Agrees .fewer s (metaItem g) (metaItem g') := by
  unfold metaItem
  infer_instance

instance : InStep us .all s n .shut .shut (attributes g) (attributes g') := by
  unfold attributes
  infer_instance

instance : Agrees .all s (innerAttributes g) (innerAttributes g') := by
  unfold innerAttributes
  infer_instance

instance : InStep us .all s n .spent .spent (braced g) (braced g') := by
  unfold braced
  infer_instance

instance : InStep us .all s n .spent .spent (constant g) (constant g') := by
  unfold constant
  infer_instance

/-! Bounds. -/

instance : InStep us .all s n .spent .shut lifetimeBound lifetimeBound := by
  unfold lifetimeBound
  infer_instance

instance : InStep us .all s n .shut .shut (binderIf g) (binderIf g') := by
  unfold binderIf
  infer_instance

instance : InStep us .all s n .shut .spent (traitBound g b b') (traitBound g' b b') := by
  unfold traitBound
  infer_instance

instance : InStep us .all s n .shut .shut capturedParameter capturedParameter := by
  unfold capturedParameter
  infer_instance

instance : InStep us .all s n .shut .shut captures captures := by
  have hparameters : InStep us .fewer s n .shut .shut (rest >>= fun ts => capturesFrom (ts.length + 1))
      (rest >>= fun ts => capturesFrom (ts.length + 1)) := by
    refine .fuelled fun t m k ht ih => ?_
    unfold capturesFrom
    infer_instance
  unfold captures
  have hmark : InStep us .fewer s n .shut .shut (mark "<") (mark "<") := inferInstance
  refine .bind_eats inferInstance fun _ => hmark.bind fun _ => ?_
  exact .fuelled_bind hparameters fun _ => inferInstance

instance : InStep us .all s n .shut .spent (bound g b b') (bound g' b b') := by
  unfold bound
  infer_instance

instance {stop stop' : Source → Bool} [∀ ts : Left us .shut, Alike (stop ts.tokens) (stop' (ts.tokens ++ us))] :
    InStep us .all s n .spent .spent (boundsIf g stop) (boundsIf g' stop') := by
  unfold boundsIf
  infer_instance

instance {stop stop' : Source → Bool}
    [∀ ts : Left us .spent, Alike (stop ts.tokens) (stop' (ts.tokens ++ us))] :
    InStep us .all s n .spent .spent (boundsUntil g stop) (boundsUntil g' stop') := by
  have hshut (ts : Left us .shut) : Alike (stop ts.tokens) (stop' (ts.tokens ++ us)) :=
    alike_of_left (e := .spent) ts
  unfold boundsUntil
  infer_instance

instance {ts : Left us .shut} : Alike (startsBound ts.tokens) (startsBound (ts.tokens ++ us)) := by
  unfold startsBound
  infer_instance

instance : InStep us .all s n .spent .spent (moreBounds g) (moreBounds g') := by
  unfold moreBounds
  infer_instance

instance {b'' : Bool} :
    InStep us .all s n .shut .spent (bounds g b b' b'') (bounds g' b b' b'') := by
  unfold bounds
  infer_instance

/-! Parameters and conditions. -/

instance {ts : Left us .shut} : Alike (endsParameter ts.tokens) (endsParameter (ts.tokens ++ us)) := by
  unfold endsParameter
  infer_instance

instance {as : Attributes} :
    InStep us .all s n .spent .shut (lifetimeParameter as) (lifetimeParameter as) := by
  unfold lifetimeParameter
  infer_instance

instance {as : Attributes} :
    InStep us .all s n .spent .spent (typeParameter g as) (typeParameter g' as) := by
  unfold typeParameter
  infer_instance

instance {as : Attributes} :
    InStep us .all s n .shut .spent (valueParameter g as) (valueParameter g' as) := by
  unfold valueParameter
  infer_instance

instance : InStep us .all s n .shut .spent (parameter g) (parameter g') := by
  unfold parameter
  infer_instance

instance : InStep us .all s n .shut .spent (declaredParameter g) (declaredParameter g') := by
  unfold declaredParameter
  infer_instance

instance : InStep us .all s n .spent .spent (generics g) (generics g') := by
  unfold generics
  infer_instance

instance : InStep us .all s n .shut .shut (generics g) (generics g') := by
  unfold generics
  infer_instance

instance {ts : Left us .shut} :
    Alike (startsGenerics ts.tokens) (startsGenerics (ts.tokens ++ us)) := by
  unfold startsGenerics
  infer_instance

instance {ts : Left us .shut} :
    Alike (endsConditions ts.tokens) (endsConditions (ts.tokens ++ us)) := by
  unfold endsConditions
  infer_instance

instance : InStep us .fewer s n .shut .spent (predicate g) (predicate g') := by
  unfold predicate
  infer_instance

instance : InStep us .all s n .spent .spent (conditions g) (conditions g') := by
  unfold conditions
  infer_instance

end

instance [Adjacent s g g'] : InStep us .all s n .shut .spent (argument g) (argument g') := by
  have htype : InStep us .all s n .shut .spent (g.type true) (g'.type true) := inferInstance
  unfold argument
  refine .rest fun ts => .ite inferInstance inferInstance (.ite inferInstance inferInstance ?_)
  refine htype.bind fun t => ?_
  cases soleSegment t <;> infer_instance

end ZonedAccessors.Grammar
