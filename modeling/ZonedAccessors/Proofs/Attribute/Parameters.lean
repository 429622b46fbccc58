import ZonedAccessors.Proofs.Attribute.Stacking
import ZonedAccessors.Proofs.Grammar.Structs

/-!
The parameters of a struct on its accessors. They are printed three times, on the struct, on the
block and behind the name of its type, each time by a rule of its own; the three lists agree place
by place.
-/

namespace ZonedAccessors.Syntax

open Token

/-! The parts of a parameter. -/

namespace Parameter

/-- Its attributes, and the keyword of a value. -/
def front : Parameter → Tokens
  | .lifetime attributes .. => attributesTokens attributes
  | .type attributes .. => attributesTokens attributes
  | .value attributes .. => attributesTokens attributes ++ word "const"

/-- Its bounds, or the type of a value. -/
def constraint : Parameter → Tokens
  | .lifetime _ _ bounds trailing => colonBefore trailing (boundsTokens bounds)
  | .type _ _ bounds trailing _ => colonBefore trailing (boundsTokens bounds)
  | .value _ _ t _ => op ":" ++ t.tokens

def defaultTokens : Parameter → Tokens
  | .lifetime .. => []
  | .type _ _ _ _ default => equalTypeTokens default
  | .value _ _ _ default => equalTokens default

def declaration (p : Parameter) : Tokens := p.front ++ p.name ++ p.constraint

theorem tokens_eq (p : Parameter) :
    p.tokens = (p.isLifetime, p.declaration ++ p.defaultTokens) := by
  cases p <;> simp [Parameter.tokens, isLifetime, declaration, front, name, constraint,
    defaultTokens]

theorem withoutDefault_tokens (p : Parameter) :
    p.withoutDefault.tokens = (p.isLifetime, p.declaration) := by
  cases p <;> simp [withoutDefault, tokens_eq, isLifetime, declaration, front, name, constraint,
    defaultTokens, equalTypeTokens, equalTokens]

end Parameter

/-! Parameters as they are printed. -/

namespace Generics

/-- Lifetimes first, and otherwise in the order of the source. -/
def ordered (g : Generics) : List Parameter :=
  g.parameters.filter Parameter.isLifetime ++ g.parameters.filter (!·.isLifetime)

theorem ordered_perm (g : Generics) : g.ordered.Perm g.parameters := List.filter_append_perm ..

/-- Whether a comma follows the last of the ordered parameters. -/
def comma (g : Generics) : Bool := commaAfter g.trailing (g.parameters.map Parameter.isLifetime)

/-- The ordered parameters, each in some way, in angle brackets; without any, nothing. -/
def listing (g : Generics) (shown : Parameter → Tokens) : Tokens :=
  if g.parameters.isEmpty then [] else angles (commas g.comma (g.ordered.map shown))

/-- However each is printed, the order and the commas are the same. -/
theorem listing_eq_arranged (g : Generics) (shown : Parameter → Tokens) :
    g.listing shown = if g.parameters.isEmpty then [] else
      angles (arranged g.trailing (g.parameters.map fun p => (p.isLifetime, shown p))) := by
  rw [arranged_eq_commas_marked]
  simp [listing, marked, ordered, comma, List.filter_map, Function.comp_def]

theorem tokens_eq_listing (g : Generics) :
    g.tokens = g.listing fun p => p.declaration ++ p.defaultTokens := by
  rw [listing_eq_arranged]
  rcases g with _ | ⟨_ | ⟨p, ps⟩, trailing⟩
  · rfl
  · rfl
  · rw [Generics.tokens, parametersTokens_eq_map, funext Parameter.tokens_eq]
    · rfl
    · simp

theorem parameterTokens_eq_listing (g : Generics) :
    g.parameterTokens = g.listing Parameter.declaration := by
  rw [listing_eq_arranged]
  rcases g with _ | ⟨_ | ⟨p, ps⟩, trailing⟩
  · rfl
  · rfl
  · -- the marks are those of the parameters with their defaults
    have hmap : ((p :: ps).map Parameter.withoutDefault).map Parameter.tokens =
        (p :: ps).map fun p => (p.isLifetime, p.declaration) := by
      rw [List.map_map]
      exact List.map_congr_left fun p _ => p.withoutDefault_tokens
    rw [parameterTokens, List.map_cons, Generics.tokens, parametersTokens_eq_map, ← List.map_cons,
      hmap]
    · rfl
    · simp

theorem argumentTokens_eq_listing (g : Generics) : g.argumentTokens = g.listing Parameter.name :=
  (g.listing_eq_arranged Parameter.name).symm

end Generics

end ZonedAccessors.Syntax

namespace ZonedAccessors.Attribute

open Token Syntax

variable {options item : Source} {e : Expansion}

/-! Accessors as visible as their struct. -/

/-- A documented function of the name. -/
def IsFunction (v : Visibility) (name : String) (ts : Tokens) : Prop :=
  ∃ (text : String) (required : Bool) (inputs output body : Tokens),
    ts = Template.doc text ++ (if required then Template.mustUse else []) ++
      (v.tokens ++ word "fn" ++ word name ++ parens inputs ++ output ++ braces body)

theorem isFunction_getter (s : Struct) (runtime : Option Syntax.Path) (a : Accessor) :
    IsFunction s.visibility a.name (Template.getter (.ofStruct s runtime) a) := by
  obtain ⟨name, nullable, policy⟩ := a
  refine ⟨Template.getterDoc ⟨name, nullable, policy⟩, policy = .local, ?_⟩
  cases nullable <;> cases policy <;> exact ⟨_, _, _, rfl⟩

theorem isFunction_setter (s : Struct) (runtime : Option Syntax.Path) (a : Accessor) :
    IsFunction s.visibility a.setter (Template.setter (.ofStruct s runtime) a) := by
  obtain ⟨name, nullable, policy⟩ := a
  refine ⟨Template.setterDoc ⟨name, nullable, policy⟩, false, ?_⟩
  cases nullable <;> exact ⟨_, _, _, rfl⟩

/-- The block declares the parameters of the struct without their defaults, and its type takes them
by name, in the order and with the commas of the struct itself; its conditions are those of the
struct, and its two functions have the visibility of the struct. -/
theorem expand_keeps_parameters (h : expand options item = .ok e) :
    let s := e.struct
    readStruct item = .ok s ∧ s.generics.ordered.Perm s.generics.parameters ∧
    (s.generics.tokens = s.generics.listing fun p => p.declaration ++ p.defaultTokens) ∧
    ∃ getter setter,
      e.block = word "impl" ++ s.generics.listing Parameter.declaration ++
        (word s.name ++ s.generics.listing Parameter.name) ++ s.conditions.tokens ++
        braces (getter ++ setter) ∧
      IsFunction s.visibility e.accessor.name getter ∧
      IsFunction s.visibility e.accessor.setter setter := by
  obtain ⟨o, s, a, -, hs, -, rfl⟩ := expand_ok_iff.mp h
  refine ⟨hs, s.generics.ordered_perm, s.generics.tokens_eq_listing, _, _, ?_,
    isFunction_getter s o.runtime a, isFunction_setter s o.runtime a⟩
  rw [← Generics.parameterTokens_eq_listing, ← Generics.argumentTokens_eq_listing]
  simp [Expansion.block, Target.block, Target.header, Target.body, Target.pair, Target.ofStruct]

def logItem : Tokens :=
  word "pub" ++ word "struct" ++ word "Log" ++ op "<" ++ word "T" ++ op ":" ++ word "Clone" ++
    op "=" ++ word "u8" ++ op "," ++ lifetime "a" ++ op ">" ++ word "where" ++ word "T" ++ op ":" ++
    word "Default" ++ braces (word "date_utc" ++ op ":" ++ word "i64" ++ op "," ++
      word "date_tz" ++ op ":" ++ word "i32")

/-- The lifetime comes first and leaves its place to a comma. -/
theorem expand_keeps_parameters_log :
    ∃ e getter setter, expand [.literal "\"date\"" ⟨0, 0⟩] logItem.placed = .ok e ∧
      e.block = word "impl" ++
        angles (lifetime "a" ++ op "," ++ (word "T" ++ op ":" ++ word "Clone") ++ op ",") ++
        (word "Log" ++ angles (lifetime "a" ++ op "," ++ word "T" ++ op ",")) ++
        (word "where" ++ word "T" ++ op ":" ++ word "Default") ++ braces (getter ++ setter) := by
  have hok : (expand [.literal "\"date\"" ⟨0, 0⟩] logItem.placed).isOk = true := by decide +kernel
  have hread : ∃ s, readStruct logItem.placed = .ok s ∧ s.name = "Log" ∧
      s.generics.listing Parameter.declaration =
        angles (lifetime "a" ++ op "," ++ (word "T" ++ op ":" ++ word "Clone") ++ op ",") ∧
      s.generics.listing Parameter.name =
        angles (lifetime "a" ++ op "," ++ word "T" ++ op ",") ∧
      s.conditions.tokens = word "where" ++ word "T" ++ op ":" ++ word "Default" :=
    ⟨_, rfl, rfl, rfl, rfl, rfl⟩
  obtain ⟨e, he⟩ := exists_of_isOk hok
  obtain ⟨s, hs, hname, hdeclared, happlied, hconditions⟩ := hread
  obtain ⟨hstruct, -, -, getter, setter, hblock, -, -⟩ := expand_keeps_parameters he
  obtain rfl : s = e.struct := Except.ok.inj (hs.symm.trans hstruct)
  refine ⟨e, getter, setter, he, ?_⟩
  rw [hblock, hdeclared, happlied, hname, hconditions]

end ZonedAccessors.Attribute
