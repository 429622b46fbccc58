import ZonedAccessors.Grammar.Level
import ZonedAccessors.Token.Lexer

/-!
Parts of declarations written as texts.
-/

namespace ZonedAccessors.Grammar

open Token Syntax

def ofText {α : Type} (p : Inner → Reader α) (text : String) : Option α :=
  match Token.ofText text with
  | none => none
  | some ts => (read p ts).toOption

def pathOfText (text : String) : Option Path := ofText (path · false) text

def tyPathOfText (text : String) : Option TyPath := ofText (tyPath · false) text

def tyOfText (text : String) : Option Ty := ofText (type · true) text

def visibilityOfText (text : String) : Option Visibility := ofText (fun _ => visibility) text

def structOfText (text : String) : Option Struct :=
  match ofText declared text with
  | some (.struct s) => some s
  | _ => none

end ZonedAccessors.Grammar
