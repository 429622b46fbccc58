import ZonedAccessors.Layout.Part

/-!
Declarations laid out over lines.
-/

namespace ZonedAccessors.Layout

open Token Syntax

mutual

def ty : Ty → Docs
  | .path p => tyPath false p
  | .tuple items _ => .text "(" :: tupleBox (tys items) ++ [.text ")"]
  | .paren inner => .text "(" :: ty inner ++ [.text ")"]
  | .array item length =>
      .text "[" :: ty item ++ [.text "; "] ++ expr .plain length ++ [.text "]"]
  | .slice item => .text "[" :: ty item ++ [.text "]"]
  | .pointer mutable target => .text (if mutable then "*mut " else "*const ") :: ty target
  | .reference l mutable target =>
      .text "&" :: (match l with
        | some name => [.text (lifetimeText name ++ " ")]
        | none => []) ++ wordIf mutable "mut" ++ ty target
  | .never => [.text "!"]
  | .infer => [.text "_"]
  | .more => [.text "..."]
  | .function binder head is _ output =>
      binderDocs binder ++ qualifierDocs head ++ .text "fn(" ::
        openListBox step (is.getLast?.any (isOpenType ·.type)) (inputs is) ++ [.text ")"] ++ result output
  | .bounded keyword bs _ => .text (keyword.getD "dyn" ++ " ") :: joined " + " (bounds bs)
  | .invocation call => invocation call none false
  | .verbatim tokens => trees false .start true tokens

def tys : List Ty → List Docs
  | [] => []
  | t :: ts => ty t :: tys ts

def result : Option Ty → Docs
  | none => []
  | some t => .text " -> " :: ty t

def input : Input → Docs
  | ⟨as, none, t⟩ => outers as ++ ty t
  | ⟨as, some name, t⟩ => outers as ++ .text (name ++ ": ") :: ty t

def inputs : List Input → List Docs
  | [] => []
  | i :: is => input i :: inputs is

def tyPath (inExpr : Bool) : TyPath → Docs
  | .plain p => path inExpr p
  | .projected self rest =>
      .text "<" :: ty self ++ [.text ">::"] ++ joined "::" (segments inExpr rest)
  | .viewed self view rest =>
      .text "<" :: ty self ++ [.text " as "] ++ path false view ++ [.text ">::"] ++
        joined "::" (segments inExpr rest)

def path (inExpr : Bool) : Path → Docs
  | ⟨rooted, ss⟩ => (if rooted then [.text "::"] else []) ++ joined "::" (segments inExpr ss)

def segment (inExpr : Bool) : Segment → Docs
  | .plain name => [.text name]
  | .angled name _ [] _ => [.text name]
  | .angled name _ items _ =>
      .text name :: (if inExpr then [.text "::"] else []) ++ [.text "<"] ++
        listBox step (markedFirst (arguments items)) ++ [.text ">"]
  | .call name is _ output =>
      .text name :: box step (dedented ([.text "(", soft] ++ listed (tys is)) ++ [.text ")"] ++
        result output)

def segments (inExpr : Bool) : List Segment → List Docs
  | [] => []
  | s :: ss => segment inExpr s :: segments inExpr ss

def argument : Argument → Bool × Docs
  | .lifetime name => (true, [.text (lifetimeText name)])
  | .type t => (false, ty t)
  | .value e => (false, expr .plain e)
  | .equalType name t => (false, segment false name ++ [.text " = "] ++ ty t)
  | .equalValue name e => (false, segment false name ++ [.text " = "] ++ expr .plain e)
  | .constraint name bs _ =>
      (false, segment false name ++ looseBox step (.text ": " :: summed (bounds bs)))

def arguments : List Argument → List (Bool × Docs)
  | [] => []
  | a :: as => argument a :: arguments as

def bound : Bound → Docs
  | .lifetime name => [.text (lifetimeText name)]
  | .trait enclosed maybe binder p =>
      let inner := (if maybe then [.text "?"] else []) ++ binderDocs binder ++ path false p
      if enclosed then .text "(" :: inner ++ [.text ")"] else inner
  | .captured parameters _ =>
      .text "use<" :: joined ", " (parameters.map capturedDocs) ++ [.text ">"]
  | .verbatim tokens => trees false .start true tokens

def bounds : List Bound → List Docs
  | [] => []
  | b :: bs => bound b :: bounds bs

/-- Behind a `for`. -/
def binderDocs : Generics → Docs
  | .none => []
  | .over ps _ => .text "for<" :: joined ", " ((parameters ps).map (·.2)) ++ [.text "> "]

/-- Behind a name. -/
def generics : Generics → Docs
  | .none => []
  | .over [] _ => []
  | .over ps _ => .text "<" :: listBox 0 (markedFirst (parameters ps)) ++ [.text ">"]

def parameter : Parameter → Bool × Docs
  | .lifetime as name [] _ => (true, outers as ++ [.text (lifetimeText name)])
  | .lifetime as name bs _ =>
      (true, outers as ++ .text (lifetimeText name ++ ": ") :: joined " + " (bounds bs))
  | .type as name [] _ default =>
      (false, outers as ++ .text name :: looseBox step (defaultType default))
  | .type as name bs _ default =>
      (false, outers as ++ .text name :: looseBox step (.text ": " :: summed (bounds bs) ++
        defaultType default))
  | .value as name t default =>
      (false, outers as ++ .text ("const " ++ name ++ ": ") :: ty t ++ equal default)

def parameters : List Parameter → List (Bool × Docs)
  | [] => []
  | p :: ps => parameter p :: parameters ps

def defaultType : Option Ty → Docs
  | none => []
  | some t => [blank, .text "= "] ++ ty t

/-- A type behind an equal sign, at the indent of the line. -/
def equalType : Option Ty → Docs
  | none => []
  | some t => [.text " = ", fixed] ++ looseBox (-step) (ty t)

def equal : Option Expr → Docs
  | none => []
  | some e => .text " = " :: expr .plain e

/-- As `equalType`, behind a blank. -/
def aliased : Option Ty → Docs
  | none => []
  | some t => [.text "= ", fixed] ++ looseBox (-step) (ty t)

/-- A value that the line is not broken before. -/
def fixedEqual : Option Expr → Docs
  | none => []
  | some e => [.text " = ", fixed] ++ expr .plain e

def predicate : Predicate → Docs
  | .lifetime name bs _ =>
      .text (lifetimeText name ++ ":") :: looseBox step (spaced (bounds bs))
  | .type binder subject bs _ =>
      binderDocs binder ++ ty subject ++ [.text ":"] ++
        looseBox (if bs.length = 1 then 0 else step) (spaced (bounds bs))

def predicates : List Predicate → List Docs
  | [] => []
  | p :: ps => predicate p :: predicates ps

def conditions : Conditions → List Docs
  | ⟨ps, _⟩ => predicates ps

def metaDocs : Meta → Docs
  | .path p => modPath p
  | .list p body => modPath p ++ metaBody body
  | .value p e => modPath p ++ .text " = " :: expr .plain e

/-- Attributes of what follows. -/
def outers : List Meta → Docs
  | [] => []
  | m :: ms =>
      (match comment? false m with
        | some d => d
        | none => .text "#[" :: metaDocs m ++ [.text "]", blank]) ++ outers ms

/-- Attributes of what encloses them. -/
def inners : List Meta → Docs
  | [] => []
  | m :: ms =>
      (match comment? true m with
        | some d => d
        | none => .text "#![" :: metaDocs m ++ [.text "]", blank]) ++ inners ms

/-- A block on one line if it is one expression that fits. -/
def block (inner : Docs) : List Stmt → Docs
  | [] => if inner.isEmpty then [.text "\x7b\x7d"] else
      .text "\x7b" :: dedented (blank :: inner) ++ [.text "\x7d"]
  | [.expr e false] =>
      [.text "\x7b", blank] ++ inner ++ looseBox 0 (expr .line e) ++ dedented [blank] ++
        [.text "\x7d"]
  | s :: ss => .text "\x7b" :: dedented (blank :: inner ++ stmt s ++ stmts ss) ++ [.text "\x7d"]

def expr (m : Manner) : Expr → Docs
  | .literal negative text => m.head [.text (literalText negative text)]
  | .infer => m.head [.text "_"]
  | .path p => m.head (tyPath true p)
  | .invocation call => m.head (invocation call none false)
  | .tuple items _ => m.head (.text "(" :: tupleBox (exprs items) ++ [.text ")"])
  | .paren inner => m.head (.text "(" :: expr .plain inner ++ [.text ")"])
  | .array items _ => m.head (arrayDocs items (exprs items))
  | .copies item length =>
      m.head (.text "[" :: expr .plain item ++ [.text "; "] ++ expr .plain length ++ [.text "]"])
  | .struct p fields _ _ none => m.head (structDocs (tyPath true p) (exprs fields) none)
  | .struct p fields _ _ (some rest) =>
      m.head (structDocs (tyPath true p) (exprs fields)
        (some (.text (if startsWithPoint rest then ".. " else "..") :: expr .plain rest)))
  | .entry member value => .text (member ++ ": ") :: looseBox 0 (expr .plain value)
  | .call callee as _ =>
      expr m.callee callee ++ [.text "("] ++ callArguments as (exprs as) ++ [.text ")"]
  | .method receiver name as _ =>
      m.link (expr m.receiver receiver ++ m.gap receiver ++ .text "." :: segment true name ++
        box (m.argumentIndent receiver)
          (.text "(" :: callArguments as (exprs as) ++ [.text ")"]))
  | .field base member =>
      m.link (expr m.receiver base ++ m.gap base ++ [.text ("." ++ member)])
  | .index base position => expr m base ++ [.text "["] ++ expr .plain position ++ [.text "]"]
  | .question inner => expr m inner ++ [.text "?"]
  | .await inner => m.link (expr m.receiver inner ++ m.gap inner ++ [.text ".await"])
  | .unary op inner => m.head (.text (String.ofList [op]) :: expr .plain inner)
  | .borrow mutable inner =>
      m.head (.text (if mutable then "&mut " else "&") :: expr .plain inner)
  | .address mutable inner =>
      m.head (.text (if mutable then "&raw mut " else "&raw const ") :: expr .plain inner)
  | .binary op left right =>
      m.head (looseBox step (looseBox (-step) (expr .plain left) ++ [blank, .text (op ++ " ")] ++
        expr .plain right))
  | .assign left right =>
      m.head (looseBox 0 (expr .plain left ++ [.text " = ", fixed] ++ expr .plain right))
  | .cast inner target =>
      m.head (looseBox step (looseBox (-step) (expr .plain inner) ++ [blank, .text "as "] ++
        ty target))
  | .range first closed last =>
      m.head (option first ++ .text (if closed then "..=" else "..") :: option last)
  | .binding p inner =>
      m.head (.text "let " :: pattern p ++ [.text " = ", fixed] ++ expr .plain inner)
  | .conditional condition yes none =>
      m.head (box step (.text "if " :: box (-step) (conditionBox condition (expr .plain condition)) ++
        if yes.isEmpty then [.text "\x7b\x7d"]
        else .text "\x7b" :: dedented (hard :: stmts yes) ++ [.text "\x7d"]))
  | .conditional condition yes (some no) =>
      m.head (box step (.text "if " :: box (-step) (conditionBox condition (expr .plain condition)) ++
        block [] yes ++ .text " else " :: otherwise no))
  | .select subject inner arms =>
      m.head (looseBox 0 (.text "match " :: conditionBox subject (expr .plain subject) ++
        blockLines (inners inner ++ stmts arms)))
  | .block texts label inner body =>
      m.head (labelDocs label ++ wordDocs texts ++ box step (block (inners inner) body))
  | .forever label inner body =>
      m.head (labelDocs label ++ .text "loop \x7b" :: lines (inners inner ++ stmts body) ++
        [.text "\x7d"])
  | .whilst label condition inner body =>
      m.head (labelDocs label ++ .text "while " :: conditionBox condition (expr .plain condition) ++
        blockLines (inners inner ++ stmts body))
  | .each label p source inner body =>
      m.head (looseBox 0 (labelDocs label ++ .text "for " :: pattern p ++ [.text " in ", fixed] ++
        conditionBox source (expr .plain source) ++ blockLines (inners inner ++ stmts body)))
  | .closure binder texts is _ none body =>
      m.head (looseBox 0 (binderDocs binder ++ wordDocs texts ++ closureInputs false (patterns is) ++
        fixed :: closureBody body (expr .plain body)))
  | .closure binder texts is _ (some t) body =>
      m.head (looseBox 0 (binderDocs binder ++ wordDocs texts ++ closureInputs true (patterns is) ++
        .text " -> " :: ty t ++ .text " " :: expr .plain body))
  | .jump text label value =>
      m.head (.text text :: (match label with
        | some name => [.text (" " ++ lifetimeText name)]
        | none => []) ++ jumpValue value)
  | .attributed as inner =>
      if inner.isRange then outers as ++ .text "(" :: expr m inner ++ [.text ")"]
      else outers as ++ expr m inner
  | .verbatim tokens => trees false .start true tokens

def exprs : List Expr → List Docs
  | [] => []
  | e :: es => expr .plain e :: exprs es

def option : Option Expr → Docs
  | none => []
  | some e => expr .plain e

def jumpValue : Option Expr → Docs
  | none => []
  | some e => .text " " :: expr .plain e

/-- What follows an `else`, within the box of its `if`. -/
def otherwise : Expr → Docs
  | .conditional condition yes none =>
      .text "if " :: box (-step) (conditionBox condition (expr .plain condition)) ++ block [] yes
  | .conditional condition yes (some no) =>
      .text "if " :: box (-step) (conditionBox condition (expr .plain condition)) ++ block [] yes ++
        .text " else " :: otherwise no
  | .block _ _ _ body => block [] body
  | _ => []

/-- The block in an arm. -/
def armBlock : Expr → Docs
  | .block _ label inner body => labelDocs label ++ blockLines (inners inner ++ stmts body)
  | .attributed _ inner => armBlock inner
  | _ => []

/-- The one expression in a block, blocks of one expression taken off. -/
def peeled : Expr → Docs
  | .block _ _ _ body => sole body
  | _ => []

def sole : List Stmt → Docs
  | [.expr e false] =>
      armBody e (peeled e) (armBlock e) (expr ⟨mayBeStatement e, false⟩ e)
  | _ => []

def guard : Option Expr → Docs
  | none => []
  | some e => .text " if " :: expr .plain e

/-- What follows the value of a `let`. -/
def instead : Option Expr → Docs
  | some (.block _ _ _ body) => box step (block [] body)
  | _ => []

def stmt : Stmt → Docs
  | .binding p none _ => looseBox 0 (.text "let " :: pattern p) ++ [.text ";", hard]
  | .binding p (some value) none =>
      looseBox 0 (.text "let " :: pattern p ++ [.text " = ", fixed] ++ expr .plain value) ++
        [.text ";", hard]
  | .binding p (some value) otherwise =>
      looseBox 0 (.text "let " :: pattern p ++ [.text " = ", fixed] ++ expr .plain value ++
        [blank, .text "else "]) ++ fixed :: instead otherwise ++ [.text ";", hard]
  | .item i => item i
  | .expr e ended =>
      looseBox 0 (expr .line e ++
        if (if ended then !dropsSemicolon e else takesSemicolon e) then [.text ";"] else []) ++
        [hard]
  | .invocation call ended => invocation call none ended ++ [hard]
  | .arm p condition body _ =>
      looseBox 0 (pattern p ++ guard condition ++ .text " => " ::
        armBody body (peeled body) (armBlock body) (expr ⟨mayBeStatement body, false⟩ body)) ++
        [hard]
  | .attributed as inner => outers as ++ stmt inner
  | .empty => []

def stmts : List Stmt → Docs
  | [] => []
  | s :: ss => stmt s ++ stmts ss

def pattern : Pattern → Docs
  | .wild => [.text "_"]
  | .rest => [.text ".."]
  | .more => [.text "..."]
  | .name borrowed mutable text => wordIf borrowed "ref" ++ wordIf mutable "mut" ++ [.text text]
  | .bound borrowed mutable text inner =>
      wordIf borrowed "ref" ++ wordIf mutable "mut" ++ .text (text ++ " @ ") :: pattern inner
  | .value e => expr .plain e
  | .invocation call => invocation call none false
  | .tuple [p] trailing =>
      .text "(" :: box step (dedented (soft :: pattern p ++
        (if trailing then [.text ","] else []) ++ [soft])) ++ [.text ")"]
  | .tuple items _ => .text "(" :: listBox step (patterns items) ++ [.text ")"]
  | .paren inner => .text "(" :: pattern inner ++ [.text ")"]
  | .slice items _ => .text "[" :: listed (patterns items) ++ [.text "]"]
  | .applied p items _ =>
      tyPath true p ++ .text "(" :: listBox step (patterns items) ++ [.text ")"]
  | .struct p items _ =>
      let inner := patterns items
      let (fields, rest) := if items.getLast?.any isRestOf then (inner.dropLast, inner.getLast?)
        else (inner, none)
      box step (dedented (tyPath true p ++ [.text " \x7b", blankIf] ++ fieldsDocs fields rest)) ++
        [.text "\x7d"]
  | .entry member inner => .text (member ++ ": ") :: pattern inner
  | .reference mutable inner => .text (if mutable then "&mut " else "&") :: pattern inner
  | .range first closed last =>
      option first ++ .text (if closed then "..=" else "..") :: option last
  | .alternatives _ items =>
      enclosed (!items.all isPlainCase) 0 (bar (patterns items))
  | .typed inner t => pattern inner ++ .text ": " :: ty t
  | .receiver r none => [.text (receiverText r)]
  | .receiver r (some t) => .text (receiverText r ++ ": ") :: ty t
  | .attributed as inner => outers as ++ pattern inner
  | .verbatim tokens => trees false .start true tokens

def patterns : List Pattern → List Docs
  | [] => []
  | p :: ps => pattern p :: patterns ps

/-- The lines of a body. -/
def bodyLines : Expr → Docs
  | .block _ _ inner body => inners inner ++ stmts body
  | _ => []

def item : Item → Docs
  | .constant v preset name t value =>
      box 0 (visibilityDocs v ++ wordIf preset "default" ++ .text ("const " ++ name ++ ": ") ::
        ty t ++ fixedEqual value ++ [.text ";"]) ++ [hard]
  | .static v mutable name t value =>
      box 0 (visibilityDocs v ++ .text "static " :: wordIf mutable "mut" ++
        .text (name ++ ": ") :: ty t ++ fixedEqual value ++ [.text ";"]) ++ [hard]
  | .function v preset head name g is _ output c none =>
      box step (visibilityDocs v ++ wordIf preset "default" ++ qualifierDocs head ++
        .text ("fn " ++ name) :: generics g ++ [.text "(", fixed] ++
        openListBox 0 (is.getLast?.any isOpenInput) (patterns is) ++ .text ")" ::
        box (-step) (result output) ++ conditionLines true (conditions c)) ++ [hard]
  | .function v preset head name g is _ output c (some body) =>
      declaration (visibilityDocs v ++ wordIf preset "default" ++ qualifierDocs head ++
        .text ("fn " ++ name) :: generics g ++ [.text "(", fixed] ++
        openListBox 0 (is.getLast?.any isOpenInput) (patterns is) ++ .text ")" ::
        box (-step) (result output) ++ conditionLines false (conditions c)) (bodyLines body)
  | .submodule v guarded name =>
      box step (visibilityDocs v ++ wordIf guarded "unsafe" ++ [.text ("mod " ++ name), .text ";"]) ++
        [hard]
  | .enclosed v guarded name inner members =>
      declaration (visibilityDocs v ++ wordIf guarded "unsafe" ++ [.text ("mod " ++ name ++ " ")])
        (inners inner ++ items members)
  | .foreign guarded convention inner members =>
      declaration (wordIf guarded "unsafe" ++ conventionDocs convention)
        (inners inner ++ items members)
  | .crate v name rename =>
      visibilityDocs v ++ .text ("extern crate " ++ name) :: (match rename with
        | some new => [.text (" as " ++ new)]
        | none => []) ++ [.text ";", hard]
  | .imports v rooted tree =>
      visibilityDocs v ++ .text (if rooted then "use ::" else "use ") :: importDocs tree ++
        [.text ";", hard]
  | .struct v name g c .named fields _ =>
      declaration (visibilityDocs v ++ .text ("struct " ++ name) :: generics g ++
        conditionLines false (conditions c)) (commaLines (itemList fields))
  | .struct v name g c .positional fields _ =>
      box step (visibilityDocs v ++ .text ("struct " ++ name) :: generics g ++ .text "(" ::
        dedented (soft :: listed (itemList fields)) ++ .text ")" ::
        conditionLines true (conditions c)) ++ [hard]
  | .struct v name g c .absent _ _ =>
      box step (visibilityDocs v ++ .text ("struct " ++ name) :: generics g ++
        conditionLines true (conditions c)) ++ [hard]
  | .enum v name g c variants _ =>
      declaration (visibilityDocs v ++ .text ("enum " ++ name) :: generics g ++
        conditionLines false (conditions c)) (commaLines (itemList variants))
  | .union v name g c fields _ =>
      declaration (visibilityDocs v ++ .text ("union " ++ name) :: generics g ++
        conditionLines false (conditions c)) (commaLines (itemList fields))
  | .trait v texts name g bs _ c inner members =>
      declaration (visibilityDocs v ++ wordDocs texts ++ .text ("trait " ++ name) :: generics g ++
        (if bs.isEmpty then [] else .text ": " :: joined " + " (bounds bs)) ++
        conditionLines false (conditions c)) (inners inner ++ items members)
  | .traitAlias v name g bs _ c =>
      box step (visibilityDocs v ++ .text ("trait " ++ name) :: generics g ++
        [.text " = ", fixed] ++ summed (bounds bs) ++ conditionLines true (conditions c)) ++ [hard]
  | .type v _ name g _ _ true none _ =>
      box 0 (visibilityDocs v ++ .text ("type " ++ name) :: generics g ++ [.text ";"]) ++ [hard]
  | .type v _ name g _ _ true equal c =>
      box step (visibilityDocs v ++ .text ("type " ++ name) :: generics g ++
        conditionLine false (conditions c) ++ aliased equal ++ [.text ";"]) ++ [hard]
  | .type v preset name g bs _ false equal c =>
      box step (visibilityDocs v ++ wordIf preset "default" ++ .text ("type " ++ name) ::
        generics g ++ (if bs.isEmpty then [] else .text ": " :: summed (bounds bs)) ++
        equalType equal ++ conditionLine true (conditions c)) ++ [hard]
  | .impl texts g self c inner members =>
      declaration (looseBox (-step) (box step (wordDocs texts ++ .text "impl" :: generics g) ++
        .text " " :: ty self) ++ conditionLines false (conditions c)) (inners inner ++ items members)
  | .implTrait texts g negative view self c inner members =>
      declaration (looseBox (-step) (box step (wordDocs texts ++ .text "impl" :: generics g) ++
        .text " " :: (if negative then [.text "!"] else []) ++ path false view ++
        [blank, .text "for "] ++ ty self) ++ conditionLines false (conditions c))
        (inners inner ++ items members)
  | .invocation call name => invocation call name (!call.isBraced) ++ [hard]
  | .field v none t => visibilityDocs v ++ ty t
  | .field v (some name) t => visibilityDocs v ++ .text (name ++ ": ") :: ty t
  | .variant name .named fields _ value =>
      .text (name ++ " \x7b") :: box step (dedented (blank :: separated commaOrBlank (itemList fields))) ++
        .text "\x7d" :: equal value
  | .variant name .positional fields _ value =>
      .text name :: box step (.text "(" :: dedented (soft :: listed (itemList fields)) ++
        [.text ")"]) ++ equal value
  | .variant name .absent _ _ value => .text name :: equal value
  | .attributed as inner => outers as ++ item inner
  | .verbatim tokens => trees false .start true tokens ++ [hard]

def items : List Item → Docs
  | [] => []
  | i :: is => item i ++ items is

def itemList : List Item → List Docs
  | [] => []
  | i :: is => item i :: itemList is

end

/-- A whole file. -/
def file (inner : List Meta) (members : List Item) : Docs := box 0 (inners inner ++ items members)

end ZonedAccessors.Layout
