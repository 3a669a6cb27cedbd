import Exemplar.Script.Eval

/-!
# Exemplar.Script.Declare — what declarations mean

`runDecl` turns a declaration into a program, going down the declaration itself. It is given the builder to declare on,
or whatever stands in its place: declarations that need no builder do without one, and the others find that its members
are missing.
-/

namespace Exemplar.Script

variable (t : ClassTable)

/-! ## Functions and blocks -/

/-- A function of a declaration; code of its own starts in a new frame. -/
def makeFn : Fn → Code V
  | .code params body => do
    let ps ← laidOut params
    make (.fn ps body none)
  | .value e => eval t e .empty

def makeBlock : Block → Code V
  | .none => pure .absent
  | .code params ds => do
    let ps ← laidOut params
    make (.block ps ds)
  | .value e => eval t e .empty

/-- The value of an expression that need not be there. -/
def optionalValue : Option Expr → Code (Option V)
  | none => pure none
  | some e => some <$> eval t e .empty

/-- The function of a declaration that need not be there. -/
def optionalFn : Option Fn → Code (Option V)
  | none => pure none
  | some fn => some <$> makeFn t fn

/-! ## Members of a builder -/

/-- The members of a builder that declare. -/
inductive Declarer where
  | group
  | helper
  | subject
  | example
  | pending
deriving DecidableEq, Repr

namespace Declarer

def named? : String → Option Declarer
  | "group" | "describe" | "context" => some .group
  | "helper" | "let" => some .helper
  | "subject" => some .subject
  | "example" | "it" => some .example
  | "pending_example" | "pending" => some .pending
  | _ => none

/-- The function behind the member, and its parameters. -/
def signature : Declarer → String × List Param
  | .group => ("group", [neededParam "description", optionalParam "block"])
  | .helper => ("helper", [neededParam "name", optionalParam "producer"])
  | .subject => ("subject", [optionalParam "producer"])
  | .example => ("example", [optionalParam "description", optionalParam "body"])
  | .pending => ("pending_example", [neededParam "message"])

/-- The declaration that a call with these arguments makes. -/
def declaration (m : Declarer) (args : List V) : Declaration V :=
  let first := args.head?.getD .absent
  let second := (args[1]?).getD .absent
  match m with
  | .group => .group first second
  | .helper => .helper first second
  | .subject => .helper (.text subjectName) first
  | .example => .example first second
  | .pending => .pending first

/-- A call without a function returns one that declares with the function it is given. -/
def canWait : Declarer → Bool
  | .group | .helper | .subject => true
  | .example | .pending => false

end Declarer

/-- The group whose builder the value is, for a member of that name. -/
def groupOf (builder : V) (name : String) : Code Nat :=
  match builder with
  | .builder g => pure g
  | v => lacksMember t v name

/-- The member of a builder by its name, with the group to declare in. -/
def declarerOf (builder : V) (name : String) : Code (Nat × Declarer) := do
  let g ← groupOf t builder name
  match Declarer.named? name with
  | some m => pure (g, m)
  | none => lacksMember t builder name

/-- Makes a declaration at once, or first without its function and then with it, which is noted. -/
def declareBy (m : Nat × Declarer) (decorated : Bool) (args : List V) (fn : V) : Code Unit := do
  let (callee, ps) := m.2.signature
  let bind := bindArguments ("GroupBuilder." ++ callee) (neededParam "self" :: ps)
  if decorated then
    bind (args.length + 1)
    let d := m.2.declaration args
    .ask (.declare m.1 d)
    if m.2.canWait then
      .ask (.declare m.1 (d.withFunction fn))
      .ask (.note [.text "decorator", .flag true])
    else refuse "TypeError" "'NoneType' object is not callable"
  else
    bind (args.length + 2)
    .ask (.declare m.1 (m.2.declaration (args ++ [fn])))

/-- Makes a declaration of arguments that are all there. -/
def declareWith (m : Nat × Declarer) (args : List V) : Code Unit := do
  let (callee, ps) := m.2.signature
  bindArguments ("GroupBuilder." ++ callee) (neededParam "self" :: ps) (args.length + 1)
  .ask (.declare m.1 (m.2.declaration args))

/-- The name of the member by which a builder gives its group. -/
def nodeMember : String := "node"

/-! ## Notes -/

/-- The name of the class of errors that are noted without their text. -/
def mutedError : String := "ValidationError"

def noteCaught (e : Exn V) : Code Unit := do
  let s ← store
  let name := t.nameOf (classOfError t e s)
  if name = mutedError then .ask (.note [.text "caught", .text name, .absent])
  else
    let x ← .step ((surface t).errorText e)
    .ask (.note [.text "caught", .text name, .text x])

def noteState (group : Nat) : Code Unit := do
  let forest ← (Program.ask (.observe fun w => w.forest) : Code (Forest V))
  let path ← .step ((surface t).fullText forest group)
  .ask (.note ([.text "state", .text path, ofInt (forest.depth group), .flag (forest.isSealed group),
    ofInt (forest.entries group).length] ++ (forest.helpers group).names.map (·.toValue)))

/-! ## Declarations -/

mutual

def runDecl (d : Decl) (builder : V) : Code Unit :=
  match d with
  | .group via description block decorated => do
    let b ← makeBlock t block
    let m ← declarerOf t builder via
    let v ← eval t description .empty
    declareBy m decorated [v] b
  | .helper via name fn decorated => do
    let m ← declarerOf t builder via
    let v ← eval t name .empty
    let g ← makeFn t fn
    declareBy m decorated [v] g
  | .subject fn decorated => do
    let m ← declarerOf t builder subjectName
    let g ← makeFn t fn
    declareBy m decorated [] g
  | .example via description fn => do
    let v ← optionalValue t description
    let g ← optionalFn t fn
    let m ← declarerOf t builder via
    declareWith m (v.toList ++ g.toList)
  | .pending via message => do
    let m ← declarerOf t builder via
    let v ← eval t message .empty
    declareWith m [v]
  | .define name fn => do
    let group ← groupOf t builder nodeMember
    let v ← eval t name .empty
    let g ← makeFn t fn
    .ask (.declare group (.define v g))
  | .close => do
    let group ← groupOf t builder nodeMember
    .ask (.declare group .close)
  | .raise e => do
    let v ← eval t e .empty
    let _ ← raiseValue t v
    pure ()
  | .attempt ds => do
    match ← (runDecls ds builder).attempt with
    | .ok _ => pure ()
    | .error e => do
      let s ← store
      if isErrorOf t e "Exception" s then noteCaught t e else .raise e
  | .save name => .step (Action.modify fun s => { s with saved := replaceNamed name builder s.saved })
  | .onSaved name ds => do
    let s ← store
    match partNamed? name s.saved with
    | some b => runDecls ds b
    | none => unknownName (.text name)
  | .state => do
    let group ← groupOf t builder nodeMember
    noteState t group

/-- Makes declarations on a builder, one after the other. -/
def runDecls (ds : List Decl) (builder : V) : Code Unit :=
  match ds with
  | [] => pure ()
  | d :: r => do
    runDecl d builder
    runDecls r builder

end

end Exemplar.Script
