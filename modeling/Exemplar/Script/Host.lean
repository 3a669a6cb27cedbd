import Exemplar.Exec
import Exemplar.Script.Declare

/-!
# Exemplar.Script.Host — specifications in this language, as the library sees them

The host answers the library's questions about values and runs what lies behind them: functions, blocks,
constructors, custom matchers and the evaluators that a specification can name.

* `callObject_fn`: a function binds its arguments and then evaluates its body.
-/

namespace Exemplar.Script

variable (t : ClassTable)

/-! ## Calls -/

/-- Refuses to make an instance of an abstract class. -/
def refuseAbstract {α : Type} (c : Cls) : Code α :=
  refuse "TypeError" ("Can't instantiate abstract class " ++ t.nameOf c ++ " with abstract method required")

/-- A new instance of a class. It is there before the constructor of the class is called with the same arguments. -/
def construct (c : Cls) (args : List V) : Code V :=
  match t.constructorOf? c with
  | none => if t.refusesInstances c && args.isEmpty then refuseAbstract t c else constructNative t c args
  | some d =>
    if t.refusesInstances c then refuseAbstract t c
    else do
      let v ← bareInstance t c args
      bindArguments anonymousFunction (neededParam selfName :: d.constructorParams) (args.length + 1)
      if d.traced then .ask (.note [.text "trace", .text ("new " ++ d.name)])
      match d.raises with
      | some e => do
        let error ← eval t e .empty
        raiseValue t error
      | none => pure v

/-- The known classes of errors that take arguments by keyword, with how many they take. -/
def keywordClasses : List (String × Nat) := [("ImportError", 2), ("AttributeError", 2), ("NameError", 1)]

/-- The words in which a known class of errors refuses keywords, of which the first one is told. -/
def keywordRefusal (c : Cls) (keyword : String) (given : Nat) : String :=
  match keywordClasses.find? fun p => t.isSubclass c (.named p.1) with
  | some (s, most) =>
    if most < given then s ++ "() takes at most " ++ toString most ++ " keyword " ++
      (if most = 1 then "argument" else "arguments") ++ " (" ++ toString given ++ " given)"
    else "'" ++ keyword ++ "' is an invalid keyword argument for " ++ s ++ "()"
  | none => t.nameOf c ++ "() takes no keyword arguments"

/-- A new error of a class, made with arguments by position and by keyword. A group of errors is there before the
keywords are looked at. -/
def constructError (c : Cls) (args : List V) (keywords : List (String × V)) : Code V :=
  let base := t.nativeBase c
  match t.constructorOf? c, keywords with
  | some d, keywords => do
    bindKeywords anonymousFunction (neededParam selfName :: d.constructorParams) (args.length + 1) (keywords.map (·.1))
    construct t c args
  | none, [] => construct t c args
  | none, (keyword, _) :: more =>
    if (errorParams? base).isSome then makeOwnError t c base args keywords
    else do
      if t.isSubclass c (.named "BaseExceptionGroup") then let _ ← construct t c args
      refuse "TypeError" (keywordRefusal t c keyword (more.length + 1))

def callMember (scope : Nat) (m : Member) (args : List V) : Code V := do
  bindArguments ("ExampleScope." ++ m.name) (neededParam "self" :: (memberSignature m).params) (args.length + 1)
  let v := args.head?.getD .absent
  match m with
  | .expect => makeTarget scope (.value v)
  | .expectDeferred => makeTarget scope (.block v)
  | .resolve => lookup scope v
  | _ => expectSubject scope

/-- Raises the error that takes the place of a form. Meanwhile the objects around the value count as being shown. -/
def raiseInstead (error : Expr) (around : List Nat) : Code V := do
  let s ← store
  .step (Action.modify fun s => { s with showing := around })
  let r ← (eval t (.raise error) .empty).attempt
  .step (Action.modify fun s' => { s' with showing := s.showing })
  match r with
  | .ok v => pure v
  | .error e => .raise e

/-- Calls an object. A block runs its declarations on the first argument, if there is one. -/
def callObject (v : V) (o : Obj) (args : List V) : Code V :=
  match o with
  | .fn params body kept => do
    bindArguments anonymousFunction params args.length
    eval t body (frameFor kept args)
  | .block params ds => do
    bindArguments anonymousFunction params args.length
    runDecls t ds (args.head?.getD .absent)
    pure .absent
  | .thunk body f => do
    bindArguments anonymousFunction [] args.length
    eval t body f
  | .refusal error around => raiseInstead t error around
  | .method scope m => callMember scope m args
  | .alias _ c _ => construct t c args
  | _ => do
    let s ← store
    refuse "TypeError" ("'" ++ typeName t v s ++ "' object is not callable")

theorem callObject_fn (v : V) (params : List Param) (body : Expr) (kept : Option Frame) (args : List V) :
    callObject t v (.fn params body kept) args = (do
      bindArguments anonymousFunction params args.length
      eval t body (frameFor kept args)) := rfl

def callAtom (u : Atom) (args : List V) : Code V :=
  match u with
  | .cls c => construct t c args
  | .tool name => callTool t name args
  | .ref i => do
    let s ← store
    callObject t (.user (.ref i)) (s.obj i) args
  | u => callObject t (.user u) (.other "") args

/-! ## Custom matchers -/

/-- The name of the member that answers a question. -/
def memberFor : Trait → String
  | .description => "description"
  | .expectsCallable => "expects_callable"
  | .actual => "actual"
  | .failureMessage => "failure_message"
  | .failureMessageWhenNegated => "failure_message_when_negated"

/-- The part with which a custom matcher was given. -/
def partOf? (parts : List (CustomPart × Expr)) (p : CustomPart) : Option Expr :=
  (parts.find? fun q => q.1 == p).map (·.2)

/-- The value of a member that may be missing, which its absence or an error of that sense tells. -/
def unlessMissing (p : Code V) : Code (Option V) := do
  match ← p.attempt with
  | .ok v => pure (some v)
  | .error e => do
    let s ← store
    if isErrorOf t e "AttributeError" s then pure none else .raise e

/-- The member of a value that answers a question. Parts of a custom matcher are computed anew each time, and its
messages are functions of the actual value unless they were given as values. -/
def answerTo (v : V) (q : Trait) : Code V := do
  let s ← store
  let lacking := lacksMember t v (memberFor q)
  match v, s.objOf? v with
  | .scope _, _ | _, some (.example _ _) => member t v (memberFor q)
  | _, some (.custom _ parts f) =>
    let computed := fun (p : CustomPart) (otherwise : Code V) =>
      match partOf? parts p with
      | some e => eval t e { f with args := none }
      | none => otherwise
    let asFunction := fun (p : CustomPart) =>
      match partOf? parts p with
      | some e => make (.fn [neededParam "actual"] e (some f))
      | none => lacking
    match q with
    | .description => computed .description lacking
    | .expectsCallable => computed .expectsCallable lacking
    | .actual => computed .actual lacking
    | .failureMessage => computed .failureValue (asFunction .failureMessage)
    | .failureMessageWhenNegated => asFunction .failureMessageWhenNegated
  | _, _ => lacking

/-- What a custom matcher answers to a question, if it has the member for it. -/
def traitOf (v : V) (q : Trait) : Code (Option V) := unlessMissing t (answerTo t v q)

/-- What a custom matcher answers to an actual value. -/
def matchesActual (v actual : V) : Code V := do
  let s ← store
  match v, s.objOf? v with
  | .scope _, _ => do
    let g ← member t v "matches"
    callValue g [actual]
  | _, some (.custom _ parts f) =>
    match partOf? parts .verdict with
    | some e => eval t e { f with args := some [actual] }
    | none => lacksMember t v "matches"
  | v, _ => lacksMember t v "matches"

/-! ## Evaluators -/

def sourceWord : Source V → String
  | .value _ => "ValueSource"
  | .block _ => "BlockSource"

/-- The value of a source that need not be called. -/
def valueAtHand : Source V → V
  | .value v => v
  | .block _ => .absent

/-- The verdict of an evaluator that goes by a name: one notes what it judges and leaves it to the library, two have
a verdict ready, one reports a fault, and any other one raises. -/
def judge (v : V) (source : Source V) (negate : Bool) (m : Matcher V) : Code (Verdict V) :=
  let actual := valueAtHand source
  match v with
  | .text "record" => do
    let x ← .step ((surface t).matcherRepr m)
    .ask (.note [.text "evaluate", .text (sourceWord source), .flag negate, .text x])
    .ask (.evaluate source negate m)
  | .text "valid" => pure ⟨true, actual, none, negate, m⟩
  | .text "invalid" => pure ⟨false, actual, none, negate, m⟩
  | .text "fault" => do
    let e ← make (.error (.named "RuntimeError") [.text "injected"] [])
    pure ⟨true, actual, some e, negate, m⟩
  | _ => refuse "RuntimeError" "evaluator"

/-! ## The host -/

def host : Host Atom Store :=
  { surface t with
    call := callAtom t
    contains := holdsItem t
    matchesActual := matchesActual t
    traitOf := traitOf t
    judge := judge t }

/-! ## Running -/

/-- Refuses a class whose constructor has no list of parameters, or that is built on one that no class can be built
on. -/
def checkClass (d : ClassDef) : Code Unit := do
  let _ ← match d.params with
    | some ps => laidOut ps
    | none => pure []
  match d.base with
  | some (.named base) =>
    if closedClasses.contains base then
      refuse "TypeError" ("type '" ++ base ++ "' is not an acceptable base type")
    else pure ()
  | _ => pure ()

/-- Refuses the first class of a table that cannot be defined. -/
def ClassTable.check (t : ClassTable) : Code Unit := do
  let _ ← eachOf checkClass t.classes.toList
  pure ()

/-- Runs an action and makes an error its result; having run out of levels counts as one. -/
def settle {α : Type} (x : Run Atom Store α) : Run Atom Store (Except (Exn V) α) := fun w =>
  match x w with
  | (.done a, w') => (.done (.ok a), w')
  | (.raised e, w') => (.done (.error e), w')
  | (.exhausted, w') =>
    let (v, s) := complaintError .tooDeep w'.outside
    (.done (.error (.thrown v)), { w' with outside := s })

end Exemplar.Script
