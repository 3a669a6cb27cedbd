import Exemplar.Pattern.Parser
import Exemplar.Resolve
import Exemplar.Script.Tool

/-!
# Exemplar.Script.Eval — what expressions mean

`eval` turns an expression into a program, going down the expression itself; whatever lies behind a value (a function,
a block, the constructor of a class) is reached by a call, which the library answers. Operands are evaluated from left
to right.
-/

namespace Exemplar.Script

variable (t : ClassTable)

/-! ## Frames -/

/-- The frame of a call: that around the function with other arguments, or a new one in which the first argument is
the scope and the second one the function outward. -/
def frameFor (kept : Option Frame) (args : List V) : Frame :=
  match kept with
  | some f => { f with args := some args }
  | none => ⟨args[0]?, args[1]?, some args, none⟩

/-- The parameters of a list that is put together as it has to be. -/
def laidOut (ps : Signature.Layout) : Code (List Param) :=
  match ps with
  | .ok ps => pure ps
  | .error fault => malformed fault

/-- A part of the frame that is called by that name. -/
def wanted {α : Type} (name : String) (part : Option α) : Code α :=
  match part with
  | some a => pure a
  | none => refuse "NameError" ("no " ++ name)

/-- The number of the frame's scope, of which the member of that name is wanted. -/
def scopeFor (f : Frame) (name : String) : Code Nat := do
  let v ← wanted "scope" f.scope
  match v with
  | .scope i => pure i
  | v => lacksMember t v name

/-! ## Values in their roles -/

def asMatcher (v : V) (s : Store) : Matcher V :=
  match s.objOf? v with
  | some (.matcher c) => ⟨v, c⟩
  | _ => ⟨v, .own⟩

def makeTarget (scope : Nat) (source : Source V) : Code V := do
  let target ← (Program.ask (.observe fun w => w.target scope source) : Code (Target V))
  make (.target target)

def expectSubject (scope : Nat) : Code V := do
  let n ← .ask .serial
  makeTarget scope (.block (.subjectOf n scope))

/-! ## Members that are read before they are called -/

/-- The member of a value, which is read now to be called later; `known` tells that the value has the member for sure,
which then need not be read. -/
def foreignMember (known : Bool) (v : V) (name : String) : Code (Option V) :=
  if known then pure none else some <$> member t v name

/-- The value is a list or bytes that can be changed, or a class of these. -/
def isList (v : V) (s : Store) : Bool :=
  match classBehind? v s, s.objOf? v with
  | some c, _ => t.isSubclass c (.named "list") || t.isSubclass c (.named "bytearray")
  | none, some (.list _ _) | none, some (.buffer _ _) => true
  | none, _ => false

/-- Puts the object in the place of another one on the heap. -/
def replaceObject (i : Nat) (o : Obj) : Code Unit :=
  .step (Action.modify fun s => { s with heap := s.heap.setIfInBounds i o })

def isWithin (v : V) (s : Store) : Bool :=
  match s.objOf? v with
  | some (.matcher (.within _ _)) => true
  | _ => false

def isTarget (v : V) (s : Store) : Bool :=
  match s.objOf? v with
  | some (.target _) => true
  | _ => false

/-- The member of a class of changeable sequences, called with a value alone, lacks a sequence to put it at the end
of. -/
def appendUnbound (base : String) (v : V) : Code V := do
  let s ← store
  if t.isSubclass (classOf t v s) (.named base) then
    refuse "TypeError" (base ++ ".append() takes exactly one argument (0 given)")
  else
    refuse "TypeError" ("descriptor 'append' for '" ++ base ++ "' objects doesn't apply to a '" ++ typeName t v s ++
      "' object")

/-- Puts a value at the end of a list, in place, or calls the member `g` that is there for it. A class of lists lacks a
sequence to put it at the end of. -/
def append (g : Option V) (l v : V) : Code V := do
  let s ← store
  match g, l, s.objOf? l with
  | some g, l, _ => do
    let _ ← callValue g [v]
    pure l
  | none, .user (.ref i), some (.list c vs) => do
    replaceObject i (.list c (vs.push v))
    pure l
  | none, .user (.ref i), some (.buffer c b) => do
    let n ← makeByte t byteRefusal v
    replaceObject i (.buffer c (b.push n))
    pure l
  | none, l, _ =>
    let isBytes := ((classBehind? l s).map fun c => t.isSubclass c (.named "bytearray")).getD false
    appendUnbound t (if isBytes then "bytearray" else "list") v

/-- The class of that name, or the function that is known everywhere by it. -/
def named (name : String) : V :=
  match t.named name with
  | .named s => .user (if isTool s then .tool s else .cls (.named s))
  | c => .user (.cls c)

/-! ## Operators -/

def applyUnary (op : UnaryOp) (v : V) : Code V :=
  match op with
  | .not => do
    let s ← store
    pure (.flag !(surface t).holds v s)
  | .length => lengthOf t v
  | .shown => do
    let x ← .step (shown t v)
    pure (.text x)
  | .text => do
    let x ← .step (textOf t v)
    pure (.text x)

def applyBinary (op : BinaryOp) (a b : V) : Code V :=
  match op with
  | .add => .step (add t a b)
  | .sub => .step (subtract t a b)
  | .mul => .step (multiply t a b)
  | .div => .step (divide t a b)
  | .less => do
    let r ← .step (less t false a b)
    pure (.flag r)
  | .equal => do
    let r ← .step (equal t a b)
    pure (.flag r)
  | .same => pure (.flag (identical a b))
  | .index => item t a b

/-! ## The state -/

def countUp (name : String) : Code V := do
  let s ← store
  let n := ((s.counts.find? (·.1 == name)).map (·.2)).getD 0 + 1
  .step (Action.modify fun s => { s with counts := replaceNamed name n s.counts })
  pure (ofInt n)

def assign (name : String) (v : V) : Code V := do
  .step (Action.modify fun s => { s with vars := replaceNamed name v s.vars })
  pure v

def valueOf (name : String) : Code V := do
  let s ← store
  match s.vars.find? (·.1 == name) with
  | some p => pure p.2
  | none => unknownName (.text name)

/-- A note about a mark that was passed, and the value seen there. -/
def traced (label : String) (v : V) : Code V := do
  let x ← .step (shown t v)
  .ask (.note [.text "trace", .text label, .text x])
  pure v

/-! ## Errors -/

def caughtParts (e : Exn V) : Code (String × String) := do
  let s ← store
  let x ← .step ((surface t).errorText e)
  pure (t.nameOf (classOfError t e s), x)

/-- The class takes in a raised error; only a class of errors can be asked. -/
def takesIn (c : Cls) (e : Exn V) : Code Bool := do
  let s ← store
  if t.isError c then pure (t.isSubclass (classOfError t e s) c) else refuse "TypeError" uncatchable

/-! ## What a scope tells -/

def exampleName (i : Nat) : Code V := do
  match ← fromScope i none (fun w sc => some (w.forest, sc.owner)) with
  | some (forest, owner) => .step ((surface t).displayName forest owner)
  | none => pure .absent

/-- The summaries of the expectations that have passed. -/
def successSummaries (i : Nat) : Code V := do
  let verdicts ← fromScope i [] (fun _ sc => sc.successes)
  let texts ← eachOf (fun v => .ask (.summary v)) verdicts
  makeList (texts.map .text)

/-- Names and values of the helpers that are kept. -/
def memoRows (i : Nat) : Code V := do
  let memo ← fromScope i [] (fun _ sc => sc.memo)
  let rows ← eachOf (fun (p : HelperName V × V) => makeList [p.1.toValue, p.2]) memo
  makeList rows

def isKept (i : Nat) (name : String) : Code V := do
  let b ← fromScope i false (fun _ sc => sc.isCached (.text name))
  pure (.flag b)

/-- Name, level and path of the definitions of a helper. -/
def definitionRows (i : Nat) (name : String) : Code V := do
  let (forest, group) ← fromScope i (.empty, 0) (fun w sc => (w.forest, sc.owner.group))
  let ds ← .step ((surface t).definitionsFor forest group (.text name))
  let rows ← eachOf (fun (d : Definition V) => makeList [d.name.toValue, ofInt d.level, .text d.groupPath]) ds
  makeList rows

/-- The texts of the groups from the root down to the scope's own. -/
def groupTexts (i : Nat) : Code V := do
  let (forest, group) ← fromScope i (.empty, 0) (fun w sc => (w.forest, sc.owner.group))
  let texts ← .step (Surface.each ((surface t).groupText forest) (forest.ancestors group))
  makeList (texts.map .text)

/-! ## Matchers -/

/-- The function that makes a matcher, and its parameters; one of them takes any arguments. -/
def MatcherForm.signature : MatcherForm → String × List Param
  | .eq => ("eq", [neededParam "expected"])
  | .be => ("be", [neededParam "expected"])
  | .beTrue => ("be_true", [])
  | .beFalse => ("be_false", [])
  | .beNone => ("be_none", [])
  | .beInstanceOf => ("be_instance_of", [neededParam "expected"])
  | .beWithin => ("be_within", [neededParam "delta"])
  | .includes => ("include", [⟨"items", .rest, false⟩])
  | .satisfy => ("satisfy", [neededParam "predicate", optionalParam "description"])
  | .raiseException => ("raise_exception", [optionalParam "expected", optionalParam "message"])

def criterionOf (form : MatcherForm) (args : List V) : Code (Criterion V) :=
  let first := args.head?.getD .absent
  let second := (args[1]?).getD .absent
  match form with
  | .eq => pure (.equalTo first)
  | .be => pure (.same first)
  | .beTrue => pure (.same (.flag true))
  | .beFalse => pure (.same (.flag false))
  | .beNone => pure (.same .absent)
  | .beInstanceOf => pure (.instanceOf first)
  | .beWithin => pure (.within first .absent)
  | .includes => pure (.includes args)
  | .satisfy => pure (.satisfies first second)
  | .raiseException => do
    let recorder ← .ask .recorder
    pure (.raises recorder (args.head?.getD (.user (.cls (.named "Exception")))) second)

def makeMatcher (form : MatcherForm) (args : List V) : Code V := do
  bindArguments form.signature.1 form.signature.2 args.length
  let c ← criterionOf form args
  make (.matcher c)

/-- The matcher of closeness around another centre, or what the member `g` that is there for it answers. -/
def makeCentred (g : Option V) (m centre : V) : Code V := do
  let s ← store
  match g, (asMatcher m s).criterion with
  | some g, _ => callValue g [centre]
  | none, .within delta c => make (.matcher ((Criterion.within delta c).centredAt centre))
  | none, _ => pure m

def makeFound (flags : Pattern.Flags) (source : String) : Code V :=
  match Pattern.parse flags source with
  | .ok p => make (.matcher (.found p))
  | .error fault => refuse fault.cause.errorName (fault.message source)

/-- Applies a matcher to a target, or calls the member `g` that is there for it; the value is the message of the
answer. -/
def applyMatcher (g : Option V) (target : V) (negate : Bool) (m : V) : Code V := do
  let s ← store
  match g, s.objOf? target with
  | none, some (.target target) => do
    let verdict ← .ask (.require target negate (asMatcher m s))
    .ask (.message verdict)
  | some g, _ => do
    let answer ← callValue g [m]
    member t answer "message"
  | none, _ => pure .absent

/-- Whether a target calls what it was made of, or what the value answers under that name. -/
def isDeferred (v : V) : Code V := do
  let s ← store
  match s.objOf? v with
  | some (.target target) => pure (.flag target.source.isDeferred)
  | _ => member t v "deferred"

/-! ## Values that are kept once -/

/-- The value is a floating zero without sign, and no other class's than that of floating numbers. -/
def isZero (v : V) (s : Store) : Bool :=
  match v, s.objOf? v with
  | .user (.float x), _ => x.toBits == 0
  | _, some (.scalar c _) => c == .named "float"
  | _, _ => false

/-- The zero that is kept, which is this one if none was kept before. -/
def keptZero (v : V) : StoreStep V := fun s =>
  match s.zero with
  | some w => (.done w, s)
  | none => (.done v, { s with zero := some v })

/-- The value that is kept for one that an expression has. Integers are kept by their digits, of which there must not be
too many. -/
def kept (v : V) : Code V :=
  match v with
  | .user (.int n) =>
    if Decimal.Numeral.isShort n.natAbs then pure v
    else .step do
      let _ ← integerText n
      pure v
  | .user (.float x) => if x.toBits == 0 then .step (keptZero v) else pure v
  | .user (.ref _) => do
    let s ← store
    if isZero v s then .step (keptZero v) else pure v
  | v => pure v

def keeping (p : Code V) : Code V := p.bind kept

/-! ## Expressions -/

mutual

def eval (e : Expr) (f : Frame) : Code V := keeping <| match e with
  | .absent => pure .absent
  | .flag b => pure (.flag b)
  | .int n => pure (ofInt n)
  | .float numeral => makeFloat t (.text numeral)
  | .text x => pure (.text x)
  | .bytes numbers => do
    let b ← eachOf (fun n => makeByte t bytesRefusal (ofInt n)) numbers
    pure (.user (.bytes b))
  | .cls name => pure (named t name)
  | .list items => do
    let vs ← evalAll items f
    makeList vs
  | .tuple items => do
    let vs ← evalAll items f
    .step (allocTuple vs)
  | .set items => do
    let found ← evalMembers items f .empty
    makeSetOf (.named "set") false found
  | .dict items => do
    let found ← evalEntries items f .empty
    makeTableOf (.named "dict") found
  | .plain shown name => do
    let vs ← evalAll name f
    make (.plain shown vs.head?)
  | .fn params body => do
    let ps ← laidOut params
    make (.fn ps body (some f))
  | .apart a => eval a .empty
  | .unary op a => do
    let v ← eval a f
    applyUnary t op v
  | .binary op a b => do
    let v ← eval a f
    let w ← eval b f
    applyBinary t op v w
  | .append l a => do
    let l ← eval l f
    let s ← store
    let g ← foreignMember t (isList t l s) l "append"
    let v ← eval a f
    append t g l v
  | .cond c a b => do
    let v ← eval c f
    let s ← store
    if (surface t).holds v s then eval a f else eval b f
  | .seq es => do
    let vs ← evalAll es f
    pure (vs.getLast?.getD .absent)
  | .mark label => do
    .ask (.note [.text "trace", .text label])
    pure .absent
  | .trace label a => do
    let v ← eval a f
    traced t label v
  | .count name => countUp name
  | .assign name a => do
    let v ← eval a f
    assign name v
  | .var name => valueOf name
  | .arg i => wanted "arg" (f.args.bind (·[i]?))
  | .new cls args => do
    let vs ← evalAll args f
    .ask (.call (named t cls) vs)
  | .raise a => do
    let v ← eval a f
    raiseValue t v
  | .attempt a cls handler => do
    match ← (eval a f).attempt with
    | .ok v => pure v
    | .error e => do
      let b ← takesIn t (t.named cls) e
      if b then eval handler { f with caught := some e } else .raise e
  | .caught => do
    let e ← wanted "caught" f.caught
    let (name, x) ← caughtParts t e
    pure (.text (name ++ ": " ++ x))
  | .call parts => do
    match ← evalAll parts f with
    | g :: args => callValue g args
    | [] => pure .absent
  | .outer => do
    let g ← wanted "outer" f.outer
    callValue g []
  | .outerFunction => wanted "outer" f.outer
  | .get name => do
    let v ← wanted "scope" f.scope
    member t v name
  | .item a => do
    let v ← wanted "scope" f.scope
    let i ← eval a f
    item t v i
  | .resolve a => do
    let i ← scopeFor t f "resolve"
    let name ← eval a f
    lookup i name
  | .exampleName => do
    let i ← scopeFor t f "example"
    exampleName t i
  | .successes => do
    let i ← scopeFor t f "successes"
    successSummaries i
  | .cache => do
    let i ← scopeFor t f "resolver"
    memoRows i
  | .cached name => do
    let i ← scopeFor t f "resolver"
    isKept i name
  | .definitions name => do
    let i ← scopeFor t f "resolver"
    definitionRows t i name
  | .chain => do
    let i ← scopeFor t f "resolver"
    groupTexts t i
  | .expect a => do
    let i ← scopeFor t f "expect"
    let v ← eval a f
    makeTarget i (.value v)
  | .expectDeferred a => do
    let i ← scopeFor t f "expect_deferred"
    let block ← make (.thunk a f)
    makeTarget i (.block block)
  | .isExpected => do
    let i ← scopeFor t f "is_expected"
    expectSubject i
  | .deferred a => do
    let v ← eval a f
    isDeferred t v
  | .apply name negate a m => do
    let v ← eval a f
    let s ← store
    let g ← foreignMember t (isTarget v s) v name
    let matcher ← eval m f
    applyMatcher t g v negate matcher
  | .declare name ds => do
    let s ← store
    match s.saved.find? (·.1 == name) with
    | none => unknownName (.text name)
    | some p => do
      let block ← make (.block [neededParam "builder"] ds)
      callValue block [p.2]
  | .matcher form args => do
    let vs ← evalAll args f
    makeMatcher form vs
  | .centred m a => do
    let matcher ← eval m f
    let s ← store
    let g ← foreignMember t (isWithin matcher s) matcher "of"
    let v ← eval a f
    makeCentred g matcher v
  | .found flags source => makeFound flags source
  | .custom name parts => make (.custom name parts f)

/-- The values of expressions, from left to right. -/
def evalAll (es : List Expr) (f : Frame) : Code (List V) :=
  match es with
  | [] => pure []
  | e :: r => do
    let v ← eval e f
    let vs ← evalAll r f
    pure (v :: vs)

/-- The members of a set, which take their places as they come. -/
def evalMembers (es : List Expr) (f : Frame) (found : Gathered V) : Code (Gathered V) :=
  match es with
  | [] => pure found
  | e :: r => do
    let v ← eval e f
    let found ← .step (addMember t found v)
    evalMembers r f found

/-- The entries of a table, which take their places as they come. -/
def evalEntries (es : List Expr) (f : Frame) (found : Gathered (V × V)) : Code (Gathered (V × V)) :=
  match es with
  | k :: e :: r => do
    let k ← eval k f
    let v ← eval e f
    let found ← .step (addEntry t found k v)
    evalEntries r f found
  | _ => pure found

end

end Exemplar.Script
