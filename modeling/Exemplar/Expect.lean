import Exemplar.Engine

/-!
# Exemplar.Expect — judging expectations

`Engine.evaluate` applies a matcher to a source and returns a verdict: an ordinary error that is raised while the
value is produced or matched becomes the verdict's fault, and errors of the library's own families go on their way.
`Engine.require` turns a verdict into the ending of an example, or records it as a success.
-/

namespace Exemplar
namespace Engine

variable {U S : Type} (e : Engine U S)

/-! ## Matching -/

/-- All items are contained in the container; the first one that is not ends the search. -/
def containsAll (container : Value U) : List (Value U) → Run U S Bool
  | [] => pure true
  | item :: r => do
    let b ← e.run (e.host.contains item container)
    if b then containsAll container r else pure false

/-- The value lies within the distance of the centre. -/
def isWithin (delta centre actual : Value U) : Step U S Bool :=
  if centre.isAbsent then e.surface.complain .missingCentre
  else do
    let difference ← e.surface.minus actual centre
    let distance ← e.surface.magnitude difference
    e.surface.atMost distance delta

/-- The caught error has the message that was asked for, if one was. -/
def messageAgrees (error message : Value U) : Step U S Bool :=
  if message.isAbsent then pure true
  else do
    let text ← e.surface.textOf error
    e.surface.equal (.text text) message

/-- Calls a block and tells whether it raises an error of the expected sort, which the recorder then holds. Errors
of the library's own families and those of another sort are raised again. -/
def raisesExpected (recorder : Nat) (expected message block : Value U) : Run U S Bool := do
  let w ← Action.get
  if !e.surface.isCallable block w.outside then e.complain .notDeferred
  else
    Run.setRecorder recorder .absent
    match ← Action.attempt (e.call block []) with
    | .ok _ => pure false
    | .error (.thrown error) =>
      let w ← Action.get
      if (e.surface.kind error w.outside).isOwn then Action.raise (.thrown error)
      else
        let caught ← e.step (e.surface.catches expected error)
        if caught then
          Run.setRecorder recorder error
          e.step (e.messageAgrees error message)
        else Action.raise (.thrown error)
    | .error other => Action.raise other

def matchActual (m : Matcher (Value U)) (actual : Value U) : Run U S (Value U) :=
  match m.criterion with
  | .equalTo expected => do
    let b ← e.step (e.surface.equal actual expected)
    pure (.flag b)
  | .same expected => do
    let w ← Action.get
    pure (.flag (e.surface.identical actual expected w.outside))
  | .instanceOf expected => do
    let b ← e.step (e.surface.isInstance actual expected)
    pure (.flag b)
  | .within delta centre => do
    let b ← e.step (e.isWithin delta centre actual)
    pure (.flag b)
  | .includes items => do
    let b ← e.containsAll actual items
    pure (.flag b)
  | .found pattern => do
    let w ← Action.get
    pure (.flag (((e.surface.text? actual w.outside).map pattern.foundIn).getD false))
  | .satisfies predicate _ => do
    let v ← e.call predicate [actual]
    let w ← Action.get
    pure (.flag (e.surface.holds v w.outside))
  | .raises recorder expected message => do
    let b ← e.raisesExpected recorder expected message actual
    pure (.flag b)
  | .own => e.run (e.host.matchesActual m.value actual)

/-- The matcher is to be given a deferred block itself. -/
def wantsBlock (m : Matcher (Value U)) : Run U S Bool :=
  match m.criterion with
  | .own => do
    let t ← e.run (e.host.traitOf m.value .expectsCallable)
    let w ← Action.get
    pure ((t.map fun t => e.surface.holds t w.outside).getD false)
  | c => pure c.wantsBlock

/-- What a matcher that was given a block has observed. -/
def observed (m : Matcher (Value U)) : Run U S (Value U) :=
  match m.criterion with
  | .own => do
    let t ← e.run (e.host.traitOf m.value .actual)
    pure (t.getD .absent)
  | .raises recorder _ _ => Action.gets (·.recorded recorder)
  | _ => pure .absent

/-! ## Evaluation -/

/-- What was observed, and the matcher's answer or the error that came instead. -/
def judge (source : Source (Value U)) (m : Matcher (Value U)) :
    Run U S (Value U × Except (Exn (Value U)) (Value U)) :=
  match source with
  | .value v => do
    let r ← Action.attempt (e.matchActual m v)
    pure (v, r)
  | .block f => do
    match ← Action.attempt (e.wantsBlock m) with
    | .error error => pure (.absent, .error error)
    | .ok true =>
      let r ← Action.attempt do
        let matched ← e.matchActual m f
        let actual ← e.observed m
        pure (actual, matched)
      match r with
      | .ok (actual, matched) => pure (actual, .ok matched)
      | .error error => pure (.absent, .error error)
    | .ok false =>
      match ← Action.attempt (e.call f []) with
      | .ok v => do
        let r ← Action.attempt (e.matchActual m v)
        pure (v, r)
      | .error error => pure (.absent, .error error)

def evaluate (source : Source (Value U)) (negate : Bool) (m : Matcher (Value U)) : Run U S (Verdict (Value U)) := do
  let (actual, answer) ← e.judge source m
  let w ← Action.get
  match answer with
  | .ok matched => pure ⟨e.surface.holds matched w.outside != negate, actual, none, negate, m⟩
  | .error (.thrown error) =>
    if e.surface.kind error w.outside = .ordinary then pure ⟨false, actual, some error, negate, m⟩
    else Action.raise (.thrown error)
  | .error other => Action.raise other

def evaluateBy (evaluator : Evaluator (Value U)) (source : Source (Value U)) (negate : Bool)
    (m : Matcher (Value U)) : Run U S (Verdict (Value U)) :=
  match evaluator with
  | .standard => e.evaluate source negate m
  | .custom v => e.run (e.host.judge v source negate m)

/-! ## Verdicts in words -/

/-- What a matcher expects. A custom one says so itself, or is shown as the value it is. -/
def describeMatcher (m : Matcher (Value U)) : Run U S String :=
  match m.criterion with
  | .own => do
    let t ← e.run (e.host.traitOf m.value .description)
    let w ← Action.get
    match t.bind fun t => e.surface.text? t w.outside with
    | some t => pure t
    | none => e.step (e.surface.repr m.value)
  | _ => e.step (e.surface.matcherText m)

def summary (v : Verdict (Value U)) : Run U S String := do
  let actual ← e.step (e.surface.repr v.actual)
  let wanted ← e.describeMatcher v.matcher
  pure ("expected " ++ actual ++ (if v.negate then " not to " else " to ") ++ wanted)

/-- How a matcher of raised errors tells that it was not met. -/
def raisesMessage (recorder : Nat) (m : Matcher (Value U)) (negate : Bool) : Run U S String := do
  let wanted ← e.step (e.surface.matcherText m)
  let error ← Action.gets (·.recorded recorder)
  if error.isAbsent && !negate then pure ("expected block to " ++ wanted ++ " but nothing was raised")
  else
    let text ← e.step (e.surface.repr error)
    pure ("expected block " ++ (if negate then "not to " else "to ") ++ wanted ++ " but it raised " ++ text)

/-- How a matcher tells that it was not met by the value; `none` when it leaves that to the summary. -/
def failureText (m : Matcher (Value U)) (negate : Bool) (actual : Value U) : Run U S (Option (Value U)) :=
  match m.criterion with
  | .own => do
    let t := if negate then Trait.failureMessageWhenNegated else Trait.failureMessage
    match ← e.run (e.host.traitOf m.value t) with
    | none => pure none
    | some f =>
      let w ← Action.get
      if e.surface.isCallable f w.outside then
        let text ← e.call f [actual]
        pure (some text)
      else pure none
  | .raises recorder _ _ => do
    let text ← e.raisesMessage recorder m negate
    pure (some (.text text))
  | _ => do
    let text ← e.summary ⟨false, actual, none, negate, m⟩
    pure (some (.text text))

/-- The diagnostic of a verdict: the fault, the summary of a success, or the matcher's own words. -/
def message (v : Verdict (Value U)) : Run U S (Value U) :=
  match v.fault with
  | some error => do
    let text ← e.step (e.surface.describeFault error)
    pure (.text text)
  | none => do
    let own ← if v.valid then pure none else e.failureText v.matcher v.negate v.actual
    match own with
    | some text => pure text
    | none =>
      let text ← e.summary v
      pure (.text text)

/-! ## Expectations -/

/-- Applies a matcher to a target. A fault and an invalid verdict are raised; a success is recorded. -/
def require (t : Target (Value U)) (negate : Bool) (m : Matcher (Value U)) : Run U S (Verdict (Value U)) := do
  let v ← e.evaluateBy t.evaluator t.source negate m
  match v.fault with
  | some error =>
    let text ← e.step (e.surface.describeFault error)
    Action.raise (.fault text error)
  | none =>
    if v.valid then
      match t.scope with
      | some scope => Run.changeScope scope fun s => { s with successes := s.successes ++ [v] }
      | none => pure ()
      pure v
    else
      let text ← e.message v
      Action.raise (.failure text)

end Engine
end Exemplar
