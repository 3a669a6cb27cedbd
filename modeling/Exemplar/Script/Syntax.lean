import Exemplar.Pattern.Matching
import Exemplar.Signature.Layout

/-!
# Exemplar.Script.Syntax — specifications written as data

Expressions and declarations of a small language in which whole specifications can be given, with their values,
classes, functions and matchers. `Expr` is what a body, a producer or a predicate does; `Decl` is what a declaration
block does.
-/

namespace Exemplar.Script

/-! ## Operations -/

/-- Operations on one value. -/
inductive UnaryOp where
  | not
  | length
  | shown
  | text
deriving DecidableEq, Repr

/-- Operations on two values. -/
inductive BinaryOp where
  | add
  | sub
  | mul
  | div
  | less
  | equal
  | same
  | index
deriving DecidableEq, Repr

/-- The built-in matchers, by the function that makes them. -/
inductive MatcherForm where
  | eq
  | be
  | beTrue
  | beFalse
  | beNone
  | beInstanceOf
  | beWithin
  | includes
  | satisfy
  | raiseException
deriving DecidableEq, Repr

/-- What a custom matcher can be given. -/
inductive CustomPart where
  | verdict
  | description
  | expectsCallable
  | actual
  | failureMessage
  | failureMessageWhenNegated
  | failureValue
deriving DecidableEq, Repr

/-! ## Expressions and declarations -/

mutual

/-- An expression. -/
inductive Expr where
  | absent
  | flag (b : Bool)
  | int (n : Int)
  /-- A floating number by its numeral. -/
  | float (numeral : String)
  | text (s : String)
  | bytes (numbers : List Int)
  | cls (name : String)
  | list (items : List Expr)
  | tuple (items : List Expr)
  | set (items : List Expr)
  /-- Keys and values in turn. -/
  | dict (items : List Expr)
  /-- An object that is shown as told, with the name it carries or none. -/
  | plain (shown : String) (name : List Expr)
  /-- A function that keeps the frame around it. -/
  | fn (params : Signature.Layout) (body : Expr)
  /-- An expression that sees no frame. -/
  | apart (e : Expr)
  | unary (op : UnaryOp) (a : Expr)
  | binary (op : BinaryOp) (a b : Expr)
  /-- Puts a value at the end of a list, which is then the value. -/
  | append (l a : Expr)
  | cond (c a b : Expr)
  | seq (es : List Expr)
  | mark (label : String)
  | trace (label : String) (e : Expr)
  | count (name : String)
  | assign (name : String) (e : Expr)
  | var (name : String)
  | arg (i : Nat)
  | new (cls : String) (args : List Expr)
  | raise (e : Expr)
  | attempt (e : Expr) (cls : String) (handler : Expr)
  | caught
  /-- A call; the callable comes first. -/
  | call (parts : List Expr)
  | outer
  | outerFunction
  | get (name : String)
  | item (e : Expr)
  | resolve (e : Expr)
  | exampleName
  | successes
  | cache
  | cached (name : String)
  | definitions (name : String)
  | chain
  | expect (e : Expr)
  | expectDeferred (e : Expr)
  | isExpected
  | deferred (t : Expr)
  /-- Applies a matcher to a target by the member of that name. -/
  | apply (member : String) (negate : Bool) (t m : Expr)
  | declare (builder : String) (ds : List Decl)
  | matcher (form : MatcherForm) (args : List Expr)
  | centred (m e : Expr)
  | found (flags : Pattern.Flags) (source : String)
  | custom (name : String) (parts : List (CustomPart × Expr))

/-- A function as a declaration is given it: code of its own, or the value of an expression. -/
inductive Fn where
  | code (params : Signature.Layout) (body : Expr)
  | value (e : Expr)

/-- A declaration block. -/
inductive Block where
  | none
  | code (params : Signature.Layout) (ds : List Decl)
  | value (e : Expr)

/-- A declaration, made through the member `via` of a builder where there is a choice. -/
inductive Decl where
  | group (via : String) (description : Expr) (block : Block) (decorated : Bool)
  | helper (via : String) (name : Expr) (fn : Fn) (decorated : Bool)
  | subject (fn : Fn) (decorated : Bool)
  | example (via : String) (description : Option Expr) (fn : Option Fn)
  | pending (via : String) (message : Expr)
  | define (name : Expr) (fn : Fn)
  | close
  | raise (e : Expr)
  | attempt (ds : List Decl)
  | save (name : String)
  | onSaved (name : String) (ds : List Decl)
  | state

end

instance : Inhabited Expr := ⟨.absent⟩

/-! ## Classes -/

/-- A class: one that the specification defines, by its place in the list, or a known one. -/
inductive Cls where
  | own (i : Nat)
  | named (s : String)
deriving DecidableEq, Repr, Inhabited

/-- A class that a specification defines. A class without parameters, trace and error of its own is constructed like
its base. -/
structure ClassDef where
  name : String
  qualifiedName : String
  base : Option Cls
  params : Option Signature.Layout
  isAbstract : Bool
  traced : Bool
  raises : Option Expr
  shown : Option String
  showRaises : Option Expr

/-- The parameters of the constructor that the class has of its own. -/
def ClassDef.constructorParams (d : ClassDef) : List Param :=
  match d.params with
  | some (.ok ps) => ps
  | _ => []

end Exemplar.Script
