import Exemplar.Proofs.Chronicle
import Exemplar.Proofs.Views

/-!
# Exemplar.Proofs.Calls — the calls that two runs make

If two runs go in step, so do the calls that they make of the specification's code: the same code is called with
alike values, in the same order. To see this both runs are written down, and the records are compared beside the
states.

* `Twin.noted`: two recorded worlds correspond if the worlds do and the calls do.
* `Host.Like.noted`: specifications that cannot be told apart cannot be told apart when their calls are recorded.
* `Host.runExample_told`: an example runs as it does when nothing is written down.
-/

namespace Exemplar

variable {U S S' α α' : Type} {K : Kinship U}

/-- Two calls of the same code with alike values. -/
inductive Invocation.Like (K : Kinship U) : Invocation U → Invocation U → Prop
  | call {u u' : U} (hu : K.user u u') {vs vs' : List (Value U)} (hvs : List.Forall₂ K.value vs vs') :
    Like K (.call u vs) (.call u' vs')
  | contains {v v' c c' : Value U} (hv : K.value v v') (hc : K.value c c') : Like K (.contains v c) (.contains v' c')
  | matchesActual {m m' v v' : Value U} (hm : K.value m m') (hv : K.value v v') :
    Like K (.matchesActual m v) (.matchesActual m' v')
  | traitOf {m m' : Value U} (hm : K.value m m') (q : Trait) : Like K (.traitOf m q) (.traitOf m' q)
  | judge {v v' : Value U} (hv : K.value v v') {s s' : Source (Value U)} (hs : s.Like K.value s') (negate : Bool)
    {m m' : Matcher (Value U)} (hm : K.Matcher m m') : Like K (.judge v s negate m) (.judge v' s' negate m')

/-- The calls that two records tell of correspond one by one. -/
def Record.Like (K : Kinship U) (r r' : Record U) : Prop := List.Forall₂ (Invocation.Like K) r.calls r'.calls

/-- Recorded worlds correspond if the worlds do, and the calls that have been made. -/
def Twin.noted (T : Twin K S S') : Twin K (S × Record U) (S' × Record U) where
  Mark := T.Mark
  holds m w w' := T.holds m w.forget w'.forget ∧ w.outside.2.Like K w'.outside.2
  Tie := T.Tie
  tie t p p' := T.tie t p.1 p'.1 ∧ p.2.Like K p'.2
  declares := T.declares
  outside h := by
    obtain ⟨t, ht, hout⟩ := T.outside h.1
    exact ⟨t, ⟨ht, h.2⟩, fun p p' hp => ⟨hout _ _ hp.1, hp.2⟩⟩
  verbose h := T.verbose h.1
  records h hev := ⟨T.records h.1 hev, h.2⟩
  counts h := ⟨(T.counts h.1).1, (T.counts h.1).2, h.2⟩
  recorders h := ⟨(T.recorders h.1).1, (T.recorders h.1).2, h.2⟩
  meets h hr hv := ⟨T.meets h.1 hr hv, h.2⟩
  recorded h hr := T.recorded h.1 hr
  scope? h hi := T.scope? h.1 hi
  updates h hi hc := ⟨T.updates h.1 hi hc, h.2⟩
  opens h hx hev := ⟨(T.opens h.1 hx hev).1, (T.opens h.1 hx hev).2, h.2⟩
  chain h hx := T.chain h.1 hx

/-! ## Recorded code -/

section
variable {T : Twin K S S'} {R : α → α' → Prop}

theorem Action.Like.beside {x : Step U S α} {x' : Step U S' α'} (h : T.Steps R x x') :
    T.noted.Steps R (Step.beside x) (Step.beside x') := by
  rintro t p p' ⟨ht, hr⟩
  obtain ⟨he, hs⟩ := h t _ _ ht
  exact ⟨he, hs, hr⟩

theorem Surface.Like.beside {sf : Surface U S} {sf' : Surface U S'} (h : Surface.Like T sf sf') :
    Surface.Like T.noted (sf.beside (L := Record U)) (sf'.beside (L := Record U)) where
  repr hv := (h.repr hv).beside
  str hv := (h.str hv).beside
  typeName hv ht := h.typeName hv ht.1
  truthy hu ht := h.truthy hu ht.1
  callable hu ht := h.callable hu ht.1
  signature? hv ht := h.signature? hv ht.1
  class? hv ht := h.class? hv ht.1
  nameOf? hv ht := h.nameOf? hv ht.1
  ownText? hu ht := h.ownText? hu ht.1
  decoded? hu ht := h.decoded? hu ht.1
  items? hv ht := h.items? hv ht.1
  key hv := (h.key hv).beside
  equal ha hb := (h.equal ha hb).beside
  identical ha hb ht := h.identical ha hb ht.1
  isInstance ha hb := (h.isInstance ha hb).beside
  minus ha hb := (h.minus ha hb).beside
  magnitude hv := (h.magnitude hv).beside
  atMost ha hb := (h.atMost ha hb).beside
  kind hv ht := h.kind hv ht.1
  endsSequence hv ht := h.endsSequence hv ht.1
  catches ha hb := (h.catches ha hb).beside
  complaint c ht := ⟨(h.complaint c ht.1).1, (h.complaint c ht.1).2, ht.2⟩

theorem Request.Like.beside {r : Request U S α} {r' : Request U S' α'} (h : r.Like T R r') :
    Request.Like T.noted R (r.beside (L := Record U)) (r'.beside (L := Record U)) := by
  cases h with
  | step h => exact .step h.beside
  | observe h => exact .observe fun m w w' hw => h m _ _ hw.1
  | note h => exact .note h
  | call hf hvs => exact .call hf hvs
  | lookup hi hv => exact .lookup hi hv
  | access hi name => exact .access hi name
  | describedTarget hi => exact .describedTarget hi
  | evaluate hs negate hm => exact .evaluate hs negate hm
  | require ht negate hm => exact .require ht negate hm
  | message hv => exact .message hv
  | summary hv => exact .summary hv
  | declare h => exact .declare h
  | recorder => exact .recorder
  | serial => exact .serial

theorem Program.Like.beside {p : Program U S α} {p' : Program U S' α'} (h : p.Like T R p') :
    Program.Like T.noted R (p.beside (L := Record U)) (p'.beside (L := Record U)) := by
  induction h with
  | pure h => exact .pure h
  | bind _ _ ihp ihk => exact .bind ihp ihk
  | raise h => exact .raise h
  | attempt _ ih => exact .attempt ih
  | ask hr => exact .ask hr.beside
  | aside hc _ ih => exact .aside (fun t p p' ht => ⟨hc t _ _ ht.1, ht.2⟩) ih

/-- Alike programs are alike after alike calls have been written down. -/
theorem Program.Like.noting {c c' : Invocation U} (hc : c.Like K c') {p : Program U S α} {p' : Program U S' α'}
    (h : p.Like T R p') : Program.Like T.noted R (p.noting c) (p'.noting c') := by
  have hnote : T.noted.Steps Eq
      (Action.modify fun s : S × Record U => (s.1, { s.2 with calls := s.2.calls ++ [c] }))
      (Action.modify fun s : S' × Record U => (s.1, { s.2 with calls := s.2.calls ++ [c'] })) :=
    .modify fun t p p' ht => ⟨ht.1, List.rel_append ht.2 (.cons hc .nil)⟩
  exact .bind (.ask (.step hnote)) fun _ _ _ => h.beside

theorem Host.Like.noted {h : Host U S} {h' : Host U S'} (hh : h.Like T h') :
    Host.Like T.noted h.recorded h'.recorded where
  toLike := hh.toLike.beside
  call hu hvs := (hh.call hu hvs).noting (.call hu hvs)
  contains hv hc := (hh.contains hv hc).noting (.contains hv hc)
  matchesActual hm hv := (hh.matchesActual hm hv).noting (.matchesActual hm hv)
  traitOf q hm := (hh.traitOf q hm).noting (.traitOf hm q)
  judge negate hv hs hm := (hh.judge negate hv hs hm).noting (.judge hv hs negate hm)

end

/-! ## Recorded examples -/

variable (h : Host U S) (n : Nat) (ev : Evaluator (Value U)) (x : Example (Value U)) (w : World U S)

/-- The run of an example, written down from its beginning on. -/
def Host.toldExample : Ending (Exn (Value U)) Outcome × World U (S × Record U) :=
  (h.chronicler n).runExample ev x (w.beside .empty)

/-- The calls of the specification's code that are made while an example runs, in order. -/
def Host.callsOf : List (Invocation U) := (h.toldExample n ev x w).2.outside.2.calls

/-- An example that is run while the run is written down ends as it does otherwise, and leaves the same world. -/
theorem Host.runExample_told :
    (h.engine n).runExample ev x w = ((h.toldExample n ev x w).1, (h.toldExample n ev x w).2.forget) := by
  have a := h.abreast_chronicler w.forest n
  have hstart : Told h.toSurface w.forest [] w (w.beside .empty) := ⟨rfl, rfl, trivial, [], rfl, .nil⟩
  have hev : ev.Like Eq ev := Evaluator.like_eq ▸ rfl
  obtain ⟨hend, ht⟩ := a.runExample hev (x := x) rfl [] w (w.beside .empty) hstart
  exact Prod.ext hend.eq ht.forget.symm

end Exemplar
