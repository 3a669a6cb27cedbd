import Exemplar.Proofs.Numbers
import Exemplar.Proofs.Plans
import Exemplar.Proofs.Scopes

/-!
# Exemplar.Proofs.Resolution — looking up helpers as if nothing were kept

Where all definitions above an example follow plans, every lookup on its scope comes to what the naive evaluator comes
to, however many lookups went before, whatever they kept, and though some of them failed half way.

* `Site.At`: the moment at which certain names are being computed; what is kept by then is right.
* `Site.Reaches`: what an action comes to by way of a plan; `Follows.reaches`, `reaches_produce` and `reaches_lookup`
  prove it of programs, of definitions and of lookups.
* `Site.lookups_eq_ref`: every sequence of lookups comes to what the naive evaluator comes to for each name alone.
* `lookups_hidden`: it need not where the description of a group cannot be shown.
-/

namespace Exemplar

variable {U S α β : Type}

namespace Site

variable {h : Host U S} (site : Site h)

/-! ## Moments -/

/-- What is kept on the site's scope. -/
def kept (w : World U S) (name : String) : Option (Value U) :=
  (w.scope? site.id).bind (·.kept? (.text name))

variable {w w' : World U S} {name : String} {v : Value U}

theorem kept_congr (hs : w'.scope? site.id = w.scope? site.id) : site.kept w' = site.kept w := by
  funext y
  rw [kept, hs, kept]

theorem kept_noticed (n : Notice) : site.kept (w.noticed n) = site.kept w :=
  site.kept_congr (World.scope?_noticed _ _ _)

theorem kept_enter (n : HelperName (Value U)) : site.kept (w.enter site.id n) = site.kept w := by
  funext y
  rw [kept, World.scope?_enter, if_pos rfl, kept]
  cases w.scope? site.id <;> rfl

theorem kept_leave : site.kept (w.leave site.id) = site.kept w := by
  funext y
  rw [kept, World.scope?_leave, if_pos rfl, kept]
  cases w.scope? site.id <;> rfl

theorem kept_keep {s : Scope (Value U)} (hs : w.scope? site.id = some s) (hk : site.kept w name = none) :
    site.kept (w.keep site.id (.text name) v) = fun y => if y = name then some v else site.kept w y := by
  funext y
  have hold : s.kept? (.text name) = none := by simpa [kept, hs] using hk
  simp only [kept, World.scope?_keep, if_pos, hs, Option.map_some, Option.bind_some, Scope.kept?, List.find?_append,
    List.find?_cons, HelperName.same_text_eq, List.find?_nil]
  by_cases hy : y = name
  · subst hy
    rw [Scope.kept?, Option.map_eq_none_iff] at hold
    simp [hold]
  · simp [hy, Ne.symm hy]

/-- The moment when the names on the stack are being computed on the site's scope, and what is kept is right. -/
structure At (plan : Definition (Value U) → Plan (Exn (Value U)) (Value U)) (stack : List String) (w : World U S) :
    Prop where
  forest : w.forest = site.forest
  outside : w.outside = site.outside
  scope : ∃ s, w.scope? site.id = some s ∧ s.owner = site.owner ∧ s.resolving = stack.map .text
  right : (site.book plan).Right (site.kept w)
  apart (y : String) : y ∈ stack → site.kept w y = none

namespace At

variable {site} {plan : Definition (Value U) → Plan (Exn (Value U)) (Value U)} {stack : List String}

theorem holds (hw : site.At plan stack w) : site.Holds w := by
  obtain ⟨s, hs, ho, -⟩ := hw.scope
  exact ⟨hw.forest, hw.outside, s, hs, ho⟩

/-- The naive evaluator agrees with what is kept. -/
theorem agrees (hw : site.At plan stack w) : Book.Agrees ((site.book plan).ref stack) (site.kept w) :=
  hw.right.agrees hw.apart

/-- A change of anything else makes no difference. -/
theorem congr (hw : site.At plan stack w) (hf : w'.forest = w.forest) (ho : w'.outside = w.outside)
    (hs : w'.scope? site.id = w.scope? site.id) : site.At plan stack w' := by
  refine ⟨hf.trans hw.forest, ho.trans hw.outside, hs ▸ hw.scope, ?_, ?_⟩ <;> rw [site.kept_congr hs]
  · exact hw.right
  · exact hw.apart

/-- A notice touches the journal alone. -/
theorem noticed (hw : site.At plan stack w) (n : Notice) : site.At plan stack (w.noticed n) :=
  hw.congr (World.forest_noticed _ _) (World.outside_noticed _ _) (World.scope?_noticed _ _ _)

theorem enter (hw : site.At plan stack w) (hk : site.kept w name = none) :
    site.At plan (stack ++ [name]) (w.enter site.id (.text name)) := by
  obtain ⟨s, hs, ho, hr⟩ := hw.scope
  refine ⟨hw.forest, hw.outside, ⟨{ s with resolving := s.resolving ++ [.text name] }, ?_, ho, ?_⟩, ?_, ?_⟩
  · rw [World.scope?_enter, if_pos rfl, hs]
    rfl
  · simp [hr]
  · rw [kept_enter]
    exact hw.right
  · intro y hy
    rw [kept_enter]
    rcases List.mem_append.mp hy with hy | hy
    · exact hw.apart y hy
    · exact List.mem_singleton.mp hy ▸ hk

theorem leave (hw : site.At plan (stack ++ [name]) w) : site.At plan stack (w.leave site.id) := by
  obtain ⟨s, hs, ho, hr⟩ := hw.scope
  refine ⟨hw.forest, hw.outside, ⟨{ s with resolving := s.resolving.dropLast }, ?_, ho, ?_⟩, ?_, ?_⟩
  · rw [World.scope?_leave, if_pos rfl, hs]
    rfl
  · simp [hr]
  · rw [kept_leave]
    exact hw.right
  · intro y hy
    rw [kept_leave]
    exact hw.apart y (List.mem_append_left _ hy)

/-- A name may be kept that is not on the stack, with the value its definitions come to by what is kept already. -/
theorem keep (hw : site.At plan stack w) (hn : name ∉ stack) (hk : site.kept w name = none)
    (hc : (site.book plan).chain name ≠ [])
    (hv : ∀ read, Book.Agrees read (site.kept w) →
      (site.book plan).runChain read name ((site.book plan).chain name) = .ok v) :
    site.At plan stack (w.keep site.id (.text name) v) := by
  obtain ⟨s, hs, ho, hr⟩ := hw.scope
  refine ⟨hw.forest, hw.outside, ⟨{ s with memo := s.memo ++ [(.text name, v)] }, ?_, ho, hr⟩, ?_, ?_⟩
  · rw [World.scope?_keep, if_pos rfl, hs]
    rfl
  · rw [site.kept_keep hs hk]
    exact hw.right.keep hc hk hv
  · intro y hy
    have hne : y ≠ name := by
      rintro rfl
      exact hn hy
    rw [site.kept_keep hs hk]
    exact (if_neg hne).trans (hw.apart y hy)

end At

/-! ## What actions come to -/

/-- The action goes the way of the plan, under that stack. Either it is done, and what is kept by then is enough for any
reader that agrees with it to follow the plan up to what is left; or it raises the error of the naive evaluator. What
the definition outward comes to depends on the reader. -/
def Reaches (plan : Definition (Value U) → Plan (Exn (Value U)) (Value U)) (stack : List String)
    (outer : (String → Except (Exn (Value U)) (Value U)) → Except (Exn (Value U)) (Value U)) (x : Run U S α)
    (P : Plan (Exn (Value U)) (Value U)) (Q : α → Plan (Exn (Value U)) (Value U) → Prop) (w : World U S) : Prop :=
  (∃ a P' w', x w = (.done a, w') ∧ site.At plan stack w' ∧ Q a P' ∧
    (∀ y u, site.kept w y = some u → site.kept w' y = some u) ∧
    ∀ read, Book.Agrees read (site.kept w') → P.run read (outer read) = P'.run read (outer read)) ∨
  ∃ err w', x w = (.raised err, w') ∧ site.At plan stack w' ∧
    P.run ((site.book plan).ref stack) (outer ((site.book plan).ref stack)) = .error err

section
variable {site} {plan : Definition (Value U) → Plan (Exn (Value U)) (Value U)} {stack : List String}
  {outer : (String → Except (Exn (Value U)) (Value U)) → Except (Exn (Value U)) (Value U)}
  {P : Plan (Exn (Value U)) (Value U)} {Q : α → Plan (Exn (Value U)) (Value U) → Prop}

theorem reaches_done {x : Run U S α} {a : α} (hx : x w = (.done a, w)) (hw : site.At plan stack w) (hQ : Q a P) :
    site.Reaches plan stack outer x P Q w :=
  Or.inl ⟨a, P, w, hx, hw, hQ, fun _ _ h => h, fun _ _ => rfl⟩

theorem reaches_raised {x : Run U S α} {err : Exn (Value U)} (hx : x w = (.raised err, w))
    (hw : site.At plan stack w) : site.Reaches plan stack outer x (.fail err) Q w :=
  Or.inr ⟨err, w, hx, hw, rfl⟩

theorem reaches_bind {x : Run U S β} {k : β → Run U S α} {R : β → Plan (Exn (Value U)) (Value U) → Prop}
    (hx : site.Reaches plan stack outer x P R w)
    (hk : ∀ b P' w', R b P' → site.At plan stack w' → site.Reaches plan stack outer (k b) P' Q w') :
    site.Reaches plan stack outer (x >>= k) P Q w := by
  obtain ⟨b, P₁, w₁, hx, hw₁, hR, hgrow, hrun⟩ | ⟨err, w₁, hx, hw₁, hrun⟩ := hx
  · obtain ⟨a, P₂, w₂, hk, hw₂, hQ, hgrow', hrun'⟩ | ⟨err, w₂, hk, hw₂, hrun'⟩ := hk b P₁ w₁ hR hw₁
    · refine Or.inl ⟨a, P₂, w₂, (Action.bind_done hx).trans hk, hw₂, hQ, fun y u hy => hgrow' y u (hgrow y u hy), ?_⟩
      intro read hread
      exact (hrun read fun y u hy => hread y u (hgrow' y u hy)).trans (hrun' read hread)
    · refine Or.inr ⟨err, w₂, (Action.bind_done hx).trans hk, hw₂, ?_⟩
      exact (hrun _ hw₁.agrees).trans hrun'
  · exact Or.inr ⟨err, w₁, Action.bind_raised hx, hw₁, hrun⟩

/-- A plan goes on with a value that was read. -/
theorem Reaches.read {x : Run U S (Value U)} {k : Value U → α} {next : Value U → Plan (Exn (Value U)) (Value U)}
    (hx : site.Reaches plan stack outer x (.read name .done) Returns w) (hQ : ∀ v, Q (k v) (next v)) :
    site.Reaches plan stack outer (x >>= fun v => pure (k v)) (.read name next) Q w := by
  obtain ⟨v, P', w', hx, hw', rfl, hgrow, hrun⟩ | ⟨err, w', hx, hw', hrun⟩ := hx
  · refine Or.inl ⟨k v, next v, w', Action.bind_done hx, hw', hQ v, hgrow, fun read hread => ?_⟩
    have hv := hrun read hread
    rw [Plan.run_read_done] at hv
    rw [Plan.run_read, hv]
    rfl
  · refine Or.inr ⟨err, w', Action.bind_raised hx, hw', ?_⟩
    rw [Plan.run_read_done] at hrun
    rw [Plan.run_read, hrun]
    rfl

/-- A plan goes on with a value that came from the definition outward. -/
theorem Reaches.outward {x : Run U S (Value U)} {k : Value U → α} {next : Value U → Plan (Exn (Value U)) (Value U)}
    (hx : site.Reaches plan stack outer x (.outward .done) Returns w) (hQ : ∀ v, Q (k v) (next v)) :
    site.Reaches plan stack outer (x >>= fun v => pure (k v)) (.outward next) Q w := by
  obtain ⟨v, P', w', hx, hw', rfl, hgrow, hrun⟩ | ⟨err, w', hx, hw', hrun⟩ := hx
  · refine Or.inl ⟨k v, next v, w', Action.bind_done hx, hw', hQ v, hgrow, fun read hread => ?_⟩
    have hv := hrun read hread
    rw [Plan.run_outward_done] at hv
    rw [Plan.run_outward, hv]
    rfl
  · refine Or.inr ⟨err, w', Action.bind_raised hx, hw', ?_⟩
    rw [Plan.run_outward_done] at hrun
    rw [Plan.run_outward, hrun]
    rfl

/-- A program that follows a plan goes its way, where lookups do and calls outward, with so many levels to go. -/
theorem Follows.reaches {c : OuterCall (Value U)} {n base : Nat} {p : Program U S α} (hf : site.Follows c n p P Q)
    (hlook : ∀ m y w, base ≤ m → site.At plan stack w →
      site.Reaches plan stack outer ((h.engine m).lookupName site.id (.text y)) (.read y .done) Returns w)
    (hout : ∀ m w, base ≤ m → site.At plan stack w →
      site.Reaches plan stack outer ((h.engine m).callOuter c) (.outward .done) Returns w) :
    ∀ {m : Nat} {w : World U S}, base + n ≤ m → site.At plan stack w →
      site.Reaches plan stack outer (p.interp (h.engine m).perform) P Q w := by
  induction hf with
  | pure hQ => exact fun hm hw => reaches_done rfl hw hQ
  | bind hp hk ihp ihk =>
    intro m w hm hw
    exact reaches_bind (ihp hm hw) fun b P' w' hR hw' => ihk b P' hR hm hw'
  | raise => exact fun hm hw => reaches_raised rfl hw
  | computed hr hQ => exact fun hm hw => reaches_done (hr _ _ hw.holds) hw hQ
  | refused hr => exact fun hm hw => reaches_raised (hr _ _ hw.holds) hw
  | @lookup n y next Q hQ =>
    intro m w hm hw
    have hread := (hlook m y w (by omega) hw).read (k := fun v => v) hQ
    rw [bind_pure] at hread
    rw [Program.interp_ask, Engine.perform, Engine.lookup_text]
    exact hread
  | @access n y next Q hmember hprivate hQ =>
    intro m w hm hw
    have hread := (hlook m y w (by omega) hw).read (k := Access.value) hQ
    rw [Program.interp_ask, Engine.perform, Engine.access, hmember]
    simp only [hprivate, Bool.false_eq_true, if_false]
    rw [Engine.lookup_text]
    exact hread
  | @subject n serial next Q hQ =>
    intro m w hm hw
    have hread := (hlook m subjectName w (by omega) hw).read (k := fun v => v) hQ
    rw [bind_pure] at hread
    exact hread
  | @outward n next Q hQ =>
    intro m w hm hw
    have hnext := (hout m w (by omega) hw).outward (k := fun v => v) hQ
    rw [bind_pure] at hnext
    exact hnext
  | @called n u args P Q hp ih =>
    intro m w hm hw
    obtain ⟨m, rfl⟩ : ∃ k, m = k + 1 := ⟨m - 1, by omega⟩
    exact ih (by omega) hw

end

/-! ## Definitions -/

section
variable {site} {plan : Definition (Value U) → Plan (Exn (Value U)) (Value U)} {stack : List String} {calls base : Nat}
  {outer : (String → Except (Exn (Value U)) (Value U)) → Except (Exn (Value U)) (Value U)} {d : Definition (Value U)}
  {rest : List (Definition (Value U))} {serial : Nat}

theorem Reaches.congr {x y : Run U S α} {P : Plan (Exn (Value U)) (Value U)}
    {Q : α → Plan (Exn (Value U)) (Value U) → Prop} (hx : site.Reaches plan stack outer x P Q w) (hy : y w = x w) :
    site.Reaches plan stack outer y P Q w := by
  unfold Reaches at hx ⊢
  rwa [hy]

theorem noOuter_eq (hd : [d] <:+ site.definitions name) :
    (site.book plan).noOuter name =
      site.error (.overrideWithoutAncestor (site.word d.name)) d.name.toValue (site.word d.name) := by
  obtain ⟨l, hl⟩ := hd
  have hlast : (site.definitions name).getLast? = some d := by
    rw [← hl, List.getLast?_append, List.getLast?_singleton]
    rfl
  simp only [book, hlast, Option.map_some, Option.getD_some]

/-- The outermost definition has none to call. -/
theorem callOuter_nil (n : Nat) (hd : [d] <:+ site.definitions name) (hw : site.At plan stack w) :
    (h.engine n).callOuter ⟨serial, site.id, d, []⟩ w = (.raised ((site.book plan).noOuter name), w) := by
  obtain ⟨s, hs, ho, -⟩ := hw.scope
  have hscope : (Run.scope site.id : Run U S _) w = (.done s, w) := by rw [Run.scope_apply, hs]
  have hword := site.word_eq name d (hd.subset (List.mem_singleton_self d))
  rw [noOuter_eq hd, Engine.callOuter]
  dsimp only
  rw [Action.bind_done hscope]
  exact site.step_raiseIn n hw.forest hw.outside ho hword (Action.bind_done hword)

/-- With a level to go, a definition runs its program. -/
theorem produce_eq (n : Nat) (c : OuterCall (Value U)) :
    (h.engine (n + 1)).produce c w = h.exec (n + 1) (h.producing c w.outside) w := by
  unfold Engine.produce Host.producing
  cases c.current.producer with
  | callable f => cases f <;> rfl
  | target described =>
    simp only [Engine.defaultSubject]
    rw [Action.get_bind_apply]
    show (if h.toSurface.isConstructible described w.outside then _ else _ : Run U S (Value U)) w = _
    split
    · cases described <;> rfl
    · rfl

/-- A definition goes the way of its plan, where lookups do and calls outward. -/
theorem reaches_definition (hplan : site.Carries plan calls) (hd : d :: rest <:+ site.definitions name)
    (hlook : ∀ m y w, base ≤ m → site.At plan stack w →
      site.Reaches plan stack outer ((h.engine m).lookupName site.id (.text y)) (.read y .done) Returns w)
    (hout : ∀ m w, base ≤ m → site.At plan stack w → site.Reaches plan stack outer
      ((h.engine m).callOuter ⟨serial, site.id, d, rest⟩) (.outward .done) Returns w)
    {m : Nat} (hm : base + (calls + 1) ≤ m) (hw : site.At plan stack w) :
    site.Reaches plan stack outer ((h.engine m).produce ⟨serial, site.id, d, rest⟩) (plan d) Returns w := by
  obtain ⟨m, rfl⟩ : ∃ k, m = k + 1 := ⟨m - 1, by omega⟩
  have hrun := (hplan name d rest hd serial).reaches hlook hout (m := m) (by omega) hw
  refine hrun.congr ?_
  rw [produce_eq, hw.outside]
  rfl

/-- Running some definitions goes the way of the plans, where lookups do. The induction is on those further outward. -/
theorem reaches_produce (hplan : site.Carries plan calls)
    (hlook : ∀ outer m y w, base ≤ m → site.At plan stack w →
      site.Reaches plan stack outer ((h.engine m).lookupName site.id (.text y)) (.read y .done) Returns w) :
    ∀ (rest : List (Definition (Value U))) (d : Definition (Value U)) (serial m : Nat) (w : World U S),
      d :: rest <:+ site.definitions name → base + (calls + 1) * (rest.length + 1) ≤ m → site.At plan stack w →
      site.Reaches plan stack (fun read => (site.book plan).runChain read name (rest.map plan))
        ((h.engine m).produce ⟨serial, site.id, d, rest⟩) (plan d) Returns w
  | [], d, serial, m, w, hd, hm, hw => by
    refine reaches_definition hplan hd (hlook _) (fun m w hm hw => ?_) (by simpa using hm) hw
    refine Or.inr ⟨_, w, callOuter_nil m hd hw, hw, ?_⟩
    rw [Plan.run_outward_done]
    rfl
  | d' :: rest, d, serial, m, w, hd, hm, hw => by
    have hd' : d' :: rest <:+ site.definitions name := (List.suffix_cons d _).trans hd
    rw [List.length_cons, Nat.mul_succ, ← Nat.add_assoc] at hm
    have hlook' (m : Nat) (y : String) (w : World U S) (hm : base + (calls + 1) * (rest.length + 1) ≤ m) :=
      hlook (fun read => (site.book plan).runChain read name ((d' :: rest).map plan)) m y w (by omega)
    refine reaches_definition hplan hd hlook' (fun m w hm hw => ?_) hm hw
    have hw' : site.At plan stack w.counted := hw.congr rfl rfl rfl
    have hkept : site.kept w.counted = site.kept w := site.kept_congr rfl
    obtain ⟨v, P', w', hx, hw', rfl, hgrow, hrun⟩ | ⟨err, w', hx, hw', hrun⟩ :=
      reaches_produce hplan hlook rest d' w.serials m w.counted hd' hm hw'
    · rw [hkept] at hgrow
      refine Or.inl ⟨v, .done v, w', hx, hw', rfl, hgrow, fun read hread => ?_⟩
      rw [Plan.run_outward_done]
      exact hrun read hread
    · refine Or.inr ⟨err, w', hx, hw', ?_⟩
      rw [Plan.run_outward_done]
      exact hrun

/-! ## Lookups -/

theorem textsOf_texts (sf : Surface U S) (names : List String) (t : S) :
    sf.textsOf (names.map Value.text) t = (.done names, t) := by
  suffices hgo : ∀ i, Surface.textsOf.go sf i (names.map Value.text) t = (.done names, t) from hgo 0
  induction names with
  | nil => exact fun i => rfl
  | cons name names ih =>
    intro i
    rw [List.map_cons, Surface.textsOf.go, Action.get_bind_apply]
    exact Action.bind_done (ih (i + 1))

/-- The names from one on, on a scope that computes those on the stack. -/
theorem pathFrom?_eq {s : Scope (Value U)} (hr : s.resolving = stack.map .text) (name : String) :
    s.pathFrom? (.text name) =
      if name ∈ stack then some ((stack.dropWhile (· != name)).map .text) else none := by
  have hdrop : s.resolving.dropWhile (fun n => !n.same (.text name)) = (stack.dropWhile (· != name)).map .text := by
    rw [hr, List.dropWhile_map]
    congr 2
    funext y
    rw [Function.comp_apply, HelperName.same_text_eq]
    rfl
  have hnil : stack.dropWhile (· != name) = [] ↔ name ∉ stack := by
    rw [List.dropWhile_eq_nil_iff]
    exact ⟨fun h hn => by simpa using h name hn, fun hn y hy => by simpa using fun he : y = name => hn (he ▸ hy)⟩
  rw [Scope.pathFrom?, hdrop]
  by_cases hn : name ∈ stack
  · rw [if_pos hn]
    split
    · next he => exact absurd hn (hnil.mp (List.map_eq_nil_iff.mp he))
    · rfl
  · rw [if_neg hn, hnil.mpr hn]
    rfl

/-- A name that is being computed is refused with the cycle. -/
theorem raiseCircular_eq (n : Nat) {s : Scope (Value U)} (ho : s.owner = site.owner) (hw : site.At plan stack w)
    (names : List String) :
    (h.engine n).raiseCircular s (names.map .text) (.text name) w =
      (.raised ((site.book plan).circular (names ++ [name]) name), w) := by
  refine site.step_raiseIn n hw.forest hw.outside ho rfl (Action.bind_done ?_)
  have hnames : (names.map HelperName.text ++ [HelperName.text name]).map HelperName.toValue =
      (names ++ [name]).map (Value.text (U := U)) := by
    rw [List.map_append, List.map_append, List.map_map]
    rfl
  rw [hnames]
  exact textsOf_texts _ _ _

/-- A name without definitions is refused. -/
theorem raiseUndefined_eq (n : Nat) {s : Scope (Value U)} (ho : s.owner = site.owner) (hw : site.At plan stack w) :
    (h.engine n).raiseUndefined s (.text name) w = (.raised ((site.book plan).undefined name), w) := by
  refine site.step_raiseIn n hw.forest hw.outside ho rfl ?_
  by_cases hn : name = subjectName
  · subst hn
    rfl
  · have hs : (HelperName.text name : HelperName (Value U)).same .subject = false :=
      (HelperName.same_text_eq name subjectName).trans (decide_eq_false hn)
    rw [hs, if_neg hn]
    rfl

/-- How the computation of a name goes on once its innermost definition has run. -/
theorem compute_eq (n : Nat) {s : Scope (Value U)} (ho : s.owner = site.owner) (hw : site.At plan stack w)
    (hd : site.definitions name = d :: rest) :
    (h.engine n).compute site.id s (.text name) w =
      match (h.engine n).produce ⟨w.serials, site.id, d, rest⟩ (w.counted.enter site.id (.text name)) with
      | (.done v, w') =>
        ((h.engine n).notice (pure (.resolvedHelper name (d :: rest).reverse.length)) >>= fun _ => pure v)
          ((w'.leave site.id).keep site.id (.text name) v)
      | (.raised err, w') => (.raised err, w'.leave site.id)
      | (.exhausted, w') => (.exhausted, w'.leave site.id) := by
  have hds := site.definitionsFor_eq name
  rw [hd, ← hw.forest, ← ho, ← hw.outside] at hds
  have hcompute : (h.engine n).compute site.id s (.text name) w = _ :=
    (h.engine n).compute_of_cons hds (List.reverse_reverse _)
  rwa [World.withOutside_self] at hcompute

/-- A name is computed as the plans say that its definitions are, and what they come to is kept. -/
theorem reaches_compute {m : Nat} {s : Scope (Value U)} (ho : s.owner = site.owner) (hw : site.At plan stack w)
    (hn : name ∉ stack) (hk : site.kept w name = none) (hd : site.definitions name = d :: rest)
    (hprod : site.Reaches plan (stack ++ [name]) (fun read => (site.book plan).runChain read name (rest.map plan))
      ((h.engine m).produce ⟨w.serials, site.id, d, rest⟩) (plan d) Returns (w.counted.enter site.id (.text name))) :
    site.Reaches plan stack outer ((h.engine m).compute site.id s (.text name)) (.read name .done) Returns w := by
  have hchain : (site.book plan).chain name = plan d :: rest.map plan := congrArg (List.map plan) hd
  have hne : (site.book plan).chain name ≠ [] := by simp [hchain]
  have hbefore : site.kept (w.counted.enter site.id (.text name)) = site.kept w :=
    (site.kept_enter _).trans (site.kept_congr rfl)
  have hcompute := compute_eq m ho hw hd
  obtain ⟨v, P', w', hx, hw', rfl, hgrow, hrun⟩ | ⟨err, w', hx, hw', hrun⟩ := hprod
  · have hleft : site.At plan stack (w'.leave site.id) := hw'.leave
    have hfree : site.kept (w'.leave site.id) name = none := by
      rw [kept_leave]
      exact hw'.apart name (by simp)
    have hdone : site.At plan stack ((w'.leave site.id).keep site.id (.text name) v) := by
      refine hleft.keep hn hfree hne fun read hread => ?_
      rw [kept_leave] at hread
      rw [hchain]
      exact hrun read hread
    obtain ⟨s', hs', -⟩ := hleft.scope
    have hafter := site.kept_keep (v := v) hs' hfree
    rw [kept_leave] at hafter
    have hn₃ := (h.engine m).notice_pure (.resolvedHelper name (d :: rest).reverse.length)
      ((w'.leave site.id).keep site.id (.text name) v)
    rw [hx] at hcompute
    refine Or.inl ⟨v, .done v, _, hcompute.trans (Action.bind_done hn₃), hdone.noticed _, rfl, fun y u hy => ?_,
      fun read hread => ?_⟩
    · have hyname : y ≠ name := by
        rintro rfl
        simp [hk] at hy
      rw [kept_noticed, hafter]
      exact (if_neg hyname).trans (hgrow y u (hbefore ▸ hy))
    · rw [Plan.run_read_done]
      exact hread name v (by rw [kept_noticed, hafter]; exact if_pos rfl)
  · rw [hx] at hcompute
    refine Or.inr ⟨err, w'.leave site.id, hcompute, hw'.leave, ?_⟩
    rw [Plan.run_read_done, (site.book plan).ref_of_chain hn hne, hchain]
    exact hrun

/-- A lookup goes the way of the naive evaluator. The induction is on how many names are not on the stack. -/
theorem reaches_lookup {stack : List String} (hplan : site.Carries plan calls) (outer) (m : Nat) (name : String)
    (w : World U S) (hm : (calls + 1) * (site.book plan).weight stack ≤ m) (hw : site.At plan stack w) :
    site.Reaches plan stack outer ((h.engine m).lookupName site.id (.text name)) (.read name .done) Returns w := by
  obtain ⟨s, hs, ho, hr⟩ := hw.scope
  have hkept : site.kept w name = s.kept? (.text name) := by rw [kept, hs, Option.bind_some]
  cases hk : s.kept? (.text name) with
  | some v =>
    refine Or.inl ⟨v, .done v, w, (h.engine m).lookupName_of_kept? hs hk, hw, rfl, fun _ _ hy => hy, ?_⟩
    intro read hread
    rw [Plan.run_read_done]
    exact hread name v (hkept.trans hk)
  | none =>
    have hpath := pathFrom?_eq hr name
    by_cases hn : name ∈ stack
    · rw [if_pos hn] at hpath
      have hraised := ((h.engine m).lookupName_of_path hs hk hpath).trans (raiseCircular_eq m ho hw _)
      refine Or.inr ⟨_, w, hraised, hw, ?_⟩
      rw [Plan.run_read_done, (site.book plan).ref_of_mem hn]
    · rw [if_neg hn] at hpath
      have hmiss := (h.engine m).lookupName_of_miss hs hk hpath
      cases hd : site.definitions name with
      | nil =>
        have hds := site.definitionsFor_eq name
        rw [hd, ← hw.forest, ← ho, ← hw.outside] at hds
        have hraised := hmiss.trans (((h.engine m).compute_of_nil hds).trans (raiseUndefined_eq m ho hw))
        refine Or.inr ⟨_, w, hraised, hw, ?_⟩
        rw [Plan.run_read_done, (site.book plan).ref_of_undefined hn (congrArg (List.map plan) hd)]
      | cons d rest =>
        have hchain : (site.book plan).chain name = plan d :: rest.map plan := congrArg (List.map plan) hd
        have hweight := (site.book plan).weight_push hn
        rw [hchain, List.length_cons, List.length_map] at hweight
        have hlevels := Nat.mul_le_mul_left (calls + 1) hweight
        rw [Nat.mul_add, Nat.add_comm] at hlevels
        have hlt : ((site.book plan).missing (stack ++ [name])).length < ((site.book plan).missing stack).length :=
          Book.missing_push_lt hn (by simp [hchain])
        have hsuffix : d :: rest <:+ site.definitions name := hd.symm ▸ List.suffix_rfl
        refine (reaches_compute ho hw hn (hkept.trans hk) hd ?_).congr hmiss
        refine reaches_produce hplan (fun outer m y w hm hw => reaches_lookup hplan outer m y w hm hw) rest d _ m _
          hsuffix (hlevels.trans hm) ?_
        have hcounted : site.At plan stack w.counted := hw.congr rfl rfl rfl
        exact hcounted.enter ((congrFun (site.kept_congr rfl) name).trans (hkept.trans hk))
termination_by ((site.book plan).missing stack).length

end

end Site

/-! ## Sequences of lookups -/

/-- The program that looks up one name after the other and goes on whatever comes of it. -/
def Program.lookups (id : Nat) : List String → Program U S (List (Except (Exn (Value U)) (Value U)))
  | [] => .pure []
  | name :: names =>
    .bind (.attempt (.ask (.lookup id (.text name)))) fun r => .bind (lookups id names) fun rs => .pure (r :: rs)

namespace Site

variable {h : Host U S} {site : Site h} {w : World U S}
  {plan : Definition (Value U) → Plan (Exn (Value U)) (Value U)} {calls : Nat}

/-- The scope is at the beginning. -/
theorem At.of_fresh {s : Scope (Value U)} (hf : w.forest = site.forest) (ho : w.outside = site.outside)
    (hs : w.scope? site.id = some s) (hown : s.owner = site.owner) (hmemo : s.memo = []) (hres : s.resolving = []) :
    site.At plan [] w := by
  have hkept : site.kept w = fun _ => none := by
    funext y
    rw [kept, hs, Option.bind_some, Scope.kept?, hmemo]
    rfl
  exact ⟨hf, ho, ⟨s, hs, hown, hres⟩, hkept ▸ Book.right_empty _, by simp⟩

/-- One lookup while no name is computed comes to what the naive evaluator comes to. -/
theorem lookup_eq_ref (hplan : site.Carries plan calls) {n : Nat} (hn : (calls + 1) * (site.book plan).size ≤ n)
    (hw : site.At plan [] w) (name : String) :
    ∃ w', Action.attempt ((h.engine n).lookup site.id (.text name)) w =
      (.done ((site.book plan).ref [] name), w') ∧ site.At plan [] w' := by
  rw [Engine.lookup_text]
  obtain ⟨v, P', w', hx, hw', rfl, -, hrun⟩ | ⟨err, w', hx, hw', hrun⟩ :=
    reaches_lookup hplan (fun _ => .error ((site.book plan).noOuter name)) n name w hn hw
  · have hv := hrun _ hw'.agrees
    rw [Plan.run_read_done] at hv
    exact ⟨w', (Action.attempt_of_done hx).trans (by rw [hv]; rfl), hw'⟩
  · rw [Plan.run_read_done] at hrun
    exact ⟨w', (Action.attempt_of_raised hx).trans (by rw [hrun]), hw'⟩

theorem lookups_of_at (hplan : site.Carries plan calls) {n : Nat} (hn : (calls + 1) * (site.book plan).size ≤ n) :
    ∀ (names : List String) {w : World U S}, site.At plan [] w →
      ∃ w', (Program.lookups site.id names).interp (h.engine n).perform w =
        (.done (names.map ((site.book plan).ref [])), w') ∧ site.At plan [] w'
  | [], w, hw => ⟨w, rfl, hw⟩
  | name :: names, w, hw => by
    obtain ⟨w₁, h₁, hw₁⟩ := lookup_eq_ref hplan hn hw name
    obtain ⟨w₂, h₂, hw₂⟩ := lookups_of_at hplan hn names hw₁
    exact ⟨w₂, (Action.bind_done h₁).trans ((Action.bind_done h₂).trans rfl), hw₂⟩

/-- Every sequence of lookups on a scope that has just begun, each of whose failures is caught, comes to what the naive
evaluator comes to for each name alone: the same values and the same errors. It needs no more levels than there are
definitions, each with the calls it makes. That the definitions carry their plans means that they leave the state of the
specification literally as it is. With the expressions of `Script` a producer that makes a list or a new error does not,
since each new object takes a place in that state; of a host whose values are made of plain data it does hold. -/
theorem lookups_eq_ref (hplan : site.Carries plan calls) {n : Nat} (hn : (calls + 1) * (site.book plan).size ≤ n)
    {s : Scope (Value U)} (hf : w.forest = site.forest) (ho : w.outside = site.outside)
    (hs : w.scope? site.id = some s) (hown : s.owner = site.owner) (hmemo : s.memo = []) (hres : s.resolving = [])
    (names : List String) :
    ∃ w', h.exec (n + 1) (Program.lookups site.id names) w = (.done (names.map ((site.book plan).ref [])), w') ∧
      w'.forest = w.forest ∧ w'.outside = w.outside := by
  obtain ⟨w', hrun, hw'⟩ := lookups_of_at hplan hn names (At.of_fresh hf ho hs hown hmemo hres)
  exact ⟨w', hrun, hw'.forest.trans hf.symm, hw'.outside.trans ho.symm⟩

end Site

/-! ## Two trees -/

/-- The code of helpers: one that reads another and calls outward, one that reads itself, and others that return. -/
def helperCode : NumberedCode := fun u args =>
  match u, args with
  | 1, [_, outer] => .bind (.ask (.lookup 0 (.text "b"))) fun _ => .ask (.call outer [])
  | 3, _ => .ask (.lookup 0 (.text "c"))
  | u, _ => .pure (.user (u + 5))

/-- A helper whose producer is a number. -/
def numberedHelper (name : String) (level : Int) (u : Nat) : Definition (Value Nat) :=
  ⟨.text name, level, .callable (.user u), ""⟩

/-- A table of helpers. -/
def helperTable (ds : List (Definition (Value Nat))) : HelperTable (Value Nat) := ds.map fun d => (d.name, d)

/-- A closed tree of two groups, with an example in the inner one, which overrides a helper of the root. -/
def Forest.nested (description : Value Nat) : Forest (Value Nat) :=
  ⟨#[⟨.text "root", none, none, true, [.group 1],
      helperTable [numberedHelper "a" 0 0, numberedHelper "b" 0 2, numberedHelper "c" 0 3]⟩,
    ⟨description, some 0, none, true, [.example ⟨.absent, 1, 0, none, .absent⟩], helperTable [numberedHelper "a" 1 1]⟩]⟩

theorem Forest.definitions_nested (description : Value Nat) (root name : String) :
    (nested description).definitions 1 root name =
      if name = "a" then [numberedHelper "a" 1 1, numberedHelper "a" 0 0]
      else if name = "b" then [numberedHelper "b" 0 2]
      else if name = "c" then [numberedHelper "c" 0 3] else [] := by
  by_cases ha : name = "a"
  · subst ha
    rfl
  · by_cases hb : name = "b"
    · subst hb
      rfl
    · by_cases hc : name = "c"
      · subst hc
        rfl
      · have htarget : (nested description).target? 1 = none := rfl
        have hchain : (nested description).declaredChain 1 (.text name) = [] := by
          refine List.filterMap_eq_nil_iff.mpr fun g hg => ?_
          have hg' : g ∈ [0, 1] := hg
          simp only [List.mem_cons, List.not_mem_nil, or_false] at hg'
          rcases hg' with rfl | rfl <;>
            simp [helpers, group?, nested, helperTable, numberedHelper, HelperTable.find?, HelperName.same_text_eq,
              Ne.symm ha, Ne.symm hb, Ne.symm hc]
        simp [definitions, htarget, hchain, ha, hb, hc]

/-- What the code of the helpers does. -/
def helperPlan (d : Definition (Value Nat)) : Plan (Exn (Value Nat)) (Value Nat) :=
  match d.producer with
  | .callable (.user 1) => .read "b" fun _ => .outward .done
  | .callable (.user 3) => .read "c" .done
  | .callable (.user u) => .done (.user (u + 5))
  | _ => .done .absent

/-- The example of the tree, when it has begun. -/
def nestedSite : Site (Host.numbers (fun u => u == 9) helperCode) where
  forest := .nested (.text "inner")
  outside := ()
  owner := ⟨.absent, 1, 0, none, .absent⟩
  id := 0
  path := "root inner"
  rootPath := "root"
  description := none
  word n := n.text?.getD ""
  path_eq := rfl
  root_eq := rfl
  description_eq := rfl
  word_eq name d hd := by
    rw [Forest.definitions_nested] at hd
    split at hd
    · simp only [List.mem_cons, List.not_mem_nil, or_false] at hd
      rcases hd with rfl | rfl <;> rfl
    · split at hd
      · obtain rfl := List.mem_singleton.mp hd
        rfl
      · split at hd
        · obtain rfl := List.mem_singleton.mp hd
          rfl
        · simp at hd

theorem nestedSite_carries : nestedSite.Carries helperPlan 0 := by
  intro name d rest hd serial
  have hdefs := Forest.definitions_nested (.text "inner") "root" name
  rw [show nestedSite.definitions name = _ from hdefs] at hd
  split at hd
  · simp only [List.suffix_cons_iff, List.suffix_nil, List.cons.injEq, reduceCtorEq, or_false] at hd
    rcases hd with ⟨rfl, rfl⟩ | ⟨rfl, rfl⟩
    · refine .bind (.lookup fun v => rfl) ?_
      rintro v P' rfl
      exact .outward fun v => rfl
    · exact .pure rfl
  · split at hd
    · simp only [List.suffix_cons_iff, List.suffix_nil, List.cons.injEq, reduceCtorEq, or_false] at hd
      obtain ⟨rfl, rfl⟩ := hd
      exact .pure rfl
    · split at hd
      · simp only [List.suffix_cons_iff, List.suffix_nil, List.cons.injEq, reduceCtorEq, or_false] at hd
        obtain ⟨rfl, rfl⟩ := hd
        exact .lookup fun v => rfl
      · simp [List.suffix_nil] at hd

/-- The world in which the example of the tree has begun. -/
def nestedWorld (description : Value Nat) : World Nat Unit :=
  { World.initial () false with
    forest := .nested description
    scopes := #[.fresh ⟨.absent, 1, 0, none, .absent⟩ .standard] }

/-- Three lookups, one of which finds a cycle, come to what the naive evaluator comes to. -/
theorem lookups_nested :
    ∃ w', (Host.numbers (fun u => u == 9) helperCode).exec 5 (Program.lookups 0 ["a", "c", "a"])
        (nestedWorld (.text "inner")) =
      (.done [.ok (.user 5), .error (nestedSite.error (.circularHelper ["c", "c"]) (.text "c") "c"), .ok (.user 5)],
        w') := by
  have hb : (nestedSite.book helperPlan).ref ["a"] "b" = .ok (.user 7) :=
    (Book.ref_of_chain _ (by simp) (List.cons_ne_nil _ _)).trans rfl
  have ha : (nestedSite.book helperPlan).ref [] "a" = .ok (.user 5) := by
    rw [Book.ref_of_chain _ (by simp) (List.cons_ne_nil _ _)]
    show ((nestedSite.book helperPlan).ref ["a"] "b" >>= fun _ => _) = _
    rw [hb]
    rfl
  have hc : (nestedSite.book helperPlan).ref [] "c" =
      .error (nestedSite.error (.circularHelper ["c", "c"]) (.text "c") "c") := by
    rw [Book.ref_of_chain _ (by simp) (List.cons_ne_nil _ _)]
    show ((nestedSite.book helperPlan).ref ["c"] "c" >>= fun _ => _) = _
    rw [Book.ref_of_mem _ (by simp)]
    rfl
  obtain ⟨w', hrun, -⟩ := Site.lookups_eq_ref nestedSite_carries (n := 4) (by decide)
    (w := nestedWorld (.text "inner")) rfl rfl rfl rfl rfl rfl ["a", "c", "a"]
  rw [List.map_cons, List.map_cons, List.map_cons, ha, hc] at hrun
  exact ⟨w', hrun⟩

/-- A closed tree of two groups, the inner one so described and without helpers. The outer one has a helper with that
producer. -/
def Forest.bare (description : Value Nat) (producer : Nat) : Forest (Value Nat) :=
  ⟨#[⟨.text "root", none, none, true, [.group 1], helperTable [numberedHelper "c" 0 producer]⟩,
    ⟨description, some 0, none, true, [.example ⟨.absent, 1, 0, some (.user 0), .absent⟩], []⟩]⟩

/-- The world in which the example of the inner group has begun. -/
def bareWorld (description : Value Nat) (producer : Nat) : World Nat Unit :=
  { World.initial () false with
    forest := .bare description producer
    scopes := #[.fresh ⟨.absent, 1, 0, some (.user 0), .absent⟩ .standard] }

/-- The naive evaluator tells the cycle of a helper that reads itself. Where the description of a group cannot be shown,
the lookup does not: the error of showing it comes instead. -/
theorem lookups_hidden :
    (∀ b : Book (Exn (Value Nat)) (Value Nat), b.chain "c" = [.read "c" .done] →
      b.ref [] "c" = .error (b.circular ["c", "c"] "c")) ∧
    (∃ w', (Host.numbers (fun u => u == 9) helperCode).exec 5 (Program.lookups 0 ["c"]) (bareWorld (.user 9) 3) =
      (.done [.error (.thrown (.user 9))], w')) ∧
    ∀ context w', (Host.numbers (fun u => u == 9) helperCode).exec 5 (Program.lookups 0 ["c"]) (bareWorld (.user 9) 3) ≠
      (.done [.error (.authoring ⟨.circularHelper ["c", "c"], context⟩)], w') := by
  have hrun : ∃ w', (Host.numbers (fun u => u == 9) helperCode).exec 5 (Program.lookups 0 ["c"])
      (bareWorld (.user 9) 3) = (.done [.error (.thrown (.user 9))], w') := ⟨_, rfl⟩
  refine ⟨fun b hc => ?_, hrun, fun context w' hcycle => ?_⟩
  · rw [b.ref_of_chain (by simp) (by simp [hc]), hc]
    show (b.ref ["c"] "c" >>= fun _ => _) = _
    rw [b.ref_of_mem (by simp)]
    rfl
  · obtain ⟨w₁, hw₁⟩ := hrun
    rw [hw₁] at hcycle
    simp at hcycle

end Exemplar
