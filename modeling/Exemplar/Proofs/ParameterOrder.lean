import Exemplar.Signature.Layout

/-!
# Exemplar.Proofs.ParameterOrder — in which order parameters stand

A list of parameters has its kinds in a fixed order, at most one parameter that collects the rest and one that collects
keywords, and among those filled by position the ones with defaults last. The rules by which a list is written
from left to right let no other list through.

* `Param.Precedes`, `Signature.WellFormed`: the order, two parameters at a time.
* `Signature.Draft.Sound.write`: what is known of a list that is being written, and that one more parameter keeps it.
* `Signature.layout_wellFormed`: whatever has been written stands in order.
-/

namespace Exemplar

/-! ## Lists of parameters -/

/-- The place of a kind among the kinds. -/
def ParamKind.rank : ParamKind → Nat
  | .positionalOnly => 0
  | .positional => 1
  | .rest => 2
  | .keywordOnly => 3
  | .keywords => 4

namespace Param

variable {p : Param} {kind : ParamKind}

theorem kind_of_isSlot (h : p.isSlot) : p.kind = .positionalOnly ∨ p.kind = .positional := by
  cases hk : p.kind <;> simp [isSlot, hk] at h ⊢

theorem rank_of_isSlot (h : p.isSlot) : p.kind.rank ≤ ParamKind.positional.rank := by
  rcases kind_of_isSlot h with hk | hk <;> simp [hk, ParamKind.rank]

theorem kind_ne_of_isSlot (h : p.isSlot) (hk : ParamKind.positional.rank < kind.rank) : p.kind ≠ kind := by
  rintro rfl
  exact absurd (rank_of_isSlot h) (Nat.not_le_of_lt hk)

theorem not_collects_of_isSlot (h : p.isSlot) : ¬ p.collects := by
  rcases kind_of_isSlot h with hk | hk <;> simp [collects, hk]

end Param

/-- The second parameter can stand somewhere behind the first one: its kind does not come earlier, the two do not both
collect the same, and where both are filled by position it has a default if the first one has. -/
structure Param.Precedes (p q : Param) : Prop where
  rank : p.kind.rank ≤ q.kind.rank
  once : p.collects → p.kind ≠ q.kind
  optional : p.isSlot → q.isSlot → p.optional → q.optional

/-- The parameters stand in an order in which they can be written. -/
def Signature.WellFormed (s : Signature) : Prop := s.params.Pairwise Param.Precedes

instance (p q : Param) : Decidable (p.Precedes q) :=
  decidable_of_iff (p.kind.rank ≤ q.kind.rank ∧ (p.collects → p.kind ≠ q.kind) ∧
    (p.isSlot → q.isSlot → p.optional → q.optional))
    ⟨fun h => ⟨h.1, h.2.1, h.2.2⟩, fun h => ⟨h.rank, h.once, h.optional⟩⟩

instance (s : Signature) : Decidable s.WellFormed := inferInstanceAs (Decidable (s.params.Pairwise Param.Precedes))

namespace Signature

/-! ## Lists as they are written -/

/-- What is known of a draft before a parameter of the kind `next` is written. While parameters filled by position alone
are being written, the kinds of those in front of them are not settled. -/
structure Draft.Sound (d : Draft) (next : Option ParamKind) : Prop where
  keywords : d.pastKeywords = false → ∀ p ∈ d.written, p.kind ≠ .keywords
  slots : d.pastRest = false → ∀ p ∈ d.written, p.isSlot ∨ p.kind = .keywords
  needed : d.hasOptional = false → ∀ p ∈ d.written, p.isSlot → ¬ p.optional
  shape : d.written.Pairwise fun p q => (p.isSlot ∨ p.kind.rank ≤ q.kind.rank) ∧ (p.collects → p.kind ≠ q.kind)
  optional : d.isBroken = false → d.written.Pairwise fun p q => p.isSlot → q.isSlot → p.optional → q.optional
  ranked : next ≠ some .positionalOnly → d.written.Pairwise fun p q => p.kind.rank ≤ q.kind.rank

namespace Draft

variable {d d' : Draft} {name : String} {kind : ParamKind} {optional : Bool} {next : Option ParamKind}

theorem pairwise_snoc {R : Param → Param → Prop} {ps : List Param} {q : Param} (h : ps.Pairwise R)
    (hq : ∀ p ∈ ps, R p q) : (ps ++ [q]).Pairwise R := by
  refine List.pairwise_append.mpr ⟨h, List.pairwise_singleton _ _, fun p hp q' hq' => ?_⟩
  obtain rfl := List.mem_singleton.mp hq'
  exact hq p hp

theorem forall_snoc {P : Param → Prop} {ps : List Param} {q : Param} (h : ∀ p ∈ ps, P p) (hq : P q) :
    ∀ p ∈ ps ++ [q], P p := by
  intro p hp
  rcases List.mem_append.mp hp with hp | hp
  · exact h p hp
  · obtain rfl := List.mem_singleton.mp hp
    exact hq

theorem Sound.of_ne (h : d.Sound next) (hn : next ≠ some .positionalOnly) (next' : Option ParamKind) :
    d.Sound next' := ⟨h.keywords, h.slots, h.needed, h.shape, h.optional, fun _ => h.ranked hn⟩

/-- A parameter that no argument fills by position can be written where none of its kind or a later one stands. -/
theorem Sound.add (h : d.Sound next) (hslot : ¬ Param.isSlot ⟨name, kind, optional⟩)
    (hrank : ∀ p ∈ d.written, p.kind.rank ≤ kind.rank) (hne : ∀ p ∈ d.written, p.collects → p.kind ≠ kind)
    (hd : d'.written = d.written ++ [⟨name, kind, optional⟩])
    (hkeywords : d'.pastKeywords = false → kind ≠ .keywords ∧ d.pastKeywords = false)
    (hslots : d'.pastRest = false → kind = .keywords ∧ d.pastRest = false)
    (hneeded : d'.hasOptional = d.hasOptional) (hbroken : d'.isBroken = d.isBroken) : d'.Sound next where
  keywords hk := by
    rw [hd]
    exact forall_snoc (h.keywords (hkeywords hk).2) (hkeywords hk).1
  slots hs := by
    rw [hd]
    exact forall_snoc (h.slots (hslots hs).2) (.inr (hslots hs).1)
  needed hn := by
    rw [hd]
    exact forall_snoc (h.needed (hneeded ▸ hn)) (fun hs => absurd hs hslot)
  shape := by
    rw [hd]
    exact pairwise_snoc h.shape fun p hp => ⟨.inr (hrank p hp), hne p hp⟩
  optional hb := by
    rw [hd]
    exact pairwise_snoc (h.optional (hbroken ▸ hb)) fun p _ _ hs => absurd hs hslot
  ranked hn := by
    rw [hd]
    exact pairwise_snoc (h.ranked hn) hrank

/-- A parameter that is filled by position can be written behind others of that sort, with a default if one of them
has one. -/
theorem Sound.addFilled (h : d.Sound (some kind)) (hslot : Param.isSlot ⟨name, kind, optional⟩)
    (hall : ∀ p ∈ d.written, p.isSlot) (hd : d'.written = d.written ++ [⟨name, kind, optional⟩])
    (hneeded : d'.hasOptional = false → optional = false ∧ d.hasOptional = false)
    (hbroken : d'.isBroken = false → d.isBroken = false ∧ (d.hasOptional = false ∨ optional = true)) :
    d'.Sound (some kind) where
  keywords _ := by
    rw [hd]
    exact forall_snoc (fun p hp => Param.kind_ne_of_isSlot (hall p hp) (by decide))
      (Param.kind_ne_of_isSlot hslot (by decide))
  slots _ := by
    rw [hd]
    exact forall_snoc (fun p hp => .inl (hall p hp)) (.inl hslot)
  needed hn := by
    rw [hd]
    exact forall_snoc (h.needed (hneeded hn).2) (by simp [(hneeded hn).1])
  shape := by
    rw [hd]
    exact pairwise_snoc h.shape fun p hp =>
      ⟨.inl (hall p hp), fun hc => absurd hc (Param.not_collects_of_isSlot (hall p hp))⟩
  optional hb := by
    obtain ⟨hb, ho⟩ := hbroken hb
    rw [hd]
    refine pairwise_snoc (h.optional hb) fun p hp hps _ hpo => ?_
    rcases ho with ho | ho
    · exact absurd hpo (h.needed ho p hp hps)
    · exact ho
  ranked hn := by
    rw [hd]
    have hkind : kind = .positional := (Param.kind_of_isSlot hslot).resolve_left (by simpa using hn)
    exact pairwise_snoc (h.ranked hn) fun p hp => hkind ▸ Param.rank_of_isSlot (hall p hp)

theorem Sound.rank_le (h : d.Sound next) (hkeywords : d.pastKeywords = false) :
    ∀ p ∈ d.written, p.kind.rank ≤ ParamKind.keywordOnly.rank := by
  intro p hp
  have := h.keywords hkeywords p hp
  cases hk : p.kind <;> simp_all [ParamKind.rank]

theorem Sound.all_slots (h : d.Sound next) (hkeywords : d.pastKeywords = false) (hrest : d.pastRest = false) :
    ∀ p ∈ d.written, p.isSlot :=
  fun p hp => (h.slots hrest p hp).resolve_right (h.keywords hkeywords p hp)

theorem Sound.addKeywordOnly (h : d.Sound next) (hkeywords : d.pastKeywords = false)
    (hd : d'.written = d.written ++ [⟨name, .keywordOnly, optional⟩]) (hrest : d'.pastRest = true)
    (hneeded : d'.hasOptional = d.hasOptional) (hbroken : d'.isBroken = d.isBroken) : d'.Sound next := by
  refine h.add (by simp [Param.isSlot]) (h.rank_le hkeywords) ?_ hd ?_ ?_ hneeded hbroken
  · intro p _ hp hk
    simp [Param.collects, hk] at hp
  · intro _
    exact ⟨by simp, hkeywords⟩
  · simp [hrest]

theorem Sound.addSlot (h : d.Sound (some kind)) (hk : kind = .positionalOnly ∨ kind = .positional)
    (hkeywords : d.pastKeywords = false) (hd : d.addSlot name kind optional = .ok d') :
    d'.Sound (some kind) ∧ d'.pastKeywords = false := by
  have hslot : Param.isSlot ⟨name, kind, optional⟩ := by rcases hk with rfl | rfl <;> rfl
  unfold Draft.addSlot at hd
  by_cases hr : d.pastRest = true
  · rw [if_pos hr] at hd
    cases hd
    exact ⟨h.addKeywordOnly hkeywords rfl hr rfl rfl, hkeywords⟩
  · have hall := h.all_slots hkeywords (by simpa using hr)
    rw [if_neg hr] at hd
    by_cases ho : optional = true
    · rw [if_pos ho] at hd
      cases hd
      exact ⟨h.addFilled hslot hall rfl (by simp) fun hb => ⟨hb, .inr ho⟩, hkeywords⟩
    · rw [if_neg ho] at hd
      have ho : optional = false := by simpa using ho
      by_cases hm : d.hasOptionalPastMark = true
      · rw [if_pos hm] at hd
        cases hd
        exact ⟨h.addFilled hslot hall rfl (fun hn => ⟨ho, hn⟩) (by simp), hkeywords⟩
      · rw [if_neg hm] at hd
        by_cases hn : d.hasOptional = true
        · rw [if_pos hn] at hd
          cases hd
        · rw [if_neg hn] at hd
          cases hd
          exact ⟨h.addFilled hslot hall rfl (fun hn => ⟨ho, hn⟩) fun hb => ⟨hb, .inl (by simpa using hn)⟩, hkeywords⟩

theorem Sound.mark (h : d.Sound next) (hkeywords : d.pastKeywords = false) (hd : d.mark = .ok d')
    (next' : Option ParamKind) : d'.Sound next' := by
  unfold Draft.mark at hd
  by_cases hr : d.pastRest = true
  · rw [if_pos hr] at hd
    cases hd
  · rw [if_neg hr] at hd
    by_cases hm : d.isMarked = true
    · rw [if_pos hm] at hd
      cases hd
    · rw [if_neg hm] at hd
      cases hd
      have hall := h.all_slots hkeywords (by simpa using hr)
      refine ⟨?_, ?_, ?_, ?_, ?_, ?_⟩
      · simp
      · simp [Param.isSlot]
      · intro hn p hp _
        obtain ⟨q, hq, rfl⟩ := List.mem_map.mp hp
        exact h.needed hn q hq (hall q hq)
      · exact List.pairwise_map.mpr (List.pairwise_of_forall fun _ _ => by simp [Param.isSlot, Param.collects])
      · refine fun hb => List.pairwise_map.mpr ((h.optional hb).imp_of_mem fun hp hq hpq _ _ => ?_)
        exact hpq (hall _ hp) (hall _ hq)
      · exact fun _ => List.pairwise_map.mpr (List.pairwise_of_forall fun _ _ => by simp)

/-- One more parameter. -/
theorem Sound.write (h : d.Sound (some kind)) (hd : d.write name kind optional next = .ok d') : d'.Sound next := by
  unfold Draft.write at hd
  by_cases hk : d.pastKeywords = true
  · rw [if_pos hk] at hd
    cases hd
  have hkeywords : d.pastKeywords = false := by simpa using hk
  rw [if_neg hk] at hd
  cases kind with
  | keywords =>
    cases hd
    refine Sound.of_ne (?_ : Draft.Sound _ (some .keywords)) (by simp) next
    refine h.add (by simp [Param.isSlot]) ?_ ?_ rfl (by simp) (fun hr => ⟨rfl, hr⟩) rfl rfl
    · exact fun p hp => Nat.le_succ_of_le (h.rank_le hkeywords p hp)
    · exact fun p hp _ => h.keywords hkeywords p hp
  | rest =>
    dsimp only at hd
    by_cases hr : d.pastRest = true
    · rw [if_pos hr] at hd
      cases hd
    · rw [if_neg hr] at hd
      cases hd
      have hall := h.all_slots hkeywords (by simpa using hr)
      refine Sound.of_ne (?_ : Draft.Sound _ (some .rest)) (by simp) next
      refine h.add (by simp [Param.isSlot]) ?_ ?_ rfl (fun _ => ⟨by simp, hkeywords⟩) (by simp) rfl rfl
      · exact fun p hp => Nat.le_trans (Param.rank_of_isSlot (hall p hp)) (by decide)
      · exact fun p hp _ => Param.kind_ne_of_isSlot (hall p hp) (by decide)
  | keywordOnly =>
    cases hd
    refine Sound.of_ne (?_ : Draft.Sound _ (some .keywordOnly)) (by simp) next
    exact h.addKeywordOnly hkeywords rfl rfl rfl rfl
  | positional => exact (h.addSlot (.inr rfl) hkeywords hd).1.of_ne (by simp) next
  | positionalOnly =>
    cases hadd : d.addSlot name .positionalOnly optional with
    | error fault =>
      rw [hadd] at hd
      cases hd
    | ok d₁ =>
      obtain ⟨h₁, hkeywords₁⟩ := h.addSlot (.inl rfl) hkeywords hadd
      have hd : (if next = some .positionalOnly then .ok d₁ else d₁.mark) = Except.ok d' := by
        rwa [hadd] at hd
      by_cases hn : next = some .positionalOnly
      · rw [if_pos hn] at hd
        cases hd
        exact hn ▸ h₁
      · rw [if_neg hn] at hd
        exact h₁.mark hkeywords₁ hd next

end Draft

/-- From a draft that can be gone on with only lists in order are written. -/
theorem layoutFrom_wellFormed {d : Draft} {i : Nat} {kinds : List (ParamKind × Bool)} {params : List Param}
    (h : d.Sound (kinds.head?.map (·.1))) (hl : layoutFrom d i kinds = .ok params) : WellFormed ⟨params⟩ := by
  induction kinds generalizing d i with
  | nil =>
    rw [layoutFrom, Draft.finish] at hl
    by_cases hb : d.isBroken = true
    · rw [if_pos hb] at hl
      cases hl
    · rw [if_neg hb] at hl
      cases hl
      have hshape := h.shape.and ((h.ranked (by simp)).and (h.optional (by simpa using hb)))
      refine hshape.imp ?_
      rintro a b ⟨⟨-, honce⟩, hrank, hoptional⟩
      exact ⟨hrank, honce, hoptional⟩
  | cons k kinds ih =>
    rw [layoutFrom] at hl
    cases hw : d.write ("a" ++ toString i) k.1 k.2 (kinds.head?.map (·.1)) with
    | ok d' =>
      rw [hw] at hl
      exact ih (Draft.Sound.write h hw) hl
    | error fault =>
      rw [hw] at hl
      cases hl

/-- Parameters that can be written down stand in order. -/
theorem layout_wellFormed {kinds : List (ParamKind × Bool)} {params : List Param} (h : layout kinds = .ok params) :
    WellFormed ⟨params⟩ := by
  refine layoutFrom_wellFormed ⟨?_, ?_, ?_, ?_, ?_, ?_⟩ h <;> simp [Draft.empty]

/-- What is left of them without the first one stands in order, too. -/
theorem layoutBehindFirst_wellFormed {kinds : List (ParamKind × Bool)} {params : List Param}
    (h : layoutBehindFirst kinds = .ok params) : WellFormed ⟨params⟩ := by
  rw [layoutBehindFirst] at h
  cases hl : layout ((.positional, false) :: kinds) with
  | error fault =>
    rw [hl] at h
    cases h
  | ok all =>
    rw [hl] at h
    cases h
    exact (layout_wellFormed hl).tail

end Signature
end Exemplar
