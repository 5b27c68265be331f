import Clight.Mailbox

/-! A client that mirrors the properties of a source. The source announces its changes
through a mailbox, and the client reads a property again whenever it hears of it; an
announcement may be promised first and made later. -/
universe u v w x y

structure Watched (σ : Type u) (μ : Type w) (π : Type x) (ν : π → Type y) where
  source : σ
  box : List μ
  mirror : (p : π) → ν p

namespace Watched
variable {σ : Type u} {ε : Type v} {μ : Type w} {π : Type x} {ν : π → Type y}
variable (S : Source σ ε μ) (read : (p : π) → σ → ν p) (topic : μ → Option π)
variable (promised : σ → π → Prop)

/-- A step that announces the property, promises to, or leaves it as it was with no
promise to make good. -/
def Tells (s s' : σ) (ms : List μ) (p : π) : Prop :=
  (∃ m ∈ ms, topic m = some p) ∨ promised s' p ∨ read p s' = read p s ∧ ¬promised s p

/-- The mirror shows the property, or the client is going to hear of it. -/
def Fresh (s : Watched σ μ π ν) (p : π) : Prop :=
  (∃ m ∈ s.box, topic m = some p) ∨ promised s.source p ∨ s.mirror p = read p s.source

variable {read topic promised}

/-- A step of the source that tells of a property keeps the client fresh. -/
theorem Fresh.source {s : Watched σ μ π ν} {s' : σ} {ms : List μ} {p : π}
    (h : Fresh read topic promised s p) (ht : Tells read topic promised s.source s' ms p) :
    Fresh read topic promised { s with source := s', box := s.box ++ ms } p := by
  rcases ht with ⟨m, hm, hp⟩ | hp | ⟨hread, hnone⟩
  · exact .inl ⟨m, List.mem_append_right _ hm, hp⟩
  · exact .inr (.inl hp)
  · -- unchanged, and nothing was promised before
    rcases h with ⟨m, hm, hp⟩ | hp | hmirror
    · exact .inl ⟨m, List.mem_append_left _ hm, hp⟩
    · exact absurd hp hnone
    · exact .inr (.inr (hmirror.trans hread.symm))

/-- Once nothing is in flight and nothing is promised, the mirror is exact. -/
theorem Fresh.exact {s : Watched σ μ π ν} {p : π} (h : Fresh read topic promised s p)
    (hbox : s.box = []) (hp : ¬promised s.source p) : s.mirror p = read p s.source := by
  rcases h with ⟨m, hm, -⟩ | hprom | hmirror
  · rw [hbox] at hm
    cases hm
  · exact absurd hprom hp
  · exact hmirror

variable [DecidableEq π]

variable (read topic) in
/-- A message that names a property makes the client read it. -/
def refresh (s : σ) (m : μ) (mirror : (p : π) → ν p) (p : π) : ν p :=
  if topic m = some p then read p s else mirror p

variable (read topic) in
/-- The source with a client behind a mailbox. The client starts by reading everything. -/
def machine : Machine (Watched σ μ π ν) (BoxedEvent ε) where
  init s := S.init s.source ∧ s.box = [] ∧ ∀ p, s.mirror p = read p s.source
  next s
    | .source e => (S.next s.source e).map fun r => { s with source := r.1, box := s.box ++ r.2 }
    | .deliver => match s.box with
      | [] => none
      | m :: box => some { s with box := box, mirror := refresh read topic s.source m s.mirror }

theorem Fresh.deliver {s : Watched σ μ π ν} {m : μ} {box : List μ} (hbox : s.box = m :: box) {p : π}
    (h : Fresh read topic promised s p) : Fresh read topic promised
      { s with box := box, mirror := refresh read topic s.source m s.mirror } p := by
  by_cases hm : topic m = some p
  · exact .inr (.inr (if_pos hm))
  · rcases h with ⟨m', hm', hp⟩ | hp | hmirror
    · rw [hbox] at hm'
      rcases List.mem_cons.mp hm' with rfl | hm'
      · exact absurd hp hm
      · exact .inl ⟨m', hm', hp⟩
    · exact .inr (.inl hp)
    · exact .inr (.inr ((if_neg hm).trans hmirror))

/-- If every step tells of a property, the client is fresh in every state reached. -/
theorem fresh_of_reachable {C : σ → ε → Prop} {p : π}
    (htells : ∀ s e s' ms, C s e → S.next s e = some (s', ms) → Tells read topic promised s s' ms p)
    {s : Watched σ μ π ν}
    (hs : (machine S read topic).ReachableBy (fun s e => ∀ e', e = .source e' → C s.source e') s) :
    Fresh read topic promised s p := by
  refine hs.invariant (I := fun s => Fresh read topic promised s p) ?_ ?_
  · intro s h0
    exact .inr (.inr (h0.2.2 p))
  · intro s e s' hfresh hC hn
    cases e with
    | source e' =>
      obtain ⟨⟨t, ms⟩, ht, rfl⟩ := Option.map_eq_some_iff.mp hn
      exact hfresh.source (htells _ _ _ _ (hC e' rfl) ht)
    | deliver =>
      obtain ⟨t, box, mirror⟩ := s
      cases box with
      | nil => cases hn
      | cons m box =>
        obtain rfl := Option.some.inj hn
        exact hfresh.deliver rfl

end Watched
