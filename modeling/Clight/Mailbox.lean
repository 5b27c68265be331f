import Clight.Machine

/-! A source of messages and a handler that receives them in order. With a mailbox in
between, every run is seen, once the mailbox is drained, as a run in which each message
is handled as soon as it is published. -/
universe u v w x

/-- A partial transition function that also publishes messages. -/
structure Source (σ : Type u) (ε : Type v) (μ : Type w) where
  init : σ → Prop
  next : σ → ε → Option (σ × List μ)

structure Boxed (σ : Type u) (μ : Type w) (β : Type x) where
  source : σ
  box : List μ
  handler : β

inductive BoxedEvent (ε : Type v)
  | source (e : ε)
  | deliver

namespace Source
variable {σ : Type u} {ε : Type v} {μ : Type w} {β : Type x}
variable (S : Source σ ε μ) (h : β → μ → β) (b₀ : β)

/-- The source with a handler that never lags behind. -/
def sync : Machine (σ × β) ε where
  init s := S.init s.1 ∧ s.2 = b₀
  next s e := (S.next s.1 e).map fun r => (r.1, r.2.foldl h s.2)

/-- The source with a mailbox before the handler. -/
def boxed : Machine (Boxed σ μ β) (BoxedEvent ε) where
  init s := S.init s.source ∧ s.box = [] ∧ s.handler = b₀
  next s
    | .source e => (S.next s.source e).map fun r => { s with source := r.1, box := s.box ++ r.2 }
    | .deliver => match s.box with
      | [] => none
      | m :: box => some { s with box := box, handler := h s.handler m }

/-- The state once all that is in flight has been handled. -/
def drained (s : Boxed σ μ β) : σ × β := (s.source, s.box.foldl h s.handler)

theorem drained_of_empty {s : Boxed σ μ β} (hs : s.box = []) : drained h s = (s.source, s.handler) := by
  rw [drained, hs, List.foldl_nil]

variable {S h b₀}

theorem sync_next {s s' : σ × β} {e : ε} (hn : (S.sync h b₀).next s e = some s') :
    ∃ t ms, S.next s.1 e = some (t, ms) ∧ s' = (t, ms.foldl h s.2) := by
  obtain ⟨r, hr, rfl⟩ := Option.map_eq_some_iff.mp hn
  exact ⟨r.1, r.2, hr, rfl⟩

/-- Publishing through the mailbox is publishing to the drained handler, and a
delivery does not show. -/
theorem boxed_next {s s' : Boxed σ μ β} {e : BoxedEvent ε}
    (hn : (S.boxed h b₀).next s e = some s') :
    (∃ e', e = .source e' ∧ (S.sync h b₀).next (drained h s) e' = some (drained h s')) ∨
      e = .deliver ∧ drained h s' = drained h s := by
  cases e with
  | source e' =>
    left
    obtain ⟨r, hr, rfl⟩ := Option.map_eq_some_iff.mp hn
    refine ⟨e', rfl, Option.map_eq_some_iff.mpr ⟨r, hr, ?_⟩⟩
    simp only [drained, List.foldl_append]
  | deliver =>
    right
    obtain ⟨t, box, b⟩ := s
    cases box with
    | nil => cases hn
    | cons m box =>
      obtain rfl := Option.some.inj hn
      exact ⟨rfl, rfl⟩

/-- The boxed machine refines the synchronous one, under conditions on the source. -/
theorem boxed_refines_sync {C : σ → ε → Prop} {s : Boxed σ μ β}
    (hs : (S.boxed h b₀).ReachableBy (fun s e => ∀ e', e = .source e' → C s.source e') s) :
    (S.sync h b₀).ReachableBy (fun s e => C s.1 e) (drained h s) := by
  -- each step of the boxed machine is one of the synchronous machine, or none
  induction hs with
  | init h0 => exact .init ⟨h0.1, by rw [drained_of_empty h h0.2.1]; exact h0.2.2⟩
  | step _ hc hn ih =>
    rcases boxed_next hn with ⟨e', rfl, hn'⟩ | ⟨-, he⟩
    · exact .step ih (hc e' rfl) hn'
    · rw [he]
      exact ih

end Source
