import Mathlib.Data.Option.Basic
import Mathlib.Data.List.Basic

/-! Event-driven machines, the states reached through steps that all meet a
condition, and the rule that lifts a step lemma to every such run. -/
universe u v w x

/-- A machine with a partial transition function: `next s e = none` means that
the event `e` cannot happen in `s`. -/
structure Machine (σ : Type u) (ε : Type v) where
  init : σ → Prop
  next : σ → ε → Option σ

namespace Machine
variable {σ : Type u} {ε : Type v} (M : Machine σ ε) {C D : σ → ε → Prop}

/-- States reached from an initial one through steps that all meet `C`. -/
inductive ReachableBy (C : σ → ε → Prop) : σ → Prop
  | init {s : σ} : M.init s → ReachableBy C s
  | step {s s' : σ} {e : ε} :
      ReachableBy C s → C s e → M.next s e = some s' → ReachableBy C s'

def Reachable : σ → Prop := M.ReachableBy fun _ _ => True

def startedIn (P : σ → Prop) : Machine σ ε := { M with init := fun s => M.init s ∧ P s }

def run : σ → List ε → Option σ
  | s, [] => some s
  | s, e :: es => (M.next s e).bind fun s' => run s' es

def RunBy (C : σ → ε → Prop) : σ → List ε → Prop
  | _, [] => True
  | s, e :: es => C s e ∧ ∀ s', M.next s e = some s' → RunBy C s' es

theorem run_append (s : σ) (es es' : List ε) :
    M.run s (es ++ es') = (M.run s es).bind fun s' => M.run s' es' := by
  induction es generalizing s with
  | nil => rfl
  | cons e es ih =>
    cases h : M.next s e with
    | none => simp [run, h]
    | some t => simpa [run, h] using ih t

variable {M}

/-- An invariant that may use that the state before the step is reached too. -/
theorem ReachableBy.induct {I : σ → Prop} (h0 : ∀ s, M.init s → I s)
    (hstep : ∀ s e s', M.ReachableBy C s → I s → C s e → M.next s e = some s' → I s')
    {s : σ} (hs : M.ReachableBy C s) : I s := by
  induction hs with
  | init h => exact h0 _ h
  | step hr hc hn ih => exact hstep _ _ _ hr ih hc hn

/-- The invariant rule: what holds initially and is kept by each allowed step
holds of every state reached. -/
theorem ReachableBy.invariant {I : σ → Prop} (h0 : ∀ s, M.init s → I s)
    (hstep : ∀ s e s', I s → C s e → M.next s e = some s' → I s')
    {s : σ} (hs : M.ReachableBy C s) : I s :=
  hs.induct h0 fun s e s' _ => hstep s e s'

theorem ReachableBy.mono (hCD : ∀ s e, C s e → D s e) {s : σ} (hs : M.ReachableBy C s) :
    M.ReachableBy D s := by
  induction hs with
  | init h => exact .init h
  | step _ hc hn ih => exact .step ih (hCD _ _ hc) hn

theorem ReachableBy.reachable {s : σ} (hs : M.ReachableBy C s) : M.Reachable s :=
  hs.mono fun _ _ _ => trivial

theorem ReachableBy.of_run {s s' : σ} (es : List ε) (hs : M.ReachableBy C s)
    (hC : M.RunBy C s es) (hrun : M.run s es = some s') : M.ReachableBy C s' := by
  -- on the events, with the state they start from and its own history
  induction es generalizing s with
  | nil =>
    cases hrun
    exact hs
  | cons e es ih =>
    obtain ⟨t, ht, hrest⟩ := Option.bind_eq_some_iff.mp hrun
    exact ih (hs.step hC.1 ht) (hC.2 t ht) hrest

/-- An event leads to one state. -/
theorem forall_next_iff {P : σ → Prop} {s s' : σ} {e : ε} (hn : M.next s e = some s') :
    (∀ t, M.next s e = some t → P t) ↔ P s' := by
  constructor
  · intro h
    exact h s' hn
  · intro h t ht
    exact Option.some.inj (hn.symm.trans ht) ▸ h

theorem runBy_cons_iff {s s' : σ} {e : ε} {es : List ε} (hn : M.next s e = some s') :
    M.RunBy C s (e :: es) ↔ C s e ∧ M.RunBy C s' es :=
  and_congr_right fun _ => forall_next_iff hn

/-- Conditions that can be tested can be tested along a run. -/
instance decidableRunBy [∀ s e, Decidable (C s e)] : ∀ (es : List ε) (s : σ), Decidable (M.RunBy C s es)
  | [], _ => isTrue trivial
  | e :: es, s =>
    match h : M.next s e with
    | none => decidable_of_iff (C s e)
        ⟨fun hc => ⟨hc, fun s' hs' => by rw [h] at hs'; cases hs'⟩, And.left⟩
    | some s' =>
      have := decidableRunBy es s'
      decidable_of_iff (C s e ∧ M.RunBy C s' es) (runBy_cons_iff h).symm

theorem runBy_of_forall {es : List ε} (hC : ∀ e ∈ es, ∀ s, C s e) (s : σ) : M.RunBy C s es := by
  induction es generalizing s with
  | nil => trivial
  | cons e es ih =>
    exact ⟨hC e List.mem_cons_self s, fun s' _ => ih (fun e' he' => hC e' (List.mem_cons_of_mem e he')) s'⟩

theorem RunBy.and {s : σ} {es : List ε} (hC : M.RunBy C s es) (hD : M.RunBy D s es) :
    M.RunBy (fun s e => C s e ∧ D s e) s es := by
  induction es generalizing s with
  | nil => trivial
  | cons e es ih => exact ⟨⟨hC.1, hD.1⟩, fun s' hs' => ih (hC.2 s' hs') (hD.2 s' hs')⟩

/-- Two conditions that agree step by step, as long as they hold, hold of the same runs. -/
theorem runBy_iff_of_step {I : σ → Prop} (hstep : ∀ s e s', I s → M.next s e = some s' →
    (C s e ↔ D s e) ∧ (C s e → I s')) {s t : σ} {es : List ε} (hs : I s) (hrun : M.run s es = some t) :
    M.RunBy C s es ↔ M.RunBy D s es := by
  induction es generalizing s with
  | nil => exact Iff.rfl
  | cons e es ih =>
    obtain ⟨s', hs', hrest⟩ := Option.bind_eq_some_iff.mp hrun
    obtain ⟨hiff, hinv⟩ := hstep s e s' hs hs'
    rw [runBy_cons_iff hs', runBy_cons_iff hs']
    -- the rest of the run starts from a state with the invariant
    constructor
    · rintro ⟨hc, hlater⟩
      exact ⟨hiff.mp hc, (ih (hinv hc) hrest).mp hlater⟩
    · rintro ⟨hd, hlater⟩
      have hc := hiff.mpr hd
      exact ⟨hc, (ih (hinv hc) hrest).mpr hlater⟩

/-- What holds in the states of a run, as the conditions of its steps decide it. -/
theorem runBy_after_iff {I P : σ → Prop} (hstep : ∀ s e s', P s → I s → M.next s e = some s' →
    (P s' ↔ C s e) ∧ I s') {s t : σ} {es : List ε} (hP : P s) (hI : I s) (hrun : M.run s es = some t) :
    M.RunBy (fun s e => ∀ s', M.next s e = some s' → P s') s es ↔ M.RunBy C s es := by
  refine runBy_iff_of_step (I := fun s => P s ∧ I s) ?_ ⟨hP, hI⟩ hrun
  rintro s e s' ⟨hp, hi⟩ hn
  obtain ⟨hiff, hi'⟩ := hstep s e s' hp hi hn
  refine ⟨(forall_next_iff hn).trans hiff, fun hafter => ?_⟩
  exact ⟨hafter s' hn, hi'⟩

/-- What each step decides for good is decided by the conditions along the run. -/
theorem iff_runBy_of_step {I P : σ → Prop} (hstep : ∀ s e s', I s → M.next s e = some s' →
    (P s' ↔ P s ∧ C s e) ∧ I s') {s t : σ} {es : List ε} (hs : I s) (hrun : M.run s es = some t) :
    P t ↔ P s ∧ M.RunBy C s es := by
  induction es generalizing s with
  | nil =>
    cases hrun
    exact ⟨fun h => ⟨h, trivial⟩, And.left⟩
  | cons e es ih =>
    obtain ⟨s', hs', hrest⟩ := Option.bind_eq_some_iff.mp hrun
    obtain ⟨hiff, hinv⟩ := hstep s e s' hs hs'
    rw [ih hinv hrest, hiff, runBy_cons_iff hs', and_assoc]

theorem reachable_of_run {s s' : σ} {es : List ε} (h0 : M.init s)
    (hrun : M.run s es = some s') : M.Reachable s' :=
  ReachableBy.of_run es (.init h0) (runBy_of_forall (fun _ _ _ => trivial) s) hrun

section simulation
variable {τ : Type w} {η : Type x} (A : Machine τ η) {R : σ → τ → Prop}

/-- Steps that another machine can follow make runs that it can follow. -/
theorem simulates (hstep : ∀ s e s' a, R s a → C s e → M.next s e = some s' →
      ∃ fs a', A.run a fs = some a' ∧ R s' a')
    {s s' : σ} {es : List ε} {a : τ} (hR : R s a) (hC : M.RunBy C s es) (hrun : M.run s es = some s') :
    ∃ fs a', A.run a fs = some a' ∧ R s' a' := by
  induction es generalizing s a with
  | nil =>
    obtain rfl := Option.some.inj hrun
    exact ⟨[], a, rfl, hR⟩
  | cons e es ih =>
    obtain ⟨s₁, hs₁, hrest⟩ := Option.bind_eq_some_iff.mp hrun
    obtain ⟨fs, a₁, hfs, hR₁⟩ := hstep s e s₁ a hR hC.1 hs₁
    obtain ⟨fs', a', hfs', hR'⟩ := ih hR₁ (hC.2 s₁ hs₁) hrest
    refine ⟨fs ++ fs', a', ?_, hR'⟩
    rw [A.run_append, hfs]
    exact hfs'

end simulation

end Machine
