import Clight.BacklightFrame
import Clight.HoldSet
import Clight.Opts

/-! The pause mask over any sequence of pauses and resumes: it holds each reason whose last call was a
pause, and BACKLIGHT is paused as long as it holds one. -/
namespace Clight
open HoldSet

/-- mod_check_pause as a component that is asked to hold a reason or to release it. -/
def checkPause (r : Request ModPause) (m : PauseMask) : PauseMask × Bool := modCheckPause r.1 r.2 m

/-- The reasons in a mask. -/
def PauseMask.reasons (m : PauseMask) : Set ModPause := { r | m.has r = true }

theorem PauseMask.nonempty_reasons_iff (m : PauseMask) :
    m.reasons.Nonempty ↔ m.isUnpaused = false := by
  constructor
  · rintro ⟨r, hr⟩
    exact not_isUnpaused_of_has hr
  · intro hm
    by_contra hempty
    have hnone : ∀ r, m.has r = false := fun r => Bool.eq_false_iff.mpr fun hr => hempty ⟨r, hr⟩
    rw [(isUnpaused_iff m).mpr hnone] at hm
    cases hm

theorem PauseMask.reasons_unpaused : PauseMask.unpaused.reasons = ∅ := by
  apply Set.eq_empty_iff_forall_notMem.mpr
  intro r hr
  exact absurd ((has_unpaused r).symm.trans hr) Bool.false_ne_true

/-- A call adds its reason to the mask, or takes it away. -/
theorem reasons_checkPause (r : Request ModPause) (m : PauseMask) :
    (checkPause r m).1.reasons = request r m.reasons := by
  ext q
  have hmem : q ∈ (checkPause r m).1.reasons ↔ (if r.2 = q then r.1 else m.has q) = true := by
    rw [← modCheckPause_has]
    exact Iff.rfl
  rw [hmem]
  unfold request
  by_cases hq : r.2 = q
  · subst hq
    cases hb : r.1 with
    | true => simp
    | false => simp
  · have hne : q ≠ r.2 := fun h => hq h.symm
    cases hb : r.1 with
    | true => simp [hq, hne, PauseMask.reasons]
    | false => simp [hq, hne, PauseMask.reasons]

theorem tracks_checkPause : Tracks checkPause PauseMask.reasons where
  set := reasons_checkPause
  changed r m := by
    have hchanged : (checkPause r m).2 = (m.isUnpaused != (checkPause r m).1.isUnpaused) :=
      modCheckPause_changed r.1 r.2 m
    rw [hchanged, PauseMask.nonempty_reasons_iff, PauseMask.nonempty_reasons_iff]
    cases m.isUnpaused with
    | true => simp
    | false => simp

namespace Backlight

/-- pause_mod and resume_mod, called one after another. -/
def pauseCalls (rs : List (Request ModPause)) (c : BlCtx) : BlCtx :=
  rs.foldl (fun c r => pauseIf r.1 r.2 c) c

theorem pauseCalls_append (rs : List (Request ModPause)) (r : Request ModPause) (c : BlCtx) :
    pauseCalls (rs ++ [r]) c = pauseIf r.1 r.2 (pauseCalls rs c) := by
  unfold pauseCalls
  rw [List.foldl_append]
  rfl

theorem pauseIf_paused (r : Request ModPause) (c : BlCtx) :
    (pauseIf r.1 r.2 c).loc.paused = (checkPause r c.loc.paused).1 := by
  unfold pauseIf checkPause
  cases r.1 with
  | true => rfl
  | false => rfl

/-- BACKLIGHT's mask is the one that mod_check_pause leaves, and its stack goes with it. -/
theorem pauseCalls_running {c : BlCtx} (h : c.loc.Running) (hm : c.loc.paused = .unpaused)
    (rs : List (Request ModPause)) :
    (pauseCalls rs c).loc.Running ∧ (pauseCalls rs c).loc.paused = after checkPause .unpaused rs := by
  induction rs using List.reverseRecOn with
  | nil => exact ⟨h, hm⟩
  | append_singleton rs r ih =>
    have hframe : Frame [r.2] (fun _ => True) (pauseCalls rs c) (pauseIf r.1 r.2 (pauseCalls rs c)) :=
      frame_pauseIf List.mem_cons_self r.1 _
    rw [pauseCalls_append, after_append, pauseIf_paused, ih.2]
    exact ⟨hframe.running ih.1, rfl⟩

/-- The mask is the set of the reasons whose last call was a pause; a call returns true exactly when
that set becomes empty or stops being so, so that these calls pause and resume in turn; and BACKLIGHT
has its paused receiver, and no bl_fd, exactly while the set is not empty. -/
theorem pauseCalls_reasons {c : BlCtx} (h : c.loc.Running) (hm : c.loc.paused = .unpaused)
    (rs : List (Request ModPause)) :
    (after checkPause .unpaused rs).reasons = held rs ∧
      (∀ r, (checkPause r (after checkPause .unpaused rs)).2 = true ↔
        ((held rs).Nonempty ↔ ¬ (held (rs ++ [r])).Nonempty)) ∧
      Alternates true (reports checkPause .unpaused rs) ∧
      ((held rs).Nonempty → (pauseCalls rs c).loc.stack = [.paused] ∧
        (pauseCalls rs c).loc.blRegistered = false) ∧
      (¬ (held rs).Nonempty → (pauseCalls rs c).loc.stack = [] ∧
        (pauseCalls rs c).loc.blRegistered = true) := by
  have hheld : ∀ rs, (after checkPause .unpaused rs).reasons = held rs :=
    tracks_checkPause.after_eq PauseMask.reasons_unpaused
  have hunpaused : (after checkPause .unpaused rs).isUnpaused = false ↔ (held rs).Nonempty := by
    rw [← hheld, PauseMask.nonempty_reasons_iff]
  obtain ⟨hrun, hmask⟩ := pauseCalls_running h hm rs
  -- the mask is the set, and the stack and bl_fd go with the mask
  refine ⟨hheld rs, fun r => ?_, ?_, fun hne => ?_, fun hempty => ?_⟩
  · rw [tracks_checkPause.changed, ← after_append, hheld, hheld]
  · apply tracks_checkPause.reports_alternate
    rw [PauseMask.reasons_unpaused]
    exact iff_of_true rfl Set.not_nonempty_empty
  · rw [hrun.stack, hrun.registered, hmask, hunpaused.mpr hne]
    exact ⟨rfl, rfl⟩
  · have hnone : (after checkPause .unpaused rs).isUnpaused = true :=
      (Bool.eq_false_or_eq_true _).resolve_right fun h' => hempty (hunpaused.mp h')
    rw [hrun.stack, hrun.registered, hmask, hnone]
    exact ⟨rfl, rfl⟩

/-- BACKLIGHT once it has started, with no reason to pause. -/
def resumed : BlCtx where
  loc := { init with stack := [], blRegistered := true }
  st := initState .default
  cf := .default
  out := []
  calls := []

/-- Two overlapping reasons, one of them given twice and taken back once. -/
def overlapping : List (Request ModPause) := [(true, .lid), (true, .display), (true, .lid), (false, .lid)]

theorem pauseCalls_overlapping : (pauseCalls overlapping resumed).loc.stack = [.paused] ∧
    (pauseCalls overlapping resumed).loc.blRegistered = false := by
  have hlast : last ModPause.display overlapping = some true := by decide
  exact (pauseCalls_reasons (c := resumed) ⟨rfl, rfl⟩ rfl overlapping).2.2.2.1 ⟨.display, hlast⟩

end Backlight
end Clight
