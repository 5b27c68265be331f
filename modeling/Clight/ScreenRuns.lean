import Clight.History
import Clight.Opts
import Clight.PauseBits

/-! The runs of SCREEN: its pause mask, the registration of its timer and the brightness that it
publishes, whatever it is told and in whatever order. -/
namespace Clight

structure ScreenRun where
  screen : Screen
  st : State
  cf : Conf

/-- `receive` is a message or an expiry of the timer, with the outcome of GetEmittedBrightness;
`others` is what other modules write. -/
inductive ScreenEvent
  | receive (m : Msg) (reply : Option ℚ)
  | others (st : State) (cf : Conf)

/-- Reasons for which screen brightness is reset. -/
def ModPause.resetsBr : ModPause → Bool
  | .timeout | .sensor | .autocalib | .inhibit | .contrib => true
  | .display | .lid | .suspend | .clogged => false

namespace ScreenRun

def ctx (s : ScreenRun) : ScreenCtx :=
  { loc := s.screen, st := s.st, cf := s.cf, out := [], calls := [] }

def handled (s : ScreenRun) (m : Msg) (reply : Option ℚ) : ScreenRun :=
  let c := Screen.handle reply m s.ctx
  { screen := c.loc, st := c.st, cf := c.cf }

def next (s : ScreenRun) : ScreenEvent → Option ScreenRun
  | .receive m reply =>
    if Screen.subscribes m || m = .fdUpd .screen then some (s.handled m reply) else none
  | .others st cf =>
    if st.screenBr = s.st.screenBr then some { s with st := st, cf := cf } else none

def start (cf : Conf) : ScreenRun where
  screen := .init
  st := initState cf
  cf := cf

end ScreenRun

def screenRun : Machine ScreenRun ScreenEvent where
  init s := ∃ cf, s = .start cf
  next := ScreenRun.next

namespace Screen
variable {c c' : ScreenCtx}

/-- The timer is registered iff SCREEN is not paused, and the brightness is 0 for as long as a
reason holds that resets it. -/
structure Consistent (c : ScreenCtx) : Prop where
  registered : c.loc.registered = c.loc.paused.isUnpaused
  zero : ∀ r : ModPause, r.resetsBr = true → c.loc.paused.has r = true → c.st.screenBr = 0

theorem Consistent.of_eq (h : Consistent c) (hpaused : c'.loc.paused = c.loc.paused)
    (hreg : c'.loc.registered = c.loc.registered) (hbr : c'.st.screenBr = c.st.screenBr) :
    Consistent c' := by
  constructor
  · rw [hreg, hpaused]
    exact h.registered
  · intro r hr hhas
    rw [hpaused] at hhas
    rw [hbr]
    exact h.zero r hr hhas

/-- SCREEN can be paused for any reason, if one that resets the brightness does so each time. -/
theorem Consistent.pauseScreen (h : Consistent c) (pause : Bool) (reason : ModPause) (reset : Bool)
    (hreset : pause = true → reason.resetsBr = true → reset = true) :
    Consistent (pauseScreen pause reason reset c) := by
  have hchanged := modCheckPause_changed pause reason c.loc.paused
  constructor
  · change (if (modCheckPause pause reason c.loc.paused).2 then !pause else c.loc.registered) =
      (modCheckPause pause reason c.loc.paused).1.isUnpaused
    rw [hchanged, h.registered]
    cases pause with
    | true =>
      -- the mask is not empty any more
      have hset : (modCheckPause true reason c.loc.paused).1.isUnpaused = false :=
        PauseMask.isUnpaused_set _ _
      rw [hset]
      cases c.loc.paused.isUnpaused <;> rfl
    | false =>
      cases hm : c.loc.paused.isUnpaused with
      | true =>
        have hstill : (modCheckPause false reason c.loc.paused).1.isUnpaused = true :=
          PauseMask.isUnpaused_clear hm _
        rw [hstill]
        rfl
      | false => cases (modCheckPause false reason c.loc.paused).1.isUnpaused <;> rfl
  · intro r hr hhas
    change (modCheckPause pause reason c.loc.paused).1.has r = true at hhas
    rw [modCheckPause_has] at hhas
    change (if pause && reset then { c.st with screenBr := 0 } else c.st).screenBr = 0
    by_cases hboth : (pause && reset) = true
    · rw [if_pos hboth]
    · rw [if_neg hboth]
      by_cases hreason : reason = r
      · subst hreason
        rw [if_pos rfl] at hhas
        exact absurd (by rw [hhas, hreset hhas hr]; rfl) hboth
      · rw [if_neg hreason] at hhas
        exact h.zero r hr hhas

theorem Consistent.getScreenBrightness (h : Consistent c) (reply : Option ℚ) :
    Consistent (getScreenBrightness reply c) := by
  unfold Screen.getScreenBrightness
  split_ifs with hrun
  · have hnone : ∀ r : ModPause, c.loc.paused.has r = false := (PauseMask.isUnpaused_iff _).mp hrun
    cases reply with
    | none => exact h.of_eq rfl rfl rfl
    | some br =>
      refine ⟨h.registered, fun r _ hhas => ?_⟩
      have hclear := hnone r
      rw [show c.loc.paused.has r = true from hhas] at hclear
      cases hclear
  · exact h

theorem Consistent.timeoutCallback (h : Consistent c) (old : ℤ) (reset : Bool) :
    Consistent (timeoutCallback old reset c) := by
  have hresume : Consistent (Screen.pauseScreen false .timeout false c) := h.pauseScreen false .timeout false nofun
  unfold Screen.timeoutCallback
  dsimp only
  split_ifs
  · exact h.pauseScreen true .timeout true fun _ _ => rfl
  · exact hresume.of_eq rfl rfl rfl
  · exact hresume

/-- SCREEN starts, and may be paused right away. -/
theorem Consistent.start (hunpaused : c.loc.paused = .unpaused) (old : Option AcState)
    (new : AcState) : Consistent (receiveWaitingState (.upowerUpd old new) c) := by
  have hbegin : Consistent { c with loc := { c.loc with
      stack := unbecome c.loc.stack
      screenFd := setTimeout (atAc c.cf.screen.timeout c.st.acState) 0
      registered := true } } := by
    constructor
    · change true = c.loc.paused.isUnpaused
      rw [hunpaused]
      rfl
    · intro r _ hhas
      change c.loc.paused.has r = true at hhas
      rw [hunpaused, PauseMask.has_unpaused] at hhas
      cases hhas
  exact (hbegin.timeoutCallback (-1) false).pauseScreen _ .contrib true fun _ _ => rfl

theorem Consistent.receive (h : Consistent c) (reply : Option ℚ) (m : Msg) :
    Consistent (receive reply m c) := by
  unfold Screen.receive
  split
  · -- AMBIENT_BR_UPD
    have hclogged := h.pauseScreen (c.st.ambientBr < c.cf.bl.shutterThreshold) .clogged false nofun
    unfold onAmbientBr
    dsimp only
    split_ifs
    · exact hclogged.getScreenBrightness reply
    · exact hclogged
  · -- the timer
    have hread : Consistent { c with loc := { c.loc with screenFd := c.loc.screenFd.read } } :=
      h.of_eq rfl rfl rfl
    exact (hread.getScreenBrightness reply).of_eq rfl rfl rfl
  · exact h.timeoutCallback _ true
  · exact h.pauseScreen _ .display false nofun
  · exact h.pauseScreen _ .sensor true fun _ _ => rfl
  · split_ifs
    · exact h.pauseScreen _ .lid false nofun
    · exact h
  · exact h.pauseScreen _ .suspend false nofun
  · -- SCR_TO_REQ
    unfold onScrToReq
    split
    · exact h
    · rename_i up _ ac _
      have hcf : Consistent { c with cf := { c.cf with screen := { c.cf.screen with
          timeout := Function.update c.cf.screen.timeout ac up.new } } } := h.of_eq rfl rfl rfl
      dsimp only
      split_ifs
      · exact hcf.timeoutCallback _ true
      · exact hcf
  · exact h.pauseScreen _ .autocalib true fun _ _ => rfl
  · exact h.pauseScreen _ .inhibit true fun _ _ => rfl
  · -- CONTRIB_REQ
    rename_i new
    unfold onContribReq
    have hcf : Consistent { c with cf := { c.cf with screen := { c.cf.screen with contrib := new } } } :=
      h.of_eq rfl rfl rfl
    have hpause := hcf.pauseScreen (new = 0) .contrib true fun _ _ => rfl
    dsimp only
    split_ifs
    · exact hpause.of_eq rfl rfl rfl
    · exact hpause
    · exact h
  · exact h

/-! ### What is written to the brightness -/

/-- A step leaves the brightness, or resets it. -/
def KeepsBr (c c' : ScreenCtx) : Prop := c'.st.screenBr = c.st.screenBr ∨ c'.st.screenBr = 0

theorem KeepsBr.trans {c₁ c₂ : ScreenCtx} (h₁ : KeepsBr c c₁) (h₂ : KeepsBr c₁ c₂) : KeepsBr c c₂ := by
  rcases h₂ with h | h
  · exact h₁.imp h.trans h.trans
  · exact .inr h

/-- A step leaves the brightness, or resets it, or stores what GetEmittedBrightness replied, with
an empty mask. No handler touches the mask after that. -/
def WritesBr (reply : Option ℚ) (c c' : ScreenCtx) : Prop :=
  KeepsBr c c' ∨ (c'.loc.paused.isUnpaused = true ∧ reply = some c'.st.screenBr)

theorem keepsBr_pauseScreen (pause : Bool) (reason : ModPause) (reset : Bool) (c : ScreenCtx) :
    KeepsBr c (pauseScreen pause reason reset c) := by
  unfold KeepsBr pauseScreen
  dsimp only
  split_ifs
  · exact .inr rfl
  · exact .inl rfl

theorem keepsBr_timeoutCallback (old : ℤ) (reset : Bool) (c : ScreenCtx) :
    KeepsBr c (timeoutCallback old reset c) := by
  have hresume := keepsBr_pauseScreen false .timeout false c
  unfold timeoutCallback
  dsimp only
  split_ifs
  · exact keepsBr_pauseScreen true .timeout true c
  · exact hresume
  · exact hresume

theorem KeepsBr.measure {c₁ : ScreenCtx} (h : KeepsBr c c₁) (reply : Option ℚ) :
    WritesBr reply c (getScreenBrightness reply c₁) := by
  unfold getScreenBrightness
  split_ifs with hrun
  · cases reply with
    | none => exact .inl h
    | some br => exact .inr ⟨hrun, rfl⟩
  · exact .inl h

/-- Whatever SCREEN receives, it stores a measured brightness only while it is not paused. -/
theorem writesBr_handle (reply : Option ℚ) (m : Msg) (c : ScreenCtx) :
    WritesBr reply c (handle reply m c) := by
  have hsame : KeepsBr c c := .inl rfl
  unfold handle
  split
  · unfold receiveWaitingState
    split
    · have hbegin : KeepsBr c { c with loc := { c.loc with
          stack := unbecome c.loc.stack
          screenFd := setTimeout (atAc c.cf.screen.timeout c.st.acState) 0
          registered := true } } := hsame
      exact .inl ((hbegin.trans (keepsBr_timeoutCallback (-1) false _)).trans
        (keepsBr_pauseScreen _ .contrib true _))
    · exact .inl hsame
  unfold receive
  split
  · have hclogged := keepsBr_pauseScreen (c.st.ambientBr < c.cf.bl.shutterThreshold) .clogged false c
    unfold onAmbientBr
    dsimp only
    split_ifs
    · exact hclogged.measure reply
    · exact .inl hclogged
  · have hread : KeepsBr c { c with loc := { c.loc with screenFd := c.loc.screenFd.read } } := hsame
    exact hread.measure reply
  · exact .inl (keepsBr_timeoutCallback _ true c)
  · exact .inl (keepsBr_pauseScreen _ .display false c)
  · exact .inl (keepsBr_pauseScreen _ .sensor true c)
  · split_ifs
    · exact .inl (keepsBr_pauseScreen _ .lid false c)
    · exact .inl hsame
  · exact .inl (keepsBr_pauseScreen _ .suspend false c)
  · unfold onScrToReq
    split
    · exact .inl hsame
    · dsimp only
      split_ifs
      · exact .inl (keepsBr_timeoutCallback _ true _)
      · exact .inl hsame
  · exact .inl (keepsBr_pauseScreen _ .autocalib true c)
  · exact .inl (keepsBr_pauseScreen _ .inhibit true c)
  · rename_i new
    have hpause := keepsBr_pauseScreen (new = 0) .contrib true
      { c with cf := { c.cf with screen := { c.cf.screen with contrib := new } } }
    unfold onContribReq
    dsimp only
    split_ifs
    · exact .inl hpause
    · exact .inl hpause
    · exact .inl hsame
  · exact .inl hsame

end Screen

namespace ScreenRun
variable {s t : ScreenRun}

/-- SCREEN waits for its first UPOWER_UPD with an empty mask, or has handled it. -/
def Phase (s : ScreenRun) : Prop :=
  (s.screen.stack = [.waitingState] ∧ s.screen.paused = .unpaused) ∨
    (s.screen.stack = [] ∧ Screen.Consistent s.ctx)

theorem Phase.handled (h : Phase s) (m : Msg) (reply : Option ℚ) : Phase (s.handled m reply) := by
  rcases h with ⟨hstack, hpaused⟩ | ⟨hstack, hcons⟩
  · have hhandle : Screen.handle reply m s.ctx = Screen.receiveWaitingState m s.ctx := by
      unfold Screen.handle
      rw [show s.ctx.loc.stack = _ from hstack]
    rcases Screen.handle_waiting reply m (c := s.ctx) hstack hpaused with hsame | ⟨⟨old, new, rfl⟩, hrun, -⟩
    · left
      unfold ScreenRun.handled
      rw [hsame]
      exact ⟨hstack, hpaused⟩
    · right
      refine ⟨hrun, ?_⟩
      have hcons := Screen.Consistent.start (c := s.ctx) hpaused old new
      rw [← hhandle] at hcons
      exact hcons.of_eq rfl rfl rfl
  · right
    have hhandle : Screen.handle reply m s.ctx = Screen.receive reply m s.ctx := by
      unfold Screen.handle
      rw [show s.ctx.loc.stack = _ from hstack]
    have hsuspend : ModPause.suspend ∈ factReasons := by decide
    refine ⟨(Screen.handle_bit reply m (c := s.ctx) hstack hsuspend).2, ?_⟩
    have hafter := hcons.receive reply m
    rw [← hhandle] at hafter
    exact hafter.of_eq rfl rfl rfl

theorem Phase.next (h : Phase s) {e : ScreenEvent} (hn : next s e = some t) : Phase t := by
  cases e with
  | receive m reply =>
    simp only [ScreenRun.next] at hn
    split_ifs at hn
    obtain rfl := Option.some.inj hn
    exact h.handled m reply
  | others st cf =>
    simp only [ScreenRun.next] at hn
    split_ifs at hn with hkept
    obtain rfl := Option.some.inj hn
    exact h.imp id fun hrun => ⟨hrun.1, hrun.2.of_eq rfl rfl hkept⟩

/-- In every state that SCREEN reaches after its first UPOWER_UPD, its timer is registered iff it
is not paused, the brightness is 0 while a reason holds that resets it, and no step writes another
brightness while SCREEN is paused. -/
theorem screen_consistent (hs : screenRun.Reachable s) (hstarted : s.screen.stack = []) :
    Screen.Consistent s.ctx ∧
      ∀ m reply, screenRun.next s (.receive m reply) = some t → Screen.WritesBr reply s.ctx t.ctx := by
  have hphase : Phase s := by
    refine Machine.ReachableBy.invariant (I := Phase) ?_ ?_ hs
    · rintro _ ⟨cf, rfl⟩
      exact .inl ⟨rfl, rfl⟩
    · exact fun _ _ _ hi _ hn => hi.next hn
  refine ⟨?_, fun m reply hn => ?_⟩
  · rcases hphase with ⟨hwait, -⟩ | ⟨-, hcons⟩
    · rw [hstarted] at hwait
      cases hwait
    · exact hcons
  · simp only [screenRun, ScreenRun.next] at hn
    split_ifs at hn
    obtain rfl := Option.some.inj hn
    exact Screen.writesBr_handle reply m s.ctx

/-- SCREEN starts, measures a brightness, and is paused twice: by an inhibition, and by a
contribution of 0. -/
def measureAndPause : List ScreenEvent :=
  let inhibited : State := { initState Conf.default with
    acState := some .onAc, screenBr := 1 / 2, inhibited := true }
  [.others { initState Conf.default with acState := some .onAc } Conf.default,
    .receive (.upowerUpd none .onAc) none, .receive (.ambientBrUpd 0 1) (some (1 / 2)),
    .others inhibited { Conf.default with inh := { Conf.default.inh with inhibitBl := true } },
    .receive (.inhibitUpd false true) none, .receive (.contribReq 0) none]

theorem screen_consistent_paused : ∃ s, screenRun.run (start Conf.default) measureAndPause = some s ∧
    s.screen.paused.has .inhibit = true ∧ Screen.Consistent s.ctx := by
  have hrun : (screenRun.run (start Conf.default) measureAndPause).any
      (fun s => s.screen.stack = [] && s.screen.paused.has .inhibit) = true := by decide +kernel
  obtain ⟨s, hs, hp⟩ := (Option.any_eq_true _ _).mp hrun
  simp only [Bool.and_eq_true, decide_eq_true_eq] at hp
  obtain ⟨hstarted, hinhibited⟩ := hp
  have hreach : screenRun.Reachable s := Machine.reachable_of_run ⟨Conf.default, rfl⟩ hs
  exact ⟨s, hs, hinhibited, (screen_consistent (t := s) hreach hstarted).1⟩

end ScreenRun
end Clight
