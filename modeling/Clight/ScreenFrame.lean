import Clight.Screen

/-! What SCREEN leaves alone: it writes the screen brightness and its own section of
the configuration, and publishes screen brightnesses. -/
namespace Clight.Screen

structure Frame (c c' : ScreenCtx) : Prop where
  st : ∃ br, c'.st = { c.st with screenBr := br }
  cf : ∃ screen, c'.cf = { c.cf with screen := screen }
  out : ∀ m ∈ c'.out, m ∈ c.out ∨ ∃ old new, m = .screenBrUpd old new

namespace Frame
variable {c c₁ c₂ : ScreenCtx}

theorem refl (c : ScreenCtx) : Frame c c := ⟨⟨_, rfl⟩, ⟨_, rfl⟩, fun _ => .inl⟩

theorem trans (h₁ : Frame c c₁) (h₂ : Frame c₁ c₂) : Frame c c₂ := by
  obtain ⟨br₁, hst₁⟩ := h₁.st
  obtain ⟨br₂, hst₂⟩ := h₂.st
  obtain ⟨scr₁, hcf₁⟩ := h₁.cf
  obtain ⟨scr₂, hcf₂⟩ := h₂.cf
  exact ⟨⟨br₂, by rw [hst₂, hst₁]⟩, ⟨scr₂, by rw [hcf₂, hcf₁]⟩,
    fun m hm => (h₂.out m hm).elim (h₁.out m) .inr⟩

theorem ite {b : Prop} [Decidable b] (h₁ : Frame c c₁) (h₂ : Frame c c₂) :
    Frame c (if b then c₁ else c₂) := by
  split
  exacts [h₁, h₂]

theorem screenBrUpd (old new : ℚ) (c : ScreenCtx) : Frame c (c.publish (.screenBrUpd old new)) := by
  refine ⟨⟨_, rfl⟩, ⟨_, rfl⟩, fun m hm => ?_⟩
  rcases List.mem_append.mp hm with hm | hm
  · exact .inl hm
  · exact .inr ⟨old, new, List.mem_singleton.mp hm⟩

end Frame

theorem frame_local (l : Screen) (c : ScreenCtx) : Frame c { c with loc := l } :=
  ⟨⟨_, rfl⟩, ⟨_, rfl⟩, fun _ => .inl⟩

theorem frame_conf (screen : ScreenConf) (c : ScreenCtx) :
    Frame c { c with cf := { c.cf with screen := screen } } :=
  ⟨⟨_, rfl⟩, ⟨_, rfl⟩, fun _ => .inl⟩

theorem frame_pauseScreen (pause : Bool) (reason : ModPause) (b : Bool) (c : ScreenCtx) :
    Frame c (pauseScreen pause reason b c) := by
  refine ⟨?_, ⟨_, rfl⟩, fun _ => .inl⟩
  unfold pauseScreen
  dsimp only
  split
  · exact ⟨0, rfl⟩
  · exact ⟨c.st.screenBr, rfl⟩

theorem frame_getScreenBrightness (reply : Option ℚ) (c : ScreenCtx) :
    Frame c (getScreenBrightness reply c) := by
  unfold getScreenBrightness
  refine Frame.ite ?_ (.refl c)
  cases reply with
  | none => exact frame_local _ c
  | some br =>
    have hset : Frame c { c with
        loc := { c.loc with msgOld := c.st.screenBr, msgNew := br }
        st := { c.st with screenBr := br } } := ⟨⟨br, rfl⟩, ⟨_, rfl⟩, fun _ => .inl⟩
    exact hset.trans (.screenBrUpd _ _ _)

theorem frame_timeoutCallback (old : ℤ) (reset : Bool) (c : ScreenCtx) :
    Frame c (timeoutCallback old reset c) := by
  have hp := frame_pauseScreen false .timeout false c
  exact (frame_pauseScreen true .timeout true c).ite ((hp.trans (frame_local _ _)).ite hp)

theorem timeoutCallback_cf (old : ℤ) (reset : Bool) (c : ScreenCtx) :
    (timeoutCallback old reset c).cf = c.cf := by
  unfold timeoutCallback
  dsimp only
  split_ifs <;> rfl

theorem timeoutCallback_out (old : ℤ) (reset : Bool) (c : ScreenCtx) :
    (timeoutCallback old reset c).out = c.out := by
  unfold timeoutCallback
  dsimp only
  split_ifs <;> rfl

theorem timeoutCallback_stack (old : ℤ) (reset : Bool) (c : ScreenCtx) :
    (timeoutCallback old reset c).loc.stack = c.loc.stack := by
  unfold timeoutCallback
  dsimp only
  split_ifs <;> rfl

theorem frame_receiveWaitingState (m : Msg) (c : ScreenCtx) :
    Frame c (receiveWaitingState m c) := by
  unfold receiveWaitingState
  split
  · exact (frame_local _ c).trans ((frame_timeoutCallback (-1) false _).trans
      (frame_pauseScreen _ .contrib true _))
  · exact .refl c

theorem frame_onAmbientBr (reply : Option ℚ) (c : ScreenCtx) : Frame c (onAmbientBr reply c) := by
  have hp := frame_pauseScreen (decide (c.st.ambientBr < c.cf.bl.shutterThreshold)) .clogged false c
  exact (hp.trans (frame_getScreenBrightness reply _)).ite hp

theorem frame_onTimer (reply : Option ℚ) (c : ScreenCtx) : Frame c (onTimer reply c) :=
  (frame_local _ c).trans ((frame_getScreenBrightness reply _).trans (frame_local _ _))

theorem frame_onScrToReq (up : TimeoutUpd) (c : ScreenCtx) : Frame c (onScrToReq up c) := by
  unfold onScrToReq
  split
  · exact .refl c
  · exact ((frame_conf _ c).trans (frame_timeoutCallback _ true _)).ite (frame_conf _ c)

theorem frame_onContribReq (new : ℚ) (c : ScreenCtx) : Frame c (onContribReq new c) := by
  have hp := (frame_conf { c.cf.screen with contrib := new } c).trans
    (frame_pauseScreen (decide (new = 0)) .contrib true _)
  exact ((hp.trans (.screenBrUpd _ _ _)).ite hp).ite (.refl c)

/-- Whatever SCREEN receives, it stays in its frame. -/
theorem frame_handle (reply : Option ℚ) (m : Msg) (c : ScreenCtx) : Frame c (handle reply m c) := by
  unfold handle
  split
  · exact frame_receiveWaitingState m c
  · unfold receive
    split
    · exact frame_onAmbientBr reply c
    · exact frame_onTimer reply c
    · exact frame_timeoutCallback _ true c
    · exact frame_pauseScreen _ .display false c
    · exact frame_pauseScreen _ .sensor true c
    · exact (frame_pauseScreen _ .lid false c).ite (.refl c)
    · exact frame_pauseScreen _ .suspend false c
    · exact frame_onScrToReq _ c
    · exact frame_pauseScreen _ .autocalib true c
    · exact frame_pauseScreen _ .inhibit true c
    · exact frame_onContribReq _ c
    · exact .refl c

end Clight.Screen
