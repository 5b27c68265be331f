import Clight.Bus
import Mathlib

/-! Whatever the modules of Clight tell each other comes to an end: a receipt is worth more than all that
it publishes, so that a message from outside leads to so many receipts and no more. -/
namespace Clight

namespace BusMsg

/-- Receipts that follow once a message is published, at most. -/
def cost : BusMsg → ℕ
  | shared m => m.cost
  | locationReq _ | locationReqStatic => 65
  | eventReq _ | pmUpd _ => 1
  | pmReq _ => 2

/-- The start of the main loop costs most. -/
theorem cost_le (m : BusMsg) : m.cost ≤ 291 := by
  cases m with
  | shared m =>
    unfold cost Msg.cost
    dsimp only
    split <;> decide
  | locationReq | locationReqStatic | eventReq | pmReq | pmUpd =>
    unfold cost
    dsimp only
    decide

def total (ms : List BusMsg) : ℕ := (ms.map cost).sum

theorem total_shared (ms : List Msg) : total (ms.map shared) = spent ms := by
  unfold total spent
  rw [List.map_map]
  rfl

theorem total_append (ms ms' : List BusMsg) : total (ms ++ ms') = total ms + total ms' := by
  unfold total
  rw [List.map_append, List.sum_append]

end BusMsg

namespace BusMod

def worth : BusMod → BusMsg → ℕ
  | backlight, .shared m => Backlight.worth m
  | screen, .shared m => Screen.worth m
  | keyboard, .shared m => Keyboard.worth m
  | dimmer, .shared m | dpms, .shared m => Idle.worth m
  | gamma, .shared m => Gamma.worth m
  | display, .shared (.displayReq _ _) => 25
  | inhibit, .shared (.inhibitReq _ _) | inhibit, .shared .inhibitReqStatic => 18
  | pm, .shared (.inhibitUpd _ _) => 3
  | pm, .pmReq _ | pm, .shared (.systemUpd .loopStopped) => 2
  | pm, .shared (.suspendReq _ _) => 19
  | upower, .shared (.systemUpd .loopStarted) => 202
  | upower, .shared (.upowerReq _) | upower, .shared .upowerReqStatic => 67
  | upower, .shared (.lidReq _) | upower, .shared .lidReqStatic => 13
  | daytime, .shared (.locUpd _) => 63
  | location, .shared (.systemUpd .loopStarted) => 66
  | location, .locationReq _ | location, .locationReqStatic => 65
  | _, _ => 1

/-- The start of the main loop is worth most, to UPOWER. -/
theorem worth_bounds (i : BusMod) (m : BusMsg) : 0 < i.worth m ∧ i.worth m ≤ 202 := by
  unfold worth
  split
  · unfold Backlight.worth
    split <;> decide
  · unfold Screen.worth
    split <;> decide
  · unfold Keyboard.worth
    split <;> decide
  · unfold Idle.worth
    split <;> decide
  · unfold Idle.worth
    split <;> decide
  · unfold Gamma.worth
    split <;> decide
  all_goals decide

theorem worth_pos (i : BusMod) (m : BusMsg) : 0 < i.worth m := (i.worth_bounds m).1

theorem sum_eq (f : BusMod → ℕ) : ∑ i, f i =
    f .backlight + (f .screen + (f .keyboard + (f .dimmer + (f .dpms + (f .gamma + (f .display +
      (f .inhibit + (f .pm + (f .upower + (f .daytime + (f .location + (f .wizard + (f .interface +
        (f .bus + f .signal)))))))))))))) := rfl

end BusMod

namespace Program

/-- What all who have subscribed to a message may do of it. -/
theorem heard (s : Program) (m : BusMsg) :
    (∑ i : BusMod, if s.subscribes i m then i.worth m else 0) ≤ m.cost := by
  rw [BusMod.sum_eq]
  -- WIZARD hears of AMBIENT_BR_UPD once it has asked for it
  cases hamb : s.wizard.ambSubscribed
  all_goals
    rcases m with ((_ | _) | _) | _ | _ | (_ | _) | _ | _ <;>
      simp [subscribes, subscribesTo, BusMod.worth, BusMsg.cost, Msg.cost, BusMsg.topic, Msg.topic,
        Interface.subscribed, Backlight.subscribes, Backlight.worth, Screen.subscribes, Screen.worth,
        Keyboard.subscribes, Keyboard.worth, Idle.subscribes, Idle.worth, dimmerConf, dpmsConf,
        Gamma.subscribes, Gamma.worth, Upower.subscribes, hamb]

end Program

open Ctx (Spends)

namespace Display

theorem spends_dimmerPublishBlReq (pct : ℚ) (trans : DimTrans) (c : DisplayCtx) :
    Spends 10 c (dimmerPublishBlReq pct trans c) :=
  (Spends.of_out (n := 0) rfl).trans (.publish .blReqDimmer _)

theorem spends_leaveDimmed (noBacklight : Bool) (c : DisplayCtx) :
    Spends 10 c (leaveDimmed noBacklight c) := by
  have hset : Spends 0 c { c with st := c.st.clearDisplay displayDimmed } := .of_out rfl
  have hreq := hset.trans (spends_dimmerPublishBlReq c.loc.oldPct .exit _)
  exact Spends.ite (Spends.ite (hreq.trans (k := 0) (.of_out rfl)) (hset.mono (Nat.zero_le 10))) (.refl c)

/-- A dimmed display asks for its backlight, and a display that lights up again gives it back. -/
theorem spends_change (new : ℤ) (noBacklight : Bool) (c : DisplayCtx) :
    Spends 10 c (change new noBacklight c) := by
  have hset (st : State) : Spends 0 c { c with st := st } := .of_out rfl
  have hcall (st : State) (k : DisplayCall) : Spends 0 c (Ctx.call k { c with st := st }) := .of_out rfl
  have hreq (st : State) (l : Display) :
      Spends 10 c (dimmerPublishBlReq c.cf.dim.dimmedPct .enter { c with st := st, loc := l }) :=
    (Spends.of_out (n := 0) rfl).trans (k := 10) (spends_dimmerPublishBlReq _ .enter _)
  have hoff : Spends 0 c (leaveOff noBacklight c) := Spends.ite (Spends.ite (hset _) (hcall _ _)) (.refl c)
  have hlit : Spends 10 c (leaveDimmed noBacklight (leaveOff noBacklight c)) :=
    hoff.trans (k := 10) (spends_leaveDimmed noBacklight _)
  have hdim : Spends 10 c (onDimmed noBacklight c) :=
    Spends.ite (hreq _ _) ((hset _).mono (Nat.zero_le 10))
  have hdark : Spends 10 c (onOff noBacklight c) :=
    Spends.ite ((hset _).mono (Nat.zero_le 10)) ((hcall _ _).mono (Nat.zero_le 10))
  exact hdim.ite (hdark.ite hlit)

theorem spends_onDisplayReq (new : ℤ) (noBacklight : Bool) (c : DisplayCtx) :
    Spends 24 c (onDisplayReq new noBacklight c) := by
  have hpub := (spends_change new noBacklight c).trans
    (.publish (.displayUpd c.st.displayState (change new noBacklight c).st.displayState) _)
  exact Spends.ite (hpub.trans (k := 0) (.of_out rfl)) (.refl c)

end Display

theorem Inhibit.spends_onInhibitReq (new force : Bool) (c : InhibitCtx) :
    Spends 17 c (onInhibitReq new force c) := by
  have hfree (l : ℤ) : Spends 17 c { c with loc := l } := .of_out rfl
  have hpub (l : ℤ) (st : State) : Spends 17 c
      (Ctx.publish (.inhibitUpd c.st.inhibited new) { c with loc := l, st := st }) :=
    (Spends.of_out (n := 0) rfl).trans (.publish (.inhibitUpd c.st.inhibited new) _)
  unfold onInhibitReq
  dsimp only
  split_ifs
  all_goals first | exact hfree _ | exact hpub _ _

theorem Pm.spends_onSuspendReq (new force : Bool) (c : PmCtx) : Spends 18 c (onSuspendReq new force c) := by
  have hfree (l : Pm) : Spends 18 c { c with loc := l } := .of_out rfl
  have hannounce (l : Pm) (st : State) : Spends 18 c
      (announce (.suspendUpd c.st.suspended new) new { c with loc := l, st := st }) :=
    Spends.ite (.of_out rfl)
      ((Spends.of_out (n := 0) rfl).trans (.publish (.suspendUpd c.st.suspended new) _))
  unfold onSuspendReq
  dsimp only
  split_ifs
  all_goals first | exact hfree _ | exact hannounce _ _

theorem PmLock.length_receive_le (l : PmLock) (e : PmLockEvent) : (l.receive e).2.length ≤ 1 := by
  have hreq (r : LockReplies) (new : Bool) : (l.onPmReq r new).2.length ≤ 1 := by
    unfold onPmReq publishPmMsg
    dsimp only
    split_ifs <;> simp
  unfold receive
  split
  all_goals
    split_ifs
    · exact hreq ..
    · exact Nat.zero_le 1

namespace Upower

theorem spends_onUpowerChange (r : UpowerReplies) (c : UpowerCtx) : Spends 98 c (onUpowerChange r c) := by
  have hbattery : Spends 67 c (checkBattery r c) := by
    unfold checkBattery publishUpower
    split
    · exact Spends.ite ((Spends.of_out (n := 0) rfl).trans (.publish .upowerReqStatic _)) (.refl c)
    · exact .refl c
  have hpublid (new : Bool) (c : UpowerCtx) : Spends 13 c (publishLid new c) :=
    (Spends.of_out (n := 0) rfl).trans (.publish .lidReqStatic _)
  have hpubinh (new : Bool) (c : UpowerCtx) : Spends 18 c (publishInh new c) :=
    (Spends.of_out (n := 0) rfl).trans (.publish .inhibitReqStatic _)
  have hlid (c : UpowerCtx) : Spends 31 c (checkLid r c) :=
    Spends.ite (Spends.ite ((hpubinh _ c).trans (hpublid _ _)) ((hpublid _ c).mono (by decide))) (.refl c)
  exact hbattery.trans (hlid _)

/-- Without UPower, the module tells what it assumes. -/
theorem spends_onLoopStarted (ping matched : Bool) (r : UpowerReplies) (c : UpowerCtx) :
    Spends 176 c (onLoopStarted ping matched r c) := by
  have hchange : Spends 98 c (if ping then onUpowerChange r c else c) :=
    (spends_onUpowerChange r c).ite (.refl c)
  have hassume (c : UpowerCtx) (st : State) : Spends 78 c (Ctx.publish (lidMsg st .opened)
      { Ctx.publish (.upowerUpd c.st.acState .onAc) c with st := st }) :=
    ((Spends.publish (.upowerUpd c.st.acState .onAc) c).trans (k := 0) (.of_out rfl)).trans (k := 12)
      (.publish (lidMsg st .opened) _)
  have hlisten := hchange.mono (k := 176) (by decide)
  exact Spends.ite (hlisten.trans (k := 0) (.of_out rfl))
    ((hchange.trans (hassume _ _)).trans (k := 0) (.of_out rfl))

theorem spends_onUpowerReq (new : ℤ) (c : UpowerCtx) : Spends 66 c (onUpowerReq new c) := by
  unfold onUpowerReq
  split
  · next ac _ =>
    exact Spends.ite ((Spends.publish (.upowerUpd c.st.acState ac) c).trans (k := 0) (.of_out rfl)) (.refl c)
  · exact .refl c

theorem spends_onLidReq (new : ℤ) (c : UpowerCtx) : Spends 12 c (onLidReq new c) := by
  unfold onLidReq
  split
  · next lid _ =>
    exact Spends.ite ((Spends.publish (lidMsg c.st lid) c).trans (k := 0) (.of_out rfl)) (.refl c)
  · exact .refl c

/-- The start apart, which may end with the others told that UPOWER has stopped. -/
theorem spends_receive {ping matched : Bool} {r : UpowerReplies} {m : Msg} {c : UpowerCtx}
    (hm : m ≠ .systemUpd .loopStarted) :
    Spends (BusMod.upower.worth (.shared m) - 1) c (receive ping matched r m c) := by
  unfold receive
  split
  · exact absurd rfl hm
  · exact spends_onUpowerReq _ c
  · exact spends_onUpowerReq _ c
  · exact spends_onLidReq _ c
  · exact spends_onLidReq _ c
  · exact .of_out rfl

end Upower

/-- DAYTIME only publishes as it stops itself, on a position that is none. -/
theorem DaytimeModule.handle_cases (locationRunning : Bool) (m : DayBoxMsg) (s : DaytimeModule) :
    (handle locationRunning m s).ctx.out = s.ctx.out ∧ (handle locationRunning m s).stopped = s.stopped ∨
      (∃ new, m = .locUpd new) ∧
        (handle locationRunning m s).ctx.out = s.ctx.out ++ [.daytimeUpd s.ctx.st.dayTime .day] := by
  have hevent (e : DayEvent) : (onEventReq e s).ctx.out = s.ctx.out ∧
      (onEventReq e s).stopped = s.stopped := by
    unfold onEventReq
    split
    · exact ⟨rfl, rfl⟩
    · next event _ =>
      have hout : (Daytime.onEventReq e event s.ctx).out = s.ctx.out := by
        unfold Daytime.onEventReq Daytime.resetDaytime
        split_ifs <;> rfl
      split_ifs
      · exact ⟨hout, rfl⟩
      · exact ⟨rfl, rfl⟩
  unfold handle
  split_ifs
  · exact .inl ⟨rfl, rfl⟩
  · split
    · unfold receiveWaitingLoc
      split
      · next new =>
        split_ifs
        · exact .inr ⟨⟨new, rfl⟩, rfl⟩
        · exact .inl ⟨rfl, rfl⟩
      · split_ifs
        · exact .inl ⟨rfl, rfl⟩
        · exact .inl ⟨rfl, rfl⟩
      · exact .inl ⟨rfl, rfl⟩
    · unfold receive
      split
      · exact .inl ⟨rfl, rfl⟩
      · exact .inl (hevent _)
      · exact .inl ⟨rfl, rfl⟩

/-- WIZARD only asks for captures when a key is pressed. -/
theorem Wizard.handle_out {m : WizMsg} (hm : m = .sensUpd ∨ m = .ambientBrUpd) (c : WizCtx) :
    (handle m c).out = c.out := by
  have hwaiting : (receiveWaitingSens .sensUpd c).out = c.out := by
    unfold receiveWaitingSens
    dsimp only
    split_ifs <;> rfl
  unfold handle
  rcases hm with rfl | rfl
  · split
    exacts [rfl, hwaiting, rfl, rfl]
  · split
    all_goals rfl

namespace PausableMod
variable {fit : Fit} {r : ModReplies} {m : Msg} {st : State} {cf : Conf} {x : PausableMod} {l : x.Loc}

theorem spent_handle {h : Handled x.Loc} (hh : x.handle fit r m st cf l = some h) :
    spent h.out ≤ x.toBus.worth (.shared m) - 1 := by
  cases x with
  | backlight =>
    obtain rfl := Option.some.inj hh
    exact (Backlight.spends_handle fit r.bl m _).le rfl
  | screen =>
    obtain rfl := Option.some.inj hh
    exact (Screen.spends_handle r.screen m _).le rfl
  | keyboard =>
    obtain rfl := Option.some.inj hh
    exact (Keyboard.spends_handle fit r.kbd m _).le rfl
  | dimmer | dpms =>
    obtain ⟨c, hc, rfl⟩ := Option.map_eq_some_iff.mp hh
    exact (Spends.of_out (Idle.handle_out hc)).le rfl
  | gamma =>
    obtain ⟨c, hc, rfl⟩ := Option.map_eq_some_iff.mp hh
    exact (Gamma.spends_handle hc).le rfl

/-- A module deregisters itself on a message that can pay for telling the others. -/
theorem worth_of_handle_none (hh : x.handle fit r m st cf l = none) : x.toBus.worth (.shared m) = 26 := by
  cases x with
  | backlight | screen | keyboard => cases hh
  | dimmer | dpms => exact Idle.handle_none (Option.map_eq_none_iff.mp hh)
  | gamma => exact Gamma.handle_none (Option.map_eq_none_iff.mp hh)

end PausableMod

namespace Program
open BusMsg (total)

theorem total_stop (i : BusMod) (ms : List BusMsg) (s : Program) : total (s.stop i ms).2 = total ms + 25 :=
  BusMsg.total_append ms _

/-- What a static request holds is worth no more than any other. -/
theorem worth_resolve (x : PausableMod) (m : Msg) (s : Program) :
    x.toBus.worth (.shared (s.resolve m)) = x.toBus.worth (.shared m) := by
  unfold resolve
  split
  · cases x <;> rfl
  · cases x <;> rfl
  · rfl

theorem paid_onPausable (fit : Fit) (r : BusReplies) (x : PausableMod) (m : Msg) (s : Program) :
    total (s.onPausable fit r x m).2 < x.toBus.worth (.shared m) := by
  have hpos := x.toBus.worth_pos (.shared m)
  unfold onPausable
  split
  · next hnone =>
    have hworth := PausableMod.worth_of_handle_none hnone
    rw [worth_resolve] at hworth
    rw [total_stop, hworth]
    decide
  · next h hsome =>
    have hspent := PausableMod.spent_handle hsome
    rw [worth_resolve] at hspent
    rw [BusMsg.total_shared]
    omega

theorem paid_onDisplay (m : Msg) (s : Program) :
    total (s.onDisplay m).2 < BusMod.display.worth (.shared m) := by
  unfold onDisplay
  split
  · next new noBacklight =>
    have hreq : Spends 24 (PausableMod.ctx s.display s.st s.cf)
        (Display.onDisplayReq new noBacklight (PausableMod.ctx s.display s.st s.cf)) :=
      Display.spends_onDisplayReq new noBacklight _
    rw [BusMsg.total_shared]
    exact Nat.lt_succ_of_le (hreq.le rfl)
  · exact BusMod.worth_pos ..

theorem paid_onInhibit (m : Msg) (s : Program) :
    total (s.onInhibit m).2 < BusMod.inhibit.worth (.shared m) := by
  have hreq (new force : Bool) : spent (Inhibit.onInhibitReq new force
      (PausableMod.ctx s.inhibitions s.st s.cf)).out ≤ 17 :=
    (Inhibit.spends_onInhibitReq new force _).le rfl
  unfold onInhibit
  rw [BusMsg.total_shared]
  cases m with
  | inhibitReq new force => exact Nat.lt_succ_of_le (hreq new force)
  | inhibitReqStatic => exact Nat.lt_succ_of_le (hreq s.upower.inhReq false)
  | _ => exact Nat.zero_lt_one

theorem paid_onPm (r : BusReplies) (m : BusMsg) (s : Program) : total (s.onPm r m).2 < BusMod.pm.worth m := by
  have hlock (e : PmLockEvent) : total (s.onPmLock e).2 ≤ 1 := by
    have hone : ((s.pmLock.receive e).2.map BusMsg.pmUpd).map BusMsg.cost =
        List.replicate (s.pmLock.receive e).2.length 1 := by
      rw [List.map_map]
      exact List.map_const' ..
    unfold onPmLock total
    dsimp only
    rw [hone, List.sum_replicate, smul_eq_mul, Nat.mul_one]
    exact s.pmLock.length_receive_le e
  unfold onPm
  split
  · split_ifs
    · exact Nat.lt_succ_self 2
    · exact Nat.zero_lt_succ 2
  · exact Nat.lt_succ_of_le (hlock _)
  · exact Nat.lt_succ_of_le (hlock _)
  · rw [BusMsg.total_shared]
    exact Nat.lt_succ_of_le ((Pm.spends_onSuspendReq _ _ _).le rfl)
  · exact BusMod.worth_pos ..

theorem paid_onUpower (r : BusReplies) (m : Msg) (s : Program) :
    total (s.onUpower r m).2 < BusMod.upower.worth (.shared m) := by
  have hpos := BusMod.upower.worth_pos (.shared m)
  unfold onUpower
  dsimp only
  by_cases hm : m = .systemUpd .loopStarted
  · subst hm
    have hspent : spent (Upower.receive r.ping r.matched r.upower (.systemUpd .loopStarted)
        (PausableMod.ctx s.upower s.st s.cf)).out ≤ 176 :=
      (Upower.spends_onLoopStarted r.ping r.matched r.upower _).le rfl
    change _ < 202
    split_ifs
    · rw [total_stop, BusMsg.total_shared]
      omega
    · rw [BusMsg.total_shared]
      omega
  · have hspent : spent (Upower.receive r.ping r.matched r.upower m
        (PausableMod.ctx s.upower s.st s.cf)).out ≤ BusMod.upower.worth (.shared m) - 1 :=
      (Upower.spends_receive hm).le rfl
    rw [if_neg (fun h => hm h.1), BusMsg.total_shared]
    omega

theorem paid_onLocation (distance : Loc → Loc → ℚ) (r : BusReplies) {m : BusMsg} {lm : LocationMsg}
    (hm : m.toLocation = some lm) (s : Program) :
    total (s.onLocation distance r lm).2 < BusMod.location.worth m := by
  have hreq (new : Loc) : total ((Location.onLocationReq distance new
      { loc := s.location, st := s.st, published := [] }).published.map BusMsg.ofLocation) ≤ 64 := by
    unfold Location.onLocationReq
    split_ifs
    · exact Nat.le_refl 64
    · exact Nat.zero_le 64
  unfold BusMsg.toLocation at hm
  split at hm
  · obtain rfl := Option.some.inj hm
    change total ((Location.onLoopStarted r.cache r.geoclue _).published.map BusMsg.ofLocation) < 66
    unfold Location.onLoopStarted Location.failGeoclue
    cases r.cache with
    | none => split_ifs <;> exact Nat.zero_lt_succ 65
    | some new => split_ifs <;> exact Nat.lt_succ_self 65
  · obtain rfl := Option.some.inj hm
    exact Nat.lt_succ_of_le (hreq _)
  · obtain rfl := Option.some.inj hm
    exact Nat.lt_succ_of_le (hreq _)
  · cases hm

theorem paid_onDaytime {m : BusMsg} {dm : DayBoxMsg} (hm : m.toDaytime = some dm) (s : Program) :
    total (s.onDaytime dm).2 < BusMod.daytime.worth m := by
  have hpos := BusMod.daytime.worth_pos m
  unfold onDaytime
  dsimp only
  obtain ⟨hout, hstopped⟩ | ⟨⟨new, rfl⟩, hout⟩ := s.dayModule.handle_cases (s.running .location) dm
  · rw [hout, hstopped, if_neg (by simp [dayModule])]
    exact hpos
  · have hloc : BusMod.daytime.worth m = 63 := by
      unfold BusMsg.toDaytime at hm
      split at hm
      · rfl
      all_goals cases hm
    rw [hout, hloc]
    split_ifs
    · rw [total_stop]
      exact Nat.lt_succ_self 62
    · exact Nat.lt_add_of_pos_left (by decide : 0 < 26)

theorem paid_onEventReq (e : DayEvent) (event : EventTime) (m : BusMsg) (s : Program) :
    total (s.onEventReq e event).2 < BusMod.daytime.worth m := by
  have hnone := DaytimeModule.handle_cases (s.running .location) (.eventReqStatic e)
    { s.dayModule with eventReqs := Function.update s.daytime.eventReqs e (some event) }
  obtain ⟨hout, -⟩ | ⟨⟨new, hnew⟩, -⟩ := hnone
  · unfold onEventReq
    dsimp only
    rw [hout]
    exact BusMod.worth_pos ..
  · cases hnew

theorem paid_onWizard {m : BusMsg} {wm : WizMsg} (hm : m.toWizard = some wm) (s : Program) :
    total (s.onWizard wm).2 < BusMod.wizard.worth m := by
  have hkey : wm = .sensUpd ∨ wm = .ambientBrUpd := by
    unfold BusMsg.toWizard at hm
    split at hm
    · exact .inl (Option.some.inj hm).symm
    · exact .inr (Option.some.inj hm).symm
    · cases hm
  unfold onWizard
  dsimp only
  rw [BusMsg.total_shared, Wizard.handle_out hkey]
  exact BusMod.worth_pos ..

/-- No receipt publishes more than it is worth. -/
theorem paid (fit : Fit) (distance : Loc → Loc → ℚ) (r : BusReplies) (i : BusMod) (m : BusMsg)
    (s : Program) : total (s.receive fit distance r i m).2 < i.worth m := by
  have hpos := i.worth_pos m
  unfold receive
  split
  · exact paid_onPausable ..
  · exact paid_onPausable ..
  · exact paid_onPausable ..
  · exact paid_onPausable ..
  · exact paid_onPausable ..
  · exact paid_onPausable ..
  · exact paid_onDisplay ..
  · exact paid_onInhibit ..
  · exact paid_onPm ..
  · exact paid_onUpower ..
  · exact paid_onEventReq ..
  · exact paid_onEventReq ..
  · cases hm : m.toDaytime with
    | none => exact hpos
    | some dm => exact paid_onDaytime hm s
  · cases hm : m.toLocation with
    | none => exact hpos
    | some lm => exact paid_onLocation distance r hm s
  · cases hm : m.toWizard with
    | none => exact hpos
    | some wm => exact paid_onWizard hm s
  · unfold onInterface
    split
    all_goals exact hpos
  · exact hpos

end Program

/-- What every receipt of Clight is worth, and every message costs. -/
def busPrice (fit : Fit) (distance : Loc → Loc → ℚ) : (busNetwork fit distance).Price where
  worth := BusMod.worth
  cost := BusMsg.cost
  heard := Program.heard
  paid := Program.paid fit distance

theorem charge_le {fit : Fit} {distance : Loc → Loc → ℚ} (e : NetworkEvent Program BusMod BusMsg BusReplies) :
    (busPrice fit distance).charge e ≤ 291 * e.arrivals := by
  cases e with
  | publish m => exact m.cost_le
  | tell i m => exact (i.worth_bounds m).2.trans (by decide : 202 ≤ 291 * 1)
  | deliver | write => exact Nat.zero_le _

/-- Each message from outside leads to 291 receipts at most, in whatever order the modules are served and
whatever their calls give; and what is queued by then can be brought to an end. -/
theorem bus_drains {fit : Fit} {distance : Loc → Loc → ℚ} {s t : Boxes Program BusMod BusMsg}
    {es : List (NetworkEvent Program BusMod BusMsg BusReplies)}
    (hrun : (busMachine fit distance).run s es = some t) :
    (es.map NetworkEvent.receipts).sum + (busPrice fit distance).backlog t ≤
        (busPrice fit distance).backlog s + 291 * (es.map NetworkEvent.arrivals).sum ∧
      ∀ r, ∃ ds u, (busMachine fit distance).run t ds = some u ∧ (∀ d ∈ ds, ∃ i, d = .deliver i r) ∧
        ds.length ≤ (busPrice fit distance).backlog t ∧ ∀ i, u.box i = [] := by
  have hpaid := (busPrice fit distance).run hrun
  have hcharge : (es.map (busPrice fit distance).charge).sum ≤
      291 * (es.map NetworkEvent.arrivals).sum := by
    rw [← List.sum_map_mul_left]
    exact List.sum_le_sum fun e _ => charge_le e
  exact ⟨hpaid.trans (Nat.add_le_add_left hcharge _), fun r => (busPrice fit distance).drains r t⟩

/-- All modules run, and the main loop starts. -/
def idleBus : Boxes Program BusMod BusMsg where
  state := .start (fun _ => true) true 6500 .default
  box := fun _ => []

/-- Every call fails. -/
def noReplies : BusReplies where
  mod :=
    { bl := { sensor := false, capture := none, levels := [], setSent := false }
      screen := none
      kbd := false
      idle := false
      gamma := { now := 0, localDay := fun _ => (0, 0), sent := false, daytimeStopped := false, junk := 0 } }
  lock :=
    { systemd := false, descriptor := false, dup := none, manager := false, cookie := none,
      unInhibit := false }
  upower := { onBattery := none, lidIsClosed := none, docked := none }
  ping := false
  matched := false
  cache := none
  geoclue := false

/-- The main loop starts, and DAYTIME, UPOWER and LOCATION hear of it. -/
def loopStarts : List (NetworkEvent Program BusMod BusMsg BusReplies) :=
  [.publish (.shared (.systemUpd .loopStarted)), .deliver .daytime noReplies, .deliver .upower noReplies,
    .deliver .location noReplies]

/-- What they tell the others can all be received. -/
theorem bus_drains_idleBus : ∃ t ds u,
    (busMachine (fun _ => (0, 0, 0)) fun _ _ => 0).run idleBus loopStarts = some t ∧
    (t.box .backlight).length = 4 ∧ 3 + (busPrice (fun _ => (0, 0, 0)) fun _ _ => 0).backlog t ≤ 291 ∧
    (busMachine (fun _ => (0, 0, 0)) fun _ _ => 0).run t ds = some u ∧ ds.length ≤ 288 ∧
      ∀ i, u.box i = [] := by
  have hqueued : ((busMachine (fun _ => (0, 0, 0)) fun _ _ => 0).run idleBus loopStarts).any
      (fun b => (b.box .backlight).length = 4) = true := by decide +kernel
  obtain ⟨t, hrun, hfour⟩ := (Option.any_eq_true _ _).mp hqueued
  have hempty : (busPrice (fun _ => (0, 0, 0)) fun _ _ => 0).backlog idleBus = 0 :=
    Finset.sum_eq_zero fun i _ => rfl
  obtain ⟨hpaid, hdrains⟩ := bus_drains hrun
  have hreceipts : (loopStarts.map NetworkEvent.receipts).sum = 3 := rfl
  have harrivals : (loopStarts.map NetworkEvent.arrivals).sum = 1 := rfl
  rw [hempty, hreceipts, harrivals] at hpaid
  obtain ⟨ds, u, hds, -, hlength, hdone⟩ := hdrains noReplies
  exact ⟨t, ds, u, hrun, of_decide_eq_true hfour, hpaid, hds, by omega, hdone⟩

end Clight
