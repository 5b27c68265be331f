import Clight.Calibration
import Clight.History

/-! Captures with a covered sensor: do_capture discards a brightness below the shutter
threshold, but it has stored it by then, and a SCREEN_BR_UPD computes a level from it. -/
namespace Clight

/-- A capture, with the threshold in force when it was made. -/
structure CaptureRecord where
  br : ℚ
  threshold : ℚ
  deriving DecidableEq

def CaptureRecord.clear (k : CaptureRecord) : Bool := k.threshold ≤ k.br

/-- The last capture; and for each request of set_new_backlight, the ambient brightness
that it was computed from and the capture that was the last one by then. -/
structure CaptureLog where
  last : Option CaptureRecord
  requests : List (ℚ × Option CaptureRecord)

namespace Backlight

theorem onBlReqStatic_calm (r : BlReplies) (accept : Bool) (c : BlCtx) :
    (onBlReqStatic r accept c).st.ambientBr = c.st.ambientBr ∧
      (Msg.blReqStatic ∈ (onBlReqStatic r accept c).out → Msg.blReqStatic ∈ c.out) := by
  have hcalm := calm_onBlReq r accept c.loc.blReq
    { c with loc := { c.loc with blReq := (validateBacklight c.cf c.st c.loc.blReq).1 } }
  exact ⟨hcalm.ambientBr, hcalm.out⟩

/-- The ambient brightness is the last one captured. -/
theorem handle_ambientBr (fit : Fit) (r : BlReplies) (m : Msg) {c : BlCtx}
    (h : Waiting c.loc ∨ Running c.loc) :
    (handle fit r m c).st.ambientBr = (captures r m c).getD c.st.ambientBr := by
  rcases handle_calibration fit r m h with ⟨hcap, hcalm⟩ | ⟨rfl, -, he⟩ | ⟨old, new, rfl, -, he⟩ |
    ⟨reset, captureOnly, hcap, he⟩
  · rw [hcap]
    exact hcalm.ambientBr
  · rw [he]
    exact (onBlReqStatic_calm r _ c).1
  · rw [he]
    exact setNewBacklight_ambientBr c
  · rw [he, hcap]
    exact doCapture_ambientBr r reset captureOnly c

/-- A level is asked for after a SCREEN_BR_UPD or a clear capture, and at no other time. -/
theorem handle_requests (fit : Fit) (r : BlReplies) (m : Msg) {c : BlCtx}
    (h : Waiting c.loc ∨ Running c.loc) (hout : Msg.blReqStatic ∈ (handle fit r m c).out) :
    Msg.blReqStatic ∈ c.out ∨ (∃ old new, m = .screenBrUpd old new ∧ accepts c = true) ∨
      ∃ br, captures r m c = some br ∧ c.cf.bl.shutterThreshold ≤ br := by
  rcases handle_calibration fit r m h with ⟨-, hcalm⟩ | ⟨rfl, -, he⟩ | ⟨old, new, rfl, hacc, -⟩ |
    ⟨reset, captureOnly, hcap, he⟩
  · exact .inl (hcalm.out hout)
  · rw [he] at hout
    exact .inl ((onBlReqStatic_calm r _ c).2 hout)
  · exact .inr (.inl ⟨old, new, rfl, hacc⟩)
  · rw [he] at hout
    rw [hcap]
    rcases doCapture_out r reset captureOnly hout with hout | hclear
    · exact .inl hout
    · exact .inr (.inr hclear)

end Backlight

namespace Core

/-! ### The log of a run -/

def lastCapture (h : CaptureLog) (s : Core) (e : CoreEvent) : Option CaptureRecord :=
  match (handled s e).bind fun p => Backlight.captures p.1 p.2 s.blCtx with
  | some br => some ⟨br, s.cf.bl.shutterThreshold⟩
  | none => h.last

def recordCapture (h : CaptureLog) (s : Core) (e : CalibrationEvent) (t : Core) : CaptureLog :=
  match e with
  | .core e =>
    { last := lastCapture h s e
      requests := h.requests ++
        if .blReqStatic ∈ published s t then [(t.st.ambientBr, lastCapture h s e)] else [] }
  | .properties _ => h

/-- The calibration of BACKLIGHT with the log of its captures. -/
def captureLogged (fit : Fit) : Machine (Core × CaptureLog) CalibrationEvent :=
  (calibration fit).withHistory { last := none, requests := [] } recordCapture

/-- A SCREEN_BR_UPD that makes BACKLIGHT compute a level finds a clear capture. -/
def ClearUpdate (s : Core × CaptureLog) : CalibrationEvent → Prop
  | .core (.deliverBl _) => match s.1.blBox with
    | .screenBrUpd _ _ :: _ =>
      Backlight.accepts s.1.blCtx = true → s.2.last.any CaptureRecord.clear = true
    | _ => True
  | _ => True

/-- BACKLIGHT is about to compute a level for a SCREEN_BR_UPD. -/
def takesUpdate (s : Core) : CalibrationEvent → Bool
  | .core (.deliverBl _) => match s.blBox with
    | .screenBrUpd _ _ :: _ => Backlight.accepts s.blCtx
    | _ => false
  | _ => false

theorem clearUpdate_iff (s : Core × CaptureLog) (e : CalibrationEvent) : ClearUpdate s e ↔
    (takesUpdate s.1 e = true → s.2.last.any CaptureRecord.clear = true) := by
  unfold ClearUpdate takesUpdate
  split
  · split
    · rfl
    · simp
  · simp

instance (s : Core × CaptureLog) (e : CalibrationEvent) : Decidable (ClearUpdate s e) :=
  decidable_of_iff' _ (clearUpdate_iff s e)

/-- The request was computed from an ambient brightness that was captured, and was not below
the threshold when it was. -/
def FromClear (p : ℚ × Option CaptureRecord) : Prop :=
  ∃ k, p.2 = some k ∧ p.1 = k.br ∧ k.threshold ≤ k.br

/-- The state holds the last capture, and each request came from a clear one. -/
structure CaptureInv (s : Core) (h : CaptureLog) : Prop where
  ambientBr : ∀ k, h.last = some k → s.st.ambientBr = k.br
  requests : ∀ p ∈ h.requests, FromClear p

theorem lastCapture_of_handled {h : CaptureLog} {s : Core} {e : CoreEvent} {r : BlReplies} {m : Msg}
    (he : handled s e = some (r, m)) : lastCapture h s e =
      ((Backlight.captures r m s.blCtx).map fun br => ⟨br, s.cf.bl.shutterThreshold⟩).or h.last := by
  unfold lastCapture
  rw [he]
  cases hcap : Backlight.captures r m s.blCtx <;> simp [hcap]

/-- A step of BACKLIGHT that asks for a level does so after a clear capture. -/
theorem fromClear_of_published {fit : Fit} {r : BlReplies} {m : Msg} {s : Core} {h : CaptureLog}
    {e : CoreEvent} (hphase : Phase s) (hinv : CaptureInv s h)
    (hc : ClearUpdate (s, h) (.core e)) (he : handled s e = some (r, m))
    (hout : Msg.blReqStatic ∈ (Backlight.handle fit r m s.blCtx).out) :
    FromClear ((Backlight.handle fit r m s.blCtx).st.ambientBr, lastCapture h s e) := by
  have hloc : Backlight.Waiting s.blCtx.loc ∨ Backlight.Running s.blCtx.loc := hphase
  rw [lastCapture_of_handled he, Backlight.handle_ambientBr fit r m hloc]
  rcases Backlight.handle_requests fit r m hloc hout with hout | ⟨old, new, hm, hacc⟩ | ⟨br, hcap, hclear⟩
  · cases hout
  · -- the brightness is the one of the last capture, which was clear
    have hnone : Backlight.captures r m s.blCtx = none := by
      rw [hm]
      rfl
    obtain ⟨rfl, box', hbox⟩ := handled_mailbox he (by rw [hm]; nofun)
    rw [hm] at hbox
    unfold ClearUpdate at hc
    dsimp only at hc
    rw [hbox] at hc
    obtain ⟨k, hk, hclear⟩ := (Option.any_eq_true _ _).mp (hc hacc)
    rw [hnone]
    exact ⟨k, hk, hinv.ambientBr k hk, of_decide_eq_true hclear⟩
  · rw [hcap]
    exact ⟨⟨br, s.cf.bl.shutterThreshold⟩, rfl, rfl, hclear⟩

theorem captureInv_core {fit : Fit} {s s' : Core} {h : CaptureLog} {e : CoreEvent}
    (hphase : Phase s) (hinv : CaptureInv s h) (hc : ClearUpdate (s, h) (.core e))
    (hn : next fit s e = some s') : CaptureInv s' (recordCapture h s (.core e) s') := by
  rcases next_handled hn with ⟨r, m, box, he, rfl⟩ | ⟨he, hcalm⟩
  · have hambient := Backlight.handle_ambientBr fit r m (c := s.blCtx) hphase
    constructor
    · intro k hk
      have hlast : lastCapture h s e = some k := hk
      rw [lastCapture_of_handled he] at hlast
      show (Backlight.handle fit r m s.blCtx).st.ambientBr = k.br
      rw [hambient]
      cases hcap : Backlight.captures r m s.blCtx with
      | none =>
        rw [hcap] at hlast
        exact hinv.ambientBr k hlast
      | some br =>
        rw [hcap] at hlast
        obtain rfl := Option.some.inj hlast
        rfl
    · intro p hp
      rcases List.mem_append.mp hp with hp | hp
      · exact hinv.requests p hp
      · split at hp
        · next hout =>
          rw [List.mem_singleton.mp hp]
          rw [published_onBacklight (s := s) (t := { s with blBox := box }) _ rfl] at hout
          exact fromClear_of_published hphase hinv hc he hout
        · cases hp
  · have hlast : lastCapture h s e = h.last := by
      unfold lastCapture
      rw [he]
      rfl
    unfold recordCapture
    dsimp only
    rw [hlast, if_neg hcalm.published, List.append_nil]
    refine ⟨?_, hinv.requests⟩
    intro k hk
    rw [hcalm.ambientBr]
    exact hinv.ambientBr k hk

/-- In every run in which each SCREEN_BR_UPD that makes BACKLIGHT compute a level finds that
the last capture was clear, each request of set_new_backlight comes from an ambient brightness
that was not below the threshold when captured. -/
theorem clogged_captures_discarded (fit : Fit) {s : Core × CaptureLog}
    (hs : (captureLogged fit).ReachableBy ClearUpdate s) : ∀ p ∈ s.2.requests, FromClear p := by
  have hinv : CaptureInv s.1 s.2 := by
    refine Machine.ReachableBy.history ?_ ?_ hs
    · intro s _
      constructor
      · intro k hk
        cases hk
      · intro p hp
        cases hp
    · intro s h e t hr hinv hc hn
      cases e with
      | core e => exact captureInv_core (phase_calibration hr) hinv hc hn
      | properties cf =>
        obtain rfl := Option.some.inj hn
        exact ⟨hinv.ambientBr, hinv.requests⟩
  exact hinv.requests

/-! ### Runs -/

def linearFit : Fit := fun _ => (0, 1/10, 0)

def shutterConf : Conf := initCurves linearFit
  { Conf.default with bl := { Conf.default.bl with shutterThreshold := 1/2 } }

/-- BACKLIGHT starts by day, when SCREEN has measured the screen once; its timer makes it
capture `br`; and before SCREEN hears of that it measures the screen again. -/
def captureThenMeasure (br : ℚ) : List CalibrationEvent :=
  [.core (.acState none .onAc), .core (.lidState .opened), .core (.daytime none .day false),
    .core (.deliverScr none), .core (.deliverBl noCapture), .core (.deliverBl noCapture),
    .core (.deliverBl noCapture), .core (.elapse .screen none), .core (.screenFd (some (1/2))),
    .core (.deliverBl noCapture), .core (.elapse .bl none), .core (.blFd noCapture),
    .core (.deliverBl { noCapture with capture := some br }), .core (.elapse .screen none),
    .core (.screenFd (some (1/2))), .core (.deliverBl noCapture)]

def loggedStart (cf : Conf) : Core × CaptureLog := (start cf, { last := none, requests := [] })

theorem init_loggedStart (fit : Fit) : (captureLogged fit).init (loggedStart shutterConf) := by
  refine ⟨init_start ?_, rfl⟩
  intro ac
  cases ac <;> decide

/-- The capture is clear: a level is asked for, from it. -/
theorem clogged_captures_discarded_clear : ∃ s,
    (captureLogged linearFit).run (loggedStart shutterConf) (captureThenMeasure (3/4)) = some s ∧
      s.2.requests.length = 1 ∧ ∀ p ∈ s.2.requests, FromClear p := by
  have hrun : ((captureLogged linearFit).run (loggedStart shutterConf)
      (captureThenMeasure (3/4))).any (fun s => s.2.requests.length = 1) = true := by
    decide +kernel
  obtain ⟨s, hs, hlen⟩ := (Option.any_eq_true _ _).mp hrun
  have hby : (captureLogged linearFit).RunBy ClearUpdate (loggedStart shutterConf)
      (captureThenMeasure (3/4)) := by
    decide +kernel
  have hreach := Machine.ReachableBy.of_run _ (.init (init_loggedStart _)) hby hs
  exact ⟨s, hs, of_decide_eq_true hlen, clogged_captures_discarded _ hreach⟩

/-- The capture is clogged, and the level is computed from it all the same. -/
theorem clogged_capture_used : ¬ ∀ (fit : Fit) (s : Core × CaptureLog),
    (captureLogged fit).Reachable s → ∀ p ∈ s.2.requests, FromClear p := by
  intro h
  have hrun : ((captureLogged linearFit).run (loggedStart shutterConf)
      (captureThenMeasure (1/10))).any
        (fun s => decide ((1/10, some ⟨1/10, 1/2⟩) ∈ s.2.requests)) = true := by
    decide +kernel
  obtain ⟨s, hs, hmem⟩ := (Option.any_eq_true _ _).mp hrun
  obtain ⟨k, hk, -, hclear⟩ := h _ s (Machine.reachable_of_run (init_loggedStart _) hs) _
    (of_decide_eq_true hmem)
  obtain rfl := Option.some.inj hk
  exact absurd hclear (by norm_num)

end Core
end Clight
