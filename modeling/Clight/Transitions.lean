import Clight.Calibration
import Clight.History

/-! The transitions of automatic backlight changes: the static request of set_new_backlight
asks for the configured ones only until the validator rewrites it for the first time. -/
namespace Clight

/-- The smooth flag, the step and the timeout of a request. -/
def BlUpd.params (up : BlUpd) : ℤ × ℚ × ℤ := (up.smooth, up.step, up.timeout)

/-- The parameters derived for the first automatic request of a run; and for each one that
set_backlight_level executes, what it executes and what would be derived by then. -/
structure TransitionLog where
  first : Option (ℤ × ℚ × ℤ)
  executed : List (BlUpd × BlUpd)

/-! ### The validator -/

theorem BlUpd.ext_params {up up' : BlUpd} (hnew : up.new = up'.new)
    (hparams : up.params = up'.params) : up = up' := by
  cases up
  cases up'
  simp only [BlUpd.params, Prod.mk.injEq] at hparams
  obtain ⟨hsmooth, hstep, htimeout⟩ := hparams
  simp only at hnew hsmooth hstep htimeout
  rw [hnew, hsmooth, hstep, htimeout]

/-- A request without a special value is left as it is. -/
theorem validateBacklight_plain (cf : Conf) (st : State) {up : BlUpd} (h : 0 ≤ up.smooth) :
    (validateBacklight cf st up).1 = up := by
  have hnone : specialSmooth cf up.smooth = none := by
    unfold specialSmooth
    split
    · omega
    · omega
    · omega
    · rfl
  unfold validateBacklight
  rw [hnone]

/-- The special value is replaced by a flag. -/
theorem validateBacklight_smooth (cf : Conf) (st : State) {up : BlUpd} (h : -1 ≤ up.smooth) :
    0 ≤ (validateBacklight cf st up).1.smooth := by
  by_cases hneg : up.smooth = -1
  · have hconf : specialSmooth cf up.smooth = some cf.bl.smooth := by
      rw [hneg]
      rfl
    have hflag : (0 : ℤ) ≤ if cf.bl.smooth.noSmooth then 0 else 1 := by
      split <;> decide
    unfold validateBacklight
    rw [hconf]
    dsimp only
    split
    · exact hflag
    · exact hflag
  · rw [validateBacklight_plain cf st (by omega)]
    omega

namespace Backlight

/-- What the validator derives from the settings for the level that is asked for. -/
def derived (c : BlCtx) : BlUpd := (validateBacklight c.cf c.st { c.loc.blReq with smooth := -1 }).1

/-- While the special value stands in the request, validating it derives the same. -/
theorem derived_of_fresh {c : BlCtx} (h : c.loc.blReq.smooth = -1) :
    derived c = (validateBacklight c.cf c.st c.loc.blReq).1 := by
  have hreq : { c.loc.blReq with smooth := -1 } = c.loc.blReq := by
    rw [← h]
  unfold derived
  rw [hreq]

/-- The request with which set_backlight_level runs when the module's own one is handled. -/
def executed (c : BlCtx) : Option BlUpd :=
  let v := validateBacklight c.cf c.st c.loc.blReq
  if v.2 && accepts c then some v.1 else none

/-- The validator writes back into the static request, whether or not it is executed. -/
def validated (c : BlCtx) : BlCtx :=
  { c with loc := { c.loc with blReq := (validateBacklight c.cf c.st c.loc.blReq).1 } }

theorem handle_blReqStatic_blReq (fit : Fit) (r : BlReplies) {c : BlCtx} (h : Running c.loc) :
    (handle fit r .blReqStatic c).loc.blReq = (validateBacklight c.cf c.st c.loc.blReq).1 := by
  rw [handle_blReqStatic fit r h]
  exact (calm_onBlReq r _ _ (validated c)).blReq

/-- No other message touches the parameters of the static request. -/
theorem handle_blReq_params (fit : Fit) (r : BlReplies) {m : Msg} {c : BlCtx}
    (h : Waiting c.loc ∨ Running c.loc) (hm : Running c.loc → m ≠ .blReqStatic) :
    ∃ new, (handle fit r m c).loc.blReq = { c.loc.blReq with new := new } := by
  rcases handle_calibration fit r m h with ⟨-, hcalm⟩ | ⟨hreq, hrun, -⟩ | ⟨old, new, rfl, -, he⟩ |
    ⟨reset, captureOnly, -, he⟩
  · exact ⟨_, hcalm.blReq⟩
  · exact absurd hreq (hm hrun)
  · rw [he]
    exact setNewBacklight_params c
  · rw [he]
    exact doCapture_params r reset captureOnly c

end Backlight

namespace Core

/-! ### The log of a run -/

/-- The step hands a running BACKLIGHT its own request. -/
def ownRequest (s : Core) (e : CoreEvent) : Bool :=
  !s.bl.isWaiting && (handled s e).any fun p => p.2 = .blReqStatic

def recordTransition (h : TransitionLog) (s : Core) (e : CalibrationEvent) (_ : Core) :
    TransitionLog :=
  match e with
  | .core e =>
    if ownRequest s e then
      { first := h.first.or (some (Backlight.derived s.blCtx).params)
        executed := h.executed ++
          ((Backlight.executed s.blCtx).map fun up => (up, Backlight.derived s.blCtx)).toList }
    else h
  | .properties _ => h

/-- The calibration of BACKLIGHT with the log of its transitions. -/
def transitionLogged (fit : Fit) : Machine (Core × TransitionLog) CalibrationEvent :=
  (calibration fit).withHistory { first := none, executed := [] } recordTransition

/-- A request that is executed is the first one, or the parameters of the first one are
those that would be derived now. -/
def SameParams (s : Core × TransitionLog) : CalibrationEvent → Prop
  | .core e => ownRequest s.1 e = true → Backlight.executed s.1.blCtx ≠ none →
      s.2.first = none ∨ s.2.first = some (Backlight.derived s.1.blCtx).params
  | .properties _ => True

instance (s : Core × TransitionLog) (e : CalibrationEvent) : Decidable (SameParams s e) := by
  unfold SameParams
  split <;> infer_instance

/-- The special value stands in the request until the first one is validated; from then on
its parameters are those of the first one. -/
structure TransitionInv (s : Core) (h : TransitionLog) : Prop where
  fresh : h.first = none → s.bl.blReq.smooth = -1
  frozen : ∀ p, h.first = some p → s.bl.blReq.params = p ∧ 0 ≤ s.bl.blReq.smooth
  executed : ∀ p ∈ h.executed, p.1 = p.2

theorem TransitionInv.of_params {s s' : Core} {h : TransitionLog} (hinv : TransitionInv s h)
    (hparams : ∃ new, s'.bl.blReq = { s.bl.blReq with new := new }) : TransitionInv s' h := by
  obtain ⟨new, hreq⟩ := hparams
  refine ⟨?_, ?_, hinv.executed⟩
  · intro hfirst
    rw [hreq]
    exact hinv.fresh hfirst
  · intro p hp
    rw [hreq]
    exact hinv.frozen p hp

/-- What is executed is what would be derived now, if the request is fresh or its parameters
are still right. -/
theorem executed_eq_derived {s : Core} {h : TransitionLog} (hinv : TransitionInv s h) {up : BlUpd}
    (hexec : Backlight.executed s.blCtx = some up)
    (hok : h.first = none ∨ h.first = some (Backlight.derived s.blCtx).params) :
    up = Backlight.derived s.blCtx := by
  have hup : up = (validateBacklight s.cf s.st s.bl.blReq).1 := by
    unfold Backlight.executed at hexec
    dsimp only at hexec
    split at hexec
    · exact (Option.some.inj hexec).symm
    · cases hexec
  rw [hup]
  rcases hok with hfirst | hfirst
  · exact (Backlight.derived_of_fresh (c := s.blCtx) (hinv.fresh hfirst)).symm
  · obtain ⟨hparams, hflag⟩ := hinv.frozen _ hfirst
    rw [validateBacklight_plain s.cf s.st hflag]
    refine BlUpd.ext_params ?_ hparams
    unfold Backlight.derived
    rw [validateBacklight_new]
    rfl

theorem transitionInv_own {fit : Fit} {r : BlReplies} {box : List Msg} {s : Core}
    {h : TransitionLog} {e : CoreEvent} (hrun : Backlight.Running s.bl) (hinv : TransitionInv s h)
    (hc : SameParams (s, h) (.core e)) (hown : ownRequest s e = true) :
    TransitionInv (onBacklight (Backlight.handle fit r .blReqStatic) { s with blBox := box })
      { first := h.first.or (some (Backlight.derived s.blCtx).params)
        executed := h.executed ++
          ((Backlight.executed s.blCtx).map fun up => (up, Backlight.derived s.blCtx)).toList } := by
  have hreq : (Backlight.handle fit r .blReqStatic s.blCtx).loc.blReq =
      (validateBacklight s.cf s.st s.bl.blReq).1 :=
    Backlight.handle_blReqStatic_blReq fit r (c := s.blCtx) hrun
  refine ⟨?_, ?_, ?_⟩
  · intro hfirst
    cases hf : h.first <;> rw [hf] at hfirst <;> cases hfirst
  · intro p hp
    show (Backlight.handle fit r .blReqStatic s.blCtx).loc.blReq.params = p ∧
      0 ≤ (Backlight.handle fit r .blReqStatic s.blCtx).loc.blReq.smooth
    rw [hreq]
    cases hf : h.first with
    | none =>
      rw [hf] at hp
      have hsmooth := hinv.fresh hf
      constructor
      · rw [← Option.some.inj hp]
        exact congrArg BlUpd.params (Backlight.derived_of_fresh (c := s.blCtx) hsmooth).symm
      · exact validateBacklight_smooth s.cf s.st hsmooth.ge
    | some q =>
      rw [hf] at hp
      obtain ⟨hparams, hflag⟩ := hinv.frozen q hf
      rw [validateBacklight_plain s.cf s.st hflag]
      exact ⟨hparams.trans (Option.some.inj hp), hflag⟩
  · intro p hp
    rcases List.mem_append.mp hp with hp | hp
    · exact hinv.executed p hp
    · obtain ⟨up, hexec, rfl⟩ := Option.map_eq_some_iff.mp (Option.mem_toList.mp hp)
      refine executed_eq_derived hinv hexec (hc hown ?_)
      rw [hexec]
      exact Option.some_ne_none up

theorem transitionInv_core {fit : Fit} {s s' : Core} {h : TransitionLog} {e : CoreEvent}
    (hphase : Phase s) (hinv : TransitionInv s h) (hc : SameParams (s, h) (.core e))
    (hn : next fit s e = some s') : TransitionInv s' (recordTransition h s (.core e) s') := by
  unfold recordTransition
  dsimp only
  rcases next_handled hn with ⟨r, m, box, he, rfl⟩ | ⟨he, hcalm⟩
  · split
    · next hown =>
      have hown' := hown
      unfold ownRequest at hown'
      rw [he] at hown'
      simp only [Bool.and_eq_true, Bool.not_eq_true', Option.any_some, decide_eq_true_eq] at hown'
      rw [hown'.2]
      exact transitionInv_own (hphase.running hown'.1) hinv hc hown
    · next hown =>
      refine hinv.of_params (Backlight.handle_blReq_params fit r (c := s.blCtx) hphase ?_)
      intro hrun hm
      apply hown
      unfold ownRequest
      rw [he, hm]
      simp [show s.bl.isWaiting = false from hrun.not_waiting]
  · have hown : ownRequest s e = false := by
      unfold ownRequest
      rw [he]
      simp
    rw [hown, if_neg Bool.false_ne_true]
    exact hinv.of_params ⟨_, hcalm.blReq⟩

/-- In every run in which each automatic request that is executed is the first one, or finds
that the parameters derived for the first one are those of now, automatic changes always use
the parameters that validate_backlight derives from the settings and the levels of that time. -/
theorem transitions_follow_settings (fit : Fit) {s : Core × TransitionLog}
    (hs : (transitionLogged fit).ReachableBy SameParams s) : ∀ p ∈ s.2.executed, p.1 = p.2 := by
  have hinv : TransitionInv s.1 s.2 := by
    refine Machine.ReachableBy.history ?_ ?_ hs
    · intro s h0
      refine ⟨?_, nofun, nofun⟩
      intro _
      rw [h0.1]
      rfl
    · intro s h e t hr hinv hc hn
      cases e with
      | core e => exact transitionInv_core (phase_calibration hr) hinv hc hn
      | properties cf =>
        obtain rfl := Option.some.inj hn
        exact ⟨hinv.fresh, hinv.frozen, hinv.executed⟩
  exact hinv.executed

/-! ### Runs -/

def captureAndSet (br : ℚ) : List CalibrationEvent :=
  [.core (.elapse .bl none), .core (.blFd noCapture),
    .core (.deliverBl { noCapture with capture := some br }), .core (.deliverBl noCapture)]

/-- BACKLIGHT starts by day and changes the level twice; in between the bus writes the options. -/
def setWriteSet (cf : Conf) : List CalibrationEvent :=
  startCapturing ++ captureAndSet (1/2) ++ [.properties cf] ++ captureAndSet (3/4)

def transitionStart : Core × TransitionLog := (start blOnlyConf, { first := none, executed := [] })

theorem init_transitionStart (fit : Fit) : (transitionLogged fit).init transitionStart :=
  ⟨init_blOnly, rfl⟩

/-- An option of another kind is written: both changes are as configured. -/
theorem transitions_follow_settings_verbose : ∃ s, (transitionLogged fun _ => (0, 1/10, 0)).run
    transitionStart (setWriteSet { blOnlyConf with verbose := true }) = some s ∧
      s.2.executed.length = 2 ∧ ∀ p ∈ s.2.executed, p.1 = p.2 := by
  have hrun : ((transitionLogged fun _ => (0, 1/10, 0)).run transitionStart
      (setWriteSet { blOnlyConf with verbose := true })).any
        (fun s => s.2.executed.length = 2) = true := by
    decide +kernel
  obtain ⟨s, hs, hlen⟩ := (Option.any_eq_true _ _).mp hrun
  have hby : (transitionLogged fun _ => (0, 1/10, 0)).RunBy SameParams transitionStart
      (setWriteSet { blOnlyConf with verbose := true }) := by
    decide +kernel
  have hreach := Machine.ReachableBy.of_run _ (.init (init_transitionStart _)) hby hs
  exact ⟨s, hs, of_decide_eq_true hlen, transitions_follow_settings _ hreach⟩

def noSmoothConf : Conf :=
  { blOnlyConf with bl := { blOnlyConf.bl with smooth := { blOnlyConf.bl.smooth with noSmooth := true } } }

/-- NoSmooth is written: the second change is smooth all the same. -/
theorem transition_frozen : ¬ ∀ (fit : Fit) (s : Core × TransitionLog),
    (transitionLogged fit).Reachable s → ∀ p ∈ s.2.executed, p.1 = p.2 := by
  intro h
  have hrun : ((transitionLogged fun _ => (0, 1/10, 0)).run transitionStart
      (setWriteSet noSmoothConf)).any
        (fun s => s.2.executed.any fun p => p.1.smooth = 1 ∧ p.2.smooth = 0) = true := by
    decide +kernel
  obtain ⟨s, hs, hany⟩ := (Option.any_eq_true _ _).mp hrun
  obtain ⟨p, hp, hsmooth⟩ := List.any_eq_true.mp hany
  have heq := h _ s (Machine.reachable_of_run (init_transitionStart _) hs) p hp
  obtain ⟨h1, h0⟩ := of_decide_eq_true hsmooth
  rw [heq] at h1
  omega

end Core
end Clight
