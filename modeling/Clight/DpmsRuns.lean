import Clight.Display
import Clight.History
import Clight.Opts

/-! DISPLAY between its two clients when the dimmer is disabled: the idle client of DPMS, and
logind's IdleHint. Each has a static request of its own in DISPLAY's mailbox. -/
namespace Clight

inductive DisplayClient | dpms | idleHint
  deriving DecidableEq

/-- DISPLAY's own requests carry no_backlight, those of DPMS do not. -/
def DisplayClient.noBacklight : DisplayClient → Bool
  | .dpms => false
  | .idleHint => true

structure DpmsRun where
  display : Display
  st : State
  cf : Conf
  /-- What the static request of each client asks for. -/
  request : DisplayClient → ℤ
  inbox : List DisplayClient

/-- `idle` is a change that a client is told of, `others` what other modules write. -/
inductive DpmsEvent
  | idle (client : DisplayClient) (idle : Bool)
  | others (st : State) (cf : Conf)
  | deliver

namespace DpmsRun

/-- on_new_idle of DPMS, and on_idle_hint_changed. -/
def onIdle (idle : Bool) : DisplayClient → ℤ
  | .dpms => if idle then 2 else 0
  | .idleHint => if idle then 1 else 0

def ctx (s : DpmsRun) : DisplayCtx :=
  { loc := s.display, st := s.st, cf := s.cf, out := [], calls := [] }

def handled (s : DpmsRun) (client : DisplayClient) : DisplayCtx :=
  Display.onDisplayReq (s.request client) client.noBacklight s.ctx

def next (s : DpmsRun) : DpmsEvent → Option DpmsRun
  | .idle client idle => some { s with
      request := Function.update s.request client (onIdle idle client)
      inbox := s.inbox ++ [client] }
  | .others st cf =>
    if st.displayState = s.st.displayState then some { s with st := st, cf := cf } else none
  | .deliver => match s.inbox with
    | [] => none
    | client :: box => some { s with
        display := (s.handled client).loc
        st := (s.handled client).st
        inbox := box }

def start (cf : Conf) : DpmsRun where
  display := .init
  st := initState cf
  cf := cf
  request := fun _ => 0
  inbox := []

end DpmsRun

/-- The last set_dpms among the calls of DISPLAY. -/
def lastDpms (last : Option Bool) (calls : List DisplayCall) : Option Bool :=
  calls.foldl (fun last k => match k with
    | .setDpms enable => some enable
    | .setIdleHint _ => last) last

def DpmsRun.record (last : Option Bool) (s : DpmsRun) (e : DpmsEvent) (_ : DpmsRun) : Option Bool :=
  match e with
  | .deliver => s.inbox.head?.elim last fun client => lastDpms last (s.handled client).calls
  | _ => last

/-- DISPLAY with the dimmer disabled, and the last set_dpms that it issued. -/
def dpmsRun : Machine (DpmsRun × Option Bool) DpmsEvent :=
  Machine.withHistory
    { init := fun s => ∃ cf : Conf, cf.dim.disabled = true ∧ s = .start cf
      next := DpmsRun.next } none DpmsRun.record

namespace Display
variable {c : DisplayCtx} {last : Option Bool}

@[simp] theorem lastDpms_setDpms (last : Option Bool) (calls : List DisplayCall) (enable : Bool) :
    lastDpms last (calls ++ [.setDpms enable]) = some enable := by
  simp [lastDpms, List.foldl_append]

@[simp] theorem lastDpms_setIdleHint (last : Option Bool) (calls : List DisplayCall)
    (hint : DisplayState) : lastDpms last (calls ++ [.setIdleHint hint]) = lastDpms last calls := by
  simp [lastDpms, List.foldl_append]

theorem isOff_setDimmed (st : State) : (st.setDisplay displayDimmed).isOff = st.isOff := by
  simp [State.isOff, State.setDisplay, displayDimmed]

theorem isOff_setOff (st : State) : (st.setDisplay displayOff).isOff = true := by
  simp [State.isOff, State.setDisplay, displayOff]

theorem isOff_clearDimmed (st : State) : (st.clearDisplay displayDimmed).isOff = st.isOff := by
  simp [State.isOff, State.clearDisplay, displayDimmed]

theorem isOff_clearOff (st : State) : (st.clearDisplay displayOff).isOff = false := by
  simp [State.isOff, State.clearDisplay, displayOff]

/-- The monitors are off, as far as DISPLAY has told them, exactly when the state says so. -/
def InStep (last : Option Bool) (c : DisplayCtx) : Prop :=
  lastDpms last c.calls = some true ↔ c.st.isOff = true

theorem InStep.of_eq {c' : DisplayCtx} (h : InStep last c) (hcalls : c'.calls = c.calls)
    (hoff : c'.st.isOff = c.st.isOff) : InStep last c' := by
  unfold InStep
  rw [hcalls, hoff]
  exact h

theorem InStep.onDimmed (h : InStep last c) (nb : Bool) : InStep last (Display.onDimmed nb c) := by
  unfold Display.onDimmed
  dsimp only
  split_ifs
  · exact h.of_eq rfl (isOff_setDimmed c.st)
  · exact h.of_eq rfl (isOff_setDimmed c.st)

/-- Leaving the dimmed state has nothing to do with DPMS. -/
theorem leaveDimmed_frame (nb : Bool) (c : DisplayCtx) :
    (leaveDimmed nb c).calls = c.calls ∧ (leaveDimmed nb c).st.isOff = c.st.isOff := by
  unfold leaveDimmed
  dsimp only
  split_ifs
  · exact ⟨rfl, isOff_clearDimmed c.st⟩
  · exact ⟨rfl, isOff_clearDimmed c.st⟩
  · exact ⟨rfl, rfl⟩

/-- Entering the off state with no_backlight leaves the monitors as they are. -/
theorem InStep.onOff (last : Option Bool) (c : DisplayCtx) : InStep last (Display.onOff false c) := by
  unfold InStep Display.onOff
  simp [isOff_setOff]

theorem InStep.leaveOff (h : InStep last c) {nb : Bool} (hnb : c.st.isOff = true → nb = false) :
    InStep last (Display.leaveOff nb c) := by
  unfold Display.leaveOff
  split_ifs with hoff hquiet
  · exact absurd (hnb hoff) (by simpa using hquiet)
  · simp [InStep, isOff_clearOff]
  · exact h

/-- A request of a client that goes idle or comes back, unless it takes the display out of the
off state behind the monitors' back. -/
theorem InStep.onDisplayReq (h : InStep last c) (client : DisplayClient) (idle : Bool)
    (hloud : client = .idleHint → idle = false → c.st.isOff = false) :
    InStep last (Display.onDisplayReq (DpmsRun.onIdle idle client) client.noBacklight c) := by
  unfold Display.onDisplayReq
  split_ifs
  swap
  · exact h
  have hchange : InStep last (change (DpmsRun.onIdle idle client) client.noBacklight c) := by
    have hleave : (c.st.isOff = true → client.noBacklight = false) →
        InStep last (Display.leaveDimmed client.noBacklight (Display.leaveOff client.noBacklight c)) :=
      by
      intro hnb
      obtain ⟨hcalls, hoff⟩ := leaveDimmed_frame client.noBacklight
        (Display.leaveOff client.noBacklight c)
      exact (h.leaveOff hnb).of_eq hcalls hoff
    cases client with
    | dpms =>
      cases idle with
      | true => exact .onOff last c
      | false => exact hleave fun _ => rfl
    | idleHint =>
      cases idle with
      | true => exact h.onDimmed true
      | false =>
        refine hleave fun hoff => ?_
        rw [hloud rfl rfl] at hoff
        cases hoff
  unfold InStep at hchange ⊢
  dsimp only [Ctx.call_calls, Ctx.call_st, Ctx.publish_st, Ctx.publish_calls]
  rw [lastDpms_setIdleHint]
  exact hchange

/-- With no_backlight, leaving the off state leaves the monitors as they are. -/
theorem onDisplayReq_silent (last : Option Bool) (hoff : c.st.isOff = true) :
    (onDisplayReq 0 true c).st.isOff = false ∧
      lastDpms last (onDisplayReq 0 true c).calls = lastDpms last c.calls := by
  have hvalid : validateDisplay c.st 0 = true := by simp [validateDisplay, hoff]
  have hleft : leaveOff true c = { c with st := c.st.clearDisplay displayOff } := if_pos hoff
  obtain ⟨hcalls, hframe⟩ := leaveDimmed_frame true (leaveOff true c)
  rw [hleft] at hcalls hframe
  unfold onDisplayReq change
  rw [if_pos hvalid, hleft]
  refine ⟨?_, ?_⟩
  · exact hframe.trans (isOff_clearOff c.st)
  · dsimp only [Ctx.call_calls, Ctx.publish_calls]
    rw [lastDpms_setIdleHint]
    exact congrArg (lastDpms last) hcalls

end Display

namespace DpmsRun
variable {s t : DpmsRun} {last : Option Bool}

/-- No DISPLAY_ON of the IdleHint is received while the display is off. -/
def NotSilent (s : DpmsRun) : DpmsEvent → Prop
  | .deliver => s.inbox.head? = some .idleHint → s.request .idleHint = 0 → s.st.isOff = false
  | _ => True

/-- In a state that is not off, the monitors were last told to be on, or not told at all. -/
def BackOn (s : DpmsRun) (last : Option Bool) : Prop := s.st.isOff = false → last ≠ some true

structure Inv (s : DpmsRun) (last : Option Bool) : Prop where
  inStep : last = some true ↔ s.st.isOff = true
  request : ∀ client, ∃ idle, s.request client = onIdle idle client

theorem Inv.start (cf : Conf) : Inv (start cf) none where
  inStep := by
    have hon : (DpmsRun.start cf).st.isOff = false := by
      simp [State.isOff, DpmsRun.start, initState, displayOn]
    rw [hon]
    exact ⟨nofun, nofun⟩
  request client := ⟨false, by cases client <;> rfl⟩

theorem Inv.backOn (h : Inv s last) : BackOn s last := by
  intro hon hlast
  rw [h.inStep.mp hlast] at hon
  cases hon

theorem deliver_cases (last : Option Bool) (hn : next s .deliver = some t) : ∃ client box,
    s.inbox = client :: box ∧ t = { s with
      display := (s.handled client).loc
      st := (s.handled client).st
      inbox := box } ∧ record last s .deliver t = lastDpms last (s.handled client).calls := by
  simp only [next] at hn
  split at hn
  · cases hn
  rename_i client box hbox
  refine ⟨client, box, hbox, (Option.some.inj hn).symm, ?_⟩
  unfold record
  rw [hbox]
  rfl

theorem Inv.next (h : Inv s last) {e : DpmsEvent} (hc : NotSilent s e) (hn : next s e = some t) :
    Inv t (record last s e t) := by
  cases e with
  | idle client idle =>
    obtain rfl := Option.some.inj hn
    refine ⟨h.inStep, fun client' => ?_⟩
    by_cases hclient : client' = client
    · subst hclient
      exact ⟨idle, Function.update_self ..⟩
    · dsimp only
      rw [Function.update_of_ne hclient]
      exact h.request client'
  | others st cf =>
    simp only [DpmsRun.next] at hn
    split_ifs at hn with hkept
    obtain rfl := Option.some.inj hn
    refine ⟨?_, h.request⟩
    unfold State.isOff
    dsimp only
    rw [hkept]
    exact h.inStep
  | deliver =>
    obtain ⟨client, box, hbox, rfl, hrecord⟩ := deliver_cases last hn
    obtain ⟨idle, hreq⟩ := h.request client
    refine ⟨?_, h.request⟩
    rw [hrecord]
    have hstep : Display.InStep last s.ctx := h.inStep
    unfold handled
    rw [hreq]
    refine hstep.onDisplayReq client idle ?_
    rintro rfl rfl
    exact hc (congrArg List.head? hbox) hreq

/-- A DISPLAY_ON of the IdleHint that finds the display off clears the state and leaves the
monitors off. -/
theorem Inv.silent (h : Inv s last) {e : DpmsEvent} (hc : ¬NotSilent s e)
    (hn : DpmsRun.next s e = some t) : ¬BackOn t (record last s e t) := by
  cases e with
  | idle _ _ => exact absurd trivial hc
  | others _ _ => exact absurd trivial hc
  | deliver =>
    simp only [NotSilent, Classical.not_imp, Bool.not_eq_false] at hc
    obtain ⟨hhead, hon, hoff⟩ := hc
    obtain ⟨client, box, hbox, rfl, hrecord⟩ := deliver_cases last hn
    rw [hbox] at hhead
    obtain rfl := Option.some.inj hhead
    obtain ⟨hon', hcalls⟩ := Display.onDisplayReq_silent (c := s.ctx) last hoff
    have hsilent : s.handled .idleHint = Display.onDisplayReq 0 true s.ctx := by
      unfold handled
      rw [hon]
      rfl
    rw [hrecord, hsilent, hcalls]
    intro hback
    refine hback ?_ (h.inStep.mpr hoff)
    rw [← hon', ← hsilent]

/-- In every run in which no DISPLAY_ON of the IdleHint is received while the display is off, the
monitors are back on whenever the display is not off; and such a message leaves them off. -/
theorem dpms_back_on {s : DpmsRun × Option Bool}
    (hs : dpmsRun.ReachableBy (fun s e => NotSilent s.1 e) s) :
    BackOn s.1 s.2 ∧ ∀ e t, dpmsRun.next s e = some t → (BackOn t.1 t.2 ↔ NotSilent s.1 e) := by
  have hinv : Inv s.1 s.2 := by
    refine Machine.ReachableBy.history (I := Inv) ?_ ?_ hs
    · rintro _ ⟨cf, -, rfl⟩
      exact .start cf
    · exact fun _ _ _ _ _ hi hc hn => hi.next hc hn
  refine ⟨hinv.backOn, ?_⟩
  intro e t hn
  obtain ⟨hnext, hrecord⟩ := Machine.withHistory_next hn
  rw [hrecord]
  constructor
  · intro hback
    by_contra hc
    exact hinv.silent hc hnext hback
  · intro hc
    exact (hinv.next hc hnext).backOn

instance (s : DpmsRun) : (e : DpmsEvent) → Decidable (NotSilent s e)
  | .deliver => inferInstanceAs (Decidable (_ → _ → _))
  | .idle _ _ | .others _ _ => isTrue trivial

def noDimmer : Conf := { Conf.default with dim := { Conf.default.dim with disabled := true } }

theorem dpmsRun_start : dpmsRun.init (start noDimmer, none) := ⟨⟨noDimmer, rfl, rfl⟩, rfl⟩

/-- DPMS switches the display off; then one of its two clients comes back first. -/
def idleAndBack (first : DisplayClient) : List DpmsEvent :=
  [.idle .dpms true, .deliver, .idle first false, .deliver]

theorem dpms_back_on_resumed : ∃ s,
    dpmsRun.run (start noDimmer, none) (idleAndBack .dpms) = some s ∧
      s.2 = some false ∧ BackOn s.1 s.2 := by
  have hrun : (dpmsRun.run (start noDimmer, none) (idleAndBack .dpms)).any
      (fun s => s.2 = some false) = true := by decide +kernel
  obtain ⟨s, hs, hp⟩ := (Option.any_eq_true _ _).mp hrun
  have hby : dpmsRun.RunBy (fun s e => NotSilent s.1 e) (start noDimmer, none) (idleAndBack .dpms) := by
    decide +kernel
  exact ⟨s, hs, of_decide_eq_true hp,
    (dpms_back_on (Machine.ReachableBy.of_run _ (.init dpmsRun_start) hby hs)).1⟩

/-- The IdleHint comes back before the idle client of DPMS. -/
theorem monitors_left_off : ¬ ∀ s : DpmsRun × Option Bool, dpmsRun.Reachable s → BackOn s.1 s.2 := by
  intro h
  have hrun : (dpmsRun.run (start noDimmer, none) (idleAndBack .idleHint)).any
      (fun s => s.2 = some true && !s.1.st.isOff) = true := by decide +kernel
  obtain ⟨s, hs, hp⟩ := (Option.any_eq_true _ _).mp hrun
  simp only [Bool.and_eq_true, decide_eq_true_eq, Bool.not_eq_true'] at hp
  obtain ⟨hlast, hon⟩ := hp
  exact h s (Machine.reachable_of_run dpmsRun_start hs) hon hlast

end DpmsRun
end Clight
