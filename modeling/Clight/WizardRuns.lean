import Clight.Machine
import Clight.Opts
import Clight.Wizard

/-! The runs of WIZARD: whichever keys are pressed, and whenever the captures it asked for arrive,
each brightness it stores and each level it reads belong to the step they are used for. -/
namespace Clight

/-- A call of WIZARD, with the state it was in and, when it handles a capture, the state in which
that was requested. -/
structure WizEntry where
  wizSt : ℕ
  request : Option ℕ
  call : WizCall
  deriving DecidableEq

structure WizardRun where
  wiz : Wizard
  st : State
  cf : Conf
  /-- For each capture that is still to be delivered, the state in which it was requested. -/
  pending : List ℕ
  log : List WizEntry

/-- Captures are delivered in any order, or never. `othersCapture` is a request that is not
WIZARD's, and `others` is what other modules write. -/
inductive WizardRunEvent
  | sensUpd
  | key (ch : Char) (pct : ℚ)
  | ambientBrUpd (n : ℕ)
  | othersCapture
  | others (st : State)

namespace WizardRun

def ctx (s : WizardRun) : WizCtx := { loc := s.wiz, st := s.st, cf := s.cf, out := [], calls := [] }

/-- What is logged of a handler that ran in state `wizSt`. -/
def entries (wizSt : ℕ) (request : Option ℕ) (calls : List WizCall) : List WizEntry :=
  calls.map fun k => ⟨wizSt, request, k⟩

/-- After a handler. What it published is a request for a capture. -/
def after (s : WizardRun) (request : Option ℕ) (c : WizCtx) : WizardRun where
  wiz := c.loc
  st := c.st
  cf := c.cf
  pending := s.pending ++ c.out.map fun _ => s.wiz.wizSt
  log := s.log ++ entries s.wiz.wizSt request c.calls

def next (s : WizardRun) (e : WizardRunEvent) : Option WizardRun :=
  if s.wiz.quit.isSome then none
  else match e with
    | .sensUpd => some (s.after none (Wizard.handle .sensUpd s.ctx))
    | .key ch pct =>
      if s.wiz.stdinRegistered then
        some (s.after none (Wizard.handle (.fdUpd ch (.level pct)) s.ctx))
      else none
    | .ambientBrUpd n =>
      if s.wiz.ambSubscribed then
        s.pending[n]?.map fun k =>
          { s with pending := s.pending.eraseIdx n }.after (some k) (Wizard.handle .ambientBrUpd s.ctx)
      else none
    | .othersCapture => some { s with pending := s.pending ++ [s.wiz.wizSt] }
    | .others st => some { s with st := st }

/-- WIZARD has just started. -/
structure Initial (s : WizardRun) : Prop where
  wiz : s.wiz = .init
  pending : s.pending = []
  log : s.log = []

/-- The state in which the capture of an entry of amb_brs is made. -/
def captureSt (i : ℕ) : ℕ := 2 * i + 1

/-- The state in which the backlight level of an entry of amb_brs is read. -/
def calibSt (i : ℕ) : ℕ := 2 * i + 2

/-- The levels that were recorded, with the state each was recorded in. -/
def levels (log : List WizEntry) : List (ℕ × ℚ) :=
  log.filterMap fun e => match e.call with
    | .setPoint _ pct => some (e.wizSt, pct)
    | _ => none

/-- The subscript of amb_brs in a call. -/
def subscript : WizCall → Option ℕ
  | .ambBr i | .setAmbBr i _ => some i
  | _ => none

/-- What is read and stored in a step belongs to that step. -/
structure Paired (s : WizardRun) : Prop where
  index : s.wiz.quit = none →
    s.wiz.stack.head? = some .capturing ∨ s.wiz.stack.head? = some .calibrating →
      s.wiz.captureIdx = (s.wiz.wizSt - 1) / 2 ∧ s.wiz.captureIdx < wizInPoints
  bounds : ∀ e ∈ s.log, ∀ i, subscript e.call = some i → i < wizInPoints
  /-- A brightness stored at `i` was captured for step `i`. -/
  captures : ∀ e ∈ s.log, ∀ i br, e.call = .setAmbBr i br → e.request = some (captureSt i)
  /-- The curve is fitted to five levels, read one after each capture. -/
  fitted : ∀ e ∈ s.log, ∀ xs ys, e.call = .polynomialfit xs ys →
    (levels s.log).map Prod.fst = (List.range wizInPoints).map calibSt ∧
      ys = (levels s.log).map Prod.snd

/-- A capture that is stored was requested in the state that stores it. -/
def OwnCapture (s : WizardRun) : WizardRunEvent → Prop
  | .ambientBrUpd n =>
    s.wiz.stack.head? = some .capturing → s.pending[n]? = some s.wiz.wizSt
  | _ => True

instance (s : WizardRun) : ∀ e, Decidable (OwnCapture s e)
  | .ambientBrUpd n => inferInstanceAs (Decidable
      (s.wiz.stack.head? = some .capturing → s.pending[n]? = some s.wiz.wizSt))
  | .sensUpd | .key _ _ | .othersCapture | .others _ => isTrue trivial

end WizardRun

def wizardRun : Machine WizardRun WizardRunEvent where
  init := WizardRun.Initial
  next := WizardRun.next

namespace Wizard

/-- The levels that a handler records in state `wizSt`. -/
def levelCalls (wizSt : ℕ) (calls : List WizCall) : List (ℕ × ℚ) :=
  calls.filterMap fun k => match k with
    | .setPoint _ pct => some (wizSt, pct)
    | _ => none

/-- The state goes with the receiver on top, and with the number of levels recorded. -/
def At (w : Wizard) : Prop :=
  match w.stack with
  | .capturing :: _ => w.wizSt = WizardRun.captureSt w.captureIdx ∧ w.captureIdx < wizInPoints
  | .calibrating :: _ => w.wizSt = WizardRun.calibSt w.captureIdx ∧ w.captureIdx < wizInPoints
  | .waitingSens :: rest => rest = [] ∧ w.wizSt = 0 ∧ w.captureIdx = 0
  | [] => w.wizSt = 0 ∧ w.captureIdx = 0

theorem At.capturing {w : Wizard} (h : At w) {rest : RecvStack WizRecv}
    (hstack : w.stack = .capturing :: rest) :
    w.wizSt = WizardRun.captureSt w.captureIdx ∧ w.captureIdx < wizInPoints := by
  unfold At at h
  rw [hstack] at h
  exact h

theorem At.calibrating {w : Wizard} (h : At w) {rest : RecvStack WizRecv}
    (hstack : w.stack = .calibrating :: rest) :
    w.wizSt = WizardRun.calibSt w.captureIdx ∧ w.captureIdx < wizInPoints := by
  unfold At at h
  rw [hstack] at h
  exact h

/-- What WIZARD has recorded when it is between two messages. -/
structure Progress (w : Wizard) (levels : List (ℕ × ℚ)) : Prop where
  position : At w
  points : wizInPoints ≤ w.points.length
  states : levels.map Prod.fst = (List.range w.captureIdx).map WizardRun.calibSt
  recorded : w.points.take w.captureIdx = levels.map Prod.snd

/-- What a handler of a wizard in progress can do. -/
structure Advances (levels : List (ℕ × ℚ)) (m : WizMsg) (c c' : WizCtx) : Prop where
  progress : c'.loc.quit = none →
    Progress c'.loc (levels ++ levelCalls c.loc.wizSt c'.calls) ∧
      ∀ xs ys, .polynomialfit xs ys ∉ c'.calls
  bounds : ∀ k ∈ c'.calls, ∀ i, WizardRun.subscript k = some i → i < wizInPoints
  /-- Only a capture stores a brightness, at the index of the step. -/
  stored : ∀ i br, .setAmbBr i br ∈ c'.calls →
    m = .ambientBrUpd ∧ c.loc.stack.head? = some .capturing ∧ i = c.loc.captureIdx
  fitted : ∀ xs ys, .polynomialfit xs ys ∈ c'.calls →
    (levels ++ levelCalls c.loc.wizSt c'.calls).map Prod.fst =
        (List.range wizInPoints).map WizardRun.calibSt ∧
      ys = (levels ++ levelCalls c.loc.wizSt c'.calls).map Prod.snd

variable {levels : List (ℕ × ℚ)} {m : WizMsg} {c c' : WizCtx}

/-! ### What a handler does to a wizard in progress -/

/-- A handler that only moves to a position that goes with what was recorded, or quits. -/
theorem Advances.of_recorded (h : Progress c.loc levels) (hpos : c'.loc.quit = none → At c'.loc)
    (hidx : c'.loc.captureIdx = c.loc.captureIdx) (hpoints : c'.loc.points = c.loc.points)
    (hcalls : ∀ k ∈ c'.calls, k = .ambBr c.loc.captureIdx ∧ c.loc.captureIdx < wizInPoints) :
    Advances levels m c c' := by
  have hlevels : levelCalls c.loc.wizSt c'.calls = [] := by
    refine List.filterMap_eq_nil_iff.mpr fun k hk => ?_
    rw [(hcalls k hk).1]
  have hfit : ∀ xs ys, WizCall.polynomialfit xs ys ∉ c'.calls := by
    intro xs ys hk
    cases (hcalls _ hk).1
  refine ⟨fun hq => ⟨⟨hpos hq, hpoints ▸ h.points, ?_, ?_⟩, hfit⟩, ?_, ?_, ?_⟩
  · rw [hlevels, List.append_nil, hidx]
    exact h.states
  · rw [hlevels, List.append_nil, hidx, hpoints]
    exact h.recorded
  · intro k hk i hi
    obtain ⟨rfl, hlt⟩ := hcalls k hk
    cases hi
    exact hlt
  · intro i br hk
    cases (hcalls _ hk).1
  · intro xs ys hk
    exact absurd hk (hfit xs ys)

theorem Advances.ignored (h : Progress c.loc levels) (hcalls : c.calls = []) : Advances levels m c c := by
  apply Advances.of_recorded h (fun _ => h.position) rfl rfl
  rw [hcalls]
  exact fun k hk => absurd hk List.not_mem_nil

theorem Advances.quits (h : Progress c.loc levels) (hcalls : c.calls = []) (code : ℤ) :
    Advances levels m c (modulesQuit code c) := by
  refine Advances.of_recorded h (fun hq => ?_) rfl rfl fun k hk => ?_
  · cases hq
  · exact absurd (hcalls ▸ hk) List.not_mem_nil

/-- From a state before the last one, the next step is a capture or a calibration. -/
theorem nextStep_of_lt (hlt : c.loc.wizSt + 1 < wizCompute) :
    nextStep c = { c with loc := { c.loc with
      wizSt := c.loc.wizSt + 1
      stack := become (if (c.loc.wizSt + 1) % 2 = 0 then .calibrating else .capturing) c.loc.stack } } := by
  unfold nextStep
  dsimp only
  rw [if_pos hlt]
  split_ifs <;> rfl

theorem advances_receive (h : Progress c.loc levels) (hcalls : c.calls = []) (hstack : c.loc.stack = [])
    (m : WizMsg) : Advances levels m c (receive m c) := by
  have hstart : c.loc.wizSt = 0 ∧ c.loc.captureIdx = 0 := by
    have hpos := h.position
    unfold At at hpos
    rw [hstack] at hpos
    exact hpos
  cases m with
  | fdUpd ch reply =>
    simp only [receive]
    split_ifs
    · have hlt : c.loc.wizSt + 1 < wizCompute := by
        rw [hstart.1]
        decide
      rw [nextStep_of_lt hlt]
      refine Advances.of_recorded h (fun _ => ?_) rfl rfl fun k hk => ?_
      · simp [At, become, hstart.1, hstart.2, WizardRun.captureSt, wizInPoints]
      · exact absurd (hcalls ▸ hk) List.not_mem_nil
    · exact .quits h hcalls 0
  | sensUpd => exact .ignored h hcalls
  | ambientBrUpd => exact .ignored h hcalls

theorem advances_waitingSens (h : Progress c.loc levels) (hcalls : c.calls = [])
    {rest : RecvStack WizRecv} (hstack : c.loc.stack = .waitingSens :: rest) (m : WizMsg) :
    Advances levels m c (receiveWaitingSens m c) := by
  have hstart : rest = [] ∧ c.loc.wizSt = 0 ∧ c.loc.captureIdx = 0 := by
    have hpos := h.position
    unfold At at hpos
    rw [hstack] at hpos
    exact hpos
  cases m with
  | sensUpd =>
    simp only [receiveWaitingSens]
    split_ifs
    · refine Advances.of_recorded h (fun _ => ?_) rfl rfl fun k hk => ?_
      · have hbase : unbecome c.loc.stack = [] := by
          rw [hstack]
          exact hstart.1
        simp only [At, hbase]
        exact hstart.2
      · exact absurd (hcalls ▸ hk) List.not_mem_nil
    · exact .quits h hcalls 1
  | fdUpd ch reply => exact .ignored h hcalls
  | ambientBrUpd => exact .ignored h hcalls

/-- From a capture the wizard goes on to the level that goes with it. -/
theorem advances_afterCapture (h : Progress c.loc levels)
    (hpos : c.loc.wizSt = WizardRun.captureSt c.loc.captureIdx ∧ c.loc.captureIdx < wizInPoints)
    (hloc : c'.loc = c.loc) (hcalls : ∀ k ∈ c'.calls, k = .ambBr c.loc.captureIdx) :
    Advances levels m c (nextStep c') := by
  have hst : c'.loc.wizSt + 1 = WizardRun.calibSt c.loc.captureIdx := by
    rw [hloc, hpos.1]
    rfl
  have hlt : c'.loc.wizSt + 1 < wizCompute := by
    have hidx := hpos.2
    unfold WizardRun.calibSt at hst
    unfold wizInPoints at hidx
    unfold wizCompute
    omega
  have heven : (c'.loc.wizSt + 1) % 2 = 0 := by
    rw [hst]
    unfold WizardRun.calibSt
    omega
  -- an even state: the level is read next
  rw [nextStep_of_lt hlt, if_pos heven, hst, hloc]
  exact Advances.of_recorded h (fun _ => ⟨rfl, hpos.2⟩) rfl rfl fun k hk => ⟨hcalls k hk, hpos.2⟩

theorem advances_capturing (h : Progress c.loc levels) (hcalls : c.calls = [])
    {rest : RecvStack WizRecv} (hstack : c.loc.stack = .capturing :: rest) (m : WizMsg) :
    Advances levels m c (receiveCapturing m c) := by
  have hpos := h.position.capturing hstack
  have hread : ∀ k ∈ (c.call (.ambBr c.loc.captureIdx)).calls, k = .ambBr c.loc.captureIdx := by
    intro k hk
    rw [Ctx.call_calls, hcalls] at hk
    exact List.mem_singleton.mp hk
  cases m with
  | fdUpd ch reply =>
    simp only [receiveCapturing]
    split_ifs
    · exact Advances.of_recorded h (fun _ => h.position) rfl rfl fun k hk => ⟨hread k hk, hpos.2⟩
    · exact advances_afterCapture h hpos rfl hread
    · apply advances_afterCapture h hpos rfl
      rw [hcalls]
      exact fun k hk => absurd hk List.not_mem_nil
  | ambientBrUpd =>
    have hone : (receiveCapturing .ambientBrUpd c).calls =
        [.setAmbBr c.loc.captureIdx c.st.ambientBr] := by
      rw [receiveCapturing, Ctx.call_calls, hcalls]
      rfl
    have hlevels : levelCalls c.loc.wizSt (receiveCapturing .ambientBrUpd c).calls = [] := by
      rw [hone]
      rfl
    have hfit : ∀ xs ys, WizCall.polynomialfit xs ys ∉ (receiveCapturing .ambientBrUpd c).calls := by
      intro xs ys hk
      rw [hone] at hk
      cases List.mem_singleton.mp hk
    refine ⟨fun _ => ⟨⟨h.position, h.points, ?_, ?_⟩, hfit⟩, ?_, ?_, ?_⟩
    · rw [hlevels, List.append_nil]
      exact h.states
    · rw [hlevels, List.append_nil]
      exact h.recorded
    · intro k hk i hi
      rw [hone] at hk
      rw [List.mem_singleton.mp hk] at hi
      exact Option.some.inj hi ▸ hpos.2
    · intro i br hk
      rw [hone] at hk
      refine ⟨rfl, ?_, (WizCall.setAmbBr.inj (List.mem_singleton.mp hk)).1⟩
      rw [hstack]
      rfl
    · intro xs ys hk
      exact absurd hk (hfit xs ys)
  | sensUpd => exact .ignored h hcalls

theorem take_set_succ {l : List ℚ} {i : ℕ} (hi : i < l.length) (q : ℚ) :
    (l.set i q).take (i + 1) = l.take i ++ [q] := by
  have hset : i < (l.set i q).length := by
    rw [List.length_set]
    exact hi
  rw [List.take_succ_eq_append_getElem hset, List.getElem_set_self hset, List.take_set_of_le le_rfl]

/-- The level read in a calibration is the next one recorded. -/
theorem Progress.record (h : Progress c.loc levels)
    (hpos : c.loc.wizSt = WizardRun.calibSt c.loc.captureIdx ∧ c.loc.captureIdx < wizInPoints) (pct : ℚ) :
    (levels ++ [(c.loc.wizSt, pct)]).map Prod.fst =
        (List.range (c.loc.captureIdx + 1)).map WizardRun.calibSt ∧
      (c.loc.points.set c.loc.captureIdx pct).take (c.loc.captureIdx + 1) =
        (levels ++ [(c.loc.wizSt, pct)]).map Prod.snd := by
  constructor
  · rw [List.map_append, h.states, List.range_succ, List.map_append, List.map_singleton, hpos.1,
      List.map_singleton]
  · rw [take_set_succ (lt_of_lt_of_le hpos.2 h.points), h.recorded, List.map_append, List.map_singleton]

/-- After the last state the curve is fitted, and the wizard quits. -/
theorem nextStep_of_not_lt (hend : ¬ c.loc.wizSt + 1 < wizCompute) :
    (nextStep c).calls = c.calls ++ [.polynomialfit c.loc.ambBrs (c.loc.points.take wizInPoints)] ∧
      (nextStep c).loc.quit = some 0 := by
  unfold nextStep
  dsimp only
  rw [if_neg hend]
  exact ⟨rfl, rfl⟩

/-- A handler that records a level, and may then fit the curve. -/
theorem Advances.of_level {pct : ℚ} {fits : List WizCall}
    (hcalls : c'.calls = .setPoint c.loc.captureIdx pct :: fits)
    (hprogress : c'.loc.quit = none → fits = [] ∧ Progress c'.loc (levels ++ [(c.loc.wizSt, pct)]))
    (hfits : ∀ k ∈ fits, (∃ xs, k = .polynomialfit xs ((levels ++ [(c.loc.wizSt, pct)]).map Prod.snd)) ∧
      (levels ++ [(c.loc.wizSt, pct)]).map Prod.fst = (List.range wizInPoints).map WizardRun.calibSt) :
    Advances levels m c c' := by
  have hlevels : levelCalls c.loc.wizSt c'.calls = [(c.loc.wizSt, pct)] := by
    have hnone : levelCalls c.loc.wizSt fits = [] := by
      refine List.filterMap_eq_nil_iff.mpr fun k hk => ?_
      obtain ⟨xs, rfl⟩ := (hfits k hk).1
      rfl
    rw [hcalls]
    exact congrArg ((c.loc.wizSt, pct) :: ·) hnone
  have hcases : ∀ k ∈ c'.calls, k = .setPoint c.loc.captureIdx pct ∨ k ∈ fits := by
    intro k hk
    rw [hcalls] at hk
    exact List.mem_cons.mp hk
  rw [← hlevels] at hprogress hfits
  refine ⟨fun hq => ⟨(hprogress hq).2, fun xs ys hk => ?_⟩, fun k hk i hi => ?_, fun i br hk => ?_,
    fun xs ys hk => ?_⟩
  · rcases hcases _ hk with heq | hfit
    · cases heq
    · rw [(hprogress hq).1] at hfit
      cases hfit
  -- neither a level nor a fit accesses amb_brs
  · rcases hcases k hk with rfl | hfit
    · cases hi
    · obtain ⟨xs, rfl⟩ := (hfits k hfit).1
      cases hi
  · rcases hcases _ hk with heq | hfit
    · cases heq
    · obtain ⟨xs, heq⟩ := (hfits _ hfit).1
      cases heq
  · rcases hcases _ hk with heq | hfit
    · cases heq
    · obtain ⟨⟨xs', heq⟩, hstates⟩ := hfits _ hfit
      exact ⟨hstates, (WizCall.polynomialfit.inj heq).2⟩

/-- What ENTER does while calibrating. -/
theorem receiveCalibrating_level (pct : ℚ) (c : WizCtx) :
    receiveCalibrating (.fdUpd '\n' (.level pct)) c = nextStep (getBacklight (.level pct) c).1 := rfl

theorem advances_level (h : Progress c.loc levels) (hcalls : c.calls = [])
    (hpos : c.loc.wizSt = WizardRun.calibSt c.loc.captureIdx ∧ c.loc.captureIdx < wizInPoints) (pct : ℚ) :
    Advances levels m c (nextStep (getBacklight (.level pct) c).1) := by
  obtain ⟨hstates, hrecorded⟩ := h.record hpos pct
  have hread : (getBacklight (.level pct) c).1.calls = [.setPoint c.loc.captureIdx pct] :=
    congrArg (· ++ [WizCall.setPoint c.loc.captureIdx pct]) hcalls
  have hst : (getBacklight (.level pct) c).1.loc.wizSt + 1 = WizardRun.captureSt (c.loc.captureIdx + 1) := by
    apply congrArg (· + 1) hpos.1
  by_cases hlast : c.loc.captureIdx + 1 < wizInPoints
  · -- on to the next capture
    have hlt : (getBacklight (.level pct) c).1.loc.wizSt + 1 < wizCompute := by
      rw [hst]
      unfold WizardRun.captureSt wizCompute
      unfold wizInPoints at hlast
      omega
    have hodd : ¬ ((getBacklight (.level pct) c).1.loc.wizSt + 1) % 2 = 0 := by
      rw [hst]
      unfold WizardRun.captureSt
      omega
    rw [nextStep_of_lt hlt, if_neg hodd, hst]
    refine .of_level hread (fun _ => ⟨rfl, ⟨rfl, hlast⟩, ?_, hstates, hrecorded⟩) ?_
    · exact le_of_le_of_eq h.points List.length_set.symm
    · exact fun k hk => absurd hk List.not_mem_nil
  · -- the last level: the curve is fitted
    have hfull : c.loc.captureIdx + 1 = wizInPoints := by omega
    have hend : ¬ (getBacklight (.level pct) c).1.loc.wizSt + 1 < wizCompute := by
      rw [hst, hfull]
      decide
    rw [hfull] at hstates hrecorded
    obtain ⟨hcompute, hquit⟩ := nextStep_of_not_lt hend
    rw [hread] at hcompute
    refine .of_level hcompute (fun hq => ?_) fun k hk => ⟨⟨c.loc.ambBrs, ?_⟩, hstates⟩
    · rw [hquit] at hq
      cases hq
    · rw [List.mem_singleton.mp hk, ← hrecorded]
      rfl

theorem advances_calibrating (h : Progress c.loc levels) (hcalls : c.calls = [])
    {rest : RecvStack WizRecv} (hstack : c.loc.stack = .calibrating :: rest) {m : WizMsg}
    (hm : ∀ ch reply, m = .fdUpd ch reply → ∃ pct, reply = .level pct) :
    Advances levels m c (receiveCalibrating m c) := by
  have hpos := h.position.calibrating hstack
  cases m with
  | sensUpd => exact .ignored h hcalls
  | ambientBrUpd => exact .ignored h hcalls
  | fdUpd ch reply =>
    obtain ⟨pct, rfl⟩ := hm ch reply rfl
    by_cases hch : ch = '\n'
    · rw [hch, receiveCalibrating_level]
      exact advances_level h hcalls hpos pct
    · have hignored : receiveCalibrating (.fdUpd ch (.level pct)) c = c := if_neg hch
      rw [hignored]
      exact .ignored h hcalls

theorem advances (h : Progress c.loc levels) (hcalls : c.calls = [])
    (hm : ∀ ch reply, m = .fdUpd ch reply → ∃ pct, reply = .level pct) :
    Advances levels m c (handle m c) := by
  unfold handle
  split
  next hstack => exact advances_receive h hcalls hstack m
  next hstack => exact advances_waitingSens h hcalls hstack m
  next hstack => exact advances_capturing h hcalls hstack m
  next hstack => exact advances_calibrating h hcalls hstack hm

/-- A capture that arrives while capturing is stored. -/
theorem handle_ambientBrUpd (hstack : c.loc.stack.head? = some .capturing) :
    .setAmbBr c.loc.captureIdx c.st.ambientBr ∈ (handle .ambientBrUpd c).calls := by
  obtain ⟨rest, hcons⟩ := List.head?_eq_some_iff.mp hstack
  unfold handle
  rw [hcons]
  exact List.mem_append_right _ List.mem_cons_self

theorem At.index {w : Wizard} (h : At w)
    (hstack : w.stack.head? = some .capturing ∨ w.stack.head? = some .calibrating) :
    w.captureIdx = (w.wizSt - 1) / 2 ∧ w.captureIdx < wizInPoints := by
  rcases hstack with hstack | hstack
  · obtain ⟨rest, hcons⟩ := List.head?_eq_some_iff.mp hstack
    obtain ⟨hst, hlt⟩ := h.capturing hcons
    unfold WizardRun.captureSt at hst
    exact ⟨by omega, hlt⟩
  · obtain ⟨rest, hcons⟩ := List.head?_eq_some_iff.mp hstack
    obtain ⟨hst, hlt⟩ := h.calibrating hcons
    unfold WizardRun.calibSt at hst
    exact ⟨by omega, hlt⟩

end Wizard

namespace WizardRun
open Wizard

variable {s s' : WizardRun}

/-- Until it quits, WIZARD is in progress and has fitted no curve. -/
def InProgress (s : WizardRun) : Prop :=
  s.wiz.quit = none → Progress s.wiz (levels s.log) ∧
    ∀ e ∈ s.log, ∀ xs ys, e.call ≠ .polynomialfit xs ys

theorem levels_append (log : List WizEntry) (wizSt : ℕ) (request : Option ℕ) (calls : List WizCall) :
    levels (log ++ entries wizSt request calls) =
      levels log ++ levelCalls wizSt calls := by
  have hentries : levels (entries wizSt request calls) = levelCalls wizSt calls := by
    unfold levels entries levelCalls
    rw [List.filterMap_map]
    rfl
  rw [← hentries]
  exact List.filterMap_append

theorem mem_after {request : Option ℕ} {c : WizCtx} {e : WizEntry} (he : e ∈ (s.after request c).log) :
    e ∈ s.log ∨ (e.call ∈ c.calls ∧ e.request = request) := by
  rcases List.mem_append.mp he with hold | hnew
  · exact .inl hold
  · obtain ⟨k, hk, rfl⟩ := List.mem_map.mp hnew
    exact .inr ⟨hk, rfl⟩

/-- After a handler, each brightness is in its place exactly when those it stored are. -/
theorem paired_after_iff (h : Paired s) (hp : InProgress s) (hq : s.wiz.quit = none) {m : WizMsg}
    {c : WizCtx} (hh : Advances (levels s.log) m s.ctx c) (request : Option ℕ) :
    (Paired (s.after request c) ↔ ∀ i br, .setAmbBr i br ∈ c.calls → request = some (captureSt i)) ∧
      InProgress (s.after request c) := by
  have hlevels : levels (s.after request c).log =
      levels s.log ++ levelCalls s.wiz.wizSt c.calls := levels_append ..
  -- what was logged before is as it was, and `hh` says what the handler added
  refine ⟨⟨fun h' i br hk => ?_, fun hown => ⟨fun hq' hstack => ?_, ?_, ?_, ?_⟩⟩, fun hq' => ⟨?_, ?_⟩⟩
  · exact h'.captures ⟨s.wiz.wizSt, request, .setAmbBr i br⟩
      (List.mem_append_right _ (List.mem_map_of_mem hk)) i br rfl
  · exact (hh.progress hq').1.position.index hstack
  · intro e he i hi
    rcases mem_after he with hold | ⟨hk, -⟩
    · exact h.bounds e hold i hi
    · exact hh.bounds e.call hk i hi
  · intro e he i br hcall
    rcases mem_after he with hold | ⟨hk, hreq⟩
    · exact h.captures e hold i br hcall
    · rw [hcall] at hk
      rw [hreq]
      exact hown i br hk
  · intro e he xs ys hcall
    rw [hlevels]
    rcases mem_after he with hold | ⟨hk, -⟩
    · exact absurd hcall ((hp hq).2 e hold xs ys)
    · rw [hcall] at hk
      exact hh.fitted xs ys hk
  · rw [hlevels]
    exact (hh.progress hq').1
  · intro e he xs ys hcall
    rcases mem_after he with hold | ⟨hk, -⟩
    · exact (hp hq).2 e hold xs ys hcall
    · rw [hcall] at hk
      exact (hh.progress hq').2 xs ys hk

/-- A message other than a capture stores no brightness. -/
theorem paired_after (h : Paired s) (hp : InProgress s) (hq : s.wiz.quit = none) {m : WizMsg}
    (hm : ∀ ch reply, m = .fdUpd ch reply → ∃ pct, reply = .level pct) (hne : m ≠ .ambientBrUpd) :
    Paired (s.after none (handle m s.ctx)) ∧ InProgress (s.after none (handle m s.ctx)) := by
  have hh : Advances (levels s.log) m s.ctx (handle m s.ctx) := advances (hp hq).1 rfl hm
  obtain ⟨hiff, hnext⟩ := paired_after_iff h hp hq hh none
  exact ⟨hiff.mpr fun i br hk => absurd (hh.stored i br hk).1 hne, hnext⟩

/-- One event: what is stored still belongs to its step exactly when a capture that is stored was
requested in that step. -/
theorem paired_next_iff (h : Paired s) (hp : InProgress s) {e : WizardRunEvent}
    (hn : s.next e = some s') : (Paired s' ↔ OwnCapture s e) ∧ InProgress s' := by
  have hquit : ¬ s.wiz.quit.isSome = true := by
    intro hsome
    unfold next at hn
    rw [if_pos hsome] at hn
    cases hn
  have hq : s.wiz.quit = none := Option.not_isSome_iff_eq_none.mp hquit
  unfold next at hn
  rw [if_neg hquit] at hn
  cases e with
  | sensUpd =>
    obtain rfl := Option.some.inj hn
    obtain ⟨h', hp'⟩ := paired_after h hp hq (m := .sensUpd) (fun ch reply hm => by cases hm)
      fun hm => by cases hm
    exact ⟨iff_of_true h' trivial, hp'⟩
  | key ch pct =>
    dsimp only at hn
    split_ifs at hn
    obtain rfl := Option.some.inj hn
    obtain ⟨h', hp'⟩ := paired_after h hp hq (m := .fdUpd ch (.level pct))
      (fun ch reply hm => ⟨pct, (WizMsg.fdUpd.inj hm).2.symm⟩) fun hm => by cases hm
    exact ⟨iff_of_true h' trivial, hp'⟩
  | ambientBrUpd n =>
    dsimp only at hn
    split_ifs at hn
    obtain ⟨k, hk, rfl⟩ := Option.map_eq_some_iff.mp hn
    have hh : Advances (levels s.log) .ambientBrUpd s.ctx (handle .ambientBrUpd s.ctx) :=
      advances (hp hq).1 rfl fun ch reply hm => by cases hm
    have hbefore : Paired { s with pending := s.pending.eraseIdx n } :=
      ⟨h.index, h.bounds, h.captures, h.fitted⟩
    obtain ⟨hiff, hp'⟩ := paired_after_iff hbefore hp hq hh (some k)
    refine ⟨hiff.trans ?_, hp'⟩
    -- what is stored while capturing is stored at the index of the state
    dsimp only [OwnCapture]
    rw [hk]
    have hst : s.wiz.stack.head? = some .capturing → s.wiz.wizSt = captureSt s.wiz.captureIdx := by
      intro hstack
      obtain ⟨rest, hcons⟩ := List.head?_eq_some_iff.mp hstack
      exact ((hp hq).1.position.capturing hcons).1
    constructor
    · intro hown hstack
      rw [hown _ _ (handle_ambientBrUpd hstack), hst hstack]
      rfl
    · intro hown i br hstored
      obtain ⟨-, hstack, rfl⟩ := hh.stored i br hstored
      rw [hown hstack, hst hstack]
      rfl
  | othersCapture =>
    obtain rfl := Option.some.inj hn
    exact ⟨iff_of_true ⟨h.index, h.bounds, h.captures, h.fitted⟩ trivial, hp⟩
  | others st =>
    obtain rfl := Option.some.inj hn
    exact ⟨iff_of_true ⟨h.index, h.bounds, h.captures, h.fitted⟩ trivial, hp⟩

/-- What is read and stored belongs to its step in the state that the event leads to. -/
def PairedAfter (s : WizardRun) (e : WizardRunEvent) : Prop := ∀ s', s.next e = some s' → Paired s'

theorem paired_init (h : Initial s) : Paired s ∧ InProgress s := by
  have hlog : ∀ e, e ∉ s.log := by
    intro e he
    rw [h.log] at he
    exact List.not_mem_nil he
  refine ⟨⟨fun _ hstack => ?_, fun e he => absurd he (hlog e), fun e he => absurd he (hlog e),
    fun e he => absurd he (hlog e)⟩, fun _ => ⟨?_, fun e he => absurd he (hlog e)⟩⟩
  · rw [h.wiz] at hstack
    rcases hstack with hstack | hstack
    · cases hstack
    · cases hstack
  · rw [h.wiz, h.log]
    exact ⟨⟨rfl, rfl, rfl⟩, by decide, rfl, rfl⟩

/-- What is read and stored belongs to its step in every state of a run exactly when each capture that
is stored was requested in the step that stores it. -/
theorem pairedAfter_iff {es : List WizardRunEvent} (hs : wizardRun.init s)
    (hrun : wizardRun.run s es = some s') :
    wizardRun.RunBy PairedAfter s es ↔ wizardRun.RunBy OwnCapture s es := by
  obtain ⟨hinit, hp⟩ := paired_init hs
  apply Machine.runBy_after_iff (I := InProgress) ?_ hinit hp hrun
  intro s e s' h hp hn
  exact paired_next_iff h hp hn

/-- WIZARD in a room with a sensor. -/
def lit : WizardRun where
  wiz := .init
  st := { initState .default with sensAvail := some true, ambientBr := 1/2 }
  cf := .default
  pending := []
  log := []

theorem lit_init : wizardRun.init lit := ⟨rfl, rfl, rfl⟩

/-- One step: a capture that is waited for, and the level that goes with it. -/
def patientStep (pct : ℚ) : List WizardRunEvent :=
  [.key 'y' 0, .ambientBrUpd 0, .key '\n' 0, .key '\n' pct]

def patient : List WizardRunEvent :=
  [.sensUpd, .key 'y' 0] ++ [0, 1/4, 1/2, 3/4, 1].flatMap patientStep

/-- Whoever waits for each capture gets a curve. -/
theorem pairedAfter_patient : ∃ s', wizardRun.run lit patient = some s' ∧ s'.wiz.quit = some 0 ∧
    wizardRun.RunBy PairedAfter lit patient := by
  have hbind : (wizardRun.run lit patient).bind (fun s => s.wiz.quit) = some 0 := by decide +kernel
  obtain ⟨s', hrun, hquit⟩ := Option.bind_eq_some_iff.mp hbind
  exact ⟨s', hrun, hquit, (pairedAfter_iff lit_init hrun).mpr (by decide +kernel)⟩

/-- The first capture is not waited for: it arrives when the second one is to be made. -/
theorem pairedAfter_hasty : ¬ ∀ (s s' : WizardRun) (es : List WizardRunEvent), wizardRun.init s →
    wizardRun.run s es = some s' → wizardRun.RunBy PairedAfter s es := by
  intro hall
  have hrun : wizardRun.run lit [.sensUpd, .key 'y' 0, .key 'y' 0, .key 'n' 0, .key '\n' (1/2),
    .ambientBrUpd 0] = some _ := rfl
  have hpaired := hall _ _ _ lit_init hrun
  have hlast := (((((hpaired.2 _ rfl).2 _ rfl).2 _ rfl).2 _ rfl).2 _ rfl).1 _ rfl
  have hstored := hlast.captures ⟨captureSt 1, some (captureSt 0), .setAmbBr 1 (1/2)⟩ (by decide +kernel)
    1 (1/2) rfl
  exact absurd hstored (by decide)

end WizardRun
end Clight
