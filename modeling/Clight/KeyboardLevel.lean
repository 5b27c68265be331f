import Clight.History
import Clight.Machine
import Clight.Opts
import Clight.PauseBitsIdle

/-! KEYBOARD behind its mailbox: the level that it commanded last is the one that was asked for last,
by the screen or by a pause, as soon as it has received what was published. -/
namespace Clight

def KbdCall.level? : KbdCall → Option ℚ
  | .set level => some level
  | .setTimeout _ => none

/-- The last level that was commanded. -/
def lastLevel (calls : List KbdCall) : Option ℚ := (calls.filterMap KbdCall.level?).getLast?

@[simp] theorem lastLevel_set (calls : List KbdCall) (level : ℚ) :
    lastLevel (calls ++ [.set level]) = some level := by
  unfold lastLevel
  rw [List.filterMap_append]
  exact List.getLast?_append_of_ne_nil _ (List.cons_ne_nil _ _)

@[simp] theorem lastLevel_setTimeout (calls : List KbdCall) (timeout : ℤ) :
    lastLevel (calls ++ [.setTimeout timeout]) = lastLevel calls := by
  unfold lastLevel
  rw [List.filterMap_append]
  exact congrArg List.getLast? (List.append_nil _)

namespace Keyboard

@[simp] theorem lastLevel_setKeyboardLevel (sent : Bool) (level : ℚ) (c : KbdCtx) :
    lastLevel (setKeyboardLevel sent level c).calls = some level := by
  unfold setKeyboardLevel
  dsimp only
  split_ifs
  · exact lastLevel_set c.calls level
  · exact lastLevel_set c.calls level

theorem setKeyboardLevel_asks (sent : Bool) (level : ℚ) (c : KbdCtx) :
    .kbdBlReqStatic ∈ (setKeyboardLevel sent level c).out ↔ .kbdBlReqStatic ∈ c.out := by
  unfold setKeyboardLevel
  dsimp only
  split_ifs
  · simp [Ctx.publish, Ctx.call]
  · rfl

/-- A step that commands a level only when the mask becomes empty or stops to be so. -/
structure Switches (c c' : KbdCtx) : Prop where
  req : c'.loc.kbdReq.new = c.loc.kbdReq.new
  out : .kbdBlReqStatic ∈ c'.out → .kbdBlReqStatic ∈ c.out
  level : lastLevel c'.calls =
    if c.loc.paused.isUnpaused = c'.loc.paused.isUnpaused then lastLevel c.calls
    else if c.loc.paused.isUnpaused then some 0
    else some (1 - c.st.currentBlPct)

variable {c c' : KbdCtx}

theorem Switches.refl (c : KbdCtx) : Switches c c where
  req := rfl
  out := id
  level := by rw [if_pos rfl]

/-- What is done about the configuration and the request to Clightd does not matter. -/
theorem Switches.of_eq {c₁ : KbdCtx} (h : Switches c c') (hloc : c.loc = c₁.loc) (hst : c.st = c₁.st)
    (hout : c.out = c₁.out) (hcalls : c.calls = c₁.calls) : Switches c₁ c' where
  req := hloc ▸ h.req
  out := hout ▸ h.out
  level := hcalls ▸ hst ▸ hloc ▸ h.level

theorem switches_pauseKbd (sent pause : Bool) (reason : ModPause) (c : KbdCtx) :
    Switches c (pauseKbd sent pause reason c) := by
  have hpaused := pauseKbd_paused sent pause reason c
  have hchanged := modCheckPause_changed pause reason c.loc.paused
  rw [← hpaused] at hchanged
  refine ⟨?_, ?_, ?_⟩
  · unfold pauseKbd
    dsimp only
    split_ifs <;> simp
  · unfold pauseKbd
    dsimp only
    split_ifs <;> simp [setKeyboardLevel_asks]
  · by_cases hsame : c.loc.paused.isUnpaused = (pauseKbd sent pause reason c).loc.paused.isUnpaused
    · rw [if_pos hsame]
      rw [hsame, bne_self_eq_false] at hchanged
      unfold pauseKbd
      dsimp only
      rw [hchanged]
      rfl
    · rw [if_neg hsame]
      have htrue : (modCheckPause pause reason c.loc.paused).2 = true := by
        rw [hchanged]
        exact bne_iff_ne.mpr hsame
      cases pause with
      | true =>
        -- a mask that a reason is added to was empty
        have hwas : c.loc.paused.isUnpaused = true := htrue
        rw [hwas, if_pos rfl]
        unfold pauseKbd
        dsimp only
        rw [htrue, if_pos rfl, if_pos rfl]
        exact lastLevel_setKeyboardLevel ..
      | false =>
        have hwas : c.loc.paused.isUnpaused = false := by
          have hboth : (!c.loc.paused.isUnpaused && (c.loc.paused.clear reason).isUnpaused) = true := htrue
          rw [Bool.and_eq_true, Bool.not_eq_true'] at hboth
          exact hboth.1
        rw [hwas, if_neg Bool.false_ne_true]
        unfold pauseKbd
        dsimp only
        rw [htrue, if_pos rfl, if_neg Bool.false_ne_true]
        exact lastLevel_setKeyboardLevel ..

theorem switches_setKeyboardTimeout (sent : Bool) (c : KbdCtx) :
    Switches c (setKeyboardTimeout sent c) := by
  have hpause := switches_pauseKbd sent (decide (atAc c.cf.kbd.timeout c.st.acState ≤ 0)) .timeout c
  unfold setKeyboardTimeout
  dsimp only
  split_ifs
  · exact ⟨hpause.req, hpause.out, (lastLevel_setTimeout _ _).trans hpause.level⟩
  · exact hpause

theorem switches_onKbdToReq (sent : Bool) (up : TimeoutUpd) (c : KbdCtx) :
    Switches c (onKbdToReq sent up c) := by
  unfold onKbdToReq
  split
  · exact .refl c
  · dsimp only
    split_ifs
    · exact (switches_setKeyboardTimeout sent _).of_eq rfl rfl rfl rfl
    · exact (Switches.refl _).of_eq rfl rfl rfl rfl

theorem switches_onCurveReq (fit : Fit) (up : CurveUpd) (c : KbdCtx) :
    Switches c (onCurveReq fit up c) := by
  unfold onCurveReq
  dsimp only
  split
  · exact (Switches.refl _).of_eq rfl rfl rfl rfl
  · exact .refl c

theorem switches_receivePaused (fit : Fit) (sent : Bool) (m : Msg) (c : KbdCtx) :
    Switches c (receivePaused fit sent m c) := by
  unfold receivePaused
  split
  · exact switches_pauseKbd ..
  · exact switches_setKeyboardTimeout sent c
  · exact switches_pauseKbd ..
  · exact switches_onCurveReq fit _ c
  · exact .refl c

/-- Messages that ask for a level. -/
def asksLevel : Msg → Bool
  | .blUpd _ _ | .kbdBlReq _ | .kbdBlReqStatic => true
  | _ => false

theorem switches_receive (fit : Fit) (sent : Bool) {m : Msg} (hm : asksLevel m = false) (c : KbdCtx) :
    Switches c (receive fit sent m c) := by
  unfold receive
  split
  · cases hm
  · cases hm
  · cases hm
  · exact switches_onKbdToReq sent _ c
  · exact switches_pauseKbd ..
  · exact switches_setKeyboardTimeout sent c
  · exact switches_pauseKbd ..
  · exact switches_onCurveReq fit _ c
  · exact .refl c

/-- A level that validate_backlight accepts. -/
def fraction? (level : ℚ) : Option ℚ := if 0 ≤ level ∧ level ≤ 1 then some level else none

/-- A request commands its level, unless the display is dimmed or off. -/
theorem onKbdBlReq_level (sent : Bool) (up : BlUpd) (c : KbdCtx) :
    (onKbdBlReq sent up c).loc = c.loc ∧
      (.kbdBlReqStatic ∈ (onKbdBlReq sent up c).out ↔ .kbdBlReqStatic ∈ c.out) ∧
      lastLevel (onKbdBlReq sent up c).calls =
        if c.st.displayBusy then lastLevel c.calls else (fraction? up.new).or (lastLevel c.calls) := by
  have hnew := validateBacklight_new c.cf c.st up
  have haccepts := validateBacklight_accepts c.cf c.st up
  unfold onKbdBlReq
  dsimp only
  by_cases hok : ((validateBacklight c.cf c.st up).2 && !c.st.displayBusy) = true
  · obtain ⟨hvalid, hon⟩ := Bool.and_eq_true_iff.mp hok
    have hsome : fraction? up.new = some up.new := if_pos (haccepts.mp hvalid)
    have hlit : c.st.displayBusy = false := by simpa using hon
    rw [if_pos hok, hnew, hlit, hsome]
    refine ⟨setKeyboardLevel_loc .., setKeyboardLevel_asks .., ?_⟩
    exact lastLevel_setKeyboardLevel ..
  · rw [if_neg hok]
    refine ⟨rfl, Iff.rfl, ?_⟩
    by_cases hbusy : c.st.displayBusy = true
    · rw [if_pos hbusy]
    · have hnone : fraction? up.new = none := by
        apply if_neg
        intro hrange
        apply hok
        rw [haccepts.mpr hrange, Bool.eq_false_iff.mpr hbusy]
        rfl
      rw [if_neg hbusy, hnone, Option.none_or]

end Keyboard

/-- KEYBOARD with its mailbox and all that it has commanded. -/
structure KbdRun where
  keyboard : Keyboard
  st : State
  cf : Conf
  calls : List KbdCall
  box : List Msg

/-- `display` is DISPLAY, which announces what it writes; `publish` is a message of any other module, and
`others` what other modules write. -/
inductive KbdEvent
  | display (new : DisplayState)
  | publish (m : Msg)
  | others (st : State) (cf : Conf)
  | deliver (sent : Bool)

namespace KbdRun

def ctx (s : KbdRun) : KbdCtx := { loc := s.keyboard, st := s.st, cf := s.cf, out := [], calls := s.calls }

/-- KEYBOARD's own request. -/
def isOwn : Msg → Bool
  | .kbdBlReqStatic => true
  | _ => false

/-- What a waiting KEYBOARD starts on. -/
def isStart : Msg → Bool
  | .upowerUpd _ _ => true
  | _ => false

def next (fit : Fit) (s : KbdRun) : KbdEvent → Option KbdRun
  | .display new => some { s with
      st := { s.st with displayState := new }
      box := s.box ++ [.displayUpd s.st.displayState new] }
  | .publish m => if isOwn m then none else some { s with box := s.box ++ [m] }
  | .others st cf =>
    if st.displayState = s.st.displayState then some { s with st := st, cf := cf } else none
  | .deliver sent => match s.box with
    | [] => none
    | m :: box =>
      let c := Keyboard.handle fit sent m s.ctx
      some { keyboard := c.loc, st := c.st, cf := c.cf, calls := c.calls,
             box := box ++ c.out.filter Keyboard.subscribes }

/-- What a level message asks of a running KEYBOARD. Its own request is still on its way and comes
later than the others. -/
def levelAsked (queued : Bool) (m : Msg) (c : KbdCtx) (asked : Option ℚ) : Option ℚ :=
  match m with
  | .blUpd _ up =>
    if up.smooth = 0 then
      c.st.acState.elim asked fun ac => Keyboard.fraction? (getValueFromCurve up.new (c.cf.kbd.curve ac))
    else asked
  | .kbdBlReq new => if queued || c.st.displayBusy then asked else (Keyboard.fraction? new).or asked
  | _ => asked

/-- The level that is asked for after a message is received: dark in a pause, and the complement of the
screen's level as it ends. -/
def nowAsked (queued : Bool) (m : Msg) (c c' : KbdCtx) (asked : Option ℚ) : Option ℚ :=
  if c'.loc.stack = [.waitingInit] then none
  else if !c'.loc.paused.isUnpaused then some 0
  else if c.loc.stack = [.waitingInit] then none
  else if !c.loc.paused.isUnpaused then
    if queued then Keyboard.fraction? c.loc.kbdReq.new else some (1 - c.st.currentBlPct)
  else levelAsked queued m c asked

def record (asked : Option ℚ) (s : KbdRun) (e : KbdEvent) (t : KbdRun) : Option ℚ :=
  match e, s.box with
  | .deliver _, m :: box => nowAsked (box.any isOwn) m s.ctx t.ctx asked
  | _, _ => asked

/-- A DISPLAY_UPD is on its way. -/
def Announced (box : List Msg) : Prop := ∃ m ∈ box, m.announces .display = true

instance (box : List Msg) : Decidable (Announced box) := List.decidableBEx _ _

/-- The display does not come back before KEYBOARD knows that it went, and KEYBOARD does not start while
the display is away. -/
def Steady (s : KbdRun) : KbdEvent → Prop
  | .display new => Announced s.box → new ≠ displayOn
  | .deliver _ => s.keyboard.stack = [.waitingInit] → s.box.head?.any isStart = true →
      s.st.displayBusy = true → Announced s.box
  | _ => True

instance (s : KbdRun) : (e : KbdEvent) → Decidable (Steady s e)
  | .display _ | .deliver _ => inferInstanceAs (Decidable (_ → _))
  | .publish _ | .others _ _ => isTrue trivial

structure Init (s : KbdRun) : Prop where
  keyboard : s.keyboard = .init
  calls : s.calls = []
  box : s.box = []

end KbdRun

def kbdRun (fit : Fit) : Machine KbdRun KbdEvent where
  init := KbdRun.Init
  next := KbdRun.next fit

namespace KbdRun
variable {fit : Fit} {s t : KbdRun} {asked : Option ℚ}

structure Waiting (s : KbdRun) (asked : Option ℚ) : Prop where
  stack : s.keyboard.stack = [.waitingInit]
  paused : s.keyboard.paused = .unpaused
  asked : asked = none
  box : .kbdBlReqStatic ∉ s.box

/-- The level that was asked for is commanded, or will be. -/
structure Settling (s : KbdRun) (asked : Option ℚ) : Prop where
  dark : s.keyboard.paused.isUnpaused = false → asked = some 0 ∧ lastLevel s.calls = some 0
  queued : s.keyboard.paused.isUnpaused = true → .kbdBlReqStatic ∈ s.box →
    asked = Keyboard.fraction? s.keyboard.kbdReq.new
  /-- What was asked for is done, or a pause will come. -/
  done : s.keyboard.paused.isUnpaused = true → .kbdBlReqStatic ∉ s.box → ∀ v, asked = some v →
    lastLevel s.calls = some v ∨ s.st.displayBusy = true ∧ Announced s.box

structure Started (s : KbdRun) (asked : Option ℚ) : Prop where
  running : Keyboard.Running s.keyboard
  busy : s.st.displayBusy = true → s.keyboard.paused.has .display = true ∨ Announced s.box
  level : Settling s asked

def Inv (s : KbdRun) (asked : Option ℚ) : Prop := Waiting s asked ∨ Started s asked

theorem Announced.append {box : List Msg} (h : Announced box) (ms : List Msg) : Announced (box ++ ms) := by
  obtain ⟨m, hm, hd⟩ := h
  exact ⟨m, List.mem_append_left ms hm, hd⟩

theorem Announced.tail {m : Msg} {box : List Msg} (h : Announced (m :: box))
    (hm : m.announces .display = false) : Announced box := by
  obtain ⟨q, hq, hd⟩ := h
  rcases List.mem_cons.mp hq with rfl | hrest
  · exact absurd (hm.symm.trans hd) Bool.false_ne_true
  · exact ⟨q, hrest, hd⟩

theorem any_isOwn {box : List Msg} : box.any isOwn = true ↔ .kbdBlReqStatic ∈ box := by
  rw [List.any_eq_true]
  constructor
  · rintro ⟨m, hm, hown⟩
    cases m <;> first | exact hm | cases hown
  · intro hm
    exact ⟨_, hm, rfl⟩

/-- Whatever is published by others, and whatever they write, what was asked for stays asked for. -/
theorem Inv.grow (h : Inv s asked) (hkbd : t.keyboard = s.keyboard) (hcalls : t.calls = s.calls)
    {ms : List Msg} (hbox : t.box = s.box ++ ms) (hown : .kbdBlReqStatic ∉ ms)
    (hbusy : t.st.displayBusy = true → s.st.displayBusy = true ∨ Announced t.box)
    (hstays : s.st.displayBusy = true → Announced s.box → t.st.displayBusy = true) : Inv t asked := by
  have hmem : .kbdBlReqStatic ∈ t.box ↔ .kbdBlReqStatic ∈ s.box := by
    rw [hbox, List.mem_append]
    exact ⟨fun hm => hm.resolve_right hown, .inl⟩
  have hann : Announced s.box → Announced t.box := by
    intro ha
    rw [hbox]
    exact ha.append ms
  rcases h with h | h
  · exact .inl ⟨hkbd ▸ h.stack, hkbd ▸ h.paused, h.asked, fun hm => h.box (hmem.mp hm)⟩
  · refine .inr ⟨hkbd ▸ h.running, ?_, ?_, ?_, ?_⟩
    · intro hb
      rw [hkbd]
      rcases hbusy hb with hwas | ha
      · exact (h.busy hwas).imp_right hann
      · exact .inr ha
    · rw [hkbd, hcalls]
      exact h.level.dark
    · rw [hkbd]
      intro hu hm
      exact h.level.queued hu (hmem.mp hm)
    · rw [hkbd, hcalls]
      intro hu hm v hv
      rcases h.level.done hu (fun hs => hm (hmem.mpr hs)) v hv with hlast | ⟨hb, ha⟩
      · exact .inl hlast
      · exact .inr ⟨hstays hb ha, hann ha⟩

/-- KEYBOARD has received the first message of its mailbox. -/
def received (box : List Msg) (c : KbdCtx) : KbdRun where
  keyboard := c.loc
  st := c.st
  cf := c.cf
  calls := c.calls
  box := box ++ c.out.filter Keyboard.subscribes

variable {m : Msg} {box : List Msg} {c' : KbdCtx}

theorem own_received : .kbdBlReqStatic ∈ (received box c').box ↔
    .kbdBlReqStatic ∈ box ∨ .kbdBlReqStatic ∈ c'.out := by
  have hbox : (received box c').box = box ++ c'.out.filter Keyboard.subscribes := rfl
  rw [hbox, List.mem_append, List.mem_filter]
  exact or_congr_right (and_iff_left rfl)

theorem Settling.paused (hpaused : c'.loc.paused.isUnpaused = false)
    (hlast : lastLevel c'.calls = some 0) : Settling (received box c') (some 0) where
  dark _ := ⟨rfl, hlast⟩
  queued hu := absurd (hpaused.symm.trans hu) Bool.false_ne_true
  done hu := absurd (hpaused.symm.trans hu) Bool.false_ne_true

/-- A resumed KEYBOARD shows the complement of the screen's level, until a request of its own that was
left in the mailbox. -/
theorem Settling.resumed {level : ℚ} (hu : c'.loc.paused.isUnpaused = true)
    (hown : .kbdBlReqStatic ∉ c'.out) (hlast : lastLevel c'.calls = some level) :
    Settling (received box c') (if box.any isOwn then Keyboard.fraction? c'.loc.kbdReq.new
      else some level) := by
  have hmem : .kbdBlReqStatic ∈ (received box c').box ↔ box.any isOwn = true := by
    rw [own_received, any_isOwn]
    exact or_iff_left hown
  refine ⟨fun hp => absurd (hu.symm.trans hp) (by decide), ?_, ?_⟩
  · intro _ hq
    rw [if_pos (hmem.mp hq)]
    rfl
  · intro _ hq v hv
    rw [if_neg (fun hany => hq (hmem.mpr hany))] at hv
    exact .inl (hlast.trans hv)

/-- A message that asks for no level and does not pause KEYBOARD. -/
theorem Settling.kept (h : Settling s asked) (hbox : s.box = m :: box) (hnot : m ≠ .kbdBlReqStatic)
    (hu : s.keyboard.paused.isUnpaused = true) (hu' : c'.loc.paused.isUnpaused = true)
    (hreq : c'.loc.kbdReq.new = s.keyboard.kbdReq.new) (hown : .kbdBlReqStatic ∉ c'.out)
    (hlast : lastLevel c'.calls = lastLevel s.calls)
    (hcomes : s.st.displayBusy = true → Announced s.box → c'.st.displayBusy = true ∧ Announced box) :
    Settling (received box c') asked := by
  have hmem : .kbdBlReqStatic ∈ (received box c').box ↔ .kbdBlReqStatic ∈ s.box := by
    rw [own_received, hbox, List.mem_cons, or_iff_left hown]
    exact (or_iff_right hnot.symm).symm
  refine ⟨fun hp => absurd (hu'.symm.trans hp) (by decide), ?_, ?_⟩
  · intro _ hq
    rw [h.queued hu (hmem.mp hq), ← hreq]
    rfl
  · intro _ hq v hv
    rcases h.done hu (fun hs => hq (hmem.mpr hs)) v hv with hdone | ⟨hb, ha⟩
    · exact .inl (hlast.trans hdone)
    · obtain ⟨hb', ha'⟩ := hcomes hb ha
      exact .inr ⟨hb', ha'.append _⟩

theorem not_waiting {l : Keyboard} (h : Keyboard.Running l) : l.stack ≠ [.waitingInit] := by
  unfold Keyboard.Running pausedStack at h
  rw [h]
  split_ifs <;> decide

variable {c : KbdCtx} {queued : Bool}

theorem nowAsked_paused (hrun : Keyboard.Running c'.loc) (hp : c'.loc.paused.isUnpaused = false) :
    nowAsked queued m c c' asked = some 0 := by
  unfold nowAsked
  rw [if_neg (not_waiting hrun), hp]
  rfl

theorem nowAsked_resumed (hrun : Keyboard.Running c.loc) (hrun' : Keyboard.Running c'.loc)
    (hp : c.loc.paused.isUnpaused = false) (hu : c'.loc.paused.isUnpaused = true) :
    nowAsked queued m c c' asked =
      if queued then Keyboard.fraction? c.loc.kbdReq.new else some (1 - c.st.currentBlPct) := by
  unfold nowAsked
  rw [if_neg (not_waiting hrun'), hu, if_neg (by decide), if_neg (not_waiting hrun), hp]
  rfl

theorem nowAsked_level (hrun : Keyboard.Running c.loc) (hrun' : Keyboard.Running c'.loc)
    (hu : c.loc.paused.isUnpaused = true) (hu' : c'.loc.paused.isUnpaused = true) :
    nowAsked queued m c c' asked = levelAsked queued m c asked := by
  unfold nowAsked
  rw [if_neg (not_waiting hrun'), hu', if_neg (by decide), if_neg (not_waiting hrun), hu,
    if_neg (by decide)]

theorem levelAsked_other (hm : Keyboard.asksLevel m = false) : levelAsked queued m c asked = asked := by
  cases m <;> first | rfl | cases hm

/-- Receiving a message that only switches KEYBOARD on or off, if anything. -/
theorem Settling.switched (h : Started s asked) (hbox : s.box = m :: box)
    (hm : s.keyboard.paused.isUnpaused = true → Keyboard.asksLevel m = false)
    (hsw : Keyboard.Switches s.ctx c') (hrun' : Keyboard.Running c'.loc)
    (hbusy : c'.st.displayBusy = s.st.displayBusy)
    (hpauses : m.announces .display = true → s.st.displayBusy = true → c'.loc.paused.isUnpaused = false) :
    Settling (received box c') (nowAsked (box.any isOwn) m s.ctx c' asked) := by
  have hlevel := hsw.level
  have hown : .kbdBlReqStatic ∉ c'.out := fun hout => List.not_mem_nil (hsw.out hout)
  cases hu : s.keyboard.paused.isUnpaused with
  | false =>
    have hwas : s.ctx.loc.paused.isUnpaused = false := hu
    rw [hwas] at hlevel
    cases hu' : c'.loc.paused.isUnpaused with
    | false =>
      rw [hu', if_pos rfl] at hlevel
      rw [nowAsked_paused hrun' hu']
      exact .paused hu' (hlevel.trans (h.level.dark hu).2)
    | true =>
      rw [hu', if_neg (by decide), if_neg Bool.false_ne_true] at hlevel
      rw [nowAsked_resumed h.running hrun' hwas hu', ← hsw.req]
      exact .resumed hu' hown hlevel
  | true =>
    have hwas : s.ctx.loc.paused.isUnpaused = true := hu
    rw [hwas] at hlevel
    cases hu' : c'.loc.paused.isUnpaused with
    | false =>
      rw [hu', if_neg (by decide), if_pos rfl] at hlevel
      rw [nowAsked_paused hrun' hu']
      exact .paused hu' hlevel
    | true =>
      rw [hu', if_pos rfl] at hlevel
      rw [nowAsked_level h.running hrun' hwas hu', levelAsked_other (hm hu)]
      refine h.level.kept hbox ?_ hu hu' hsw.req hown hlevel ?_
      · rintro rfl
        exact Bool.false_ne_true (hm hu).symm
      · intro hb ha
        refine ⟨hbusy.trans hb, ?_⟩
        rw [hbox] at ha
        apply ha.tail
        -- otherwise it would be paused now
        rw [Bool.eq_false_iff]
        intro hd
        exact Bool.false_ne_true ((hpauses hd hb).symm.trans hu')

theorem onScreenBlUpdate_paused (up : BlUpd) (c : KbdCtx) :
    (Keyboard.onScreenBlUpdate up c).loc.paused = c.loc.paused := by
  unfold Keyboard.onScreenBlUpdate
  split
  · rfl
  · dsimp only
    split_ifs <;> rfl

/-- A level of the screen that is a step or a jump is asked for by KEYBOARD itself. -/
theorem Settling.blUpd (h : Started s asked) {old : ℚ} {up : BlUpd} (hbox : s.box = .blUpd old up :: box)
    (hu : s.keyboard.paused.isUnpaused = true) :
    Settling (received box (Keyboard.onScreenBlUpdate up s.ctx))
      (levelAsked (box.any isOwn) (.blUpd old up) s.ctx asked) := by
  have hkept : Settling (received box s.ctx) asked := by
    refine h.level.kept hbox nofun hu hu rfl List.not_mem_nil rfl ?_
    intro hb ha
    rw [hbox] at ha
    exact ⟨hb, ha.tail rfl⟩
  unfold Keyboard.onScreenBlUpdate levelAsked
  dsimp only
  cases hac : s.ctx.st.acState with
  | none =>
    dsimp only [Option.elim]
    split_ifs <;> exact hkept
  | some ac =>
    dsimp only [Option.elim]
    split_ifs
    · have hqueued : ∀ c : KbdCtx, .kbdBlReqStatic ∈ (received box (Ctx.publish .kbdBlReqStatic c)).box :=
        fun c => own_received.mpr (.inr (List.mem_append_right _ List.mem_cons_self))
      refine ⟨fun hp => absurd (hu.symm.trans hp) (by decide), fun _ _ => rfl, ?_⟩
      intro _ hq
      exact absurd (hqueued _) hq
    · exact hkept

/-- Others ask for a level at once, unless KEYBOARD's own request is on its way. -/
theorem Settling.kbdBlReq (h : Started s asked) {new : ℚ} (hbox : s.box = .kbdBlReq new :: box)
    (hu : s.keyboard.paused.isUnpaused = true) (sent : Bool) {up : BlUpd} (hup : up.new = new) :
    Settling (received box (Keyboard.onKbdBlReq sent up s.ctx))
      (levelAsked (box.any isOwn) (.kbdBlReq new) s.ctx asked) := by
  obtain ⟨hloc, hout, hlast⟩ := Keyboard.onKbdBlReq_level sent up s.ctx
  have hst : (Keyboard.onKbdBlReq sent up s.ctx).st.displayBusy = s.st.displayBusy := by
    have hfacts := (Keyboard.kept_onKbdBlReq sent up (c := s.ctx) h.running).facts
    exact State.fact_congr hfacts .display
  have hmem : .kbdBlReqStatic ∈ (received box (Keyboard.onKbdBlReq sent up s.ctx)).box ↔
      box.any isOwn = true := by
    rw [own_received, any_isOwn]
    exact or_iff_left fun hm => List.not_mem_nil (hout.mp hm)
  have hbefore : .kbdBlReqStatic ∈ s.box ↔ box.any isOwn = true := by
    rw [hbox, List.mem_cons, any_isOwn]
    exact or_iff_right nofun
  have hreq : (received box (Keyboard.onKbdBlReq sent up s.ctx)).keyboard = s.keyboard := hloc
  rw [hup] at hlast
  refine ⟨?_, ?_, ?_⟩
  · rw [hreq]
    exact fun hp => absurd (hu.symm.trans hp) (by decide)
  · rw [hreq]
    intro _ hq
    have hqueued := hmem.mp hq
    unfold levelAsked
    rw [hqueued]
    exact h.level.queued hu (hbefore.mpr hqueued)
  · intro _ hq v hv
    have hnone : box.any isOwn = false := Bool.eq_false_iff.mpr fun hany => hq (hmem.mpr hany)
    have hdone := h.level.done hu fun hm => hq (hmem.mpr (hbefore.mp hm))
    unfold levelAsked at hv
    dsimp only at hv
    rw [hnone, Bool.false_or] at hv
    cases hbusy : s.st.displayBusy with
    | true =>
      have hb : s.ctx.st.displayBusy = true := hbusy
      rw [hb, if_pos rfl] at hlast hv
      rcases hdone v hv with hthen | ⟨-, ha⟩
      · exact .inl (hlast.trans hthen)
      · rw [hbox] at ha
        exact .inr ⟨hst.trans hbusy, (ha.tail rfl).append _⟩
    | false =>
      have hb : s.ctx.st.displayBusy = false := hbusy
      rw [hb, if_neg Bool.false_ne_true] at hlast hv
      refine .inl (hlast.trans ?_)
      cases hnew : Keyboard.fraction? new with
      | some level =>
        rw [hnew] at hv
        exact hv
      | none =>
        rw [hnew, Option.none_or] at hv
        rcases hdone v hv with hthen | ⟨habsurd, -⟩
        · exact hthen
        · exact absurd (hbusy.symm.trans habsurd) Bool.false_ne_true

/-- Its own request commands what was asked for last. -/
theorem Settling.own (h : Started s asked) (hbox : s.box = .kbdBlReqStatic :: box)
    (hu : s.keyboard.paused.isUnpaused = true) (sent : Bool) {up : BlUpd}
    (hup : up.new = s.keyboard.kbdReq.new) :
    Settling (received box (Keyboard.onKbdBlReq sent s.keyboard.kbdReq
      { s.ctx with loc := { s.keyboard with kbdReq := up } })) asked := by
  obtain ⟨hloc, hout, hlast⟩ := Keyboard.onKbdBlReq_level sent s.keyboard.kbdReq
    { s.ctx with loc := { s.keyboard with kbdReq := up } }
  have hasked := h.level.queued hu (hbox ▸ List.mem_cons_self)
  refine ⟨?_, ?_, ?_⟩
  · intro hp
    have hsame := (congrArg (fun l => l.paused.isUnpaused) hloc).symm.trans hp
    exact absurd (hu.symm.trans hsame) (by decide)
  · intro _ _
    have hreq := congrArg (fun l => l.kbdReq.new) hloc
    rw [hasked, ← hup]
    exact congrArg Keyboard.fraction? hreq.symm
  · intro _ _ v hv
    cases hbusy : s.st.displayBusy with
    | true =>
      -- the request is ignored, but then a pause is announced
      rcases h.busy hbusy with hhas | ha
      · have hpaused := PauseMask.not_isUnpaused_of_has hhas
        exact absurd (hu.symm.trans hpaused) (by decide)
      · rw [hbox] at ha
        have hfacts := (Keyboard.kept_onKbdBlReq sent s.keyboard.kbdReq
          (c := { s.ctx with loc := { s.keyboard with kbdReq := up } }) h.running).facts
        exact .inr ⟨(State.fact_congr hfacts .display).trans hbusy, (ha.tail rfl).append _⟩
    | false =>
      have hb : s.ctx.st.displayBusy = false := hbusy
      rw [hb, if_neg Bool.false_ne_true, ← hasked, hv] at hlast
      exact .inl hlast

theorem Started.received (h : Started s asked) (hbox : s.box = m :: box) (sent : Bool) :
    Started (KbdRun.received box (Keyboard.handle fit sent m s.ctx))
      (nowAsked (box.any isOwn) m s.ctx (Keyboard.handle fit sent m s.ctx) asked) := by
  obtain ⟨hhas, hfacts, hrun'⟩ := Keyboard.handle_bit fit sent m (c := s.ctx) h.running (.inl rfl)
  have hbusy : (Keyboard.handle fit sent m s.ctx).st.displayBusy = s.st.displayBusy :=
    State.fact_congr hfacts .display
  refine ⟨hrun', ?_, ?_⟩
  · intro hb
    have hwas : s.st.displayBusy = true := hbusy.symm.trans hb
    have hfact : s.ctx.st.fact .display = true := hwas
    cases hd : m.announces .display with
    | true =>
      rw [hd, if_pos rfl] at hhas
      exact .inl (hhas.trans hfact)
    | false =>
      rw [hd, if_neg Bool.false_ne_true] at hhas
      rcases h.busy hwas with hbefore | ha
      · exact .inl (hhas.trans hbefore)
      · rw [hbox] at ha
        exact .inr ((ha.tail hd).append _)
  · have hpauses : m.announces .display = true → s.st.displayBusy = true →
        (Keyboard.handle fit sent m s.ctx).loc.paused.isUnpaused = false := by
      intro hd hb
      rw [hd, if_pos rfl] at hhas
      exact PauseMask.not_isUnpaused_of_has (hhas.trans hb)
    have hhandle := Keyboard.handle_of_running fit sent m (c := s.ctx) h.running
    cases hu : s.keyboard.paused.isUnpaused with
    | false =>
      have hp : s.ctx.loc.paused.isUnpaused = false := hu
      rw [hp, if_neg Bool.false_ne_true] at hhandle
      refine .switched h hbox ?_ ?_ hrun' hbusy hpauses
      · rw [hu]
        nofun
      · rw [hhandle]
        exact Keyboard.switches_receivePaused fit sent m s.ctx
    | true =>
      have hp : s.ctx.loc.paused.isUnpaused = true := hu
      rw [hp, if_pos rfl] at hhandle
      cases hm : Keyboard.asksLevel m with
      | false =>
        refine .switched h hbox (fun _ => hm) ?_ hrun' hbusy hpauses
        rw [hhandle]
        exact Keyboard.switches_receive fit sent hm s.ctx
      | true =>
        have hlevel (hu' : (Keyboard.handle fit sent m s.ctx).loc.paused.isUnpaused = true) :
            nowAsked (box.any isOwn) m s.ctx (Keyboard.handle fit sent m s.ctx) asked =
              levelAsked (box.any isOwn) m s.ctx asked := nowAsked_level h.running hrun' hp hu'
        cases m
        case blUpd old up =>
          rw [hlevel, hhandle]
          · exact .blUpd h hbox hu
          · rw [hhandle]
            exact (congrArg PauseMask.isUnpaused (onScreenBlUpdate_paused up s.ctx)).trans hu
        case kbdBlReq new =>
          rw [hlevel, hhandle]
          · exact .kbdBlReq h hbox hu sent rfl
          · rw [hhandle]
            have hloc := (Keyboard.onKbdBlReq_level sent
              { new := new, smooth := 0, timeout := 0, step := 0 } s.ctx).1
            exact (congrArg (fun l => l.paused.isUnpaused) hloc).trans hu
        case kbdBlReqStatic =>
          rw [hlevel, hhandle]
          · exact .own h hbox hu sent (validateBacklight_new ..)
          · rw [hhandle]
            have hloc := (Keyboard.onKbdBlReq_level sent s.keyboard.kbdReq { s.ctx with loc := { s.keyboard with
              kbdReq := (validateBacklight s.cf s.st s.keyboard.kbdReq).1 } }).1
            exact (congrArg (fun l => l.paused.isUnpaused) hloc).trans hu
        all_goals cases hm

/-- KEYBOARD starts with its first UPOWER_UPD, and takes no notice of anything before. -/
theorem Waiting.received (h : Waiting s asked) (hbox : s.box = m :: box) (sent : Bool)
    (hstart : isStart m = true → s.st.displayBusy = true → Announced s.box) :
    Inv (KbdRun.received box (Keyboard.handle fit sent m s.ctx))
      (nowAsked (box.any isOwn) m s.ctx (Keyboard.handle fit sent m s.ctx) asked) := by
  have hnone : .kbdBlReqStatic ∉ box := fun hm => h.box (hbox ▸ List.mem_cons_of_mem m hm)
  have hwaits : s.ctx.loc.stack = [.waitingInit] := h.stack
  obtain ⟨hfacts, hsame | ⟨⟨old, new, rfl⟩, hrun', -⟩⟩ :=
    Keyboard.handle_waiting_bits fit sent m (c := s.ctx) h.stack h.paused
  · refine .inl ?_
    rw [hsame]
    refine ⟨h.stack, h.paused, ?_, ?_⟩
    · unfold nowAsked
      rw [if_pos hwaits]
    · rw [own_received]
      exact fun hm => hm.elim hnone List.not_mem_nil
  · have hwaiting : Keyboard.handle fit sent (.upowerUpd old new) s.ctx =
        Keyboard.receiveWaitingInit sent (.upowerUpd old new) s.ctx := by
      unfold Keyboard.handle
      rw [hwaits]
    have hhandle : Keyboard.handle fit sent (.upowerUpd old new) s.ctx = Keyboard.setKeyboardTimeout sent
        { s.ctx with loc := { s.ctx.loc with stack := unbecome s.ctx.loc.stack } } := hwaiting
    have hsw := Keyboard.switches_setKeyboardTimeout sent
      { s.ctx with loc := { s.ctx.loc with stack := unbecome s.ctx.loc.stack } }
    rw [← hhandle] at hsw
    have hunpaused : s.ctx.loc.paused.isUnpaused = true := by
      have hp : s.ctx.loc.paused = .unpaused := h.paused
      rw [hp]
      rfl
    have hlast := hsw.level
    dsimp only at hlast
    rw [hunpaused] at hlast
    have hown : .kbdBlReqStatic ∉ (KbdRun.received box
        (Keyboard.handle fit sent (.upowerUpd old new) s.ctx)).box := by
      rw [own_received]
      exact fun hm => hm.elim hnone fun hout => List.not_mem_nil (hsw.out hout)
    refine .inr ⟨hrun', ?_, ?_⟩
    · intro hb
      have hann := hstart rfl ((State.fact_congr hfacts .display).symm.trans hb)
      rw [hbox] at hann
      exact .inr ((hann.tail rfl).append _)
    · cases hu' : (Keyboard.handle fit sent (.upowerUpd old new) s.ctx).loc.paused.isUnpaused with
      | false =>
        rw [hu', if_neg (by decide), if_pos rfl] at hlast
        rw [nowAsked_paused hrun' hu']
        exact .paused hu' hlast
      | true =>
        have hnew : nowAsked (box.any isOwn) (.upowerUpd old new) s.ctx
            (Keyboard.handle fit sent (.upowerUpd old new) s.ctx) asked = none := by
          unfold nowAsked
          rw [if_neg (not_waiting hrun'), hu', if_neg (by decide), if_pos hwaits]
        rw [hnew]
        exact ⟨fun hp => absurd (hu'.symm.trans hp) (by decide), fun _ hq => absurd hq hown,
          fun _ _ => nofun⟩

theorem Inv.next (h : Inv s asked) {e : KbdEvent} (hc : Steady s e) (hn : KbdRun.next fit s e = some t) :
    Inv t (record asked s e t) := by
  cases e with
  | display new =>
    obtain rfl := Option.some.inj hn
    refine h.grow rfl rfl rfl ?_ ?_ ?_
    · intro hm
      cases List.mem_singleton.mp hm
    · exact fun _ => .inr ⟨_, List.mem_append_right _ (List.mem_singleton_self _), rfl⟩
    · exact fun _ ha => decide_eq_true (hc ha)
  | publish m =>
    simp only [KbdRun.next] at hn
    split_ifs at hn with hm
    obtain rfl := Option.some.inj hn
    refine h.grow rfl rfl rfl ?_ .inl fun hb _ => hb
    intro hq
    obtain rfl := List.mem_singleton.mp hq
    exact hm rfl
  | others st cf =>
    simp only [KbdRun.next] at hn
    split_ifs at hn with hsame
    obtain rfl := Option.some.inj hn
    have hbusy : st.displayBusy = s.st.displayBusy := by
      unfold State.displayBusy
      rw [hsame]
    exact h.grow rfl rfl (List.append_nil _).symm List.not_mem_nil (fun hb => .inl (hbusy.symm.trans hb))
      fun hb _ => hbusy.trans hb
  | deliver sent =>
    unfold record
    cases hbox : s.box with
    | nil =>
      simp only [KbdRun.next, hbox] at hn
      cases hn
    | cons m box =>
      simp only [KbdRun.next, hbox] at hn
      obtain rfl := Option.some.inj hn
      rcases h with h | h
      · refine h.received hbox sent ?_
        intro hm
        apply hc h.stack
        rw [hbox]
        exact hm
      · exact .inr (h.received hbox sent)

/-- What KEYBOARD shows. -/
structure Follows (s : KbdRun) (asked : Option ℚ) : Prop where
  dark : s.keyboard.stack ≠ [.waitingInit] → s.keyboard.paused.isUnpaused = false →
    lastLevel s.calls = some 0
  asked : s.box = [] → ∀ v, asked = some v → lastLevel s.calls = some v

theorem Inv.follows (h : Inv s asked) : Follows s asked := by
  rcases h with h | h
  · refine ⟨fun hne => absurd h.stack hne, ?_⟩
    intro _ v hv
    rw [h.asked] at hv
    cases hv
  · refine ⟨fun _ hp => (h.level.dark hp).2, ?_⟩
    intro hbox v hv
    cases hu : s.keyboard.paused.isUnpaused with
    | false =>
      obtain ⟨hasked, hlast⟩ := h.level.dark hu
      rw [hasked] at hv
      exact hlast.trans hv
    | true =>
      have hown : .kbdBlReqStatic ∉ s.box := hbox ▸ List.not_mem_nil
      rcases h.level.done hu hown v hv with hdone | ⟨-, m, hm, -⟩
      · exact hdone
      · rw [hbox] at hm
        cases hm

end KbdRun

open KbdRun in
/-- Whenever KEYBOARD has received what was published, it has commanded the level asked for last. -/
theorem keyboard_follows {fit : Fit} {s : KbdRun × Option ℚ}
    (hs : ((kbdRun fit).withHistory none record).ReachableBy (fun s e => Steady s.1 e) s) :
    Follows s.1 s.2 := by
  refine Inv.follows ?_
  refine hs.history (I := Inv) ?_ ?_
  · intro s hinit
    refine .inl ⟨?_, ?_, rfl, ?_⟩
    · rw [hinit.keyboard]
      rfl
    · rw [hinit.keyboard]
      rfl
    · rw [hinit.box]
      exact List.not_mem_nil
  · intro s asked e t _ hi hc hn
    exact hi.next hc hn

namespace KbdRun

/-- A keyboard that is the brighter the darker the screen is. -/
def slope : Curve := ⟨[1, 1 / 2, 0], (1, -1 / 2, 0), by decide, by decide⟩

def slopeConf : Conf :=
  { Conf.default with kbd := { Conf.default.kbd with curve := fun _ => slope, timeout := fun _ => 15 } }

def lit : KbdRun where
  keyboard := .init
  st := { initState slopeConf with acState := some .onAc }
  cf := slopeConf
  calls := []
  box := []

/-- The screen gets brighter twice, and the display is dimmed before the second request is received. -/
def brighterThenDimmed : List KbdEvent :=
  [.publish (.upowerUpd none .onAc), .deliver true,
    .publish (.blUpd 0 { new := 1 / 2, smooth := 0, timeout := 0, step := 0 }),
    .publish (.blUpd 0 { new := 4 / 5, smooth := 0, timeout := 0, step := 0 }), .deliver true, .deliver true,
    .deliver true, .display displayDimmed, .deliver true, .deliver true]

theorem keyboard_follows_dimmed : ∃ s,
    ((kbdRun fun _ => (0, 0, 0)).withHistory none record).run (lit, none) brighterThenDimmed = some s ∧
      s.1.calls.filterMap KbdCall.level? = [1 / 5, 0] ∧ Follows s.1 s.2 := by
  have hrun : (((kbdRun fun _ => (0, 0, 0)).withHistory none record).run (lit, none)
      brighterThenDimmed).any (fun s => s.1.calls.filterMap KbdCall.level? = [1 / 5, 0]) = true := by
    decide +kernel
  obtain ⟨s, hs, hcalls⟩ := (Option.any_eq_true _ _).mp hrun
  have hsteady : ((kbdRun fun _ => (0, 0, 0)).withHistory none record).RunBy
      (fun s e => Steady s.1 e) (lit, none) brighterThenDimmed := by decide +kernel
  have hinit : ((kbdRun fun _ => (0, 0, 0)).withHistory none record).init (lit, none) :=
    ⟨⟨rfl, rfl, rfl⟩, rfl⟩
  refine ⟨s, hs, of_decide_eq_true hcalls, ?_⟩
  exact keyboard_follows (Machine.ReachableBy.of_run brighterThenDimmed (.init hinit) hsteady hs)

end KbdRun
end Clight
