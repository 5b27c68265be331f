import Clight.DaytimeTimer
import Clight.IdleClient
import Clight.Modules
import Clight.PmLock
import Clight.PropertyTracks
import Clight.Watch

/-! All the modules that write the state, in any order of messages, signals and timers, and INTERFACE,
which signals a property on the bus whenever it hears of it. -/
namespace Clight

/-! ### PM and LOCATION -/

def PmUpd.topic : PmUpd → String := fun _ => Property.pmInhibited.name

def LocationPub.topic : LocationPub → String
  | .locationReq _ => "ReqLocation"
  | .locUpd _ => Property.location.name

namespace Interface

/-- The topics that INTERFACE hears of. -/
def heard (topics : List String) : List String := topics.filter subscribed

theorem mem_heard {p : Property} {topics : List String} (h : p.name ∈ topics) : p.name ∈ heard topics :=
  List.mem_filter.mpr ⟨h, p.subscribed_name⟩

end Interface

/-! ### The machine -/

/-- What writes the state; a module that is disabled, or that has deregistered itself, is `none`. -/
structure Writers where
  loc : (x : PausableMod) → Option x.Loc
  display : Display
  inhibitions : ℤ
  pm : Pm
  pmLock : PmLock
  upower : Upower
  daytime : DaytimeModule
  location : Location
  st : State
  cf : Conf

/-- `receive` is any message of any module, with what its static data holds by then, and
`properties` what the setters write into the configuration. -/
inductive WritersEvent
  | receive (x : PausableMod) (r : ModReplies) (m : Msg)
  | signal (e : ModSignal)
  | displayReq (new : ℤ) (noBacklight : Bool)
  | inhibitReq (r : FlagReq)
  | suspendReq (r : FlagReq)
  | delayedResume
  | pmLock (e : PmLockEvent)
  | upower (ping matched : Bool) (r : UpowerReplies) (m : Msg)
  | upowerChange (r : UpowerReplies)
  | daytime (e : DaytimeStep)
  | location (cache : Option Loc) (geoclue : Bool) (m : LocationMsg)
  | getClient (ok : Bool)
  | newLocation (new : Loc)
  | locationTimeout
  | properties (cf : Conf)

namespace Writers

/-- The state after a module's code, and the topics that INTERFACE hears of. -/
def put {L K : Type} (c : Ctx L K) (s : Writers) : Writers × List String :=
  ({ s with st := c.st, cf := c.cf }, Interface.heard (c.out.filterMap Msg.topic))

def onModule (x : PausableMod) (h : Handled x.Loc) (s : Writers) : Writers × List String :=
  ({ s with loc := Function.update s.loc x (some h.loc), st := h.st, cf := h.cf },
    Interface.heard (h.out.filterMap Msg.topic))

def onLocation (f : LocationCtx → LocationCtx) (s : Writers) : Option (Writers × List String) :=
  if s.location.gone then none
  else
    let c := f { loc := s.location, st := s.st, published := [] }
    some ({ s with location := c.loc, st := c.st }, Interface.heard (c.published.map LocationPub.topic))

/-- DAYTIME as it finds the state and the configuration. -/
def dayModule (s : Writers) : DaytimeModule :=
  { s.daytime with ctx := { s.daytime.ctx with st := s.st, cf := s.cf, out := [] } }

/-- The matches on Clightd's signals are added when a module starts. -/
def signal (s : Writers) : ModSignal → Option (Writers × List String)
  | .sensorChanged r => (s.loc .backlight).bind fun l =>
    if Backlight.isWaiting l then none
    else some (onModule .backlight (Backlight.onSensorChange r (PausableMod.ctx l s.st s.cf)).handled s)
  | .blChanged mon pct => (s.loc .backlight).bind fun l =>
    if Backlight.isWaiting l then none
    else some (onModule .backlight (Backlight.onBlChanged mon pct (PausableMod.ctx l s.st s.cf)).handled s)
  | .interfaceAdded mon => (s.loc .backlight).bind fun l =>
    if Backlight.isWaiting l then none
    else some (onModule .backlight (Backlight.onInterfaceAdded mon (PausableMod.ctx l s.st s.cf)).handled s)
  | .interfaceRemoved mon => (s.loc .backlight).bind fun l =>
    if Backlight.isWaiting l then none
    else (Backlight.onInterfaceRemoved mon (PausableMod.ctx l s.st s.cf)).map fun c =>
      onModule .backlight c.handled s
  | .toggleGamma r => (s.loc .gamma).bind fun l =>
    if Gamma.toggleDies (PausableMod.ctx l s.st s.cf) then none
    else some (onModule .gamma (Gamma.methodToggleGamma r (PausableMod.ctx l s.st s.cf)).handled s)
  | .tempChanged new => (s.loc .gamma).map fun l =>
    onModule .gamma (Gamma.onTempChanged new (PausableMod.ctx l s.st s.cf)).handled s

def next (fit : Fit) (distance : Loc → Loc → ℚ) (s : Writers) :
    WritersEvent → Option (Writers × List String)
  | .receive x r m => (s.loc x).map fun l =>
    (x.handle fit r m s.st s.cf l).elim ({ s with loc := Function.update s.loc x none }, [])
      fun h => onModule x h s
  | .signal e => s.signal e
  | .displayReq new noBacklight =>
    let c := Display.onDisplayReq new noBacklight (PausableMod.ctx s.display s.st s.cf)
    some (put c { s with display := c.loc })
  | .inhibitReq r =>
    let c := Inhibit.next (PausableMod.ctx s.inhibitions s.st s.cf) r
    some (put c { s with inhibitions := c.loc })
  | .suspendReq r =>
    let c := Pm.next (PausableMod.ctx s.pm s.st s.cf) (.suspendReq r)
    some (put c { s with pm := c.loc })
  | .delayedResume =>
    let c := Pm.next (PausableMod.ctx s.pm s.st s.cf) .delayedResume
    some (put c { s with pm := c.loc })
  | .pmLock e =>
    let (l, upds) := s.pmLock.receive e
    some ({ s with pmLock := l }, Interface.heard (upds.map PmUpd.topic))
  | .upower ping matched r m =>
    if s.upower.gone then none
    else
      let c := Upower.receive ping matched r m (PausableMod.ctx s.upower s.st s.cf)
      some (put c { s with upower := c.loc })
  | .upowerChange r =>
    if s.upower.gone then none
    else
      let c := Upower.onUpowerChange r (PausableMod.ctx s.upower s.st s.cf)
      some (put c { s with upower := c.loc })
  | .daytime e => (s.dayModule.next e).map fun d => put d.ctx { s with daytime := d }
  | .location cache geoclue m => onLocation (Location.receive distance cache geoclue m) s
  | .getClient ok => onLocation (Location.onGetClient ok) s
  | .newLocation new => onLocation (Location.onGeoclueNewLocation new) s
  | .locationTimeout => onLocation Location.onTimeout s
  | .properties cf => some ({ s with cf := cf }, [])

def read (p : Property) (s : Writers) : p.Val := p.get s.st s.pmLock.pmInhibited

/-- An update that is still to come: that of a reset value, and that of a resume, while
delayed_resume_fd runs. -/
def Promised (s : Writers) (p : Property) : Prop :=
  p.Reset (s.read p) ∨ p = .suspended ∧ s.pm.delayed.bind Msg.topic = some p.name

/-- The main loop starts: the modules that are enabled have run init. -/
structure Init (s : Writers) : Prop where
  loc : ∀ x, s.loc x = none ∨ ∃ initialTemp, s.loc x = some (Modules.initLoc initialTemp x)
  display : s.display = .init
  inhibitions : s.inhibitions = 0
  pm : s.pm = .init
  pmLock : s.pmLock = .init
  upower : s.upower = .init
  daytime : s.daytime = .init s.st s.cf
  location : s.location = .init
  st : s.st = initState s.cf

end Writers

/-- The writers of the state, as a source of the topics that INTERFACE hears of. -/
def propertyWriters (fit : Fit) (distance : Loc → Loc → ℚ) : Source Writers WritersEvent String where
  init := Writers.Init
  next := Writers.next fit distance

/-! ### Every step tells -/

namespace PmLock

theorem acquire_pmInhibited (r : LockReplies) (l : PmLock) : (acquire r l).1.pmInhibited = l.pmInhibited := by
  have hparse (l : PmLock) : (parseBusReply r l).1.pmInhibited = l.pmInhibited := by
    unfold parseBusReply
    split
    · split_ifs <;> rfl
    · split <;> rfl
    · rfl
  have hcall (answered : Bool) (l : PmLock) : (call answered r l).1.pmInhibited = l.pmInhibited := by
    unfold call
    split_ifs
    · exact hparse l
    · rfl
  have hsystemd : (acquireSystemdLock r l).1.pmInhibited = l.pmInhibited := by
    unfold acquireSystemdLock
    dsimp only
    split_ifs
    · exact hcall r.systemd { l with inhApi := .systemd }
    · exact hcall r.systemd { l with inhApi := .systemd }
  have hmanager (l : PmLock) : (acquirePmLock r l).1.pmInhibited = l.pmInhibited := by
    unfold acquirePmLock
    dsimp only
    split_ifs
    · exact hcall r.manager { l with inhApi := .powerManagement }
    · exact hcall r.manager { l with inhApi := .powerManagement }
  unfold acquire
  dsimp only
  split_ifs
  · exact hsystemd
  · exact (hmanager _).trans hsystemd

theorem releaseLock_pmInhibited (r : LockReplies) (l : PmLock) :
    (releaseLock r l).1.pmInhibited = l.pmInhibited := by
  unfold releaseLock
  split
  · rfl
  · split_ifs <;> rfl
  · rfl

theorem onPmReq_told (r : LockReplies) (new : Bool) (l : PmLock) :
    (onPmReq r new l).1.pmInhibited = l.pmInhibited ∨ ∃ upd, (onPmReq r new l).2 = [upd] := by
  unfold onPmReq
  split_ifs
  · dsimp only
    split_ifs
    · exact .inr ⟨_, rfl⟩
    · exact .inl (acquire_pmInhibited r l)
  · dsimp only
    split_ifs
    · exact .inr ⟨_, rfl⟩
    · exact .inl (releaseLock_pmInhibited r l)
  · exact .inl rfl

theorem receive_told (l : PmLock) (e : PmLockEvent) :
    (l.receive e).1.pmInhibited = l.pmInhibited ∨ ∃ upd, (l.receive e).2 = [upd] := by
  unfold receive
  split
  · split_ifs
    · exact onPmReq_told _ _ l
    · exact .inl rfl
  · split_ifs
    · exact onPmReq_told _ _ l
    · exact .inl rfl

end PmLock

/-- DIMMER and DPMS write no property. -/
theorem Idle.handle_st {k : IdleConf} {ok : Bool} {m : Msg} {c c' : IdleCtx}
    (h : handle k ok m c = some c') : c'.st = c.st := by
  have hpaused : (receivePaused k m c).st = c.st := by
    unfold receivePaused onToReq
    split
    · exact timeoutCallback_st k c
    · exact pauseIdle_st k _ .inhibit c
    · exact pauseIdle_st k _ .suspend c
    · split
      · split
        · rfl
        · dsimp only
          split_ifs
          · exact timeoutCallback_st k _
          · rfl
      · rfl
  unfold handle at h
  split at h
  · unfold receiveWaitingAcstate at h
    split at h
    · split_ifs at h
      obtain rfl := Option.some.inj h
      exact timeoutCallback_st k _
    · obtain rfl := Option.some.inj h
      rfl
  · obtain rfl := Option.some.inj h
    exact hpaused
  · obtain rfl := Option.some.inj h
    unfold receive clientReset clientStop
    split
    · simp
    · exact hpaused

/-- What a pausable module writes is told, or is a silent reset. -/
theorem PausableMod.handle_told {fit : Fit} {r : ModReplies} {m : Msg} {st : State} {cf : Conf}
    {x : PausableMod} {l : x.Loc} {h : Handled x.Loc} (hh : x.handle fit r m st cf l = some h)
    (p : Property) (pm : Bool) : p.get h.st pm = p.get st pm ∨
      (∃ m ∈ h.out, m.topic = some p.name) ∨ p.Reset (p.get h.st pm) := by
  cases x with
  | backlight =>
    obtain rfl := Option.some.inj hh
    exact (Backlight.tracks_handle fit r.bl m (ctx l st cf)).told p pm
  | screen =>
    obtain rfl := Option.some.inj hh
    exact (Screen.tracks_handle (Q := Property.Reset) rfl r.screen m (ctx l st cf)).told p pm
  | keyboard =>
    obtain rfl := Option.some.inj hh
    exact (Keyboard.tracks_handle fit r.kbd m (ctx l st cf)).told p pm
  | dimmer =>
    obtain ⟨c', hc, rfl⟩ := Option.map_eq_some_iff.mp hh
    exact .inl (congrArg (p.get · pm) (Idle.handle_st hc))
  | dpms =>
    obtain ⟨c', hc, rfl⟩ := Option.map_eq_some_iff.mp hh
    exact .inl (congrArg (p.get · pm) (Idle.handle_st hc))
  | gamma =>
    obtain ⟨c', hc, rfl⟩ := Option.map_eq_some_iff.mp hh
    exact (Gamma.tracks_handle r.gamma m hc).told p pm

namespace Writers
variable {s s' : Writers} {ts : List String} {p : Property}

/-- PM holds the update of a resume back. -/
def Delays (s : Writers) (p : Property) : Prop :=
  p = .suspended ∧ s.pm.delayed.bind Msg.topic = some p.name

/-- A step tells of a property that it leaves as it is, publishes, or resets, as long as it does
not drop an update that PM holds back. -/
theorem tells_of (hval : s'.read p = s.read p ∨ p.name ∈ ts ∨ s'.Promised p)
    (hdelay : s.Delays p → s'.Promised p ∨ p.name ∈ ts) :
    Watched.Tells (fun p s => s.read p) Property.ofTopic Promised s s' (Interface.heard ts) p := by
  have hpublished : p.name ∈ ts → ∃ m ∈ Interface.heard ts, Property.ofTopic m = some p :=
    fun h => ⟨p.name, Interface.mem_heard h, p.ofTopic_name⟩
  rcases hval with heq | hmem | hpromised
  · by_cases hp : s.Promised p
    · rcases hp with hreset | hp
      · exact .inr (.inl (.inl (heq ▸ hreset)))
      · rcases hdelay hp with hpromised | hmem
        · exact .inr (.inl hpromised)
        · exact .inl (hpublished hmem)
    · exact .inr (.inr ⟨heq, hp⟩)
  · exact .inl (hpublished hmem)
  · exact .inr (.inl hpromised)

/-- A step that publishes nothing. -/
theorem tells_silent (hval : s'.read p = s.read p) (hpm : s'.pm = s.pm) :
    Watched.Tells (fun p s => s.read p) Property.ofTopic Promised s s' (Interface.heard []) p :=
  tells_of (.inl hval) fun hd => .inl (.inr ⟨hd.1, hpm ▸ hd.2⟩)

/-- A step of a module that shares the state, PM apart. -/
theorem tells_of_told {st : State} {out : List Msg} (hst : s'.st = st) (hlock : s'.pmLock = s.pmLock)
    (hpm : s'.pm = s.pm)
    (h : ∀ pm, p.get st pm = p.get s.st pm ∨ (∃ m ∈ out, m.topic = some p.name) ∨ p.Reset (p.get st pm)) :
    Watched.Tells (fun p s => s.read p) Property.ofTopic Promised s s'
      (Interface.heard (out.filterMap Msg.topic)) p := by
  have hread : s'.read p = p.get st s.pmLock.pmInhibited := by rw [read, hst, hlock]
  apply tells_of
  · rw [hread]
    refine (h s.pmLock.pmInhibited).imp_right (Or.imp ?_ ?_)
    · rintro ⟨m, hm, htopic⟩
      exact List.mem_filterMap.mpr ⟨m, hm, htopic⟩
    · intro hreset
      exact .inl (hread ▸ hreset)
  · rintro ⟨hp, hdelayed⟩
    exact .inl (.inr ⟨hp, hpm ▸ hdelayed⟩)

/-- PM announces a change at once, or holds it back. -/
theorem tells_suspendReq (r : FlagReq) (s : Writers) :
    Watched.Tells (fun p s => s.read p) Property.ofTopic Promised s
      { s with
        pm := (Pm.onSuspendReq r.new r.force (PausableMod.ctx s.pm s.st s.cf)).loc
        st := (Pm.onSuspendReq r.new r.force (PausableMod.ctx s.pm s.st s.cf)).st
        cf := (Pm.onSuspendReq r.new r.force (PausableMod.ctx s.pm s.st s.cf)).cf }
      (Interface.heard ((Pm.onSuspendReq r.new r.force (PausableMod.ctx s.pm s.st s.cf)).out.filterMap
        Msg.topic)) p := by
  rw [Pm.onSuspendReq_eq]
  generalize (Pm.counted (PausableMod.ctx s.pm s.st s.cf)).handle r = f
  have hothers : p ≠ .suspended → ∀ b pm, p.get { s.st with suspended := b } pm = p.get s.st pm := by
    intro hp b pm
    cases p <;> first | rfl | exact absurd rfl hp
  split_ifs with hsame
  · apply tells_of
    · left
      change p.get { s.st with suspended := f.flag } _ = p.get s.st _
      rw [hsame]
    · intro hd
      exact .inl (.inr hd)
  · unfold Pm.announce
    split_ifs with hdelay
    · by_cases hp : p = .suspended
      · subst hp
        exact .inr (.inl (.inr ⟨rfl, rfl⟩))
      · exact tells_of (.inl (hothers hp _ _)) fun hd => absurd hd.1 hp
    · by_cases hp : p = .suspended
      · subst hp
        exact tells_of (.inr (.inl (List.mem_singleton_self _))) fun _ => .inr (List.mem_singleton_self _)
      · exact tells_of (.inl (hothers hp _ _)) fun hd => absurd hd.1 hp

theorem tells_delayedResume (s : Writers) :
    Watched.Tells (fun p s => s.read p) Property.ofTopic Promised s
      { s with
        pm := (Pm.onDelayedResume (PausableMod.ctx s.pm s.st s.cf)).loc
        st := (Pm.onDelayedResume (PausableMod.ctx s.pm s.st s.cf)).st
        cf := (Pm.onDelayedResume (PausableMod.ctx s.pm s.st s.cf)).cf }
      (Interface.heard ((Pm.onDelayedResume (PausableMod.ctx s.pm s.st s.cf)).out.filterMap Msg.topic)) p := by
  unfold Pm.onDelayedResume
  cases hd : s.pm.delayed with
  | none => exact tells_of (.inl rfl) fun hdelay => .inl (.inr hdelay)
  | some msg =>
    refine tells_of (.inl rfl) ?_
    rintro ⟨-, htopic⟩
    -- the message that was held back is published now
    rw [hd] at htopic
    exact .inr (List.mem_filterMap.mpr ⟨msg, List.mem_singleton_self msg, htopic⟩)

/-- PM signals PmInhibited whenever the token comes or goes. -/
theorem tells_pmLock (e : PmLockEvent) (s : Writers) :
    Watched.Tells (fun p s => s.read p) Property.ofTopic Promised s
      { s with pmLock := (s.pmLock.receive e).1 }
      (Interface.heard ((s.pmLock.receive e).2.map PmUpd.topic)) p := by
  by_cases hp : p = .pmInhibited
  · subst hp
    refine tells_of ?_ fun hd => absurd hd.1 (by decide)
    rcases s.pmLock.receive_told e with hsame | ⟨upd, hupd⟩
    · exact .inl hsame
    · rw [hupd]
      exact .inr (.inl (List.mem_singleton_self _))
  · refine tells_of (.inl ?_) fun hd => .inl (.inr hd)
    cases p <;> first | rfl | exact absurd rfl hp

end Writers

/-! ### LOCATION and DAYTIME -/

namespace Location

/-- LOCATION leaves the state alone, or publishes the position that it puts in it. -/
structure Told (f : LocationCtx → LocationCtx) : Prop where
  told : ∀ c, (f c).st = c.st ∨ ∃ new, (f c).st = { c.st with currentLoc := new } ∧
    .locUpd new ∈ (f c).published

theorem told_receive (distance : Loc → Loc → ℚ) (cache : Option Loc) (geoclue : Bool) (m : LocationMsg) :
    Told (receive distance cache geoclue m) where
  told c := by
    have hreq (new : Loc) : (onLocationReq distance new c).st = c.st ∨
        ∃ new', (onLocationReq distance new c).st = { c.st with currentLoc := new' } ∧
          .locUpd new' ∈ (onLocationReq distance new c).published := by
      unfold onLocationReq
      split_ifs
      · exact .inr ⟨new, rfl, List.mem_append_right _ (List.mem_singleton_self _)⟩
      · exact .inl rfl
    cases m with
    | loopStarted =>
      left
      unfold receive onLoopStarted
      cases cache with
      | none => cases geoclue <;> rfl
      | some new => cases geoclue <;> rfl
    | locationReq new => exact hreq new
    | locationReqStatic => exact hreq c.loc.locReq

theorem told_onGetClient (ok : Bool) : Told (onGetClient ok) where
  told c := by
    cases ok with
    | true => exact .inl rfl
    | false => exact .inl rfl

theorem told_onTimeout : Told onTimeout where
  told c := by
    left
    unfold onTimeout
    dsimp only
    split_ifs <;> rfl

end Location

theorem DaytimeModule.tracks_next {s s' : DaytimeModule} {e : DaytimeStep} (h : s.next e = some s') :
    Tracks Property.Reset s.ctx s'.ctx := by
  have hreset (cf : Conf) (c : DaytimeCtx) :
      Tracks Property.Reset c (Daytime.resetDaytime { c with cf := cf }) := by
    have hcf : Tracks Property.Reset c { c with cf := cf } := .of_eq rfl rfl
    exact hcf.trans (Daytime.tracks_resetDaytime rfl _)
  have hstart (s : DaytimeModule) : Tracks Property.Reset s.ctx (startDaytime s).ctx := .withLoc _ _
  cases e with
  | publish m =>
    obtain rfl := Option.some.inj h
    exact .refl s.ctx
  | setEvent e event =>
    obtain rfl := Option.some.inj h
    exact .refl s.ctx
  | setOs e new =>
    obtain rfl := Option.some.inj h
    exact hreset _ s.ctx
  | timer sun now fuel =>
    dsimp only [next, onTimer] at h
    split_ifs at h
    obtain ⟨c, hc, rfl⟩ := Option.map_eq_some_iff.mp h
    exact (Tracks.withLoc _ _).trans (Daytime.tracks_checkDaytime hc)
  | deliver locationRunning =>
    dsimp only [next] at h
    split at h
    · cases h
    · next m ms _ =>
      obtain rfl := Option.some.inj h
      unfold handle
      dsimp only
      split_ifs
      · exact .refl s.ctx
      · split
        · unfold receiveWaitingLoc
          split
          · split_ifs
            · refine .write .dayTime rfl ?_ rfl
              intro q hq pm
              cases q <;> first | rfl | exact absurd rfl hq
            · exact hstart _
          · split_ifs
            · exact .refl s.ctx
            · exact hstart _
          · exact .refl s.ctx
        · unfold receive onEventReq Daytime.onEventReq
          split
          · exact hreset _ s.ctx
          · split
            · exact .refl s.ctx
            · split_ifs
              · exact hreset _ s.ctx
              · exact .refl s.ctx
          · exact .refl s.ctx

namespace Writers
variable {s s' : Writers} {ts : List String} {p : Property}

theorem tells_onModule {K : Type} {x : PausableMod} {l : x.Loc} {c : Ctx x.Loc K}
    (h : Tracks Property.Reset (PausableMod.ctx l s.st s.cf) c) :
    Watched.Tells (fun p s => s.read p) Property.ofTopic Promised s (onModule x c.handled s).1
      (onModule x c.handled s).2 p :=
  tells_of_told rfl rfl rfl (h.told p)

theorem tells_put {L K : Type} {l : L} {c : Ctx L K} {t : Writers}
    (h : Tracks Property.Reset (PausableMod.ctx l s.st s.cf) c) (hlock : t.pmLock = s.pmLock)
    (hpm : t.pm = s.pm) :
    Watched.Tells (fun p s => s.read p) Property.ofTopic Promised s (put c t).1 (put c t).2 p :=
  tells_of_told rfl hlock hpm (h.told p)

theorem tells_signal {e : ModSignal} (h : s.signal e = some (s', ts)) :
    Watched.Tells (fun p s => s.read p) Property.ofTopic Promised s s' ts p := by
  unfold signal at h
  cases e with
  | sensorChanged r =>
    obtain ⟨l, -, h⟩ := Option.bind_eq_some_iff.mp h
    split_ifs at h
    obtain ⟨rfl, rfl⟩ := Prod.mk.inj (Option.some.inj h)
    exact tells_onModule (Backlight.tracks_onSensorChange r _)
  | blChanged mon pct =>
    obtain ⟨l, -, h⟩ := Option.bind_eq_some_iff.mp h
    split_ifs at h
    obtain ⟨rfl, rfl⟩ := Prod.mk.inj (Option.some.inj h)
    exact tells_onModule (Backlight.tracks_onBlChanged mon pct _)
  | interfaceAdded mon =>
    obtain ⟨l, -, h⟩ := Option.bind_eq_some_iff.mp h
    split_ifs at h
    obtain ⟨rfl, rfl⟩ := Prod.mk.inj (Option.some.inj h)
    exact tells_onModule (Backlight.tracks_onInterfaceAdded mon _)
  | interfaceRemoved mon =>
    obtain ⟨l, -, h⟩ := Option.bind_eq_some_iff.mp h
    split_ifs at h
    obtain ⟨c, hc, h⟩ := Option.map_eq_some_iff.mp h
    obtain ⟨rfl, rfl⟩ := Prod.mk.inj h
    exact tells_onModule (Backlight.tracks_onInterfaceRemoved hc)
  | toggleGamma r =>
    obtain ⟨l, -, h⟩ := Option.bind_eq_some_iff.mp h
    split_ifs at h
    obtain ⟨rfl, rfl⟩ := Prod.mk.inj (Option.some.inj h)
    exact tells_onModule (Gamma.tracks_methodToggleGamma r _)
  | tempChanged new =>
    obtain ⟨l, -, h⟩ := Option.map_eq_some_iff.mp h
    obtain ⟨rfl, rfl⟩ := Prod.mk.inj h
    exact tells_onModule (Gamma.tracks_onTempChanged new _)

theorem tells_onLocation {f : LocationCtx → LocationCtx} (hf : Location.Told f)
    (h : onLocation f s = some (s', ts)) :
    Watched.Tells (fun p s => s.read p) Property.ofTopic Promised s s' ts p := by
  unfold onLocation at h
  split_ifs at h
  obtain ⟨rfl, rfl⟩ := Prod.mk.inj (Option.some.inj h)
  rcases hf.told { loc := s.location, st := s.st, published := [] } with hst | ⟨new, hst, hpub⟩
  · apply tells_of
    · left
      change p.get (f _).st _ = p.get s.st _
      rw [hst]
    · intro hd
      exact .inl (.inr hd)
  · by_cases hp : p = .location
    · subst hp
      refine tells_of (.inr (.inl ?_)) fun hd => absurd hd.1 (by decide)
      exact List.mem_map.mpr ⟨_, hpub, rfl⟩
    · refine tells_of (.inl ?_) fun hd => .inl (.inr hd)
      change p.get (f _).st _ = p.get s.st _
      rw [hst]
      cases p <;> first | rfl | exact absurd rfl hp

/-- Every step tells of every property. -/
theorem tells_next {fit : Fit} {distance : Loc → Loc → ℚ} {e : WritersEvent}
    (h : s.next fit distance e = some (s', ts)) :
    Watched.Tells (fun p s => s.read p) Property.ofTopic Promised s s' ts p := by
  cases e with
  | receive x r m =>
    obtain ⟨l, -, h⟩ := Option.map_eq_some_iff.mp h
    cases hh : x.handle fit r m s.st s.cf l with
    | none =>
      rw [hh] at h
      obtain ⟨rfl, rfl⟩ := Prod.mk.inj h
      exact tells_silent rfl rfl
    | some h' =>
      rw [hh] at h
      obtain ⟨rfl, rfl⟩ := Prod.mk.inj h
      exact tells_of_told rfl rfl rfl (PausableMod.handle_told hh p)
  | signal e => exact tells_signal h
  | displayReq new noBacklight =>
    obtain ⟨rfl, rfl⟩ := Prod.mk.inj (Option.some.inj h)
    exact tells_put (Display.tracks_onDisplayReq new noBacklight _) rfl rfl
  | inhibitReq r =>
    obtain ⟨rfl, rfl⟩ := Prod.mk.inj (Option.some.inj h)
    exact tells_put (Inhibit.tracks_next _ r) rfl rfl
  | suspendReq r =>
    obtain ⟨rfl, rfl⟩ := Prod.mk.inj (Option.some.inj h)
    exact tells_suspendReq r s
  | delayedResume =>
    obtain ⟨rfl, rfl⟩ := Prod.mk.inj (Option.some.inj h)
    exact tells_delayedResume s
  | pmLock e =>
    obtain ⟨rfl, rfl⟩ := Prod.mk.inj (Option.some.inj h)
    exact tells_pmLock e s
  | upower ping matched r m =>
    dsimp only [next] at h
    split_ifs at h
    obtain ⟨rfl, rfl⟩ := Prod.mk.inj (Option.some.inj h)
    exact tells_put (Upower.tracks_receive ping matched r m _) rfl rfl
  | upowerChange r =>
    dsimp only [next] at h
    split_ifs at h
    obtain ⟨rfl, rfl⟩ := Prod.mk.inj (Option.some.inj h)
    exact tells_put (Upower.tracks_onUpowerChange r _) rfl rfl
  | daytime e =>
    obtain ⟨d, hd, h⟩ := Option.map_eq_some_iff.mp h
    obtain ⟨rfl, rfl⟩ := Prod.mk.inj h
    exact tells_of_told rfl rfl rfl ((DaytimeModule.tracks_next hd).told p)
  | location cache geoclue m => exact tells_onLocation (Location.told_receive distance cache geoclue m) h
  | getClient ok => exact tells_onLocation (Location.told_onGetClient ok) h
  | newLocation new => exact tells_onLocation (f := Location.onGeoclueNewLocation new) ⟨fun _ => .inl rfl⟩ h
  | locationTimeout => exact tells_onLocation Location.told_onTimeout h
  | properties cf =>
    obtain ⟨rfl, rfl⟩ := Prod.mk.inj (Option.some.inj h)
    exact tells_silent rfl rfl

end Writers

/-- INTERFACE with everything that writes the state: once it has heard of all that was published, a
property that is not reset, and whose update PM does not hold back, was signalled with the value that
the state has. -/
theorem interface_signals_state {fit : Fit} {distance : Loc → Loc → ℚ}
    {s : Watched Writers String Property Property.Val}
    (hs : (Watched.machine (propertyWriters fit distance) (fun p s => s.read p) Property.ofTopic).Reachable s)
    (hbox : s.box = []) {p : Property} (hp : ¬s.source.Promised p) : s.mirror p = s.source.read p := by
  have hfresh : Watched.Fresh (fun p s => s.read p) Property.ofTopic Writers.Promised s p :=
    Watched.fresh_of_reachable (propertyWriters fit distance) (C := fun _ _ => True)
      (fun _ _ _ _ _ => Writers.tells_next) (hs.mono fun _ _ _ _ _ => trivial)
  exact hfresh.exact hbox hp

namespace Writers

/-- Every module runs, under the defaults. -/
def started : Writers where
  loc x := some (Modules.initLoc 6500 x)
  display := .init
  inhibitions := 0
  pm := .init
  pmLock := .init
  upower := .init
  daytime := .init (initState Conf.default) Conf.default
  location := .init
  st := initState Conf.default
  cf := Conf.default

theorem init_started : Init started where
  loc _ := .inr ⟨6500, rfl⟩
  display := rfl
  inhibitions := rfl
  pm := rfl
  pmLock := rfl
  upower := rfl
  daytime := rfl
  location := rfl
  st := rfl

/-- Someone inhibits Clight while it is told of a position. -/
def inhibitedAbroad : List (BoxedEvent WritersEvent) :=
  [.source (.inhibitReq { new := true, force := false }),
    .source (.location none false (.locationReq { lat := 45, lon := 9 })), .deliver, .deliver]

/-- A world in which all positions are far away from each other. -/
def apart : Loc → Loc → ℚ := fun _ _ => 1000

def interfaceRun : Machine (Watched Writers String Property Property.Val) (BoxedEvent WritersEvent) :=
  Watched.machine (propertyWriters (fun _ => (0, 0, 0)) apart) (fun p s => s.read p) Property.ofTopic

end Writers

theorem interface_signals_inhibition : ∃ s : Watched Writers String Property Property.Val,
    s.source.read .inhibited = true ∧ s.mirror .inhibited = s.source.read .inhibited ∧
      s.mirror .location = s.source.read .location := by
  have hinit : Writers.interfaceRun.init
      { source := .started, box := [], mirror := fun p => Writers.started.read p } :=
    ⟨Writers.init_started, rfl, fun _ => rfl⟩
  have hrun : (Writers.interfaceRun.run
      { source := .started, box := [], mirror := fun p => Writers.started.read p }
      Writers.inhibitedAbroad).any (fun s => s.box.isEmpty && s.source.read .inhibited &&
        s.source.pm.delayed.isNone) = true := by decide +kernel
  obtain ⟨s, hs, hp⟩ := (Option.any_eq_true _ _).mp hrun
  obtain ⟨⟨hbox, hinh⟩, hpm⟩ := And.imp_left (Bool.and_eq_true_iff.mp) (Bool.and_eq_true_iff.mp hp)
  have hreach : Writers.interfaceRun.Reachable s := Machine.reachable_of_run hinit hs
  have hempty : s.box = [] := List.isEmpty_iff.mp hbox
  have hquiet (p : Property) (hp : ¬p.Reset (s.source.read p)) : ¬s.source.Promised p := by
    rintro (hreset | ⟨-, hdelayed⟩)
    · exact hp hreset
    · rw [Option.isNone_iff_eq_none.mp hpm] at hdelayed
      cases hdelayed
  exact ⟨s, hinh, interface_signals_state hreach hempty (hquiet .inhibited id),
    interface_signals_state hreach hempty (hquiet .location id)⟩

end Clight
