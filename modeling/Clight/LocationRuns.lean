import Clight.Gamma
import Clight.Location
import Clight.Machine
import Clight.Opts

/-! LOCATION, DAYTIME as it waits for a position, and GAMMA as it waits for the daytime: the order
in which LOCATION is served its mailbox and its timer. -/
namespace Clight

inductive DaytimePhase | waiting | running | stopped
  deriving DecidableEq

/-- Messages in DAYTIME's mailbox; a LOC_UPD holds what LOCATION's static message holds. -/
inductive DaytimeMsg | loopStarted | locUpdStatic
  deriving DecidableEq

structure LocationRun where
  location : Location
  st : State
  cf : Conf
  cacheFile : Option Loc
  locBox : List LocationMsg
  /-- The positions in all LOC_UPDs published so far. -/
  locUpds : List Loc
  daytime : DaytimePhase
  dayBox : List DaytimeMsg
  gamma : Option Gamma
  /-- The DAYTIME_UPDs in GAMMA's mailbox. -/
  gammaBox : List (Option DayState × DayState)

/-- `timeout` is the dispatch of the expired timer, `getClient` and `newLocation` what geoclue
replies, `request` a LOCATION_REQ of another module, `daytime` a DAYTIME_UPD of a running DAYTIME,
and `others` what other modules write. -/
inductive LocationEvent
  | deliver (geoclue : Bool)
  | elapse (sec : Option ℕ)
  | timeout
  | getClient (ok : Bool)
  | newLocation (new : Loc)
  | request (new : Loc)
  | deliverDaytime
  | daytime (new : DayState)
  | deliverGamma (r : GammaReplies)
  | others (st : State) (cf : Conf)

namespace LocationPub

def toLocation : LocationPub → Option LocationMsg
  | locationReq _ => some .locationReqStatic
  | locUpd _ => none

def toDaytime : LocationPub → Option DaytimeMsg
  | locationReq _ => none
  | locUpd _ => some .locUpdStatic

def locUpd? : LocationPub → Option Loc
  | locationReq _ => none
  | locUpd new => some new

end LocationPub

namespace LocationRun

def ctx (s : LocationRun) : LocationCtx := { loc := s.location, st := s.st, published := [] }

/-- A step of LOCATION; a module that is gone has no mailbox. -/
def step (f : LocationCtx → LocationCtx) (s : LocationRun) : LocationRun :=
  let c := f s.ctx
  { s with
    location := c.loc
    st := c.st
    locBox := if c.loc.gone then [] else s.locBox ++ c.published.filterMap LocationPub.toLocation
    dayBox := s.dayBox ++ c.published.filterMap LocationPub.toDaytime
    locUpds := s.locUpds ++ c.published.filterMap LocationPub.locUpd? }

/-- receive_waiting_loc; a running DAYTIME only recomputes its times. -/
def onDaytime (m : DaytimeMsg) (s : LocationRun) : LocationRun :=
  match s.daytime, m with
  | .waiting, .locUpdStatic =>
    if s.location.locMsg.lat = latUndefined then
      -- DAYTIME stops itself before its message is received
      { s with
        daytime := .stopped
        gammaBox := s.gammaBox ++ [(some .day, .day)]
        st := { s.st with dayTime := some .day } }
    else { s with daytime := .running }
  | .waiting, .loopStarted => if s.location.gone then { s with daytime := .running } else s
  | _, _ => s

def onGamma (r : GammaReplies) (g : Gamma) (upd : Option DayState × DayState) (s : LocationRun) :
    LocationRun :=
  let c : GammaCtx := { loc := g, st := s.st, cf := s.cf, out := [], calls := [] }
  match Gamma.handle r (.daytimeUpd upd.1 upd.2) c with
  | some c => { s with gamma := some c.loc, st := c.st, cf := c.cf }
  | none => { s with gamma := none }

def next (distance : Loc → Loc → ℚ) (s : LocationRun) : LocationEvent → Option LocationRun
  | .deliver geoclue => match s.locBox with
    | [] => none
    | m :: box => some (step (Location.receive distance s.cacheFile geoclue m) { s with locBox := box })
  | .elapse sec =>
    some { s with location := { s.location with timeoutFd := s.location.timeoutFd.elapse sec } }
  | .timeout =>
    if s.location.registered && s.location.timeoutFd = .expired && !s.location.gone then
      some (step Location.onTimeout s)
    else none
  | .getClient ok =>
    if s.location.geoclueSt = .present && !s.location.gone then
      some (step (Location.onGetClient ok) s)
    else none
  | .newLocation new =>
    if s.location.geoclueSt = .started && !s.location.gone then
      some (step (Location.onGeoclueNewLocation new) s)
    else none
  | .request new =>
    if s.location.gone then none else some { s with locBox := s.locBox ++ [.locationReq new] }
  | .deliverDaytime => match s.dayBox with
    | [] => none
    | m :: box => some (onDaytime m { s with dayBox := box })
  | .daytime new =>
    if s.daytime = .running then
      some { s with
        gammaBox := s.gammaBox ++ [(s.st.dayTime, new)]
        st := { s.st with dayTime := some new } }
    else none
  | .deliverGamma r => match s.gamma, s.gammaBox with
    | some g, upd :: box =>
      if r.daytimeStopped = decide (s.daytime = .stopped) then
        some (onGamma r g upd { s with gammaBox := box })
      else none
    | _, _ => none
  | .others st cf =>
    if st.currentLoc = s.st.currentLoc then some { s with st := st, cf := cf } else none

/-- The main loop starts. -/
def start (cf : Conf) (cacheFile : Option Loc) (initialTemp : ℤ) : LocationRun where
  location := .init
  st := initState cf
  cf := cf
  cacheFile := cacheFile
  locBox := [.loopStarted]
  locUpds := []
  daytime := .waiting
  dayBox := [.loopStarted]
  gamma := some (.init initialTemp)
  gammaBox := []

end LocationRun

/-- LOCATION runs, and the cache file holds a position. -/
def locationRun (distance : Loc → Loc → ℚ) : Machine LocationRun LocationEvent where
  init s := ∃ cf cached initialTemp, Location.evaluate cf = true ∧
    s = .start cf (some cached) initialTemp
  next := LocationRun.next distance

/-- A position that validate_loc accepts is a defined one. -/
theorem validateLoc_defined {distance : Loc → Loc → ℚ} {st : State} {new : Loc}
    (h : validateLoc distance st new = true) :
    new.lat ≠ latUndefined ∧ new.isUndefined = false := by
  unfold validateLoc at h
  simp only [Bool.and_eq_true, decide_eq_true_iff] at h
  obtain ⟨⟨hlat, hlon⟩, -⟩ := h
  have hlat' : new.lat ≠ latUndefined := by
    intro heq
    rw [heq] at hlat
    exact absurd hlat (by decide)
  have hlon' : new.lon ≠ lonUndefined := by
    intro heq
    rw [heq] at hlon
    exact absurd hlon (by decide)
  refine ⟨hlat', ?_⟩
  unfold Loc.isUndefined
  rw [decide_eq_false hlat', decide_eq_false hlon']
  rfl

namespace Location

theorem onLocationReq_cases (distance : Loc → Loc → ℚ) (new : Loc) (c : LocationCtx) :
    (validateLoc distance c.st new = true ∧ onLocationReq distance new c =
      { publishMsg new c with st := { c.st with currentLoc := new } }) ∨
      (validateLoc distance c.st new = false ∧ onLocationReq distance new c = c) := by
  unfold onLocationReq
  cases hvalid : validateLoc distance c.st new with
  | true => exact .inl ⟨rfl, rfl⟩
  | false => exact .inr ⟨rfl, rfl⟩

end Location

namespace LocationRun
variable {distance : Loc → Loc → ℚ} {s t : LocationRun} {cached : Loc}

/-- Nothing of LOCATION's own is left in its mailbox when its timer is dispatched. -/
def TimerLast (s : LocationRun) : LocationEvent → Prop
  | .timeout => .loopStarted ∉ s.locBox ∧ .locationReqStatic ∉ s.locBox
  | _ => True

/-- geoclue is absent or fails: it never gives a position. -/
def GeoclueFails : LocationEvent → Prop
  | .newLocation _ => False
  | _ => True

/-- validate_loc accepts the position in the cache file. -/
def CacheAccepted (distance : Loc → Loc → ℚ) (s : LocationRun) : Prop :=
  ∀ cached, s.cacheFile = some cached → validateLoc distance s.st cached = true

/-- The cached position is on its way. -/
structure Coming (distance : Loc → Loc → ℚ) (cached : Loc) (s : LocationRun) : Prop where
  accepted : validateLoc distance s.st cached = true
  running : s.location.gone = false
  queued : .loopStarted ∈ s.locBox ∨ .locationReqStatic ∈ s.locBox ∧ s.location.locReq = cached

/-- A position is in force or on its way, and nobody was told that there is none. -/
structure Located (distance : Loc → Loc → ℚ) (cached : Loc) (s : LocationRun) : Prop where
  cache : s.cacheFile = some cached
  located : s.st.currentLoc.isUndefined = false ∨ Coming distance cached s
  locUpds : ∀ l ∈ s.locUpds, l.lat ≠ latUndefined
  locMsg : s.location.locMsg.lat ≠ latUndefined
  daytime : s.daytime ≠ .stopped
  gamma : s.gamma.isSome = true

theorem Located.start {cf : Conf} {initialTemp : ℤ}
    (haccepted : CacheAccepted distance (start cf (some cached) initialTemp)) :
    Located distance cached (start cf (some cached) initialTemp) where
  cache := rfl
  located := .inr ⟨haccepted cached rfl, rfl, .inl List.mem_cons_self⟩
  locUpds _ hl := absurd hl List.not_mem_nil
  locMsg := by
    change (0 : ℚ) ≠ latUndefined
    decide
  daytime := nofun
  gamma := rfl

/-- A step of LOCATION that publishes no undefined position. -/
theorem Located.step (h : Located distance cached s) (box : List LocationMsg)
    {f : LocationCtx → LocationCtx}
    (hpub : ∀ new, .locUpd new ∈ (f s.ctx).published → new.lat ≠ latUndefined)
    (hmsg : (f s.ctx).loc.locMsg.lat ≠ latUndefined)
    (hloc : (f s.ctx).st.currentLoc.isUndefined = false ∨
      Coming distance cached (step f { s with locBox := box })) :
    Located distance cached (step f { s with locBox := box }) := by
  refine ⟨h.cache, hloc, ?_, hmsg, h.daytime, h.gamma⟩
  intro l hl
  rcases List.mem_append.mp hl with hold | hnew
  · exact h.locUpds l hold
  · obtain ⟨pub, hp, hupd⟩ := List.mem_filterMap.mp hnew
    cases pub with
    | locationReq new => cases hupd
    | locUpd new =>
      obtain rfl := Option.some.inj hupd
      exact hpub new hp

/-- LOCATION is served a request: it takes the position, or leaves everything as it is. -/
theorem Located.locationReq (h : Located distance cached s) (new : Loc) {box : List LocationMsg}
    (hstill : validateLoc distance s.st new = false → Coming distance cached s →
      Coming distance cached { s with locBox := box }) :
    Located distance cached (LocationRun.step (Location.onLocationReq distance new)
      { s with locBox := box }) := by
  rcases Location.onLocationReq_cases distance new s.ctx with ⟨hvalid, he⟩ | ⟨hvalid, he⟩
  · obtain ⟨hlat, hdef⟩ := validateLoc_defined hvalid
    refine h.step box ?_ ?_ (.inl ?_)
    · intro l hl
      rw [he] at hl
      cases List.mem_singleton.mp hl
      exact hlat
    · rw [he]
      exact hlat
    · rw [he]
      exact hdef
  · have hsame : LocationRun.step (Location.onLocationReq distance new) { s with locBox := box } =
        { s with locBox := if s.location.gone then [] else box } := by
      have hctx : ({ s with locBox := box } : LocationRun).ctx = s.ctx := rfl
      unfold LocationRun.step
      rw [hctx, he]
      simp [ctx]
    rw [hsame]
    refine ⟨h.cache, ?_, h.locUpds, h.locMsg, h.daytime, h.gamma⟩
    refine h.located.imp id fun hcoming => ?_
    have hnext := hstill hvalid hcoming
    rw [if_neg (by rw [hcoming.running]; decide)]
    exact hnext

/-- The loop starts: the cached position is asked for, whether geoclue is there or not. -/
theorem Located.loopStarted (h : Located distance cached s) {box : List LocationMsg}
    (geoclue : Bool) : Located distance cached
      (LocationRun.step (Location.onLoopStarted s.cacheFile geoclue) { s with locBox := box }) := by
  have hstart : ∃ st fd, Location.onLoopStarted s.cacheFile geoclue s.ctx =
      { loc := { s.location with geoclueSt := st, timeoutFd := fd, locReq := cached }
        st := s.st
        published := [.locationReq cached] } := by
    rw [h.cache]
    cases geoclue with
    | true => exact ⟨.present, s.location.timeoutFd, rfl⟩
    | false => exact ⟨.none, setTimeout 0 1, rfl⟩
  obtain ⟨st, fd, he⟩ := hstart
  refine h.step box ?_ ?_ ?_
  · intro l hl
    rw [he] at hl
    cases List.mem_singleton.mp hl
  · rw [he]
    exact h.locMsg
  · rcases h.located with hknown | hcoming
    · left
      rw [he]
      exact hknown
    · right
      have hctx : ({ s with locBox := box } : LocationRun).ctx = s.ctx := rfl
      unfold LocationRun.step
      rw [hctx, he]
      refine ⟨hcoming.accepted, hcoming.running, .inr ⟨?_, rfl⟩⟩
      dsimp only
      rw [if_neg (by rw [hcoming.running]; decide)]
      exact List.mem_append_right _ (List.mem_singleton_self _)

/-- The timer is dispatched with a position in force: LOCATION goes, and tells nobody. -/
theorem Located.timeout (h : Located distance cached s) (hlast : TimerLast s .timeout) :
    Located distance cached (LocationRun.step Location.onTimeout s) := by
  have hknown : s.st.currentLoc.isUndefined = false := by
    refine h.located.resolve_right fun hcoming => ?_
    rcases hcoming.queued with hstart | ⟨hreq, -⟩
    · exact hlast.1 hstart
    · exact hlast.2 hreq
  have hquiet : Location.onTimeout s.ctx = { s.ctx with
      loc := { s.location with timeoutFd := s.location.timeoutFd.read, gone := true } } := by
    unfold Location.onTimeout
    dsimp only [ctx]
    rw [hknown, if_neg Bool.false_ne_true]
  refine h.step s.locBox ?_ ?_ (.inl ?_)
  · intro l hl
    rw [hquiet] at hl
    cases hl
  · rw [hquiet]
    exact h.locMsg
  · rw [hquiet]
    exact hknown

/-- A step that leaves LOCATION, its mailbox and the position in force alone. -/
theorem Located.others (h : Located distance cached s) (hcache : t.cacheFile = s.cacheFile)
    (hcur : t.st.currentLoc = s.st.currentLoc)
    (hloc : t.location.locReq = s.location.locReq ∧ t.location.locMsg = s.location.locMsg ∧
      t.location.gone = s.location.gone)
    (hbox : ∀ m ∈ s.locBox, m ∈ t.locBox) (hupds : t.locUpds = s.locUpds)
    (hday : t.daytime ≠ .stopped) (hgamma : t.gamma.isSome = true) : Located distance cached t := by
  obtain ⟨hreq, hmsg, hgone⟩ := hloc
  have haccept : validateLoc distance t.st cached = validateLoc distance s.st cached := by
    unfold validateLoc
    rw [hcur]
  refine ⟨hcache.trans h.cache, ?_, ?_, ?_, hday, hgamma⟩
  · rw [hcur]
    refine h.located.imp id fun hcoming => ⟨haccept.trans hcoming.accepted, ?_, ?_⟩
    · rw [hgone]
      exact hcoming.running
    · rw [hreq]
      exact hcoming.queued.imp (hbox _) (And.imp_left (hbox _))
  · rw [hupds]
    exact h.locUpds
  · rw [hmsg]
    exact h.locMsg

theorem Located.deliverDaytime (h : Located distance cached s) (m : DaytimeMsg)
    (box : List DaytimeMsg) : Located distance cached (onDaytime m { s with dayBox := box }) := by
  unfold onDaytime
  split
  · rw [if_neg h.locMsg]
    exact h.others rfl rfl ⟨rfl, rfl, rfl⟩ (fun _ => id) rfl nofun h.gamma
  · split_ifs
    · exact h.others rfl rfl ⟨rfl, rfl, rfl⟩ (fun _ => id) rfl nofun h.gamma
    · exact h.others rfl rfl ⟨rfl, rfl, rfl⟩ (fun _ => id) rfl h.daytime h.gamma
  · exact h.others rfl rfl ⟨rfl, rfl, rfl⟩ (fun _ => id) rfl h.daytime h.gamma

end LocationRun

/-- GAMMA only deregisters itself on a DAYTIME_UPD of a stopped module. -/
theorem Gamma.handle_daytimeUpd {r : GammaReplies} (hrunning : r.daytimeStopped = false)
    (old : Option DayState) (new : DayState) (c : GammaCtx) :
    ∃ c', Gamma.handle r (.daytimeUpd old new) c = some c' ∧ c'.st = c.st := by
  unfold Gamma.handle
  rcases c.loc.stack with _ | ⟨top, rest⟩
  · exact ⟨_, rfl, rfl⟩
  · cases top with
    | waitingDaytime =>
      dsimp only
      rw [if_neg (by rw [hrunning]; decide)]
      exact ⟨_, rfl, rfl⟩
    | paused => exact ⟨_, rfl, rfl⟩

/-- Running or not, GAMMA leaves the state alone as it waits for the daytime. -/
theorem Gamma.handle_daytimeUpd_st {r : GammaReplies} {old : Option DayState} {new : DayState}
    {c c' : GammaCtx} (h : Gamma.handle r (.daytimeUpd old new) c = some c') : c'.st = c.st := by
  unfold Gamma.handle at h
  rcases hstack : c.loc.stack with _ | ⟨top, rest⟩
  · rw [hstack] at h
    exact Option.some.inj h ▸ rfl
  · rw [hstack] at h
    cases top with
    | waitingDaytime =>
      dsimp only at h
      split_ifs at h
      exact Option.some.inj h ▸ rfl
    | paused => exact Option.some.inj h ▸ rfl

namespace LocationRun
variable {distance : Loc → Loc → ℚ} {s t : LocationRun} {cached : Loc}

theorem onGamma_kept (r : GammaReplies) (g : Gamma) (upd : Option DayState × DayState) (s : LocationRun) :
    (onGamma r g upd s).st.currentLoc = s.st.currentLoc ∧
      (onGamma r g upd s).location = s.location ∧ (onGamma r g upd s).locBox = s.locBox ∧
      (onGamma r g upd s).locUpds = s.locUpds ∧ (onGamma r g upd s).cacheFile = s.cacheFile := by
  unfold onGamma
  dsimp only
  split
  · rename_i c hc
    exact ⟨congrArg State.currentLoc (Gamma.handle_daytimeUpd_st hc), rfl, rfl, rfl, rfl⟩
  · exact ⟨rfl, rfl, rfl, rfl, rfl⟩

theorem Located.deliver (h : Located distance cached s) {m : LocationMsg} {box : List LocationMsg}
    (hbox : s.locBox = m :: box) (geoclue : Bool) : Located distance cached
      (LocationRun.step (Location.receive distance s.cacheFile geoclue m) { s with locBox := box }) := by
  have htail : ∀ q ∈ s.locBox, q ≠ m → q ∈ box := by
    intro q hq hne
    rw [hbox] at hq
    exact (List.mem_cons.mp hq).resolve_left hne
  cases m with
  | loopStarted => exact h.loopStarted geoclue
  | locationReq new =>
    refine h.locationReq new fun _ hcoming => ⟨hcoming.accepted, hcoming.running, ?_⟩
    exact hcoming.queued.imp (fun hq => htail _ hq nofun) (And.imp_left fun hq => htail _ hq nofun)
  | locationReqStatic =>
    refine h.locationReq s.location.locReq fun hrejected hcoming =>
      ⟨hcoming.accepted, hcoming.running, ?_⟩
    rcases hcoming.queued with hq | ⟨-, hcached⟩
    · exact .inl (htail _ hq nofun)
    · -- the cached position itself is not rejected
      rw [hcached, hcoming.accepted] at hrejected
      cases hrejected

theorem Located.next (h : Located distance cached s) {e : LocationEvent} (hlast : TimerLast s e)
    (hgeoclue : GeoclueFails e) (hn : next distance s e = some t) : Located distance cached t := by
  cases e with
  | deliver geoclue =>
    simp only [LocationRun.next] at hn
    split at hn
    · cases hn
    rename_i m box hbox
    obtain rfl := Option.some.inj hn
    exact h.deliver hbox geoclue
  | elapse sec =>
    obtain rfl := Option.some.inj hn
    exact h.others rfl rfl ⟨rfl, rfl, rfl⟩ (fun _ => id) rfl h.daytime h.gamma
  | timeout =>
    simp only [LocationRun.next] at hn
    split_ifs at hn
    obtain rfl := Option.some.inj hn
    exact h.timeout hlast
  | getClient ok =>
    simp only [LocationRun.next] at hn
    split_ifs at hn with hguard
    obtain rfl := Option.some.inj hn
    simp only [Bool.and_eq_true, Bool.not_eq_true'] at hguard
    have hrunning : s.location.gone = false := hguard.2
    have hkept : ∃ st fd, Location.onGetClient ok s.ctx =
        { s.ctx with loc := { s.location with geoclueSt := st, timeoutFd := fd } } := by
      cases ok with
      | true => exact ⟨.started, s.location.timeoutFd, rfl⟩
      | false => exact ⟨.failed, setTimeout 0 1, rfl⟩
    obtain ⟨st, fd, he⟩ := hkept
    have hsame : LocationRun.step (Location.onGetClient ok) s =
        { s with location := { s.location with geoclueSt := st, timeoutFd := fd } } := by
      unfold LocationRun.step
      rw [he]
      simp [ctx, hrunning]
    rw [hsame]
    exact h.others rfl rfl ⟨rfl, rfl, rfl⟩ (fun _ => id) rfl h.daytime h.gamma
  | newLocation new => exact hgeoclue.elim
  | request new =>
    simp only [LocationRun.next] at hn
    split_ifs at hn
    obtain rfl := Option.some.inj hn
    exact h.others rfl rfl ⟨rfl, rfl, rfl⟩ (fun _ hm => List.mem_append_left _ hm) rfl h.daytime h.gamma
  | deliverDaytime =>
    simp only [LocationRun.next] at hn
    split at hn
    · cases hn
    rename_i m box hbox
    obtain rfl := Option.some.inj hn
    exact h.deliverDaytime m box
  | daytime new =>
    simp only [LocationRun.next] at hn
    split_ifs at hn
    obtain rfl := Option.some.inj hn
    exact h.others rfl rfl ⟨rfl, rfl, rfl⟩ (fun _ => id) rfl h.daytime h.gamma
  | deliverGamma r =>
    simp only [LocationRun.next] at hn
    split at hn
    · rename_i g upd box hg hbox
      split_ifs at hn with hstopped
      obtain rfl := Option.some.inj hn
      rw [decide_eq_false h.daytime] at hstopped
      obtain ⟨c, hc, hst⟩ := Gamma.handle_daytimeUpd hstopped upd.1 upd.2
        { loc := g, st := s.st, cf := s.cf, out := [], calls := [] }
      unfold onGamma
      dsimp only
      rw [hc]
      exact h.others rfl (congrArg State.currentLoc hst) ⟨rfl, rfl, rfl⟩ (fun _ => id) rfl h.daytime rfl
    · cases hn
  | others st cf =>
    simp only [LocationRun.next] at hn
    split_ifs at hn with hkept
    obtain rfl := Option.some.inj hn
    exact h.others rfl hkept ⟨rfl, rfl, rfl⟩ (fun _ => id) rfl h.daytime h.gamma

/-- In every run in which validate_loc accepts the cached position and nothing of LOCATION's own is
left in its mailbox when the timer is dispatched, no LOC_UPD is undefined, DAYTIME is never stopped
and GAMMA never killed. -/
theorem cached_location_kept
    (hs : ((locationRun distance).startedIn (CacheAccepted distance)).ReachableBy
      (fun s e => GeoclueFails e ∧ TimerLast s e) s) :
    (∀ l ∈ s.locUpds, l.lat ≠ latUndefined) ∧ s.daytime ≠ .stopped ∧ s.gamma.isSome = true := by
  have h : ∃ cached, Located distance cached s := by
    refine Machine.ReachableBy.invariant (I := fun s => ∃ cached, Located distance cached s) ?_ ?_ hs
    · rintro _ ⟨⟨cf, cached, initialTemp, -, rfl⟩, haccepted⟩
      exact ⟨cached, .start haccepted⟩
    · rintro s e s' ⟨cached, hi⟩ hc hn
      exact ⟨cached, hi.next hc.2 hc.1 hn⟩
  obtain ⟨cached, h⟩ := h
  exact ⟨h.locUpds, h.daytime, h.gamma⟩

instance (s : LocationRun) : (e : LocationEvent) → Decidable (TimerLast s e)
  | .timeout => instDecidableAnd
  | .deliver _ | .elapse _ | .getClient _ | .newLocation _ | .request _ | .deliverDaytime
  | .daytime _ | .deliverGamma _ | .others _ _ => isTrue trivial

/-- A cached position, and what get_distance gives from it to the undefined one. -/
def milan : Loc := { lat := 45, lon := 9 }
def farAway (a b : Loc) : ℚ := if a = b then 0 else 3040

def startCached : LocationRun := start Conf.default (some milan) 6500

theorem startCached_init : ((locationRun farAway).startedIn (CacheAccepted farAway)).init startCached := by
  refine ⟨⟨Conf.default, milan, 6500, by decide +kernel, rfl⟩, ?_⟩
  intro cached hcached
  obtain rfl := Option.some.inj hcached
  decide +kernel

def dayReplies (stopped : Bool) : GammaReplies :=
  { now := 0, localDay := fun _ => (0, 0), sent := true, daytimeStopped := stopped, junk := 0 }

/-- geoclue is absent: the cached position is taken before the timer is dispatched. -/
def requestFirst : List LocationEvent :=
  [.deliver false, .deliverDaytime, .deliver false, .elapse none, .timeout, .deliverDaytime,
    .daytime .day, .deliverGamma (dayReplies false)]

theorem cached_location_kept_served : ∃ s,
    ((locationRun farAway).startedIn (CacheAccepted farAway)).run startCached requestFirst = some s ∧
      s.locUpds = [milan] ∧ s.daytime ≠ .stopped ∧ s.gamma.isSome = true := by
  have hrun : (((locationRun farAway).startedIn (CacheAccepted farAway)).run startCached
      requestFirst).any (fun s => s.locUpds = [milan]) = true := by decide +kernel
  obtain ⟨s, hs, hp⟩ := (Option.any_eq_true _ _).mp hrun
  have hfails : ((locationRun farAway).startedIn (CacheAccepted farAway)).RunBy
      (fun _ e => GeoclueFails e) startCached requestFirst := by
    apply Machine.runBy_of_forall
    simp [requestFirst, GeoclueFails]
  have hlast : ((locationRun farAway).startedIn (CacheAccepted farAway)).RunBy
      (fun s e => TimerLast s e) startCached requestFirst := by decide +kernel
  have hkept := cached_location_kept
    (Machine.ReachableBy.of_run _ (.init startCached_init) (hfails.and hlast) hs)
  exact ⟨s, hs, of_decide_eq_true hp, hkept.2⟩

/-- The timer, which geoclue's absence armed with one nanosecond, is dispatched first. -/
def timerFirst : List LocationEvent :=
  [.deliver false, .deliverDaytime, .elapse none, .timeout, .deliverDaytime,
    .deliverGamma (dayReplies true)]

/-- The cached position is dropped, DAYTIME is stopped and GAMMA killed. -/
theorem cached_location_dropped : ¬ ∀ s,
    ((locationRun farAway).startedIn (CacheAccepted farAway)).ReachableBy
      (fun _ e => GeoclueFails e) s →
    (∀ l ∈ s.locUpds, l.lat ≠ latUndefined) ∧ s.daytime ≠ .stopped ∧ s.gamma.isSome = true := by
  intro h
  have hrun : (((locationRun farAway).startedIn (CacheAccepted farAway)).run startCached
      timerFirst).any (fun s => s.daytime = .stopped && s.gamma.isNone) = true := by decide +kernel
  obtain ⟨s, hs, hp⟩ := (Option.any_eq_true _ _).mp hrun
  simp only [Bool.and_eq_true, decide_eq_true_eq] at hp
  have hfails : ((locationRun farAway).startedIn (CacheAccepted farAway)).RunBy
      (fun _ e => GeoclueFails e) startCached timerFirst := by
    apply Machine.runBy_of_forall
    simp [timerFirst, GeoclueFails]
  have hkept := h s (Machine.ReachableBy.of_run _ (.init startCached_init) hfails hs)
  exact hkept.2.1 hp.1

end LocationRun
end Clight
