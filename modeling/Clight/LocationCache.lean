import Clight.DecimalText
import Clight.History
import Clight.LocationRuns

/-! The cache file of LOCATION (location.c): its text, and the position that goes through it from
one session of Clight to the next. -/
namespace Clight

namespace Location

/-- fprintf of `%lf %lf\n`. -/
def printLoc (l : Loc) : List Char :=
  DecimalText.print 6 l.lat ++ ' ' :: (DecimalText.print 6 l.lon ++ ['\n'])

/-- fscanf of `%lf %lf\n`, if it returns 2. -/
def scanLoc (text : List Char) : Option Loc :=
  (DecimalText.scan text).bind fun lat =>
    (DecimalText.scan lat.2).map fun lon => { lat := lat.1, lon := lon.1 }

/-- load_cache_location: what it asks for. -/
def loadCacheLocation (file : Option (List Char)) : Option Loc := file.bind scanLoc

/-- cache_location; `opened` is the outcome of fopen. -/
def cacheLocation (opened : Bool) (st : State) (file : Option (List Char)) : Option (List Char) :=
  if st.currentLoc.isUndefined then file
  else if opened then some (printLoc st.currentLoc)
  else file

/-- The position that the text of `l` stands for. -/
def cachedLoc (l : Loc) : Loc :=
  { lat := DecimalText.rounded 6 l.lat, lon := DecimalText.rounded 6 l.lon }

theorem scanLoc_printLoc (l : Loc) : scanLoc (printLoc l) = some (cachedLoc l) := by
  have hlat := DecimalText.scan_print (k := 6) (by decide) l.lat (c := ' ') rfl rfl
    (DecimalText.print 6 l.lon ++ ['\n'])
  have hlon := DecimalText.scan_print (k := 6) (by decide) l.lon (c := '\n') rfl rfl []
  -- the second conversion skips the space that the first one left
  have hskip : DecimalText.scan (' ' :: (DecimalText.print 6 l.lon ++ ['\n'])) =
      DecimalText.scan (DecimalText.print 6 l.lon ++ ['\n']) := by
    unfold DecimalText.scan
    rw [List.dropWhile_cons_of_pos rfl]
  unfold scanLoc printLoc cachedLoc
  rw [hlat, Option.bind_some, hskip, hlon, Option.map_some]

theorem cachedLoc_cachedLoc (l : Loc) : cachedLoc (cachedLoc l) = cachedLoc l := by
  unfold cachedLoc
  rw [DecimalText.rounded_rounded, DecimalText.rounded_rounded]

/-- Closer than half of the last digit that is written. -/
structure Close (l l' : Loc) : Prop where
  lat : |l.lat - l'.lat| ≤ 1 / 2 / 10 ^ 6
  lon : |l.lon - l'.lon| ≤ 1 / 2 / 10 ^ 6

theorem Close.refl (l : Loc) : Close l l := by
  have hpos : (0 : ℚ) ≤ 1 / 2 / 10 ^ 6 := by decide +kernel
  constructor
  · rw [sub_self, abs_zero]
    exact hpos
  · rw [sub_self, abs_zero]
    exact hpos

theorem close_cachedLoc (l : Loc) : Close (cachedLoc l) l :=
  ⟨DecimalText.rounded_near 6 l.lat, DecimalText.rounded_near 6 l.lon⟩

end Location

/-! ### One session after the other -/

/-- LOCATION in the current session, and the cache file as it was when that began. -/
structure Sessions where
  file : Option (List Char)
  run : LocationRun

inductive SessionEvent
  | inner (e : LocationEvent)
  | restart (opened : Bool) (cf : Conf) (initialTemp : ℤ)

namespace Sessions

/-- A session in which LOCATION runs. -/
def start (file : Option (List Char)) (cf : Conf) (initialTemp : ℤ) : Sessions where
  file := file
  run := .start cf (Location.loadCacheLocation file) initialTemp

/-- The main loop stops, which a LOCATION that is gone does not receive. -/
def stopped (opened : Bool) (s : Sessions) : Option (List Char) :=
  if s.run.location.gone then s.file else Location.cacheLocation opened s.run.st s.file

def next (distance : Loc → Loc → ℚ) (s : Sessions) : SessionEvent → Option Sessions
  | .inner e => (LocationRun.next distance s.run e).map fun run => { s with run := run }
  | .restart opened cf initialTemp =>
    if Location.evaluate cf then some (start (stopped opened s) cf initialTemp) else none

/-- The positions that came from outside, from the bus or from geoclue. -/
def record (given : List Loc) (_ : Sessions) (e : SessionEvent) (_ : Sessions) : List Loc :=
  match e with
  | .inner (.request new) => given ++ [new]
  | .inner (.newLocation new) => given ++ [new]
  | _ => given

end Sessions

def sessions (distance : Loc → Loc → ℚ) (file : Option (List Char)) : Machine Sessions SessionEvent where
  init s := ∃ cf initialTemp, Location.evaluate cf = true ∧ s = .start file cf initialTemp
  next := Sessions.next distance

namespace Sessions
open Location
variable {distance : Loc → Loc → ℚ} {s t : Sessions} {given given' : List Loc} {l : Loc}

/-- A position that was given, or the one that its text stands for. -/
def Given (given : List Loc) (l : Loc) : Prop := ∃ o ∈ given, l = o ∨ l = cachedLoc o

theorem Given.mono (h : Given given l) (hsub : given ⊆ given') : Given given' l := by
  obtain ⟨o, ho, heq⟩ := h
  exact ⟨o, hsub ho, heq⟩

theorem Given.cached (h : Given given l) : Given given (cachedLoc l) := by
  obtain ⟨o, ho, rfl | rfl⟩ := h
  · exact ⟨l, ho, .inr rfl⟩
  · exact ⟨o, ho, .inr (cachedLoc_cachedLoc o)⟩

theorem Given.close (h : Given given l) : ∃ o ∈ given, Close l o := by
  obtain ⟨o, ho, rfl | rfl⟩ := h
  · exact ⟨l, ho, .refl l⟩
  · exact ⟨o, ho, close_cachedLoc o⟩

/-- Wherever LOCATION keeps a position, it is a given one. -/
structure Kept (given : List Loc) (r : LocationRun) : Prop where
  current : r.st.currentLoc.isUndefined = false → Given given r.st.currentLoc
  cacheFile : ∀ l, r.cacheFile = some l → Given given l
  queued : ∀ l, .locationReq l ∈ r.locBox → Given given l
  shared : .locationReqStatic ∈ r.locBox → Given given r.location.locReq

variable {r r' : LocationRun}

theorem Kept.mono (h : Kept given r) (hsub : given ⊆ given') : Kept given' r where
  current hdef := (h.current hdef).mono hsub
  cacheFile l hl := (h.cacheFile l hl).mono hsub
  queued l hl := (h.queued l hl).mono hsub
  shared hq := (h.shared hq).mono hsub

/-- Steps that keep the position and ask for none. -/
theorem Kept.others (h : Kept given r) (hloc : r'.st.currentLoc = r.st.currentLoc)
    (hfile : r'.cacheFile = r.cacheFile) (hbox : r'.locBox ⊆ r.locBox)
    (hreq : r'.location.locReq = r.location.locReq) : Kept given r' where
  current := by
    rw [hloc]
    exact h.current
  cacheFile := by
    rw [hfile]
    exact h.cacheFile
  queued l hl := h.queued l (hbox hl)
  shared hq := by
    rw [hreq]
    exact h.shared (hbox hq)

theorem Kept.tail (h : Kept given r) {m : LocationMsg} {box : List LocationMsg}
    (hbox : r.locBox = m :: box) : Kept given { r with locBox := box } :=
  h.others rfl rfl (hbox ▸ List.subset_cons_self m box) rfl

/-- A step of LOCATION itself: what it has published is at the end of its mailbox. -/
theorem Kept.step (h : Kept given r) {f : LocationCtx → LocationCtx}
    (hloc : (f r.ctx).st.currentLoc = r.st.currentLoc ∨ Given given (f r.ctx).st.currentLoc)
    (hreq : .locationReqStatic ∈ r.locBox ++ (f r.ctx).published.filterMap LocationPub.toLocation →
      Given given (f r.ctx).loc.locReq) : Kept given (LocationRun.step f r) where
  current hdef := by
    rcases hloc with hsame | hgiven
    · have hcurrent : (LocationRun.step f r).st.currentLoc = r.st.currentLoc := hsame
      rw [hcurrent] at hdef ⊢
      exact h.current hdef
    · exact hgiven
  cacheFile := h.cacheFile
  queued l hl := by
    unfold LocationRun.step at hl
    dsimp only at hl
    split_ifs at hl
    · cases hl
    · rcases List.mem_append.mp hl with hold | hnew
      · exact h.queued l hold
      · -- its own request is the shared one
        obtain ⟨p, -, hp⟩ := List.mem_filterMap.mp hnew
        cases p <;> cases hp
  shared hq := by
    unfold LocationRun.step at hq
    dsimp only at hq
    split_ifs at hq
    · cases hq
    · exact hreq hq

theorem Kept.publishReq (h : Kept given r) {new : Loc} (hnew : Given given new)
    {f : LocationCtx → LocationCtx} (hst : (f r.ctx).st = r.st)
    (hreq : (f r.ctx).loc.locReq = new) : Kept given (LocationRun.step f r) := by
  apply h.step
  · exact .inl (congrArg State.currentLoc hst)
  · intro _
    rw [hreq]
    exact hnew

theorem Kept.silent (h : Kept given r) {f : LocationCtx → LocationCtx} (hst : (f r.ctx).st = r.st)
    (hreq : (f r.ctx).loc.locReq = r.location.locReq)
    (hpub : (f r.ctx).published.filterMap LocationPub.toLocation = []) :
    Kept given (LocationRun.step f r) := by
  apply h.step
  · exact .inl (congrArg State.currentLoc hst)
  · rw [hpub, List.append_nil, hreq]
    exact h.shared

/-- A request is taken or ignored. -/
theorem Kept.locationReq (h : Kept given r) {new : Loc} (hnew : Given given new) :
    Kept given (LocationRun.step (Location.onLocationReq distance new) r) := by
  rcases Location.onLocationReq_cases distance new r.ctx with ⟨-, he⟩ | ⟨-, he⟩
  · apply h.step
    · rw [he]
      exact .inr hnew
    · rw [he]
      exact h.shared ∘ fun hq => (List.append_nil r.locBox) ▸ hq
  · apply h.silent
    · rw [he]
      rfl
    · rw [he]
      rfl
    · rw [he]
      rfl

/-- The cached position is asked for as the main loop starts. -/
theorem Kept.loopStarted (h : Kept given r) {cached : Option Loc}
    (hcached : ∀ l, cached = some l → Given given l) (geoclue : Bool) :
    Kept given (LocationRun.step (Location.onLoopStarted cached geoclue) r) := by
  cases cached with
  | none =>
    apply h.silent
    · cases geoclue <;> rfl
    · cases geoclue <;> rfl
    · cases geoclue <;> rfl
  | some l =>
    apply h.publishReq (hcached l rfl)
    · cases geoclue <;> rfl
    · cases geoclue <;> rfl

theorem Kept.onTimeout (h : Kept given r) : Kept given (LocationRun.step Location.onTimeout r) := by
  apply h.silent
  · unfold Location.onTimeout
    dsimp only
    split_ifs <;> rfl
  · unfold Location.onTimeout
    dsimp only
    split_ifs <;> rfl
  · unfold Location.onTimeout
    dsimp only
    split_ifs <;> rfl

theorem Kept.deliver (h : Kept given r) {m : LocationMsg} {box : List LocationMsg}
    (hbox : r.locBox = m :: box) (geoclue : Bool) : Kept given
      (LocationRun.step (Location.receive distance r.cacheFile geoclue m) { r with locBox := box }) := by
  have htail := h.tail hbox
  have hmem : m ∈ r.locBox := hbox ▸ List.mem_cons_self
  cases m with
  | loopStarted =>
    unfold Location.receive
    exact htail.loopStarted h.cacheFile geoclue
  | locationReq new =>
    unfold Location.receive
    exact htail.locationReq (h.queued new hmem)
  | locationReqStatic =>
    -- the shared request is read as it is now
    have hshared : LocationRun.step (Location.receive distance r.cacheFile geoclue .locationReqStatic)
        { r with locBox := box } =
          LocationRun.step (Location.onLocationReq distance r.location.locReq) { r with locBox := box } := rfl
    rw [hshared]
    exact htail.locationReq (h.shared hmem)

theorem Kept.onDaytime (h : Kept given r) (m : DaytimeMsg) : Kept given (LocationRun.onDaytime m r) := by
  unfold LocationRun.onDaytime
  split
  · split_ifs <;> exact h.others rfl rfl (List.Subset.refl _) rfl
  · split_ifs <;> exact h.others rfl rfl (List.Subset.refl _) rfl
  · exact h

theorem Kept.next (h : Kept given r) {e : LocationEvent} (hn : LocationRun.next distance r e = some r') :
    Kept (record given s (.inner e) t) r' := by
  cases e with
  | deliver geoclue =>
    simp only [LocationRun.next] at hn
    split at hn
    · cases hn
    · rename_i m box hbox
      obtain rfl := Option.some.inj hn
      exact h.deliver hbox geoclue
  | elapse sec =>
    obtain rfl := Option.some.inj hn
    exact h.others rfl rfl (List.Subset.refl _) rfl
  | timeout =>
    simp only [LocationRun.next] at hn
    split_ifs at hn
    obtain rfl := Option.some.inj hn
    exact h.onTimeout
  | getClient ok =>
    simp only [LocationRun.next] at hn
    split_ifs at hn
    obtain rfl := Option.some.inj hn
    apply h.silent
    · cases ok <;> rfl
    · cases ok <;> rfl
    · cases ok <;> rfl
  | newLocation new =>
    simp only [LocationRun.next] at hn
    split_ifs at hn
    obtain rfl := Option.some.inj hn
    have hnew : Given (given ++ [new]) new := ⟨new, List.mem_append_right _ List.mem_cons_self, .inl rfl⟩
    apply (h.mono (List.subset_append_left given [new])).publishReq hnew
    · rfl
    · rfl
  | request new =>
    simp only [LocationRun.next] at hn
    split_ifs at hn
    obtain rfl := Option.some.inj hn
    have hlonger := h.mono (List.subset_append_left given [new])
    refine ⟨hlonger.current, hlonger.cacheFile, ?_, ?_⟩
    · intro l hl
      rcases List.mem_append.mp hl with hold | hnew
      · exact hlonger.queued l hold
      · obtain rfl := LocationMsg.locationReq.inj (List.mem_singleton.mp hnew)
        exact ⟨l, List.mem_append_right _ List.mem_cons_self, .inl rfl⟩
    · intro hq
      rcases List.mem_append.mp hq with hold | hnew
      · exact hlonger.shared hold
      · cases List.mem_singleton.mp hnew
  | deliverDaytime =>
    simp only [LocationRun.next] at hn
    split at hn
    · cases hn
    · rename_i m box hbox
      obtain rfl := Option.some.inj hn
      have hpopped : Kept given { r with dayBox := box } := h.others rfl rfl (List.Subset.refl _) rfl
      exact hpopped.onDaytime m
  | daytime new =>
    simp only [LocationRun.next] at hn
    split_ifs at hn
    obtain rfl := Option.some.inj hn
    exact h.others rfl rfl (List.Subset.refl _) rfl
  | deliverGamma g =>
    simp only [LocationRun.next] at hn
    split at hn
    · rename_i gamma upd box hg hbox
      split_ifs at hn
      obtain rfl := Option.some.inj hn
      obtain ⟨hloc, hlocation, hlocBox, -, hfile⟩ :=
        LocationRun.onGamma_kept g gamma upd { r with gammaBox := box }
      exact h.others hloc hfile (fun _ hm => hlocBox ▸ hm) (congrArg Location.locReq hlocation)
    · cases hn
  | others st cf =>
    simp only [LocationRun.next] at hn
    split_ifs at hn with hloc
    obtain rfl := Option.some.inj hn
    exact h.others hloc rfl (List.Subset.refl _) rfl

structure Inv (given : List Loc) (s : Sessions) : Prop where
  file : ∀ l, loadCacheLocation s.file = some l → Given given l
  run : Kept given s.run

theorem loadCacheLocation_written {opened : Bool} {st : State} {file : Option (List Char)}
    (hl : loadCacheLocation (cacheLocation opened st file) = some l) :
    loadCacheLocation file = some l ∨ st.currentLoc.isUndefined = false ∧ l = cachedLoc st.currentLoc := by
  unfold cacheLocation at hl
  split_ifs at hl with hundef hopened
  · exact .inl hl
  · have hread : loadCacheLocation (some (printLoc st.currentLoc)) = some (cachedLoc st.currentLoc) :=
      scanLoc_printLoc st.currentLoc
    exact .inr ⟨Bool.eq_false_iff.mpr hundef, (Option.some.inj (hread.symm.trans hl)).symm⟩
  · exact .inl hl

theorem Inv.stopped (h : Inv given s) (opened : Bool)
    (hl : loadCacheLocation (s.stopped opened) = some l) : Given given l := by
  unfold Sessions.stopped at hl
  split_ifs at hl
  · exact h.file l hl
  · rcases loadCacheLocation_written hl with hold | ⟨hdef, rfl⟩
    · exact h.file l hold
    · exact (h.run.current hdef).cached

/-- LOCATION is only started without a position. -/
theorem Inv.start {file : Option (List Char)} {cf : Conf} (heval : Location.evaluate cf = true)
    (hfile : ∀ l, loadCacheLocation file = some l → Given given l) (initialTemp : ℤ) :
    Inv given (.start file cf initialTemp) where
  file := hfile
  run := by
    have hundef : cf.day.loc.isUndefined = true := by
      unfold Location.evaluate at heval
      simp only [Bool.and_eq_true] at heval
      exact heval.1.2
    refine ⟨?_, hfile, ?_, ?_⟩
    · intro hdef
      exact absurd (hundef.symm.trans hdef) (by decide)
    · intro l hl
      cases List.mem_singleton.mp hl
    · intro hq
      cases List.mem_singleton.mp hq

theorem record_subset (given : List Loc) (s : Sessions) (e : SessionEvent) (t : Sessions) :
    given ⊆ record given s e t := by
  unfold record
  split
  · exact List.subset_append_left _ _
  · exact List.subset_append_left _ _
  · exact List.Subset.refl _

theorem Inv.next (h : Inv given s) {e : SessionEvent} (hn : Sessions.next distance s e = some t) :
    Inv (record given s e t) t := by
  cases e with
  | inner e =>
    obtain ⟨run, hrun, rfl⟩ := Option.map_eq_some_iff.mp hn
    refine ⟨?_, h.run.next hrun⟩
    intro l hl
    exact (h.file l hl).mono (record_subset given s (.inner e) { s with run := run })
  | restart opened cf initialTemp =>
    simp only [Sessions.next] at hn
    split_ifs at hn with heval
    obtain rfl := Option.some.inj hn
    exact .start heval (fun l hl => h.stopped opened hl) initialTemp

/-- The file gives back what was written, rounded to what is written of it. -/
structure RoundTrips : Prop where
  scanned : ∀ l, scanLoc (printLoc l) = some (cachedLoc l)
  near : ∀ l, Close (cachedLoc l) l
  /-- A second time nothing is lost. -/
  again : ∀ l, cachedLoc (cachedLoc l) = cachedLoc l

theorem roundTrips : RoundTrips := ⟨scanLoc_printLoc, close_cachedLoc, cachedLoc_cachedLoc⟩

/-- The position in force is written when the session ends. -/
def writes (s : Sessions) (opened : Bool) : Bool :=
  opened && !s.run.location.gone && !s.run.st.currentLoc.isUndefined

/-- What the cache file and LOCATION hold, in whatever session, was given from outside but for the
rounding of the file, which happens once. -/
structure Undrifted (given : List Loc) (s : Sessions) : Prop where
  file : ∀ l, loadCacheLocation s.file = some l → ∃ o ∈ given, Close l o
  current : s.run.st.currentLoc.isUndefined = false → ∃ o ∈ given, Close s.run.st.currentLoc o
  /-- The next session finds the position in force if that was written, and the old file if not. -/
  restart : ∀ opened cf initialTemp, (start (s.stopped opened) cf initialTemp).run.cacheFile =
    if s.writes opened then some (cachedLoc s.run.st.currentLoc) else loadCacheLocation s.file

theorem Inv.undrifted (h : Inv given s) : Undrifted given s where
  file l hl := (h.file l hl).close
  current hdef := (h.run.current hdef).close
  restart opened cf initialTemp := by
    change loadCacheLocation (s.stopped opened) = _
    unfold Sessions.stopped cacheLocation Sessions.writes
    cases hgone : s.run.location.gone
    swap
    · simp
    cases hdef : s.run.st.currentLoc.isUndefined
    swap
    · simp
    cases opened
    · simp
    · have hread : loadCacheLocation (some (printLoc s.run.st.currentLoc)) =
          some (cachedLoc s.run.st.currentLoc) := scanLoc_printLoc s.run.st.currentLoc
      simpa using hread

end Sessions

open Sessions in
/-- The text of the cache file round-trips, and in every run of sessions the position does not drift
in it. -/
theorem cached_location_undrifted {distance : Loc → Loc → ℚ} {file : Option (List Char)}
    {s : Sessions × List Loc}
    (hs : ((sessions distance file).withHistory (Location.loadCacheLocation file).toList record).Reachable s) :
    RoundTrips ∧ Undrifted s.2 s.1 := by
  refine ⟨roundTrips, Inv.undrifted ?_⟩
  refine hs.history (I := fun s given => Inv given s) ?_ ?_
  · rintro s ⟨cf, initialTemp, heval, rfl⟩
    refine .start heval ?_ initialTemp
    intro l hl
    rw [hl]
    exact ⟨l, List.mem_cons_self, .inl rfl⟩
  · intro s given e t _ hi _ hn
    exact hi.next hn

namespace Sessions

def cathedral : Loc := { lat := 45.46419289, lon := 9.19176345 }

/-- A position from the bus, two restarts, and the position from the cache. -/
def twoRestarts : List SessionEvent :=
  [.inner (.deliver false), .inner (.request cathedral), .inner (.deliver false),
    .restart true Conf.default 6500, .inner (.deliver false), .inner (.deliver false),
    .restart true Conf.default 6500]

theorem cached_location_undrifted_twice : ∃ s,
    ((sessions LocationRun.farAway none).withHistory [] record).run (start none Conf.default 6500, [])
        twoRestarts = some s ∧
      s.1.run.cacheFile = some { lat := 45.464193, lon := 9.191763 } ∧ Undrifted s.2 s.1 := by
  have hrun : (((sessions LocationRun.farAway none).withHistory [] record).run
      (start none Conf.default 6500, []) twoRestarts).any
        (fun s => s.1.run.cacheFile = some { lat := 45.464193, lon := 9.191763 }) = true := by
    decide +kernel
  obtain ⟨s, hs, hcache⟩ := (Option.any_eq_true _ _).mp hrun
  refine ⟨s, hs, of_decide_eq_true hcache, ?_⟩
  have hinit : ((sessions LocationRun.farAway none).withHistory [] record).init
      (start none Conf.default 6500, []) := ⟨⟨Conf.default, 6500, by decide +kernel, rfl⟩, rfl⟩
  have hreach : ((sessions LocationRun.farAway none).withHistory [] record).Reachable s :=
    Machine.ReachableBy.of_run twoRestarts (.init hinit)
      (Machine.runBy_of_forall (fun _ _ _ => trivial) _) hs
  exact (@cached_location_undrifted LocationRun.farAway none s hreach).2

end Sessions
end Clight
