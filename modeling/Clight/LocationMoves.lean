import Clight.Distance
import Clight.History
import Clight.Hysteresis

/-! LOCATION between moves: which of the positions asked for it takes and announces, with the exact
distance of the great circle. -/
namespace Clight

/-- LOCATION from the start of the main loop, whatever the cache file holds. -/
def locationStart (distance : Loc → Loc → ℚ) (cf : Conf) : Machine LocationRun LocationEvent where
  init s := Location.evaluate cf = true ∧ ∃ cached initialTemp, s = .start cf cached initialTemp
  next := LocationRun.next distance

namespace LocationMoves

/-- The position that a message asks for. -/
def asks (s : LocationRun) : LocationMsg → Option Loc
  | .loopStarted => none
  | .locationReq new => some new
  | .locationReqStatic => some s.location.locReq

/-- The positions asked for in the requests received so far, as far as they are in range. -/
def record (asked : List Loc) (s : LocationRun) (e : LocationEvent) (_ : LocationRun) : List Loc :=
  match e with
  | .deliver _ => asked ++ ((s.locBox.head?.bind (asks s)).filter Loc.inRange).toList
  | .elapse _ | .timeout | .getClient _ | .newLocation _ | .request _ | .deliverDaytime | .daytime _
  | .deliverGamma _ | .others _ _ => asked

noncomputable instance : DecidableRel Far := fun _ _ => Classical.propDecidable _

/-- LOCATION holds and announces what a filter would, which has the requests as its inputs. -/
structure Filters (first : Loc) (s : LocationRun) (asked : List Loc) : Prop where
  held : s.st.currentLoc = Hysteresis.held Far first asked
  announced : s.locUpds.filter Loc.inRange = Hysteresis.taken Far first asked

variable {first : Loc} {s t : LocationRun} {asked : List Loc} {cf : Conf}

theorem Filters.start (cached : Option Loc) (initialTemp : ℤ) :
    Filters cf.day.loc (.start cf cached initialTemp) [] where
  held := rfl
  announced := rfl

theorem Filters.mono (h : Filters first s asked) (hloc : t.st.currentLoc = s.st.currentLoc)
    (hupds : t.locUpds.filter Loc.inRange = s.locUpds.filter Loc.inRange) : Filters first t asked where
  held := hloc.trans h.held
  announced := hupds.trans h.announced

/-- A step that leaves the position alone and announces none in range. -/
theorem Filters.quiet (h : Filters first s asked) {f : LocationCtx → LocationCtx}
    (hloc : (f s.ctx).st.currentLoc = s.st.currentLoc)
    (hpub : ((f s.ctx).published.filterMap LocationPub.locUpd?).filter Loc.inRange = []) :
    Filters first (LocationRun.step f s) asked := by
  apply h.mono hloc
  have hupds : (LocationRun.step f s).locUpds =
      s.locUpds ++ (f s.ctx).published.filterMap LocationPub.locUpd? := rfl
  rw [hupds, List.filter_append, hpub, List.append_nil]

/-- A request is an input of the filter if its position is in range, and ignored if it is not. -/
theorem Filters.locationReq (h : Filters first s asked) (new : Loc) :
    Filters first (LocationRun.step (Location.onLocationReq thresholdDistance new) s)
      (asked ++ ((some new).filter Loc.inRange).toList) := by
  have hvalid := validateLoc_threshold new s.st
  by_cases hrange : new.inRange = true
  · have hasked : ((some new).filter Loc.inRange).toList = [new] := by
      rw [Option.filter_some, if_pos hrange]
      rfl
    rw [hasked]
    rcases Location.onLocationReq_cases thresholdDistance new s.ctx with ⟨hv, he⟩ | ⟨hv, he⟩
    · -- far enough: the position moves, and is announced
      have hfar : Far new (Hysteresis.held Far first asked) := h.held ▸ (hvalid.mp hv).2
      have hloc : (LocationRun.step (Location.onLocationReq thresholdDistance new) s).st.currentLoc =
          new := by
        unfold LocationRun.step
        rw [he]
      have hupds : (LocationRun.step (Location.onLocationReq thresholdDistance new) s).locUpds =
          s.locUpds ++ [new] := by
        unfold LocationRun.step
        rw [he]
        rfl
      constructor
      · rw [hloc, Hysteresis.held_append, if_pos hfar]
      · rw [hupds, List.filter_append, h.announced, Hysteresis.taken_append, if_pos hfar,
          List.filter_cons_of_pos hrange, List.filter_nil]
    · have hnear : ¬Far new (Hysteresis.held Far first asked) := by
        intro hfar
        have haccepted := hvalid.mpr ⟨hrange, h.held ▸ hfar⟩
        exact Bool.false_ne_true (hv.symm.trans haccepted)
      have hsame : LocationRun.step (Location.onLocationReq thresholdDistance new) s =
          LocationRun.step id s := by
        unfold LocationRun.step
        rw [he, id]
      have hkept : Filters first (LocationRun.step id s) asked := h.quiet rfl rfl
      rw [hsame]
      constructor
      · rw [Hysteresis.held_append, if_neg hnear]
        exact hkept.held
      · rw [Hysteresis.taken_append, if_neg hnear, List.append_nil]
        exact hkept.announced
  · have hnone : ((some new).filter Loc.inRange).toList = [] := by
      rw [Option.filter_some, if_neg hrange]
      rfl
    have hrejected : Location.onLocationReq thresholdDistance new s.ctx = s.ctx := by
      unfold Location.onLocationReq
      rw [if_neg]
      exact fun hv => hrange (hvalid.mp hv).1
    rw [hnone, List.append_nil]
    apply h.quiet
    · rw [hrejected]
      rfl
    · rw [hrejected]
      rfl

theorem onLoopStarted_quiet (cached : Option Loc) (geoclue : Bool) (c : LocationCtx) :
    (Location.onLoopStarted cached geoclue c).st = c.st ∧
      (Location.onLoopStarted cached geoclue c).published.filterMap LocationPub.locUpd? =
        c.published.filterMap LocationPub.locUpd? := by
  unfold Location.onLoopStarted
  cases cached <;> cases geoclue <;>
    simp [Location.publishReq, Location.failGeoclue, LocationPub.locUpd?]

theorem Filters.deliver (h : Filters first s asked) {m : LocationMsg} {box : List LocationMsg}
    (geoclue : Bool) : Filters first
      (LocationRun.step (Location.receive thresholdDistance s.cacheFile geoclue m) { s with locBox := box })
      (asked ++ ((asks s m).filter Loc.inRange).toList) := by
  have hbox : Filters first { s with locBox := box } asked := h.mono rfl rfl
  cases m with
  | loopStarted =>
    have hquiet := onLoopStarted_quiet s.cacheFile geoclue ({ s with locBox := box } : LocationRun).ctx
    have hkept : Filters first (LocationRun.step (Location.onLoopStarted s.cacheFile geoclue)
        { s with locBox := box }) asked := by
      apply hbox.quiet
      · rw [hquiet.1]
        rfl
      · rw [hquiet.2]
        rfl
    exact (List.append_nil asked).symm ▸ hkept
  | locationReq new => exact hbox.locationReq new
  | locationReqStatic => exact hbox.locationReq s.location.locReq

theorem onTimeout_quiet (c : LocationCtx) : (Location.onTimeout c).st = c.st ∧
    ((Location.onTimeout c).published.filterMap LocationPub.locUpd?).filter Loc.inRange =
      (c.published.filterMap LocationPub.locUpd?).filter Loc.inRange := by
  -- what is announced as the timer gives up is no position
  have hundefined : undefinedLoc.inRange = false := by decide +kernel
  unfold Location.onTimeout
  dsimp only
  split_ifs
  · refine ⟨rfl, ?_⟩
    have hpub : (Location.publishMsg undefinedLoc
        { c with loc := { c.loc with timeoutFd := c.loc.timeoutFd.read } }).published =
          c.published ++ [.locUpd undefinedLoc] := rfl
    rw [hpub, List.filterMap_append, List.filter_append]
    simp [LocationPub.locUpd?, hundefined]
  · exact ⟨rfl, rfl⟩

theorem Filters.next (h : Filters first s asked) {e : LocationEvent}
    (hn : LocationRun.next thresholdDistance s e = some t) : Filters first t (record asked s e t) := by
  cases e with
  | deliver geoclue =>
    simp only [LocationRun.next] at hn
    unfold record
    cases hbox : s.locBox with
    | nil =>
      rw [hbox] at hn
      cases hn
    | cons m box =>
      rw [hbox] at hn
      obtain rfl := Option.some.inj hn
      exact h.deliver geoclue
  | elapse sec =>
    obtain rfl := Option.some.inj hn
    exact h.mono rfl rfl
  | timeout =>
    simp only [LocationRun.next] at hn
    split_ifs at hn
    obtain rfl := Option.some.inj hn
    have hquiet := onTimeout_quiet s.ctx
    exact h.quiet (congrArg State.currentLoc hquiet.1) hquiet.2
  | getClient ok =>
    simp only [LocationRun.next] at hn
    split_ifs at hn
    obtain rfl := Option.some.inj hn
    cases ok <;> exact h.quiet rfl rfl
  | newLocation new =>
    simp only [LocationRun.next] at hn
    split_ifs at hn
    obtain rfl := Option.some.inj hn
    exact h.quiet rfl rfl
  | request new =>
    simp only [LocationRun.next] at hn
    split_ifs at hn
    obtain rfl := Option.some.inj hn
    exact h.mono rfl rfl
  | deliverDaytime =>
    simp only [LocationRun.next] at hn
    cases hbox : s.dayBox with
    | nil =>
      rw [hbox] at hn
      cases hn
    | cons m box =>
      rw [hbox] at hn
      obtain rfl := Option.some.inj hn
      unfold LocationRun.onDaytime
      dsimp only
      split
      · split_ifs <;> exact h.mono rfl rfl
      · split_ifs <;> exact h.mono rfl rfl
      · exact h.mono rfl rfl
  | daytime new =>
    simp only [LocationRun.next] at hn
    split_ifs at hn
    obtain rfl := Option.some.inj hn
    exact h.mono rfl rfl
  | deliverGamma r =>
    simp only [LocationRun.next] at hn
    split at hn
    · rename_i g upd box hg hbox
      split_ifs at hn
      obtain rfl := Option.some.inj hn
      have hkept := LocationRun.onGamma_kept r g upd { s with gammaBox := box }
      exact h.mono hkept.1 (congrArg (List.filter Loc.inRange) hkept.2.2.2.1)
    · cases hn
  | others st cf =>
    simp only [LocationRun.next] at hn
    split_ifs at hn with hloc
    obtain rfl := Option.some.inj hn
    exact h.mono hloc rfl

/-! ### What the positions look like, in every run -/

/-- `first` is the configured position, which is not complete, and `asked` what was asked for. -/
structure Moves (first : Loc) (s : LocationRun) (asked : List Loc) : Prop where
  /-- What is announced was asked for, in that order. -/
  requested : (s.locUpds.filter Loc.inRange).Sublist asked
  /-- No move is shorter than the threshold. -/
  apart : (first :: s.locUpds.filter Loc.inRange).IsChain fun old new => Far new old
  newest : s.st.currentLoc = (s.locUpds.filter Loc.inRange).getLastD first
  /-- The position in force is closer than the threshold to the last one asked for. -/
  near : ∀ rs r, asked = rs ++ [r] → getDistance r s.st.currentLoc < locDistanceThrs
  /-- A move of twice the threshold from one request to the next is always made. -/
  noticed : ∀ rs r r', asked = rs ++ [r, r'] →
    (locDistanceThrs : ℝ) + locDistanceThrs ≤ getDistance r' r → s.st.currentLoc = r'

theorem Filters.moves (h : Filters first s asked) : Moves first s asked where
  requested := h.announced ▸ Hysteresis.taken_sublist first asked
  apart := h.announced ▸ Hysteresis.isChain_taken first asked
  newest := by
    rw [h.announced, h.held]
    exact Hysteresis.held_eq_getLastD first asked
  near := by
    rintro rs r rfl
    rw [h.held]
    exact not_le.mp (Hysteresis.not_far_held not_far_self first rs r)
  noticed := by
    rintro rs r r' rfl htwice
    have htaken : Hysteresis.taken Far first (rs ++ [r, r']) = _ :=
      Hysteresis.taken_of_twice (fun _ _ => Iff.rfl) not_far_self getDistance_triangle
        getDistance_comm htwice first rs
    rw [h.held, Hysteresis.held_eq_getLastD, htaken, List.getLastD_concat]

end LocationMoves

open LocationMoves in
/-- The distance is the great circle's, and in every run LOCATION is a filter with hysteresis over it
on the positions it is asked for. -/
theorem location_moves {cf : Conf} {s : LocationRun × List Loc}
    (hs : ((locationStart thresholdDistance cf).withHistory [] record).Reachable s) :
    Measures ∧ Moves cf.day.loc s.1 s.2 := by
  refine ⟨getDistance_measures, Filters.moves ?_⟩
  refine hs.history (I := Filters cf.day.loc) ?_ ?_
  · rintro s ⟨-, cached, initialTemp, rfl⟩
    exact .start cached initialTemp
  · intro s asked e t _ hi _ hn
    exact hi.next hn

namespace LocationMoves

/-- A latitude without its longitude, which is not a position. -/
def halfConf : Conf :=
  { Conf.default with day := { Conf.default.day with loc := { lat := 0, lon := lonUndefined } } }

def greenwich : Loc := { lat := 0, lon := 1 }

/-- Half of the equator lies between them. -/
theorem far_greenwich : Far greenwich halfConf.day.loc := by
  have harc : getDistance greenwich halfConf.day.loc = 180 * milesPerDegree := by
    unfold getDistance greenwich halfConf lonUndefined degToRad radToDeg
    push_cast
    have hhalf : Real.pi * (1 - 181) / 180 = -Real.pi := by ring
    rw [hhalf, mul_zero, zero_div, Real.sin_zero, Real.cos_zero, Real.cos_neg, Real.cos_pi]
    norm_num [Real.arccos_neg_one, Real.pi_ne_zero]
  unfold Far
  rw [harc]
  exact_mod_cast (by decide +kernel : locDistanceThrs ≤ 180 * milesPerDegree)

theorem moved_greenwich {s : LocationRun} (hs : s.st = initState halfConf) :
    (LocationRun.step (Location.onLocationReq thresholdDistance greenwich) s).st.currentLoc =
      greenwich := by
  have hvalid : validateLoc thresholdDistance s.ctx.st greenwich = true := by
    have hst : s.ctx.st = initState halfConf := hs
    rw [hst, validateLoc_threshold]
    exact ⟨by decide +kernel, far_greenwich⟩
  unfold LocationRun.step Location.onLocationReq
  rw [if_pos hvalid]

/-- The first position asked for is half of the equator away. -/
def requestGreenwich : List LocationEvent := [.deliver false, .request greenwich, .deliver false]

theorem location_moves_greenwich : ∃ s,
    ((locationStart thresholdDistance halfConf).withHistory [] record).run
        (.start halfConf none 6500, []) requestGreenwich = some s ∧
      s.1.st.currentLoc = greenwich ∧ Moves halfConf.day.loc s.1 s.2 := by
  have hinit : ((locationStart thresholdDistance halfConf).withHistory [] record).init
      (.start halfConf none 6500, []) := ⟨⟨by decide +kernel, none, 6500, rfl⟩, rfl⟩
  refine ⟨_, rfl, moved_greenwich rfl, ?_⟩
  refine (location_moves ?_).2
  exact Machine.ReachableBy.of_run requestGreenwich (.init hinit)
    (Machine.runBy_of_forall (fun _ _ _ => trivial) _) rfl

end LocationMoves
end Clight
