import Clight.Location
import Clight.Opts

/-! Writes of the Location property (interface.c): the configuration is written at once, and the
position in force by LOCATION, if it runs and accepts the request. -/
namespace Clight

/-- What a write of Location reaches. LOCATION is `none` when it was never started or has deregistered
itself. -/
structure LocationSystem where
  location : Option Location
  st : State
  cf : Conf
  published : List LocationPub

namespace LocationSystem

/-- set_location, with the request it publishes. -/
def setLocation (new : Loc) (s : LocationSystem) : LocationSystem × LocationMsg :=
  ({ s with cf := { s.cf with day := { s.cf.day with loc := new } } }, .locationReq new)

/-- A request reaches LOCATION only while it runs. -/
def deliver (distance : Loc → Loc → ℚ) (m : LocationMsg) (s : LocationSystem) : LocationSystem :=
  match s.location with
  | none => s
  | some l =>
    let c := Location.receive distance none false m { loc := l, st := s.st, published := s.published }
    { s with
      location := if c.loc.gone then none else some c.loc
      st := c.st
      published := c.published }

/-- A write of Location, until the queue is drained. -/
def writeLocation (distance : Loc → Loc → ℚ) (new : Loc) (s : LocationSystem) : LocationSystem :=
  deliver distance (s.setLocation new).2 (s.setLocation new).1

/-- The new position is in force, it is configured, and it was announced. -/
structure TookEffect (new : Loc) (s s' : LocationSystem) : Prop where
  currentLoc : s'.st.currentLoc = new
  conf : s'.cf.day.loc = new
  published : s'.published = s.published ++ [.locUpd new]

/-- Neither copy of the position has changed. -/
structure KeptLocation (s s' : LocationSystem) : Prop where
  currentLoc : s'.st.currentLoc = s.st.currentLoc
  conf : s'.cf.day.loc = s.cf.day.loc

variable {distance : Loc → Loc → ℚ} {new : Loc} {s : LocationSystem}

@[simp] theorem writeLocation_conf : (writeLocation distance new s).cf.day.loc = new := by
  unfold writeLocation deliver setLocation
  cases s.location <;> rfl

theorem writeLocation_accepted {l : Location} (hrun : s.location = some l)
    (hvalid : validateLoc distance s.st new = true) :
    (writeLocation distance new s).st.currentLoc = new ∧
      (writeLocation distance new s).published = s.published ++ [.locUpd new] := by
  unfold writeLocation deliver setLocation
  dsimp only
  rw [hrun]
  dsimp only [Location.receive]
  unfold Location.onLocationReq
  rw [if_pos hvalid]
  exact ⟨rfl, rfl⟩

/-- Without LOCATION, or when it rejects the request, nothing is announced. -/
theorem writeLocation_ignored
    (h : ¬ (s.location.isSome = true ∧ validateLoc distance s.st new = true)) :
    (writeLocation distance new s).st = s.st ∧
      (writeLocation distance new s).published = s.published := by
  unfold writeLocation deliver setLocation
  dsimp only
  cases hrun : s.location with
  | none => exact ⟨rfl, rfl⟩
  | some l =>
    have hinvalid : ¬ validateLoc distance s.st new = true := fun hvalid =>
      h ⟨hrun ▸ rfl, hvalid⟩
    dsimp only [Location.receive]
    unfold Location.onLocationReq
    rw [if_neg hinvalid]
    exact ⟨rfl, rfl⟩

/-- The configuration is written in any case, so nothing else will do than a request that LOCATION
accepts, or a write of what was configured. -/
theorem writeLocation_iff (distance : Loc → Loc → ℚ) (new : Loc) (s : LocationSystem) :
    TookEffect new s (writeLocation distance new s) ∨ KeptLocation s (writeLocation distance new s) ↔
      (s.location.isSome = true ∧ validateLoc distance s.st new = true) ∨ new = s.cf.day.loc := by
  by_cases haccept : s.location.isSome = true ∧ validateLoc distance s.st new = true
  · obtain ⟨l, hrun⟩ := Option.isSome_iff_exists.mp haccept.1
    obtain ⟨hloc, hpub⟩ := writeLocation_accepted hrun haccept.2
    exact ⟨fun _ => .inl haccept, fun _ => .inl ⟨hloc, writeLocation_conf, hpub⟩⟩
  · obtain ⟨hst, hpub⟩ := writeLocation_ignored haccept
    constructor
    · rintro (htook | hkept)
      · -- something would have been announced
        have hlength := congrArg List.length (hpub.symm.trans htook.published)
        rw [List.length_append, List.length_singleton] at hlength
        omega
      · exact .inr (writeLocation_conf.symm.trans hkept.conf)
    · rintro (habsurd | hsame)
      · exact absurd habsurd haccept
      · exact .inr ⟨congrArg State.currentLoc hst, writeLocation_conf.trans hsame⟩

/-- A configuration with a position of its own, for which LOCATION is not started. -/
def fixedConf : Conf :=
  { Conf.default with day := { Conf.default.day with loc := { lat := 45, lon := 9 } } }

example : Location.evaluate fixedConf = false := by decide

/-- Its position can be written, but the one in force is not affected. -/
theorem writeLocation_fixed : ¬ ∀ (distance : Loc → Loc → ℚ) (new : Loc) (s : LocationSystem),
    TookEffect new s (writeLocation distance new s) ∨
      KeptLocation s (writeLocation distance new s) := by
  intro hall
  rcases hall (fun _ _ => 1000) { lat := 60, lon := 25 }
    { location := none, st := initState fixedConf, cf := fixedConf, published := [] } with htook | hkept
  · exact absurd htook.published (by decide)
  · exact absurd hkept.conf (by decide)

end LocationSystem

end Clight
