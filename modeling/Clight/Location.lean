import Clight.Ctx

/-! The LOCATION module (location.c): the position from the cache file and from geoclue, and the
timer that gives up on both. -/
namespace Clight

/-- `lat == LAT_UNDEFINED || lon == LON_UNDEFINED`. -/
def Loc.isUndefined (l : Loc) : Bool := l.lat = latUndefined || l.lon = lonUndefined

def undefinedLoc : Loc := { lat := latUndefined, lon := lonUndefined }

inductive GeoclueState | none | present | started | failed
  deriving DecidableEq

/-- Messages in LOCATION's mailbox; its own request is a static one. -/
inductive LocationMsg
  | loopStarted
  | locationReq (new : Loc)
  | locationReqStatic
  deriving DecidableEq

/-- What LOCATION publishes, with the position at that time. -/
inductive LocationPub
  | locationReq (new : Loc)
  | locUpd (new : Loc)
  deriving DecidableEq

structure Location where
  timeoutFd : TimerFd
  /-- timeout_fd is polled. -/
  registered : Bool
  geoclueSt : GeoclueState
  /-- The positions in the static LOCATION_REQ and LOC_UPD. -/
  locReq : Loc
  locMsg : Loc
  gone : Bool

def geoclueTimeout : ℤ := 30

/-- LOCATION after init. -/
def Location.init : Location where
  timeoutFd := setTimeout geoclueTimeout 0
  registered := true
  geoclueSt := .none
  locReq := { lat := 0, lon := 0 }
  locMsg := { lat := 0, lon := 0 }
  gone := false

structure LocationCtx where
  loc : Location
  st : State
  published : List LocationPub

def locDistanceThrs : ℚ := 50

/-- validate_loc, given the distance of two positions. -/
def validateLoc (distance : Loc → Loc → ℚ) (st : State) (new : Loc) : Bool :=
  |new.lat| < 90 && |new.lon| < 180 && locDistanceThrs ≤ distance new st.currentLoc

namespace Location

/-- LOCATION runs if there is neither a position nor a time for both events. -/
def evaluate (cf : Conf) : Bool :=
  !cf.wizard && cf.day.loc.isUndefined &&
    ((cf.day.dayEvents .sunrise).val.isEmpty || (cf.day.dayEvents .sunset).val.isEmpty)

/-- publish_location with loc_req. -/
def publishReq (new : Loc) (c : LocationCtx) : LocationCtx :=
  { c with
    loc := { c.loc with locReq := new }
    published := c.published ++ [.locationReq new] }

/-- publish_location with loc_msg. -/
def publishMsg (new : Loc) (c : LocationCtx) : LocationCtx :=
  { c with
    loc := { c.loc with locMsg := new }
    published := c.published ++ [.locUpd new] }

def failGeoclue (st : GeoclueState) (c : LocationCtx) : LocationCtx :=
  { c with loc := { c.loc with geoclueSt := st, timeoutFd := setTimeout 0 1 } }

/-- LOOP_STARTED: `cache` is what the cache file holds, and `geoclue` tells whether geoclue is
there and was asked for a client. -/
def onLoopStarted (cache : Option Loc) (geoclue : Bool) (c : LocationCtx) : LocationCtx :=
  let c := cache.elim c fun new => publishReq new c
  if geoclue then { c with loc := { c.loc with geoclueSt := .present } }
  else failGeoclue .none c

/-- The reply to GetClient: `ok` if it could be read, hooked and started. -/
def onGetClient (ok : Bool) (c : LocationCtx) : LocationCtx :=
  if ok then { c with loc := { c.loc with geoclueSt := .started } } else failGeoclue .failed c

/-- A position from geoclue, which disables the timer. -/
def onGeoclueNewLocation (new : Loc) (c : LocationCtx) : LocationCtx :=
  let c := publishReq new c
  { c with loc := { c.loc with registered := false } }

/-- FD_UPD: the timer has expired, and LOCATION deregisters itself. -/
def onTimeout (c : LocationCtx) : LocationCtx :=
  let c := { c with loc := { c.loc with timeoutFd := c.loc.timeoutFd.read } }
  let c := if c.st.currentLoc.isUndefined then publishMsg undefinedLoc c else c
  { c with loc := { c.loc with gone := true } }

def onLocationReq (distance : Loc → Loc → ℚ) (new : Loc) (c : LocationCtx) : LocationCtx :=
  if validateLoc distance c.st new then
    let c := publishMsg new c
    { c with st := { c.st with currentLoc := new } }
  else c

def receive (distance : Loc → Loc → ℚ) (cache : Option Loc) (geoclue : Bool) (m : LocationMsg)
    (c : LocationCtx) : LocationCtx :=
  match m with
  | .loopStarted => onLoopStarted cache geoclue c
  | .locationReq new => onLocationReq distance new c
  | .locationReqStatic => onLocationReq distance c.loc.locReq c

end Location
end Clight
