import Clight.Ctx

/-! The UPOWER module (upower.c): the AC state, the lid and the dock, from what UPower and
logind tell. Its requests to itself and to INHIBIT are static messages. -/
namespace Clight

def LidState.ofInt? : ℤ → Option LidState
  | 0 => some .opened
  | 1 => some .closed
  | 2 => some .docked
  | _ => none

def LidState.toInt : LidState → ℤ
  | .opened => 0
  | .closed => 1
  | .docked => 2

@[simp] theorem LidState.ofInt?_toInt (l : LidState) : ofInt? l.toInt = some l := by cases l <;> rfl

/-- The int in `state.lid_state`. -/
def lidInt (l : Option LidState) : ℤ := (l.map LidState.toInt).getD (-1)

def validateUpower (st : State) (new : ℤ) : Bool :=
  acInt st.acState ≠ new && (AcState.ofInt? new).isSome

def validateLid (st : State) (new : ℤ) : Bool :=
  (LidState.ofInt? new).isSome && lidInt st.lidState ≠ new

structure Upower where
  upowerReq : ℤ
  lidReq : ℤ
  /-- The request to INHIBIT; it is never a forced one. -/
  inhReq : Bool
  /-- The match on UPower's signals has been added. -/
  listening : Bool
  gone : Bool

def Upower.init : Upower where
  upowerReq := 0
  lidReq := 0
  inhReq := false
  listening := false
  gone := false

/-- What the properties OnBattery, LidIsClosed and Docked read, unless the call fails. -/
structure UpowerReplies where
  onBattery : Option Bool
  lidIsClosed : Option Bool
  docked : Option Bool

abbrev UpowerCtx := Ctx Upower Empty

namespace Upower

def publishUpower (new : ℤ) (c : UpowerCtx) : UpowerCtx :=
  Ctx.publish .upowerReqStatic { c with loc := { c.loc with upowerReq := new } }

/-- publish_lid for LID_REQ; it takes a bool, so a docked lid is published as a closed one. -/
def publishLid (new : Bool) (c : UpowerCtx) : UpowerCtx :=
  Ctx.publish .lidReqStatic { c with loc := { c.loc with lidReq := if new then 1 else 0 } }

/-- publish_lid for LID_UPD. -/
def lidMsg (st : State) (new : LidState) : Msg :=
  .lidUpd st.lidState (if new = .opened then .opened else .closed)

def publishInh (new : Bool) (c : UpowerCtx) : UpowerCtx :=
  Ctx.publish .inhibitReqStatic { c with loc := { c.loc with inhReq := new } }

def boolInt (b : Bool) : ℤ := if b then 1 else 0

/-- The check of OnBattery against the state. -/
def checkBattery (r : UpowerReplies) (c : UpowerCtx) : UpowerCtx :=
  match r.onBattery with
  | some acState => if acInt c.st.acState ≠ boolInt acState then publishUpower (boolInt acState) c else c
  | none => c

/-- `state.lid_state == -1 || !!state.lid_state != lid_state`. -/
def lidChanged (st : State) (r : UpowerReplies) : Bool :=
  match r.lidIsClosed with
  | some closed => st.lidState = none || st.lidShut ≠ closed
  | none => false

/-- Docked is read only if the lid is closed. -/
def isDocked (r : UpowerReplies) : Bool := r.lidIsClosed = some true && r.docked = some true

/-- The check of LidIsClosed against the state. -/
def checkLid (r : UpowerReplies) (c : UpowerCtx) : UpowerCtx :=
  if lidChanged c.st r then
    let lidState := boolInt (r.lidIsClosed = some true)
    if c.cf.inh.inhibitDocked then
      publishLid (lidState + boolInt (isDocked r) ≠ 0) (publishInh (isDocked r) c)
    else publishLid (lidState ≠ 0) c
  else c

/-- on_upower_change. -/
def onUpowerChange (r : UpowerReplies) (c : UpowerCtx) : UpowerCtx := checkLid r (checkBattery r c)

/-- LOOP_STARTED. `ping` tells whether UPower is there, and `matched` whether its signals
can be listened to; otherwise the module assumes ON_AC and OPEN, and deregisters itself. -/
def onLoopStarted (ping matched : Bool) (r : UpowerReplies) (c : UpowerCtx) : UpowerCtx :=
  let c := if ping then onUpowerChange r c else c
  if ping && matched then { c with loc := { c.loc with listening := true } }
  else
    let c := Ctx.publish (.upowerUpd c.st.acState .onAc) c
    let c := { c with st := { c.st with acState := some .onAc } }
    let c := Ctx.publish (lidMsg c.st .opened) c
    { c with st := { c.st with lidState := some .opened }, loc := { c.loc with gone := true } }

def onUpowerReq (new : ℤ) (c : UpowerCtx) : UpowerCtx :=
  match AcState.ofInt? new with
  | some ac =>
    if validateUpower c.st new then
      { Ctx.publish (.upowerUpd c.st.acState ac) c with st := { c.st with acState := some ac } }
    else c
  | none => c

def onLidReq (new : ℤ) (c : UpowerCtx) : UpowerCtx :=
  match LidState.ofInt? new with
  | some lid =>
    if validateLid c.st new then
      { Ctx.publish (lidMsg c.st lid) c with st := { c.st with lidState := some lid } }
    else c
  | none => c

def receive (ping matched : Bool) (r : UpowerReplies) (m : Msg) (c : UpowerCtx) : UpowerCtx :=
  match m with
  | .systemUpd .loopStarted => onLoopStarted ping matched r c
  | .upowerReq new => onUpowerReq new c
  | .upowerReqStatic => onUpowerReq c.loc.upowerReq c
  | .lidReq new => onLidReq new c
  | .lidReqStatic => onLidReq c.loc.lidReq c
  | _ => c

def subscribes : Msg → Bool
  | .upowerReq _ | .upowerReqStatic | .lidReq _ | .lidReqStatic => true
  | _ => false

end Upower
end Clight
