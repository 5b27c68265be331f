import Clight.CountedFlag
import Clight.Inhibit

/-! The suspend side of the PM module (pm.c): a counter of SUSPEND_REQ, and a timer for
resumes that are announced late. -/
namespace Clight

structure Pm where
  suspendCtr : ℤ
  delayedResumeFd : TimerFd
  /-- The message that delayed_resume_fd is registered with. -/
  delayed : Option Msg

def Pm.init : Pm where
  suspendCtr := 0
  delayedResumeFd := .disarmed
  delayed := none

abbrev PmCtx := Ctx Pm Empty

def validateSuspend (st : State) (new : Bool) : Bool := new != st.suspended

namespace Pm

/-- The end of on_suspend_req: resuming can be delayed, as a resumed session may not be
ready yet. -/
def announce (msg : Msg) (new : Bool) (c : PmCtx) : PmCtx :=
  if new = false ∧ 0 < c.cf.resumedelay then
    { c with loc := { c.loc with
      delayedResumeFd := setTimeout c.cf.resumedelay 0
      delayed := some msg } }
  else c.publish msg

def onSuspendReq (new force : Bool) (c : PmCtx) : PmCtx :=
  let c :=
    if validateSuspend c.st new then
      let c := if new then c else
        { c with loc := { c.loc with suspendCtr := if force then 0 else c.loc.suspendCtr - 1 } }
      if new || c.loc.suspendCtr = 0 then
        announce (.suspendUpd c.st.suspended new) new { c with st := { c.st with suspended := new } }
      else c
    else c
  -- a suspend counts whether or not it was valid
  if new then { c with loc := { c.loc with suspendCtr := c.loc.suspendCtr + 1 } } else c

/-- delayed_resume_fd expired: the message is published and the descriptor deregistered. -/
def onDelayedResume (c : PmCtx) : PmCtx :=
  match c.loc.delayed with
  | some msg => Ctx.publish msg
      { c with loc := { c.loc with delayedResumeFd := c.loc.delayedResumeFd.read, delayed := none } }
  | none => c

@[simp] theorem announce_ctr (msg : Msg) (new : Bool) (c : PmCtx) :
    (announce msg new c).loc.suspendCtr = c.loc.suspendCtr := by
  unfold announce
  split_ifs <;> rfl

@[simp] theorem announce_st (msg : Msg) (new : Bool) (c : PmCtx) :
    (announce msg new c).st = c.st := by
  unfold announce
  split_ifs <;> rfl

/-- The counter and the flag it stands for. -/
def counted (c : PmCtx) : CountedFlag := { count := c.loc.suspendCtr, flag := c.st.suspended }

def setCounted (f : CountedFlag) (c : PmCtx) : PmCtx :=
  { c with
    loc := { c.loc with suspendCtr := f.count }
    st := { c.st with suspended := f.flag } }

/-- A SUSPEND_REQ is a request to the counted flag; each change of the flag is announced. -/
theorem onSuspendReq_eq (r : FlagReq) (c : PmCtx) :
    onSuspendReq r.new r.force c =
      if ((counted c).handle r).flag = c.st.suspended then setCounted ((counted c).handle r) c
      else announce (.suspendUpd c.st.suspended ((counted c).handle r).flag)
        ((counted c).handle r).flag (setCounted ((counted c).handle r) c) := by
  obtain ⟨new, force⟩ := r
  obtain ⟨⟨ctr, fd, delayed⟩, ⟨br, ev, inh, sens, suspended⟩, cf, out, calls⟩ := c
  unfold onSuspendReq validateSuspend counted CountedFlag.handle
  cases new with
  | true =>
    -- a suspend is announced when it is the first
    cases suspended with
    | true => simp [setCounted]
    | false => simp [setCounted, announce, Ctx.publish]
  | false =>
    cases suspended with
    | false => simp [setCounted]
    | true =>
      cases force with
      | true => simp [setCounted]
      | false =>
        by_cases hz : ctr - 1 = 0
        · simp [setCounted, hz]
        · simp [setCounted, hz]

end Pm
end Clight
