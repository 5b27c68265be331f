import Clight.FlagSources
import Clight.HeldFlags
import Clight.Machine

/-! Everything that suspends Clight: logind's PrepareForSleep and the session that is no longer
active (pm.c), the Pause method (interface.c), and SIGTSTP (signal.c). -/
namespace Clight

inductive SuspendSource | sleep | session | pause | stop
  deriving DecidableEq

instance : Fintype SuspendSource where
  elems := {.sleep, .session, .pause, .stop}
  complete x := by cases x <;> decide

/-- SUSPEND_REQ of PM is a message of its own each time; INTERFACE and SIGNAL each have a static one,
which holds what was written last when it is received. -/
inductive SuspendMsg
  | heap (new : Bool)
  | static (x : SuspendSource)
  deriving DecidableEq

/-- PM's mailbox, and what each source has asked for last: for `session` that is the static `active`
of on_session_change, negated. -/
structure SuspendRun where
  sent : SuspendSource → Bool
  box : List SuspendMsg
  pm : Pm
  st : State
  cf : Conf

/-- `sessionChanged` has the Active property, if it could be read. -/
inductive SuspendEvent
  | prepareForSleep (goingSuspend : Bool)
  | sessionChanged (active : Option Bool)
  | methodPause (paused : Bool)
  | signal (stop : Bool)
  | deliver
  | delayedResume
  | resumedelay (delay : ℤ)

namespace SuspendRun

/-- publish_susp_req. -/
def publishSuspReq (x : SuspendSource) (new : Bool) (s : SuspendRun) : SuspendRun :=
  { s with sent := Function.update s.sent x new, box := s.box ++ [.heap new] }

/-- M_PUB of a static request. -/
def publishStatic (x : SuspendSource) (new : Bool) (s : SuspendRun) : SuspendRun :=
  { s with sent := Function.update s.sent x new, box := s.box ++ [.static x] }

def onSessionChange (active : Option Bool) (s : SuspendRun) : SuspendRun :=
  match active with
  | none => s
  | some active => if active = !s.sent .session then s else publishSuspReq .session (!active) s

def resolve (sent : SuspendSource → Bool) : SuspendMsg → FlagReq
  | .heap new => { new := new, force := false }
  | .static x => { new := sent x, force := false }

def ctx (s : SuspendRun) : PmCtx := { loc := s.pm, st := s.st, cf := s.cf, out := [], calls := [] }

def onPm (e : PmEvent) (s : SuspendRun) : SuspendRun :=
  let c := Pm.next s.ctx e
  { s with pm := c.loc, st := c.st, cf := c.cf }

def next (s : SuspendRun) : SuspendEvent → Option SuspendRun
  | .prepareForSleep goingSuspend => some (publishSuspReq .sleep goingSuspend s)
  | .sessionChanged active => some (onSessionChange active s)
  | .methodPause paused => some (publishStatic .pause paused s)
  | .signal stop => some (publishStatic .stop stop s)
  | .deliver => match s.box with
    | [] => none
    | m :: box => some (onPm (.suspendReq (resolve s.sent m)) { s with box := box })
  | .delayedResume => some (onPm .delayedResume s)
  | .resumedelay delay => some (onPm (.resumedelay delay) s)

/-- The session is active at first, and nothing has suspended Clight. -/
structure Init (s : SuspendRun) : Prop where
  sent : s.sent = fun _ => false
  box : s.box = []
  pm : s.pm = .init
  st : s.st = initState s.cf

/-- Each source only tells of a change, and a static request is not written again before it was
received. -/
def Orderly (s : SuspendRun) : SuspendEvent → Prop
  | .prepareForSleep goingSuspend => s.sent .sleep ≠ goingSuspend
  | .methodPause paused => s.sent .pause ≠ paused ∧ .static .pause ∉ s.box
  | .signal stop => s.sent .stop ≠ stop ∧ .static .stop ∉ s.box
  | _ => True

instance (s : SuspendRun) : ∀ e, Decidable (Orderly s e)
  | .prepareForSleep goingSuspend => inferInstanceAs (Decidable (s.sent .sleep ≠ goingSuspend))
  | .methodPause paused => inferInstanceAs (Decidable (s.sent .pause ≠ paused ∧ .static .pause ∉ s.box))
  | .signal stop => inferInstanceAs (Decidable (s.sent .stop ≠ stop ∧ .static .stop ∉ s.box))
  | .sessionChanged _ | .deliver | .delayedResume | .resumedelay _ => isTrue trivial

end SuspendRun

def suspendRun : Machine SuspendRun SuspendEvent where
  init := SuspendRun.Init
  next := SuspendRun.next

namespace SuspendRun

/-- PM's counted flag once it has received all that is in flight. -/
def settled (s : SuspendRun) : CountedFlag :=
  (s.box.map (resolve s.sent)).foldl CountedFlag.handle (Pm.counted s.ctx)

/-- The counter settles at the number of sources that have suspended Clight. -/
def Tallied (s : SuspendRun) : Prop := FlagSources.Counted s.settled s.sent

theorem Tallied.init {s : SuspendRun} (h : Init s) : Tallied s := by
  unfold Tallied FlagSources.Counted settled
  rw [h.sent, h.box, FlagSources.users_off]
  refine ⟨?_, ?_⟩
  · change s.pm.suspendCtr = 0
    rw [h.pm]
    rfl
  · change s.st.suspended = false
    rw [h.st]
    rfl

variable {s : SuspendRun}

/-- What is in flight keeps its meaning, unless it is the static request that is written. -/
theorem resolve_update {x : SuspendSource} {new : Bool} (hbox : .static x ∉ s.box) :
    s.box.map (resolve (Function.update s.sent x new)) = s.box.map (resolve s.sent) := by
  apply List.map_congr_left
  intro m hm
  cases m with
  | heap new' => rfl
  | static y =>
    have hne : y ≠ x := by
      rintro rfl
      exact hbox hm
    simp [resolve, hne]

/-- A source that changes, with its request at the end of the mailbox. -/
theorem Tallied.publish (h : Tallied s) {x : SuspendSource} {new : Bool} {m : SuspendMsg}
    (hx : s.sent x ≠ new) (hbox : .static x ∉ s.box)
    (hm : resolve (Function.update s.sent x new) m = { new := new, force := false }) :
    Tallied { s with sent := Function.update s.sent x new, box := s.box ++ [m] } := by
  have hsettled : settled { s with sent := Function.update s.sent x new, box := s.box ++ [m] } =
      s.settled.handle { new := new, force := false } := by
    unfold settled
    dsimp only
    rw [List.map_append, List.foldl_append, resolve_update hbox, ← hm]
    rfl
  unfold Tallied
  rw [hsettled]
  exact FlagSources.Counted.change h hx

/-- Only the pause method and the signals have a static request. -/
structure Inv (s : SuspendRun) : Prop where
  tallied : Tallied s
  statics : ∀ x, .static x ∈ s.box → x = .pause ∨ x = .stop

theorem Inv.init {s : SuspendRun} (h : Init s) : Inv s where
  tallied := .init h
  statics x hx := by
    rw [h.box] at hx
    exact absurd hx List.not_mem_nil

/-- sleep and session have no static request in flight. -/
theorem Inv.no_static (h : Inv s) {x : SuspendSource} (hp : x ≠ .pause) (hs : x ≠ .stop) :
    .static x ∉ s.box := by
  intro hx
  rcases h.statics x hx with hx | hx
  · exact hp hx
  · exact hs hx

theorem Inv.publishSuspReq (h : Inv s) {x : SuspendSource} {new : Bool}
    (hp : x ≠ .pause) (hs : x ≠ .stop) (hx : s.sent x ≠ new) : Inv (s.publishSuspReq x new) where
  tallied := h.tallied.publish hx (h.no_static hp hs) rfl
  statics y hy := by
    rcases List.mem_append.mp hy with hy | hy
    · exact h.statics y hy
    · simp at hy

theorem Inv.publishStatic (h : Inv s) {x : SuspendSource} {new : Bool}
    (hstatic : x = .pause ∨ x = .stop) (hx : s.sent x ≠ new) (hbox : .static x ∉ s.box) :
    Inv (s.publishStatic x new) where
  tallied := h.tallied.publish hx hbox (by simp [resolve])
  statics y hy := by
    rcases List.mem_append.mp hy with hy | hy
    · exact h.statics y hy
    · have hyx : y = x := by simpa using hy
      rw [hyx]
      exact hstatic

/-- on_session_change tells of a change only. -/
theorem Inv.onSessionChange (h : Inv s) (active : Option Bool) : Inv (s.onSessionChange active) := by
  cases active with
  | none => exact h
  | some active =>
    unfold SuspendRun.onSessionChange
    dsimp only
    split_ifs with hsame
    · exact h
    · apply h.publishSuspReq (by decide) (by decide)
      intro hsent
      apply hsame
      rw [hsent, Bool.not_not]

/-- PM's own events do not count. -/
theorem Inv.onPm (h : Inv s) {e : PmEvent}
    (he : Pm.counted (Pm.next s.ctx e) = Pm.counted s.ctx) : Inv (s.onPm e) where
  tallied := by
    have hsettled : (s.onPm e).settled = s.settled := by
      unfold settled
      change List.foldl CountedFlag.handle (Pm.counted (Pm.next s.ctx e)) _ = _
      rw [he]
      rfl
    unfold Tallied
    rw [hsettled]
    exact h.tallied
  statics := h.statics

theorem Inv.deliver {m : SuspendMsg} {box : List SuspendMsg} (h : Inv s) (hm : s.box = m :: box) :
    Inv (SuspendRun.onPm (.suspendReq (resolve s.sent m)) { s with box := box }) where
  tallied := by
    have hsettled : (SuspendRun.onPm (.suspendReq (resolve s.sent m)) { s with box := box }).settled =
        s.settled := by
      unfold settled
      rw [hm, List.map_cons, List.foldl_cons, ← Pm.counted_onSuspendReq]
      rfl
    unfold Tallied
    rw [hsettled]
    exact h.tallied
  statics x hx := by
    apply h.statics x
    rw [hm]
    exact List.mem_cons_of_mem m hx

theorem Inv.step {s' : SuspendRun} {e : SuspendEvent} (h : Inv s) (he : Orderly s e)
    (hn : suspendRun.next s e = some s') : Inv s' := by
  cases e with
  | prepareForSleep goingSuspend =>
    obtain rfl := Option.some.inj hn
    exact h.publishSuspReq (by decide) (by decide) he
  | sessionChanged active =>
    obtain rfl := Option.some.inj hn
    exact h.onSessionChange active
  | methodPause paused =>
    obtain rfl := Option.some.inj hn
    exact h.publishStatic (.inl rfl) he.1 he.2
  | signal stop =>
    obtain rfl := Option.some.inj hn
    exact h.publishStatic (.inr rfl) he.1 he.2
  | deliver =>
    cases hbox : s.box with
    | nil =>
      have hnone : suspendRun.next s .deliver = none := by simp [suspendRun, next, hbox]
      rw [hnone] at hn
      cases hn
    | cons m box =>
      have hsome : suspendRun.next s .deliver =
          some (SuspendRun.onPm (.suspendReq (resolve s.sent m)) { s with box := box }) := by
        simp [suspendRun, next, hbox]
      rw [hsome] at hn
      obtain rfl := Option.some.inj hn
      exact h.deliver hbox
  | delayedResume =>
    obtain rfl := Option.some.inj hn
    exact h.onPm (Pm.counted_onDelayedResume s.ctx)
  | resumedelay delay =>
    obtain rfl := Option.some.inj hn
    exact h.onPm rfl

end SuspendRun

/-- However its requests interleave with PM receiving them, Clight is suspended, once all of them
are received, exactly as long as some source has suspended it, and PM counts these sources. -/
theorem suspended_iff_sources {s : SuspendRun} (hs : suspendRun.ReachableBy SuspendRun.Orderly s)
    (hbox : s.box = []) :
    s.pm.suspendCtr = (FlagSources.users s.sent).card ∧
      (s.st.suspended = true ↔ ∃ x, s.sent x = true) := by
  have hinv : SuspendRun.Inv s :=
    hs.invariant (fun _ => SuspendRun.Inv.init) fun _ _ _ h he hn => h.step he hn
  have hsettled : s.settled = Pm.counted s.ctx := by
    unfold SuspendRun.settled
    rw [hbox]
    rfl
  have htallied := hinv.tallied
  unfold SuspendRun.Tallied at htallied
  rw [hsettled] at htallied
  exact ⟨htallied.count, htallied.flag_iff⟩

def SuspendRun.start (cf : Conf) : SuspendRun :=
  { sent := fun _ => false, box := [], pm := .init, st := initState cf, cf := cf }

/-- Asleep, then paused over D-Bus before PM has received the first request; awake again. -/
theorem suspended_iff_sources_paused :
    ∃ s, suspendRun.run (SuspendRun.start .default) [.prepareForSleep true, .methodPause true, .deliver,
        .deliver, .prepareForSleep false, .sessionChanged (some true), .deliver] = some s ∧
      s.pm.suspendCtr = (FlagSources.users s.sent).card ∧
        (s.st.suspended = true ↔ ∃ x, s.sent x = true) := by
  have hinit : suspendRun.init (SuspendRun.start .default) := ⟨rfl, rfl, rfl, rfl⟩
  refine ⟨_, rfl, suspended_iff_sources (.of_run
    [.prepareForSleep true, .methodPause true, .deliver, .deliver, .prepareForSleep false,
      .sessionChanged (some true), .deliver] (.init hinit) (by decide) rfl) rfl⟩

end Clight
