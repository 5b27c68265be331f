import Clight.UpowerRuns

/-! The lid over the runs of UPOWER: what each LID_UPD says beside what is held, and what becomes
of a lid that is found closed on a docked laptop. -/
namespace Clight

/-- A LID_UPD, with the lid as it was held before and after the step that published it. -/
structure LidUpdate where
  old : Option LidState
  new : LidState
  before : Option LidState
  after : Option LidState

/-- A lid that was dealt with: as found, and as it is held from then on. -/
structure LidServed where
  found : Option LidState
  held : Option LidState

structure LidLog where
  updates : List LidUpdate
  /-- The lid as found when a change was last asked for. -/
  found : Option LidState
  /-- Entered when UPOWER's own LID_REQ is served, and by each callback that asks for no change. -/
  served : List LidServed

namespace UpowerRun

/-- The lid as on_upower_change finds it, docked or not, if UPower tells. -/
def lidFound (s : UpowerRun) (r : UpowerReplies) : Option LidState :=
  r.lidIsClosed.map fun closed =>
    if closed then if s.cf.inh.inhibitDocked && Upower.isDocked r then .docked else .closed
    else .opened

/-- The lid that a callback asks for. -/
def lidAsked (s : UpowerRun) (r : UpowerReplies) : Option LidState :=
  if Upower.lidChanged s.st r then s.lidFound r else none

/-- The lid that a callback leaves as it is held. -/
def lidLeft (s : UpowerRun) (e : UpowerEvent) (t : UpowerRun) : List LidServed :=
  (s.asks e).elim [] fun r =>
    if Upower.lidChanged s.st r then [] else [⟨s.lidFound r, t.st.lidState⟩]

/-- What a step of UPOWER publishes. -/
def published (s : UpowerRun) : UpowerEvent → List Msg
  | .changed r => (Upower.onUpowerChange r s.ctx).out
  | .deliver r => s.inbox.head?.elim [] fun m => (Upower.receive true true r m s.ctx).out
  | _ => []

def lidUpdate (before after : Option LidState) : Msg → Option LidUpdate
  | .lidUpd old new => some { old := old, new := new, before := before, after := after }
  | _ => none

/-- A step serves a LID_REQ of UPOWER's own. -/
def servesLid (s : UpowerRun) : UpowerEvent → Bool
  | .deliver _ => s.inbox.head? = some .lidReqStatic
  | _ => false

/-- A step is delivered a LID_REQ for DOCKED. -/
def takesDocked (s : UpowerRun) : UpowerEvent → Bool
  | .deliver _ => s.inbox.head? = some (.lidReq 2)
  | _ => false

end UpowerRun

namespace LidLog

def start : LidLog where
  updates := []
  found := none
  served := []

def record (h : LidLog) (s : UpowerRun) (e : UpowerEvent) (t : UpowerRun) : LidLog where
  updates := h.updates ++ (s.published e).filterMap (UpowerRun.lidUpdate s.st.lidState t.st.lidState)
  found := ((s.asks e).bind s.lidAsked).or h.found
  served := (if s.servesLid e then h.served ++ [⟨h.found, t.st.lidState⟩] else h.served) ++
    s.lidLeft e t

end LidLog

/-- UPOWER, and the log of the lid. -/
def lidRun : Machine (UpowerRun × LidLog) UpowerEvent :=
  Machine.withHistory { init := fun s => ∃ cf, s = .start cf, next := UpowerRun.next } .start
    LidLog.record

namespace UpowerRun
variable {s t : UpowerRun} {h : LidLog}

/-- Each LID_UPD tells what was held and what is held, and a lid found closed on a docked laptop
is held as docked once UPOWER's request is served, or at once if it makes none. -/
structure LidFaithful (h : LidLog) : Prop where
  updates : ∀ u ∈ h.updates, u.old = u.before ∧ some u.new = u.after
  docked : ∀ d ∈ h.served, d.found = some .docked → d.held = some .docked

/-- No lid is found closed on a docked laptop, and no request for a docked lid is accepted. -/
def Undocked (s : UpowerRun) (e : UpowerEvent) : Prop :=
  (∀ r ∈ s.asks e, s.lidFound r ≠ some .docked) ∧
    (s.takesDocked e = true → s.st.lidState = some .docked)

structure LidInv (s : UpowerRun) (h : LidLog) : Prop where
  faithful : LidFaithful h
  found : h.found ≠ some .docked
  request : s.upower.lidReq ≠ 2

theorem LidInv.start (cf : Conf) : LidInv (start cf) .start where
  faithful := ⟨fun _ hu => absurd hu List.not_mem_nil, fun _ hd => absurd hd List.not_mem_nil⟩
  found := nofun
  request := nofun

end UpowerRun

namespace Upower
variable {c : UpowerCtx}

/-- UPOWER itself never asks for a docked lid. -/
theorem lidReq_onUpowerChange (r : UpowerReplies) (h : c.loc.lidReq ≠ 2) :
    (onUpowerChange r c).loc.lidReq ≠ 2 := by
  have hbattery : (checkBattery r c).loc.lidReq = c.loc.lidReq := by
    unfold checkBattery
    split
    · split_ifs
      · rfl
      · rfl
    · rfl
  have hlid : ∀ new (c : UpowerCtx), (publishLid new c).loc.lidReq ≠ 2 := by
    intro new c
    change (if new then 1 else 0) ≠ (2 : ℤ)
    split_ifs
    · decide
    · decide
  unfold onUpowerChange checkLid
  split_ifs
  · exact hlid _ _
  · exact hlid _ _
  · rwa [hbattery]

theorem loc_onUpowerReq (new : ℤ) (c : UpowerCtx) : (onUpowerReq new c).loc = c.loc := by
  unfold onUpowerReq
  split
  · split_ifs
    · rfl
    · rfl
  · rfl

theorem loc_onLidReq (new : ℤ) (c : UpowerCtx) : (onLidReq new c).loc = c.loc := by
  unfold onLidReq
  split
  · split_ifs
    · rfl
    · rfl
  · rfl

theorem lidReq_receive (r : UpowerReplies) (m : Msg) (h : c.loc.lidReq ≠ 2) :
    (receive true true r m c).loc.lidReq ≠ 2 := by
  have hac : ∀ new, (onUpowerReq new c).loc.lidReq ≠ 2 := fun new => by rwa [loc_onUpowerReq]
  have hlid : ∀ new, (onLidReq new c).loc.lidReq ≠ 2 := fun new => by rwa [loc_onLidReq]
  cases m with
  | systemUpd sm =>
    cases sm with
    | loopStarted =>
      rw [receive_loopStarted]
      exact lidReq_onUpowerChange r h
    | _ => exact h
  | upowerReq new => exact hac new
  | upowerReqStatic => exact hac c.loc.upowerReq
  | lidReq new => exact hlid new
  | lidReqStatic => exact hlid c.loc.lidReq
  | _ => exact h

/-- What a message says of the lid is what was held and what is held then. -/
def TellsLid (before after : Option LidState) (m : Msg) : Prop :=
  ∀ old new, m = .lidUpd old new → old = before ∧ after = some new

theorem IsOwnRequest.tellsLid {m : Msg} (hm : IsOwnRequest m) (before after : Option LidState) :
    TellsLid before after m := by
  rintro old new rfl
  rcases hm with h | h | h <;> cases h

/-- LID_UPD collapses the lid to opened or closed, so it tells of every state but docked. -/
theorem tellsLid_onLidReq {new : ℤ} (hnew : new = 2 → c.st.lidState = some .docked) :
    Publishes (TellsLid c.st.lidState (onLidReq new c).st.lidState) c (onLidReq new c) := by
  refine (publishes_onLidReq new c).mono ?_
  rintro _ ⟨lid, hlid, rfl, hchanged, hheld⟩ old new' hmsg
  have hdocked : lid ≠ .docked := by
    rintro rfl
    exact hchanged (hnew (LidState.toInt_eq_of_ofInt? hlid).symm)
  cases hmsg
  refine ⟨rfl, ?_⟩
  rw [hheld]
  cases lid with
  | opened => rfl
  | closed => rfl
  | docked => exact absurd rfl hdocked

theorem tellsLid_receive (r : UpowerReplies) (m : Msg) (hreq : c.loc.lidReq ≠ 2)
    (hm : m = .lidReq 2 → c.st.lidState = some .docked) :
    Publishes (TellsLid c.st.lidState (receive true true r m c).st.lidState) c
      (receive true true r m c) := by
  have hac : ∀ new (after : Option LidState),
      Publishes (TellsLid c.st.lidState after) c (onUpowerReq new c) := by
    intro new after
    refine (publishes_onUpowerReq new c).mono ?_
    rintro _ ⟨ac, rfl⟩ old new' hmsg
    cases hmsg
  cases m with
  | systemUpd sm =>
    cases sm with
    | loopStarted =>
      rw [receive_loopStarted]
      exact (publishes_onUpowerChange r c).mono fun _ hown => hown.tellsLid _ _
    | _ => exact .refl c
  | upowerReq new => exact hac new _
  | upowerReqStatic => exact hac c.loc.upowerReq _
  | lidReq new => exact tellsLid_onLidReq fun h => hm (h ▸ rfl)
  | lidReqStatic => exact tellsLid_onLidReq fun h => absurd h hreq
  | _ => exact .refl c

end Upower

namespace UpowerRun
variable {s t : UpowerRun} {h : LidLog}

/-- A step logs what it published of the lid and, with `served`, a request that it served. -/
theorem LidFaithful.log (hf : LidFaithful h) {before after : Option LidState} {ms : List Msg}
    (hms : ∀ m ∈ ms, Upower.TellsLid before after m) {found : Option LidState} {served : List LidServed}
    (hserved : ∀ d ∈ served, d ∈ h.served ∨ d.found ≠ some .docked) :
    LidFaithful { updates := h.updates ++ ms.filterMap (lidUpdate before after)
                  found := found
                  served := served } := by
  constructor
  · intro u hu
    rcases List.mem_append.mp hu with hold | hnew
    · exact hf.updates u hold
    obtain ⟨m, hm, hupd⟩ := List.mem_filterMap.mp hnew
    unfold lidUpdate at hupd
    split at hupd
    · rename_i old new
      obtain ⟨hold, hafter⟩ := hms _ hm old new rfl
      obtain rfl := Option.some.inj hupd
      exact ⟨hold, hafter.symm⟩
    · cases hupd
  · intro d hd hfound
    rcases hserved d hd with hold | hnot
    · exact hf.docked d hold hfound
    · exact absurd hfound hnot

theorem LidInv.next (hinv : LidInv s h) {e : UpowerEvent} (hc : Undocked s e)
    (hn : next s e = some t) : LidInv t (LidLog.record h s e t) := by
  have hfound : ((s.asks e).bind s.lidAsked).or h.found ≠ some .docked := by
    cases hask : s.asks e with
    | none => exact hinv.found
    | some r =>
      have hr := hc.1 r hask
      change (s.lidAsked r).or h.found ≠ some .docked
      unfold lidAsked
      split_ifs
      · cases hlid : s.lidFound r with
        | none => exact hinv.found
        | some lid =>
          rw [hlid] at hr
          exact hr
      · exact hinv.found
  have hleft : ∀ d ∈ s.lidLeft e t, d.found ≠ some .docked := by
    intro d hd
    unfold lidLeft at hd
    cases hask : s.asks e with
    | none =>
      rw [hask] at hd
      cases hd
    | some r =>
      rw [hask] at hd
      simp only [Option.elim_some] at hd
      split_ifs at hd
      · cases hd
      · rw [List.mem_singleton.mp hd]
        exact hc.1 r hask
  have hserved : ∀ d ∈ (LidLog.record h s e t).served, d ∈ h.served ∨ d.found ≠ some .docked := by
    intro d hd
    rcases List.mem_append.mp hd with hd | hd
    · split_ifs at hd
      · rcases List.mem_append.mp hd with hold | hnew
        · exact .inl hold
        · rw [List.mem_singleton.mp hnew]
          exact .inr hinv.found
      · exact .inl hd
    · exact .inr (hleft d hd)
  refine ⟨hinv.faithful.log ?_ hserved, hfound, ?_⟩
  · intro m hm
    cases e with
    | changed r =>
      have hown := (Upower.publishes_onUpowerChange r s.ctx m hm).resolve_left List.not_mem_nil
      exact hown.tellsLid _ _
    | request _ => cases hm
    | others _ _ => cases hm
    | deliver r =>
      simp only [UpowerRun.next] at hn
      split at hn
      · cases hn
      rename_i m₀ box hbox
      obtain rfl := Option.some.inj hn
      have hhead : s.inbox.head? = some m₀ := congrArg List.head? hbox
      have hpub : s.published (.deliver r) = (Upower.receive true true r m₀ s.ctx).out := by
        unfold published
        rw [hhead]
        rfl
      rw [hpub] at hm
      have htells := Upower.tellsLid_receive (c := s.ctx) r m₀ hinv.request fun h2 =>
        hc.2 (decide_eq_true (h2 ▸ hhead))
      exact (htells m hm).resolve_left List.not_mem_nil
  · cases e with
    | changed r =>
      simp only [UpowerRun.next] at hn
      split_ifs at hn
      obtain rfl := Option.some.inj hn
      exact Upower.lidReq_onUpowerChange (c := s.ctx) r hinv.request
    | request m =>
      simp only [UpowerRun.next] at hn
      split_ifs at hn
      obtain rfl := Option.some.inj hn
      exact hinv.request
    | others st cf =>
      simp only [UpowerRun.next] at hn
      split_ifs at hn
      obtain rfl := Option.some.inj hn
      exact hinv.request
    | deliver r =>
      simp only [UpowerRun.next] at hn
      split at hn
      · cases hn
      rename_i m box hbox
      obtain rfl := Option.some.inj hn
      exact Upower.lidReq_receive (c := s.ctx) r m hinv.request

/-- In every run in which no lid is found closed on a docked laptop and no request for a docked
lid is accepted, each LID_UPD tells what was held and what is held. -/
theorem lid_updates_faithful {s : UpowerRun × LidLog}
    (hs : lidRun.ReachableBy (fun s e => Undocked s.1 e) s) : LidFaithful s.2 := by
  have hinv : LidInv s.1 s.2 := by
    refine Machine.ReachableBy.history (I := LidInv) ?_ ?_ hs
    · rintro _ ⟨cf, rfl⟩
      exact .start cf
    · exact fun _ _ _ _ _ hi hc hn => hi.next hc hn
  exact hinv.faithful

instance (s : UpowerRun) (e : UpowerEvent) : Decidable (Undocked s e) :=
  haveI : Decidable (∀ r ∈ s.asks e, s.lidFound r ≠ some .docked) :=
    match s.asks e with
    | none => isTrue nofun
    | some r => decidable_of_iff (s.lidFound r ≠ some .docked)
        ⟨fun hr _ hmem => Option.some.inj hmem ▸ hr, fun hall => hall r rfl⟩
  instDecidableAnd

def dockConf : Conf := { Conf.default with inh := { Conf.default.inh with inhibitDocked := true } }

theorem lidRun_start : lidRun.init (start dockConf, .start) := ⟨⟨dockConf, rfl⟩, rfl⟩

/-- UPOWER starts with the lid open; the lid is closed, away from the dock or on it. -/
def closeLid (docked : Bool) : List UpowerEvent :=
  let closed : UpowerReplies :=
    { onBattery := some false, lidIsClosed := some true, docked := some docked }
  startOnAc ++ [.changed closed, .deliver closed]

theorem lid_updates_faithful_closed : ∃ s,
    lidRun.run (start dockConf, .start) (closeLid false) = some s ∧
      s.2.updates.length = 2 ∧ LidFaithful s.2 := by
  have hrun : (lidRun.run (start dockConf, .start) (closeLid false)).any
      (fun s => s.2.updates.length = 2) = true := by decide +kernel
  obtain ⟨s, hs, hp⟩ := (Option.any_eq_true _ _).mp hrun
  have hby : lidRun.RunBy (fun s e => Undocked s.1 e) (start dockConf, .start) (closeLid false) := by
    decide +kernel
  exact ⟨s, hs, of_decide_eq_true hp,
    lid_updates_faithful (Machine.ReachableBy.of_run _ (.init lidRun_start) hby hs)⟩

/-- A lid closed away from the dock stays so on it: Docked is asked for only when the lid changes. -/
example : ((lidRun.run (start dockConf, .start) (closeLid false ++ [.changed
    { onBattery := some false, lidIsClosed := some true, docked := some true }])).any
      fun s => s.2.served.any fun d => d.found = some .docked && d.held = some .closed) = true := by
  decide +kernel

/-- A lid found closed on the dock is held as closed. -/
theorem docked_lid_held_closed : ¬ ∀ s : UpowerRun × LidLog, lidRun.Reachable s → LidFaithful s.2 := by
  intro h
  have hrun : (lidRun.run (start dockConf, .start) (closeLid true)).any (fun s =>
      s.2.served.any fun d => d.found = some .docked && d.held = some .closed) = true := by
    decide +kernel
  obtain ⟨s, hs, hp⟩ := (Option.any_eq_true _ _).mp hrun
  obtain ⟨d, hd, hdocked⟩ := List.any_eq_true.mp hp
  simp only [Bool.and_eq_true, decide_eq_true_eq] at hdocked
  obtain ⟨hfound, hheld⟩ := hdocked
  have hreach := Machine.reachable_of_run lidRun_start hs
  have hbad := (h s hreach).docked d hd hfound
  rw [hheld] at hbad
  cases hbad

end UpowerRun
end Clight
