import Clight.History
import Clight.Opts
import Clight.SharedRequest
import Clight.Upower

/-! UPOWER with its mailbox, from the start of the main loop on: signals of UPower arrive while
the requests that earlier ones made are still in flight. -/
namespace Clight

structure UpowerRun where
  upower : Upower
  st : State
  cf : Conf
  inbox : List Msg

/-- `changed` is a signal of UPower, `request` a message of another module, `others` what other
modules write. -/
inductive UpowerEvent
  | changed (r : UpowerReplies)
  | request (m : Msg)
  | others (st : State) (cf : Conf)
  | deliver (r : UpowerReplies)

namespace UpowerRun

def ctx (s : UpowerRun) : UpowerCtx :=
  { loc := s.upower, st := s.st, cf := s.cf, out := [], calls := [] }

def step (f : UpowerCtx → UpowerCtx) (s : UpowerRun) : UpowerRun :=
  let c := f s.ctx
  { s with upower := c.loc, st := c.st, inbox := s.inbox ++ c.out.filter Upower.subscribes }

def isRequest : Msg → Bool
  | .upowerReq _ | .lidReq _ => true
  | _ => false

def next (s : UpowerRun) : UpowerEvent → Option UpowerRun
  | .changed r => if s.upower.listening then some (step (Upower.onUpowerChange r) s) else none
  | .request m => if isRequest m then some { s with inbox := s.inbox ++ [m] } else none
  | .others st cf =>
    if st.acState = s.st.acState ∧ st.lidState = s.st.lidState then some { s with st := st, cf := cf }
    else none
  | .deliver r => match s.inbox with
    | [] => none
    | m :: box => some (step (Upower.receive true true r m) { s with inbox := box })

/-- The main loop starts, and UPower is there. -/
def start (cf : Conf) : UpowerRun where
  upower := .init
  st := initState cf
  cf := cf
  inbox := [.systemUpd .loopStarted]

/-- What UPower answers to a step that asks: a signal of UPower, or the start of the loop. -/
def asks (s : UpowerRun) : UpowerEvent → Option UpowerReplies
  | .changed r => some r
  | .deliver r => if s.inbox.head? = some (.systemUpd .loopStarted) then some r else none
  | _ => none

end UpowerRun

theorem LidState.toInt_eq_of_ofInt? {new : ℤ} {lid : LidState} (h : ofInt? new = some lid) :
    lid.toInt = new := by
  unfold ofInt? at h
  split at h
  · exact Option.some.inj h ▸ rfl
  · exact Option.some.inj h ▸ rfl
  · exact Option.some.inj h ▸ rfl
  · cases h

namespace Upower

/-- What a step publishes is of one kind. -/
def Publishes (P : Msg → Prop) (c c' : UpowerCtx) : Prop := ∀ m ∈ c'.out, m ∈ c.out ∨ P m

namespace Publishes
variable {P Q : Msg → Prop} {c c₁ c₂ : UpowerCtx}

theorem refl (c : UpowerCtx) : Publishes P c c := fun _ => .inl

theorem trans (h₁ : Publishes P c c₁) (h₂ : Publishes P c₁ c₂) : Publishes P c c₂ :=
  fun m hm => (h₂ m hm).elim (h₁ m) .inr

theorem mono (hPQ : ∀ m, P m → Q m) (h : Publishes P c c₁) : Publishes Q c c₁ :=
  fun m hm => (h m hm).imp_right (hPQ m)

theorem publish {m : Msg} (hm : P m) (c : UpowerCtx) : Publishes P c (c.publish m) := by
  intro m' hm'
  rcases List.mem_append.mp hm' with hold | hnew
  · exact .inl hold
  · exact .inr (List.mem_singleton.mp hnew ▸ hm)

end Publishes

def IsOwnRequest (m : Msg) : Prop := m = .upowerReqStatic ∨ m = .lidReqStatic ∨ m = .inhibitReqStatic

theorem publishes_onUpowerChange (r : UpowerReplies) (c : UpowerCtx) :
    Publishes IsOwnRequest c (onUpowerChange r c) := by
  have hbattery : Publishes IsOwnRequest c (checkBattery r c) := by
    unfold checkBattery
    split
    · split_ifs
      · exact .publish (m := .upowerReqStatic) (.inl rfl) { c with loc := _ }
      · exact .refl c
    · exact .refl c
  have hlid : ∀ new (c : UpowerCtx), Publishes IsOwnRequest c (publishLid new c) :=
    fun new c => .publish (m := .lidReqStatic) (.inr (.inl rfl)) { c with loc := _ }
  have hinh : ∀ new (c : UpowerCtx), Publishes IsOwnRequest c (publishInh new c) :=
    fun new c => .publish (m := .inhibitReqStatic) (.inr (.inr rfl)) { c with loc := _ }
  refine hbattery.trans ?_
  unfold onUpowerChange checkLid
  split_ifs
  · exact (hinh _ _).trans (hlid _ _)
  · exact hlid _ _
  · exact .refl _

theorem publishes_onUpowerReq (new : ℤ) (c : UpowerCtx) :
    Publishes (fun m => ∃ ac, m = .upowerUpd c.st.acState ac) c (onUpowerReq new c) := by
  unfold onUpowerReq
  split
  · rename_i ac _
    split_ifs
    · exact .publish (m := .upowerUpd c.st.acState ac) ⟨ac, rfl⟩ c
    · exact .refl c
  · exact .refl c

/-- A request for the lid is told of if it changes what is held. -/
theorem publishes_onLidReq (new : ℤ) (c : UpowerCtx) :
    Publishes (fun m => ∃ lid, LidState.ofInt? new = some lid ∧ m = lidMsg c.st lid ∧
      c.st.lidState ≠ some lid ∧ (onLidReq new c).st.lidState = some lid) c (onLidReq new c) := by
  unfold onLidReq
  split
  · rename_i lid hnew
    split_ifs with hvalid
    · have hold : c.st.lidState ≠ some lid := by
        intro heq
        unfold validateLid at hvalid
        rw [heq, Bool.and_eq_true, decide_eq_true_iff] at hvalid
        exact hvalid.2 (LidState.toInt_eq_of_ofInt? hnew)
      exact .publish (m := lidMsg c.st lid) ⟨lid, hnew, rfl, hold, rfl⟩ c
    · exact .refl c
  · exact .refl c

/-- The main loop starts, and UPower is there. -/
theorem receive_loopStarted (r : UpowerReplies) (c : UpowerCtx) :
    receive true true r (.systemUpd .loopStarted) c =
      { onUpowerChange r c with loc := { (onUpowerChange r c).loc with listening := true } } := rfl

theorem IsOwnRequest.not_isRequest {m : Msg} (hm : IsOwnRequest m) :
    UpowerRun.isRequest m = false := by
  rcases hm with rfl | rfl | rfl <;> rfl

/-- UPOWER publishes no request of the kind that other modules send it. -/
theorem publishes_receive (r : UpowerReplies) (m : Msg) (c : UpowerCtx) :
    Publishes (fun m => UpowerRun.isRequest m = false) c (receive true true r m c) := by
  have hac : ∀ new, Publishes (fun m => UpowerRun.isRequest m = false) c (onUpowerReq new c) := by
    intro new
    refine (publishes_onUpowerReq new c).mono ?_
    rintro _ ⟨ac, rfl⟩
    rfl
  have hlid : ∀ new, Publishes (fun m => UpowerRun.isRequest m = false) c (onLidReq new c) := by
    intro new
    refine (publishes_onLidReq new c).mono ?_
    rintro _ ⟨lid, -, rfl, -, -⟩
    rfl
  cases m with
  | systemUpd sm =>
    cases sm with
    | loopStarted =>
      rw [receive_loopStarted]
      exact (publishes_onUpowerChange r c).mono fun _ => IsOwnRequest.not_isRequest
    | _ => exact .refl c
  | upowerReq new => exact hac new
  | upowerReqStatic => exact hac c.loc.upowerReq
  | lidReq new => exact hlid new
  | lidReqStatic => exact hlid c.loc.lidReq
  | _ => exact .refl c

end Upower

/-! ### The AC state -/

namespace Upower

/-- The AC state and UPOWER's requests to change it, of which `n` are in its mailbox. -/
def acRequest (n : ℕ) (c : UpowerCtx) : SharedRequest ℤ where
  held := acInt c.st.acState
  cell := c.loc.upowerReq
  pending := n + c.out.count .upowerReqStatic

variable {n : ℕ}

theorem acRequest_publish {m : Msg} (hm : m ≠ .upowerReqStatic) (c : UpowerCtx) :
    acRequest n (c.publish m) = acRequest n c := by
  have hcount : (c.out ++ [m]).count .upowerReqStatic = c.out.count .upowerReqStatic := by
    rw [List.count_append, List.count_singleton, if_neg (by simpa using hm), Nat.add_zero]
  unfold acRequest
  rw [Ctx.publish_out, hcount]
  rfl

theorem acRequest_publishUpower (new : ℤ) (c : UpowerCtx) : acRequest n (publishUpower new c) =
    { acRequest n c with cell := new, pending := (acRequest n c).pending + 1 } := by
  have hcount : (c.out ++ [Msg.upowerReqStatic]).count .upowerReqStatic =
      c.out.count .upowerReqStatic + 1 := by
    rw [List.count_append, List.count_singleton_self]
  unfold acRequest publishUpower
  rw [Ctx.publish_out, hcount]
  rfl

theorem acRequest_checkBattery (r : UpowerReplies) (c : UpowerCtx) : acRequest n (checkBattery r c) =
    r.onBattery.elim (acRequest n c) fun v => (acRequest n c).observe (boolInt v) := by
  unfold checkBattery
  cases r.onBattery with
  | none => rfl
  | some v =>
    change acRequest n (if (acRequest n c).held ≠ boolInt v then _ else c) = SharedRequest.observe _ _
    unfold SharedRequest.observe
    by_cases hne : (acRequest n c).held ≠ boolInt v
    · rw [if_pos hne, if_pos hne]
      exact acRequest_publishUpower _ c
    · rw [if_neg hne, if_neg hne]

theorem acRequest_checkLid (r : UpowerReplies) (c : UpowerCtx) :
    acRequest n (checkLid r c) = acRequest n c := by
  have hlid : ∀ new (c : UpowerCtx), acRequest n (publishLid new c) = acRequest n c :=
    fun _ _ => acRequest_publish (m := .lidReqStatic) nofun _
  have hinh : ∀ new (c : UpowerCtx), acRequest n (publishInh new c) = acRequest n c :=
    fun _ _ => acRequest_publish (m := .inhibitReqStatic) nofun _
  unfold checkLid
  split_ifs
  · exact (hlid _ _).trans (hinh _ _)
  · exact hlid _ _
  · rfl

theorem acRequest_onUpowerChange (r : UpowerReplies) (c : UpowerCtx) :
    acRequest n (onUpowerChange r c) =
      r.onBattery.elim (acRequest n c) fun v => (acRequest n c).observe (boolInt v) :=
  (acRequest_checkLid r _).trans (acRequest_checkBattery r c)

theorem acRequest_onLidReq (new : ℤ) (c : UpowerCtx) :
    acRequest n (onLidReq new c) = acRequest n c := by
  unfold onLidReq
  split
  · split_ifs
    · exact acRequest_publish (m := lidMsg c.st _) nofun c
    · rfl
  · rfl

/-- A request of UPOWER's own is served; validate_upower rejects one for the state held. -/
theorem acRequest_onUpowerReq {c : UpowerCtx} {ac : AcState} (hcell : c.loc.upowerReq = ac.toInt) :
    acRequest n (onUpowerReq c.loc.upowerReq c) = (acRequest (n + 1) c).serve := by
  have hserve : (acRequest (n + 1) c).serve = { acRequest n c with held := ac.toInt } := by
    have hleft : n + 1 + c.out.count .upowerReqStatic - 1 = n + c.out.count .upowerReqStatic := by
      omega
    unfold SharedRequest.serve acRequest
    dsimp only
    rw [hcell, hleft]
  rw [hserve, hcell]
  unfold onUpowerReq
  rw [AcState.ofInt?_toInt]
  dsimp only
  split_ifs with hvalid
  · exact congrArg (fun a : SharedRequest ℤ => { a with held := ac.toInt })
      (acRequest_publish (m := .upowerUpd c.st.acState ac) nofun c)
  · have hheld : acInt c.st.acState = ac.toInt := by
      by_contra hne
      apply hvalid
      simp [validateUpower, hne]
    rw [← hheld]
    rfl

end Upower

namespace UpowerRun
variable {s t : UpowerRun} {last : Option Bool}

def toAc (onBattery : Bool) : AcState := if onBattery then .onBattery else .onAc

theorem asks_start {box : List Msg} (hbox : s.inbox = .systemUpd .loopStarted :: box)
    (r : UpowerReplies) : asks s (.deliver r) = some r :=
  if_pos (congrArg List.head? hbox)

theorem asks_message {m : Msg} {box : List Msg} (hbox : s.inbox = m :: box)
    (hm : m ≠ .systemUpd .loopStarted) (r : UpowerReplies) : asks s (.deliver r) = none := by
  have hhead : s.inbox.head? = some m := congrArg List.head? hbox
  refine if_neg fun hstart => hm ?_
  rw [hhead] at hstart
  exact Option.some.inj hstart

/-- OnBattery as a step reads it. -/
def reads (s : UpowerRun) (e : UpowerEvent) : Option Bool :=
  (asks s e).bind UpowerReplies.onBattery

def lastRead (last : Option Bool) (s : UpowerRun) (e : UpowerEvent) (_ : UpowerRun) : Option Bool :=
  (reads s e).or last

end UpowerRun

/-- UPOWER, and OnBattery as it was last read. -/
def acRun : Machine (UpowerRun × Option Bool) UpowerEvent :=
  Machine.withHistory { init := fun s => ∃ cf, s = .start cf, next := UpowerRun.next } none
    UpowerRun.lastRead

namespace UpowerRun
variable {s t : UpowerRun} {last : Option Bool}

/-- Nobody else asks for a change of the AC state. -/
def OwnRequests : UpowerEvent → Prop
  | .request m => ∀ new, m ≠ .upowerReq new
  | _ => True

/-- When OnBattery is read as the AC state that is held, no request in flight asks for the
other one. -/
def NoneStale (s : UpowerRun) (e : UpowerEvent) : Prop :=
  ∀ v, reads s e = some v → s.st.acState = some (toAc v) →
    .upowerReqStatic ∉ s.inbox ∨ s.upower.upowerReq = (toAc v).toInt

def acRequest (s : UpowerRun) : SharedRequest ℤ :=
  Upower.acRequest (s.inbox.count .upowerReqStatic) s.ctx

theorem boolInt_eq (v : Bool) : Upower.boolInt v = (toAc v).toInt := by cases v <;> rfl

theorem acInt_eq_iff {ac : Option AcState} {a : AcState} : acInt ac = a.toInt ↔ ac = some a := by
  cases ac with
  | none => cases a <;> decide
  | some b => cases a <;> cases b <;> decide

theorem acRequest_step (f : UpowerCtx → UpowerCtx) (s : UpowerRun) : (step f s).acRequest =
    Upower.acRequest (s.inbox.count .upowerReqStatic) (f s.ctx) := by
  have hcount : (s.inbox ++ (f s.ctx).out.filter Upower.subscribes).count .upowerReqStatic =
      s.inbox.count .upowerReqStatic + (f s.ctx).out.count .upowerReqStatic := by
    rw [List.count_append, List.count_filter rfl]
  unfold acRequest Upower.acRequest
  dsimp only [step]
  rw [hcount]
  rfl

/-- What one step does to the requests: it reads OnBattery, it serves one of them, or neither. -/
inductive AcStep (s : UpowerRun) (e : UpowerEvent) (t : UpowerRun) : Prop
  | observe (v : Bool) : reads s e = some v →
      t.acRequest = s.acRequest.observe (toAc v).toInt → AcStep s e t
  | serve : reads s e = none → 0 < s.acRequest.pending → t.acRequest = s.acRequest.serve →
      AcStep s e t
  | stay : reads s e = none → t.acRequest = s.acRequest → AcStep s e t

/-- Reading UPower's properties, from whatever is left in the mailbox. -/
theorem AcStep.of_change {u : UpowerRun} {e : UpowerEvent} {r : UpowerReplies}
    (hreads : reads s e = r.onBattery) (hsame : u.acRequest = s.acRequest)
    (ht : t.acRequest = Upower.acRequest (u.inbox.count .upowerReqStatic)
      (Upower.onUpowerChange r u.ctx)) : AcStep s e t := by
  rw [Upower.acRequest_onUpowerChange] at ht
  have hbase : Upower.acRequest (u.inbox.count .upowerReqStatic) u.ctx = s.acRequest := hsame
  rw [hbase] at ht
  cases hv : r.onBattery with
  | none =>
    rw [hv] at ht hreads
    exact .stay hreads ht
  | some v =>
    rw [hv] at ht hreads
    refine .observe v hreads ?_
    rw [← boolInt_eq]
    exact ht

/-- The requests in flight are UPOWER's own, for an AC state. -/
structure Requests (s : UpowerRun) : Prop where
  own : ∀ new, .upowerReq new ∉ s.inbox
  cell : ∃ ac : AcState, s.acRequest.cell = ac.toInt

theorem AcStep.of_deliver {m : Msg} {box : List Msg} {r : UpowerReplies} (hreq : Requests s)
    (hbox : s.inbox = m :: box)
    (ht : t = step (Upower.receive true true r m) { s with inbox := box }) :
    AcStep s (.deliver r) t := by
  have hstart : m = .systemUpd .loopStarted → reads s (.deliver r) = r.onBattery := by
    rintro rfl
    unfold reads
    rw [asks_start hbox]
    rfl
  have hother : m ≠ .systemUpd .loopStarted → reads s (.deliver r) = none := by
    intro hm
    unfold reads
    rw [asks_message hbox hm]
    rfl
  have hafter : t.acRequest = Upower.acRequest (box.count .upowerReqStatic)
      (Upower.receive true true r m s.ctx) := by
    rw [ht]
    exact acRequest_step _ _
  have hrest : m ≠ .upowerReqStatic →
      ({ s with inbox := box } : UpowerRun).acRequest = s.acRequest := by
    intro hm
    have hcount : s.inbox.count .upowerReqStatic = box.count .upowerReqStatic := by
      rw [hbox, List.count_cons_of_ne hm]
    unfold acRequest
    rw [hcount]
    rfl
  cases m with
  | systemUpd sm =>
    have hsame := hrest nofun
    cases sm with
    | loopStarted =>
      exact .of_change (u := { s with inbox := box }) (hstart rfl) hsame hafter
    | _ => exact .stay (hother nofun) (hafter.trans hsame)
  | upowerReqStatic =>
    obtain ⟨ac, hcell⟩ := hreq.cell
    have hserved : t.acRequest = (Upower.acRequest (box.count .upowerReqStatic + 1) s.ctx).serve :=
      hafter.trans (Upower.acRequest_onUpowerReq (c := s.ctx) hcell)
    have hcount : s.inbox.count .upowerReqStatic = box.count .upowerReqStatic + 1 := by
      rw [hbox, List.count_cons_self]
    rw [← hcount] at hserved
    refine .serve (hother nofun) ?_ hserved
    change 0 < s.inbox.count .upowerReqStatic + 0
    omega
  | upowerReq new => exact absurd (hbox ▸ List.mem_cons_self) (hreq.own new)
  | lidReq new =>
    exact .stay (hother nofun) ((hafter.trans (Upower.acRequest_onLidReq new _)).trans (hrest nofun))
  | lidReqStatic =>
    exact .stay (hother nofun) ((hafter.trans (Upower.acRequest_onLidReq _ _)).trans (hrest nofun))
  | _ => exact .stay (hother nofun) (hafter.trans (hrest nofun))

theorem acStep {e : UpowerEvent} (hreq : Requests s) (hown : OwnRequests e)
    (hn : next s e = some t) : AcStep s e t := by
  cases e with
  | changed r =>
    simp only [next] at hn
    split_ifs at hn
    obtain rfl := Option.some.inj hn
    exact .of_change rfl rfl (acRequest_step _ s)
  | request m =>
    simp only [next] at hn
    split_ifs at hn with hm
    obtain rfl := Option.some.inj hn
    have hcount : (s.inbox ++ [m]).count .upowerReqStatic = s.inbox.count .upowerReqStatic := by
      have hne : m ≠ .upowerReqStatic := by
        rintro rfl
        exact Bool.noConfusion hm
      rw [List.count_append, List.count_singleton, if_neg (by simpa using hne), Nat.add_zero]
    refine .stay rfl ?_
    unfold acRequest
    rw [hcount]
    rfl
  | others st cf =>
    simp only [next] at hn
    split_ifs at hn with hkept
    obtain rfl := Option.some.inj hn
    refine .stay rfl ?_
    unfold acRequest Upower.acRequest
    dsimp only [ctx]
    rw [hkept.1]
  | deliver r =>
    simp only [next] at hn
    split at hn
    · cases hn
    rename_i m box hbox
    exact .of_deliver hreq hbox (Option.some.inj hn).symm

/-- UPOWER's own steps put no request of another module in its mailbox. -/
theorem Requests.own_step {box : List Msg} {f : UpowerCtx → UpowerCtx}
    (hbox : ∀ new, .upowerReq new ∉ box)
    (hf : Upower.Publishes (fun m => isRequest m = false) s.ctx (f s.ctx)) (new : ℤ) :
    .upowerReq new ∉ (step f { s with inbox := box }).inbox := by
  intro hm
  rcases List.mem_append.mp hm with hold | hpub
  · exact hbox new hold
  · have hout := (List.mem_filter.mp hpub).1
    rcases hf _ hout with hnone | hother
    · cases hnone
    · cases hother

theorem Requests.next (hreq : Requests s) {e : UpowerEvent} (hown : OwnRequests e)
    (hn : next s e = some t) : Requests t := by
  constructor
  · cases e with
    | changed r =>
      simp only [UpowerRun.next] at hn
      split_ifs at hn
      obtain rfl := Option.some.inj hn
      exact own_step hreq.own
        ((Upower.publishes_onUpowerChange r _).mono fun _ => Upower.IsOwnRequest.not_isRequest)
    | request m =>
      simp only [UpowerRun.next] at hn
      split_ifs at hn
      obtain rfl := Option.some.inj hn
      intro new hm
      rcases List.mem_append.mp hm with hold | hnew
      · exact hreq.own new hold
      · exact hown new (List.mem_singleton.mp hnew).symm
    | others st cf =>
      simp only [UpowerRun.next] at hn
      split_ifs at hn
      obtain rfl := Option.some.inj hn
      exact hreq.own
    | deliver r =>
      simp only [UpowerRun.next] at hn
      split at hn
      · cases hn
      rename_i m box hbox
      obtain rfl := Option.some.inj hn
      refine own_step (fun new hm => hreq.own new ?_) (Upower.publishes_receive r m _)
      rw [hbox]
      exact List.mem_cons_of_mem m hm
  · obtain ⟨ac, hcell⟩ := hreq.cell
    rcases acStep hreq hown hn with ⟨v, -, ht⟩ | ⟨-, -, ht⟩ | ⟨-, ht⟩
    · rw [ht]
      unfold SharedRequest.observe
      split_ifs
      · exact ⟨toAc v, rfl⟩
      · exact ⟨ac, hcell⟩
    · rw [ht]
      exact ⟨ac, hcell⟩
    · rw [ht]
      exact ⟨ac, hcell⟩

/-- Once its requests in flight are served, UPOWER holds what OnBattery was when last read. -/
structure Tracks (s : UpowerRun) (last : Option Bool) : Prop where
  requests : Requests s
  settled : ∀ v, last = some v → s.acRequest.settled = (toAc v).toInt

theorem Tracks.start (cf : Conf) : Tracks (start cf) none where
  requests := by
    refine ⟨fun new hm => ?_, .onAc, rfl⟩
    cases List.mem_singleton.mp hm
  settled _ hv := by cases hv

/-- The reader's condition, on the shared cell. -/
theorem NoneStale.settled {e : UpowerEvent} (h : NoneStale s e) {v : Bool}
    (hv : reads s e = some v) (hheld : s.acRequest.held = (toAc v).toInt) :
    s.acRequest.settled = (toAc v).toInt := by
  unfold SharedRequest.settled
  split_ifs with hidle
  · exact hheld
  · -- a request is in flight, and it asks for what was just read
    refine (h v hv (acInt_eq_iff.mp hheld)).resolve_left fun hnone => hidle ?_
    change s.inbox.count .upowerReqStatic + 0 = 0
    exact List.count_eq_zero.mpr hnone

theorem Tracks.next (h : Tracks s last) {e : UpowerEvent} (hown : OwnRequests e)
    (hstale : NoneStale s e) (hn : next s e = some t) : Tracks t (lastRead last s e t) := by
  refine ⟨h.requests.next hown hn, ?_⟩
  intro v hv
  unfold lastRead at hv
  rcases acStep h.requests hown hn with ⟨w, hreads, ht⟩ | ⟨hnone, hpending, ht⟩ | ⟨hnone, ht⟩
  · rw [hreads] at hv
    obtain rfl := Option.some.inj hv
    rw [ht]
    exact SharedRequest.settled_observe.mpr (hstale.settled hreads)
  · rw [hnone] at hv
    rw [ht, SharedRequest.settled_serve hpending]
    exact h.settled v hv
  · rw [hnone] at hv
    rw [ht]
    exact h.settled v hv

/-- In every run in which OnBattery is never read as the AC state held while a request for the
other one is in flight, the AC state is the one last read once no request is in flight. -/
theorem ac_state_converges {s : UpowerRun × Option Bool}
    (hs : acRun.ReachableBy (fun s e => OwnRequests e ∧ NoneStale s.1 e) s)
    (hidle : .upowerReqStatic ∉ s.1.inbox) {v : Bool} (hlast : s.2 = some v) :
    s.1.st.acState = some (toAc v) := by
  have htracks : Tracks s.1 s.2 := by
    refine Machine.ReachableBy.history (I := Tracks) ?_ ?_ hs
    · rintro _ ⟨cf, rfl⟩
      exact .start cf
    · exact fun _ _ _ _ _ hi hc hn => hi.next hc.1 hc.2 hn
  have hpending : s.1.acRequest.pending = 0 := List.count_eq_zero.mpr hidle
  have hheld : s.1.acRequest.held = (toAc v).toInt := by
    rw [← SharedRequest.settled_of_idle hpending]
    exact htracks.settled v hlast
  exact acInt_eq_iff.mp hheld

instance (s : UpowerRun) (e : UpowerEvent) : Decidable (NoneStale s e) :=
  inferInstanceAs (Decidable (∀ v : Bool, reads s e = some v → s.st.acState = some (toAc v) →
    .upowerReqStatic ∉ s.inbox ∨ s.upower.upowerReq = (toAc v).toInt))

theorem acRun_start : acRun.init (start Conf.default, none) := ⟨⟨Conf.default, rfl⟩, rfl⟩

/-- What UPower answers while the lid is open. -/
def opened (onBattery : Bool) : UpowerReplies :=
  { onBattery := some onBattery, lidIsClosed := some false, docked := some false }

/-- UPOWER starts on AC, and serves its own requests. -/
def startOnAc : List UpowerEvent :=
  [.deliver (opened false), .deliver (opened false), .deliver (opened false)]

/-- The cable is unplugged, and plugged in again once UPOWER has taken note of it. -/
def replug : List UpowerEvent :=
  startOnAc ++ [.changed (opened true), .deliver (opened true), .changed (opened false),
    .deliver (opened false)]

theorem ac_state_converges_replugged : ∃ s,
    acRun.run (start Conf.default, none) replug = some s ∧ s.1.st.acState = some .onAc := by
  have hrun : (acRun.run (start Conf.default, none) replug).any
      (fun s => s.1.inbox.isEmpty && s.2 = some false) = true := by decide +kernel
  obtain ⟨s, hs, hp⟩ := (Option.any_eq_true _ _).mp hrun
  simp only [Bool.and_eq_true, decide_eq_true_eq, List.isEmpty_iff] at hp
  obtain ⟨hbox, hlast⟩ := hp
  have hown : acRun.RunBy (fun _ e => OwnRequests e) (start Conf.default, none) replug := by
    apply Machine.runBy_of_forall
    simp [replug, startOnAc, OwnRequests]
  have hstale : acRun.RunBy (fun s e => NoneStale s.1 e) (start Conf.default, none) replug := by
    decide +kernel
  refine ⟨s, hs, ac_state_converges
    (Machine.ReachableBy.of_run _ (.init acRun_start) (hown.and hstale) hs) ?_ hlast⟩
  rw [hbox]
  exact List.not_mem_nil

/-- The cable is plugged in again before the request to go on battery is delivered. -/
def replugEarly : List UpowerEvent :=
  startOnAc ++ [.changed (opened true), .changed (opened false), .deliver (opened false)]

theorem ac_state_left_on_battery : ¬ ∀ s : UpowerRun × Option Bool,
    acRun.ReachableBy (fun _ e => OwnRequests e) s → .upowerReqStatic ∉ s.1.inbox →
      ∀ v, s.2 = some v → s.1.st.acState = some (toAc v) := by
  intro h
  have hrun : (acRun.run (start Conf.default, none) replugEarly).any
      (fun s => s.1.inbox.isEmpty && s.2 = some false && s.1.st.acState = some .onBattery) = true := by
    decide +kernel
  obtain ⟨s, hs, hp⟩ := (Option.any_eq_true _ _).mp hrun
  simp only [Bool.and_eq_true, decide_eq_true_eq, List.isEmpty_iff] at hp
  obtain ⟨⟨hbox, hlast⟩, hbattery⟩ := hp
  have hown : acRun.RunBy (fun _ e => OwnRequests e) (start Conf.default, none) replugEarly := by
    apply Machine.runBy_of_forall
    simp [replugEarly, startOnAc, OwnRequests]
  have hreach := Machine.ReachableBy.of_run _ (.init acRun_start) hown hs
  have hac := h s hreach (by rw [hbox]; exact List.not_mem_nil) false hlast
  rw [hbattery] at hac
  cases hac

end UpowerRun
end Clight
