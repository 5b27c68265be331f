import Clight.Machine
import Clight.RefCounts
import Clight.State

/-! The messages that the properties for curves are set with (interface.c): set_curve keeps the last
one for BACKLIGHT and for KEYBOARD each, as the points of a request lie in it. -/
namespace Clight

/-- The default curves of BACKLIGHT, or the curves of KEYBOARD. -/
inductive CurvePair | backlight | keyboard
  deriving DecidableEq

/-- curve_req or kbd_curve_req. The points lie in the message of that number. -/
structure CurveReq where
  state : AcState
  numPoints : ℕ
  regressionPoints : Option ℕ
  undelivered : ℕ

/-- Messages are numbered as they come; `message` is bl_curve_message and kbd_curve_message. -/
structure CurveMessages where
  received : ℕ
  counts : RefCounts ℕ
  message : CurvePair → Option ℕ
  req : CurvePair → CurveReq
  destroyed : Bool

inductive SetCurveErr | unreadable | einval

/-- `payload` is none for a message that is no array of doubles. -/
inductive CurveMsgEvent
  | setCurve (pair : CurvePair) (ac : AcState) (payload : Option (List ℚ))
  | deliver (pair : CurvePair)
  | destroy

namespace CurveMessages

/-- set_curve. The last message is released before the new one is read. -/
def setCurve (pair : CurvePair) (ac : AcState) (payload : Option (List ℚ)) (s : CurveMessages) :
    Option SetCurveErr × CurveMessages :=
  let value := s.received
  -- sd_bus_message_unrefp leaves the pointer as it is
  let s := { s with received := s.received + 1, counts := s.counts.release (s.message pair) }
  match payload with
  | none => (some .unreadable, s)
  | some data =>
    let req := { s.req pair with numPoints := data.length }
    if maxSizePoints < data.length then
      (some .einval, { s with req := Function.update s.req pair req })
    else
      let req := { req with
        state := ac, regressionPoints := some value, undelivered := req.undelivered + 1 }
      (none, { s with
        req := Function.update s.req pair req
        message := Function.update s.message pair (some value)
        counts := s.counts.ref value })

/-- What destroy releases. The loop has ended, and delivers nothing any more. -/
def destroy (s : CurveMessages) : CurveMessages where
  received := s.received
  counts := (s.counts.release (s.message .backlight)).release (s.message .keyboard)
  message _ := none
  req pair := { s.req pair with undelivered := 0 }
  destroyed := true

def next (s : CurveMessages) (e : CurveMsgEvent) : Option CurveMessages :=
  if s.destroyed then none
  else match e with
    | .setCurve pair ac payload => some (setCurve pair ac payload s).2
    | .deliver pair =>
      if (s.req pair).undelivered = 0 then none
      else
        let req := { s.req pair with undelivered := (s.req pair).undelivered - 1 }
        some { s with req := Function.update s.req pair req }
    | .destroy => some s.destroy

/-- Every reference is released once at most, the two pointers are to messages that are held, and so
are the points of a request on its way. -/
structure Balanced (s : CurveMessages) : Prop where
  released : ∀ m, s.counts.unrefs m ≤ s.counts.refs m
  held : ∀ pair m, s.message pair = some m → s.counts.Held m
  data : ∀ pair, 0 < (s.req pair).undelivered →
    ∃ m, (s.req pair).regressionPoints = some m ∧ s.counts.Held m

/-- A payload that set_curve rejects. -/
def Rejected (payload : Option (List ℚ)) : Prop := ∀ data ∈ payload, maxSizePoints < data.length

instance (payload : Option (List ℚ)) : Decidable (Rejected payload) :=
  inferInstanceAs (Decidable (∀ data ∈ payload, _))

/-- A payload is rejected only as long as no message is kept for that pair of curves. -/
def RejectedFirst (s : CurveMessages) : CurveMsgEvent → Prop
  | .setCurve pair _ payload => Rejected payload → s.message pair = none
  | _ => True

instance (s : CurveMessages) : ∀ e : CurveMsgEvent, Decidable (RejectedFirst s e)
  | .setCurve pair _ payload => inferInstanceAs (Decidable (Rejected payload → s.message pair = none))
  | .deliver _ | .destroy => isTrue trivial

end CurveMessages

def curveMessages : Machine CurveMessages CurveMsgEvent where
  init s := s.counts = .empty ∧ (∀ pair, s.message pair = none) ∧
    (∀ pair, (s.req pair).undelivered = 0) ∧ s.destroyed = false
  next := CurveMessages.next

def CurvePair.other : CurvePair → CurvePair
  | .backlight => .keyboard
  | .keyboard => .backlight

namespace CurveMessages

variable {s s' : CurveMessages} {pair : CurvePair} {ac : AcState} {payload : Option (List ℚ)}

/-! ### The holders of references -/

def holders (s : CurveMessages) : List ℕ :=
  (s.message .backlight).toList ++ (s.message .keyboard).toList

theorem holders_perm (s : CurveMessages) (pair : CurvePair) :
    s.holders.Perm ((s.message pair).toList ++ (s.message pair.other).toList) := by
  cases pair with
  | backlight => exact .refl _
  | keyboard => exact List.perm_append_comm

theorem mem_holders {m : ℕ} : m ∈ s.holders ↔ ∃ pair, s.message pair = some m := by
  unfold holders
  rw [List.mem_append, Option.mem_toList, Option.mem_toList]
  constructor
  · rintro (h | h)
    · exact ⟨.backlight, h⟩
    · exact ⟨.keyboard, h⟩
  · rintro ⟨pair, h⟩
    cases pair with
    | backlight => exact .inl h
    | keyboard => exact .inr h

/-- The two pointers hold all references that are left, on messages of their own, and an undelivered
request has its points in the message that its pointer is to. -/
structure Kept (s : CurveMessages) : Prop where
  backed : s.counts.Backed s.holders
  received : ∀ pair m, s.message pair = some m → m < s.received
  apart : ∀ p q m, s.message p = some m → s.message q = some m → p = q
  data : ∀ pair, 0 < (s.req pair).undelivered →
    ∃ m, (s.req pair).regressionPoints = some m ∧ s.message pair = some m

theorem Kept.balanced (h : Kept s) : Balanced s where
  released := h.backed.unrefs_le
  held pair m hm := h.backed.held_iff.mpr (mem_holders.mpr ⟨pair, hm⟩)
  data pair hpair := by
    obtain ⟨m, hpoints, hm⟩ := h.data pair hpair
    exact ⟨m, hpoints, h.backed.held_iff.mpr (mem_holders.mpr ⟨pair, hm⟩)⟩

/-- Once the last message is released, the other pointer holds all that is left. -/
theorem Kept.release (h : Kept s) (pair : CurvePair) :
    (s.counts.release (s.message pair)).Backed (s.message pair.other).toList :=
  (h.backed.perm (s.holders_perm pair)).release

/-! ### What set_curve does -/

theorem setCurve_accepted {data : List ℚ} (hdata : data.length ≤ maxSizePoints) :
    setCurve pair ac (some data) s = (none, { s with
      received := s.received + 1
      counts := (s.counts.release (s.message pair)).ref s.received
      message := Function.update s.message pair (some s.received)
      req := Function.update s.req pair { s.req pair with
        numPoints := data.length
        state := ac
        regressionPoints := some s.received
        undelivered := (s.req pair).undelivered + 1 } }) :=
  if_neg (not_lt.mpr hdata)

variable (s pair ac) in
/-- A rejected message leaves a pointer to the one that was released. -/
theorem setCurve_rejected (h : Rejected payload) : ∃ err n, setCurve pair ac payload s =
    (some err, { s with
      received := s.received + 1
      counts := s.counts.release (s.message pair)
      req := Function.update s.req pair { s.req pair with numPoints := n } }) := by
  cases payload with
  | none =>
    refine ⟨.unreadable, (s.req pair).numPoints, ?_⟩
    unfold setCurve
    dsimp only
    rw [Function.update_eq_self]
  | some data => exact ⟨.einval, data.length, if_pos (h data rfl)⟩

theorem setCurve_cases (payload : Option (List ℚ)) :
    Rejected payload ∨ ∃ data, payload = some data ∧ data.length ≤ maxSizePoints := by
  cases payload with
  | none => exact .inl fun data h => by cases h
  | some data =>
    rcases lt_or_ge maxSizePoints data.length with h | h
    · left
      rintro data' hdata
      obtain rfl := Option.some.inj hdata
      exact h
    · exact .inr ⟨data, rfl, h⟩

/-! ### One event -/

theorem other_ne (pair : CurvePair) : pair.other ≠ pair := by
  cases pair <;> decide

theorem Kept.accepted (h : Kept s) {data : List ℚ} (hdata : data.length ≤ maxSizePoints) :
    Kept (setCurve pair ac (some data) s).2 := by
  rw [setCurve_accepted hdata]
  have hnew : ∀ p m, s.message p = some m → m ≠ s.received := by
    intro p m hm
    exact ne_of_lt (h.received p m hm)
  constructor
  case backed =>
    refine ((h.release pair).ref s.received).perm ?_
    refine .trans ?_ (holders_perm _ pair).symm
    dsimp only
    rw [Function.update_self, Function.update_of_ne (other_ne pair)]
    exact .refl _
  case received =>
    intro p m hm
    dsimp only at hm ⊢
    rw [Function.update_apply] at hm
    split_ifs at hm
    · have := Option.some.inj hm
      omega
    · have := h.received p m hm
      omega
  case apart =>
    intro p q m hp hq
    dsimp only at hp hq
    rw [Function.update_apply] at hp hq
    -- no pointer was to the new message before
    split_ifs at hp hq with hpair hqair hqair
    · exact hpair.trans hqair.symm
    · exact absurd (Option.some.inj hp).symm (hnew q m hq)
    · exact absurd (Option.some.inj hq).symm (hnew p m hp)
    · exact h.apart p q m hp hq
  case data =>
    intro p hp
    dsimp only at hp ⊢
    by_cases hpair : p = pair
    · subst hpair
      rw [Function.update_self, Function.update_self]
      exact ⟨s.received, rfl, rfl⟩
    · rw [Function.update_of_ne hpair] at hp ⊢
      rw [Function.update_of_ne hpair]
      exact h.data p hp

/-- With no message kept for the pair, a rejected one changes nothing that counts. -/
theorem Kept.rejected (h : Kept s) (hrej : Rejected payload) (hnone : s.message pair = none) :
    Kept (setCurve pair ac payload s).2 := by
  obtain ⟨err, n, hset⟩ := setCurve_rejected s pair ac hrej
  rw [hset, hnone]
  refine ⟨h.backed, fun p m hm => Nat.lt_succ_of_lt (h.received p m hm), h.apart, fun p hp => ?_⟩
  dsimp only at hp ⊢
  by_cases hpair : p = pair
  · subst hpair
    rw [Function.update_self] at hp ⊢
    exact h.data p hp
  · rw [Function.update_of_ne hpair] at hp ⊢
    exact h.data p hp

/-- With one kept, the pointer is left to a message that is not held any more. -/
theorem Kept.rejected_unbalanced (h : Kept s) (hrej : Rejected payload) {m : ℕ}
    (hm : s.message pair = some m) : ¬ Balanced (setCurve pair ac payload s).2 := by
  intro hbal
  obtain ⟨err, n, hset⟩ := setCurve_rejected s pair ac hrej
  rw [hset] at hbal
  have hheld := (h.release pair).held_iff.mp (hbal.held pair m hm)
  have hsame := h.apart _ _ m (Option.mem_toList.mp hheld) hm
  exact other_ne pair hsame

theorem Kept.destroy (h : Kept s) : Kept s.destroy where
  backed := by
    have hboth := h.release .backlight
    rw [← List.append_nil (s.message CurvePair.backlight.other).toList] at hboth
    exact hboth.release
  received pair m hm := by cases hm
  apart p q m hm := by cases hm
  data pair hp := absurd hp (lt_irrefl 0)

theorem Kept.deliver (h : Kept s) (hn : s.next (.deliver pair) = some s') : Kept s' := by
  unfold next at hn
  dsimp only at hn
  split_ifs at hn with hdestroyed hund
  obtain rfl := Option.some.inj hn
  refine ⟨h.backed, h.received, h.apart, fun p hp => ?_⟩
  dsimp only at hp ⊢
  by_cases hpair : p = pair
  · subst hpair
    rw [Function.update_self]
    exact h.data p (Nat.pos_of_ne_zero hund)
  · rw [Function.update_of_ne hpair] at hp ⊢
    exact h.data p hp

/-! ### Runs -/

/-- References are balanced in the state that the event leads to. -/
def BalancedAfter (s : CurveMessages) (e : CurveMsgEvent) : Prop := ∀ s', s.next e = some s' → Balanced s'

theorem balancedAfter_next (h : Kept s) {e : CurveMsgEvent} (hn : curveMessages.next s e = some s') :
    (BalancedAfter s e ↔ RejectedFirst s e) ∧ (BalancedAfter s e → Kept s') := by
  have hafter : BalancedAfter s e ↔ Balanced s' := Machine.forall_next_iff hn
  rw [hafter]
  change s.next e = some s' at hn
  cases e with
  | setCurve pair ac payload =>
    unfold next at hn
    split_ifs at hn
    obtain rfl := Option.some.inj hn
    rcases setCurve_cases payload with hrej | ⟨data, rfl, hdata⟩
    · cases hm : s.message pair with
      | none =>
        have hkept : Kept (setCurve pair ac payload s).2 := h.rejected hrej hm
        exact ⟨⟨fun _ _ => hm, fun _ => hkept.balanced⟩, fun _ => hkept⟩
      | some m =>
        have hbad : ¬ Balanced (setCurve pair ac payload s).2 := h.rejected_unbalanced hrej hm
        refine ⟨⟨fun hb => absurd hb hbad, fun hfirst => ?_⟩, fun hb => absurd hb hbad⟩
        exact absurd ((hfirst hrej).symm.trans hm) (by simp)
    · have hkept : Kept (setCurve pair ac (some data) s).2 := h.accepted hdata
      refine ⟨⟨fun _ hrej => absurd (hrej data rfl) ?_, fun _ => hkept.balanced⟩, fun _ => hkept⟩
      exact not_lt.mpr hdata
  | deliver pair =>
    have hkept : Kept s' := h.deliver hn
    exact ⟨⟨fun _ => trivial, fun _ => hkept.balanced⟩, fun _ => hkept⟩
  | destroy =>
    unfold next at hn
    split_ifs at hn
    obtain rfl := Option.some.inj hn
    exact ⟨⟨fun _ => trivial, fun _ => h.destroy.balanced⟩, fun _ => h.destroy⟩

theorem kept_init (h : curveMessages.init s) : Kept s := by
  obtain ⟨hcounts, hnone, hund, -⟩ := h
  refine ⟨?_, fun p m hm => ?_, fun p q m hm => ?_, fun p hp => ?_⟩
  · unfold holders
    rw [hcounts, hnone, hnone]
    exact RefCounts.backed_empty
  · exact absurd ((hnone p).symm.trans hm) (by simp)
  · exact absurd ((hnone p).symm.trans hm) (by simp)
  · rw [hund p] at hp
    exact absurd hp (lt_irrefl 0)

/-- References are balanced in every state of a run exactly when each message that it rejects comes
before the first one that it accepts for the same pair of curves. -/
theorem balancedAfter_iff {es : List CurveMsgEvent} (h0 : curveMessages.init s)
    (hrun : curveMessages.run s es = some s') :
    (Balanced s ∧ curveMessages.RunBy BalancedAfter s es) ↔ curveMessages.RunBy RejectedFirst s es := by
  have hkept : Kept s := kept_init h0
  have hiff : curveMessages.RunBy BalancedAfter s es ↔ curveMessages.RunBy RejectedFirst s es :=
    Machine.runBy_iff_of_step (fun _ _ _ hk hn => balancedAfter_next hk hn) hkept hrun
  exact (and_iff_right hkept.balanced).trans hiff

/-- Before the first call. -/
def noMessages : CurveMessages where
  received := 0
  counts := .empty
  message _ := none
  req _ := { state := .onAc, numPoints := 0, regressionPoints := none, undelivered := 0 }
  destroyed := false

theorem noMessages_init : curveMessages.init noMessages := ⟨rfl, fun _ => rfl, fun _ => rfl, rfl⟩

theorem balancedAfter_accepted : curveMessages.RunBy BalancedAfter noMessages
    [.setCurve .backlight .onAc none, .setCurve .backlight .onAc (some [0, 1 / 2, 1]),
      .setCurve .backlight .onBattery (some [0, 1 / 4, 1 / 2]), .deliver .backlight, .destroy] := by
  have hrun : curveMessages.run noMessages
      [.setCurve .backlight .onAc none, .setCurve .backlight .onAc (some [0, 1 / 2, 1]),
        .setCurve .backlight .onBattery (some [0, 1 / 4, 1 / 2]), .deliver .backlight, .destroy] =
      some _ := rfl
  exact ((balancedAfter_iff noMessages_init hrun).mpr (by decide)).2

/-- A valid message, one of too many points, and a valid one: the first is released twice. -/
theorem released_twice : ¬ ∀ (s s' : CurveMessages) (es : List CurveMsgEvent), curveMessages.init s →
    curveMessages.run s es = some s' → Balanced s' := by
  intro hall
  have hbal := hall noMessages _ [.setCurve .backlight .onAc (some [0, 1 / 2, 1]),
    .setCurve .backlight .onAc (some (List.replicate 51 0)),
    .setCurve .backlight .onAc (some [0, 1 / 2, 1])] noMessages_init rfl
  exact absurd (hbal.released 0) (by decide)

end CurveMessages

end Clight
