import Clight.Pm

/-! `state.inhibited` and `state.suspended` as counted flags: over any run their counters are
reference counts, and each change of a flag is announced once. -/
namespace Clight

namespace Inhibit

def counted (c : InhibitCtx) : CountedFlag := { count := c.loc, flag := c.st.inhibited }

def setCounted (f : CountedFlag) (c : InhibitCtx) : InhibitCtx :=
  { c with
    loc := f.count
    st := { c.st with inhibited := f.flag } }

/-- An INHIBIT_REQ is a request to the counted flag; each change of the flag is published. -/
theorem onInhibitReq_eq (r : FlagReq) (c : InhibitCtx) :
    onInhibitReq r.new r.force c =
      if ((counted c).handle r).flag = c.st.inhibited then setCounted ((counted c).handle r) c
      else (setCounted ((counted c).handle r) c).publish
        (.inhibitUpd c.st.inhibited ((counted c).handle r).flag) := by
  obtain ⟨new, force⟩ := r
  obtain ⟨ctr, ⟨br, ev, inhibited⟩, cf, out, calls⟩ := c
  unfold onInhibitReq validateInhibit counted CountedFlag.handle
  cases new with
  | true =>
    cases inhibited with
    | true => simp [setCounted]
    | false => simp [setCounted, Ctx.publish]
  | false =>
    cases inhibited with
    | false => simp [setCounted]
    | true =>
      cases force with
      | true => simp [setCounted]
      | false =>
        by_cases hz : ctr - 1 = 0
        · simp [setCounted, hz]
        · simp [setCounted, hz]

theorem counted_onInhibitReq (r : FlagReq) (c : InhibitCtx) :
    counted (onInhibitReq r.new r.force c) = (counted c).handle r := by
  rw [onInhibitReq_eq]
  split_ifs <;> rfl

def next (c : InhibitCtx) (r : FlagReq) : InhibitCtx := onInhibitReq r.new r.force c

theorem counted_run (rs : List FlagReq) (c : InhibitCtx) :
    counted (rs.foldl next c) = rs.foldl CountedFlag.handle (counted c) := by
  induction rs generalizing c with
  | nil => rfl
  | cons r rs ih =>
    have hstep : counted (next c r) = (counted c).handle r := counted_onInhibitReq r c
    rw [List.foldl_cons, List.foldl_cons, ih, hstep]

/-- The counter of INHIBIT stands for `n` uses, and what the next request publishes. -/
structure FlagLaw (c : InhibitCtx) (n : ℕ) (r : FlagReq) : Prop where
  counter : c.loc = n
  nonneg : 0 ≤ c.loc
  flag : c.st.inhibited = true ↔ 0 < c.loc
  published : (onInhibitReq r.new r.force c).out = c.out ++
    if (onInhibitReq r.new r.force c).st.inhibited = c.st.inhibited then []
    else [.inhibitUpd c.st.inhibited (onInhibitReq r.new r.force c).st.inhibited]

theorem FlagLaw.of_counts {c : InhibitCtx} {n : ℕ} (h : (counted c).Counts n) (r : FlagReq) :
    FlagLaw c n r where
  counter := h.count
  nonneg := h.nonneg
  flag := h.flag_iff
  published := by
    have hflag : (onInhibitReq r.new r.force c).st.inhibited = ((counted c).handle r).flag :=
      congrArg CountedFlag.flag (counted_onInhibitReq r c)
    rw [hflag, onInhibitReq_eq]
    split_ifs with hsame
    · exact (List.append_nil _).symm
    · rfl

end Inhibit

/-- What PM's suspend side receives: a request, its own timer, or a write of ResumeDelay
under it. -/
inductive PmEvent
  | suspendReq (r : FlagReq)
  | delayedResume
  | resumedelay (delay : ℤ)

def PmEvent.req : PmEvent → Option FlagReq
  | suspendReq r => some r
  | _ => none

namespace Pm

def next (c : PmCtx) : PmEvent → PmCtx
  | .suspendReq r => onSuspendReq r.new r.force c
  | .delayedResume => onDelayedResume c
  | .resumedelay delay => { c with cf := { c.cf with resumedelay := delay } }

theorem counted_onSuspendReq (r : FlagReq) (c : PmCtx) :
    counted (onSuspendReq r.new r.force c) = (counted c).handle r := by
  rw [onSuspendReq_eq]
  split_ifs
  · rfl
  · simp only [counted, announce_ctr, announce_st, setCounted]

theorem counted_onDelayedResume (c : PmCtx) : counted (onDelayedResume c) = counted c := by
  unfold counted onDelayedResume
  split <;> rfl

/-- Only requests count. -/
theorem Counts.next {c : PmCtx} {n : ℕ} (h : (counted c).Counts n) (e : PmEvent) :
    (counted (next c e)).Counts (e.req.toList.foldl FlagReq.refs n) := by
  cases e with
  | suspendReq r =>
    have hstep := h.handle r
    rw [← counted_onSuspendReq] at hstep
    exact hstep
  | delayedResume =>
    have hsame := counted_onDelayedResume c
    rw [← hsame] at h
    exact h
  | resumedelay delay => exact h

theorem Counts.run {c : PmCtx} {n : ℕ} (h : (counted c).Counts n) (es : List PmEvent) :
    (counted (es.foldl Pm.next c)).Counts ((es.filterMap PmEvent.req).foldl FlagReq.refs n) := by
  induction es generalizing c n with
  | nil => exact h
  | cons e es ih =>
    have hrest := ih (Counts.next h e)
    cases hreq : e.req with
    | none => simpa [hreq] using hrest
    | some r => simpa [hreq] using hrest

/-- The counter of PM stands for `n` suspends, and what the next request announces: a
change of the flag, at once or by the timer. -/
structure FlagLaw (c : PmCtx) (n : ℕ) (r : FlagReq) : Prop where
  counter : c.loc.suspendCtr = n
  nonneg : 0 ≤ c.loc.suspendCtr
  flag : c.st.suspended = true ↔ 0 < c.loc.suspendCtr
  same : (onSuspendReq r.new r.force c).st.suspended = c.st.suspended →
    (onSuspendReq r.new r.force c).out = c.out ∧
      (onSuspendReq r.new r.force c).loc.delayed = c.loc.delayed
  atOnce : (onSuspendReq r.new r.force c).st.suspended ≠ c.st.suspended →
    (onSuspendReq r.new r.force c).st.suspended = true ∨ c.cf.resumedelay ≤ 0 →
      (onSuspendReq r.new r.force c).out = c.out ++
          [.suspendUpd c.st.suspended (onSuspendReq r.new r.force c).st.suspended] ∧
        (onSuspendReq r.new r.force c).loc.delayed = c.loc.delayed
  late : (onSuspendReq r.new r.force c).st.suspended ≠ c.st.suspended →
    (onSuspendReq r.new r.force c).st.suspended = false → 0 < c.cf.resumedelay →
      (onSuspendReq r.new r.force c).out = c.out ∧
        (onSuspendReq r.new r.force c).loc.delayed =
          some (.suspendUpd c.st.suspended (onSuspendReq r.new r.force c).st.suspended) ∧
        (onSuspendReq r.new r.force c).loc.delayedResumeFd.live = true

theorem announce_atOnce {msg : Msg} {new : Bool} {c : PmCtx} (h : new = true ∨ c.cf.resumedelay ≤ 0) :
    announce msg new c = c.publish msg := by
  unfold announce
  apply if_neg
  intro hlate
  rcases h with h | h
  · rw [h] at hlate
    cases hlate.1
  · omega

theorem FlagLaw.of_counts {c : PmCtx} {n : ℕ} (h : (counted c).Counts n) (r : FlagReq) :
    FlagLaw c n r := by
  have hflag : (onSuspendReq r.new r.force c).st.suspended = ((counted c).handle r).flag :=
    congrArg CountedFlag.flag (counted_onSuspendReq r c)
  have heq := onSuspendReq_eq r c
  refine ⟨h.count, h.nonneg, h.flag_iff, ?_, ?_, ?_⟩
  · intro hsame
    rw [hflag] at hsame
    rw [heq, if_pos hsame]
    exact ⟨rfl, rfl⟩
  · intro hchange hnow
    rw [hflag] at hchange hnow ⊢
    have hpub : announce (.suspendUpd c.st.suspended ((counted c).handle r).flag)
        ((counted c).handle r).flag (setCounted ((counted c).handle r) c) =
          (setCounted ((counted c).handle r) c).publish
            (.suspendUpd c.st.suspended ((counted c).handle r).flag) := announce_atOnce hnow
    rw [heq, if_neg hchange, hpub]
    exact ⟨rfl, rfl⟩
  · intro hchange hoff hdelay
    rw [hflag] at hchange hoff ⊢
    have hlate : ((counted c).handle r).flag = false ∧ 0 < c.cf.resumedelay := ⟨hoff, hdelay⟩
    have hlive : (setTimeout c.cf.resumedelay 0).live = true := by
      rw [setTimeout_live]
      exact decide_eq_true (.inl hdelay)
    have harm : announce (.suspendUpd c.st.suspended ((counted c).handle r).flag)
        ((counted c).handle r).flag (setCounted ((counted c).handle r) c) =
          { setCounted ((counted c).handle r) c with loc :=
            { (setCounted ((counted c).handle r) c).loc with
              delayedResumeFd := setTimeout c.cf.resumedelay 0
              delayed := some (.suspendUpd c.st.suspended ((counted c).handle r).flag) } } :=
      if_pos hlate
    rw [heq, if_neg hchange, harm]
    exact ⟨rfl, rfl, hlive⟩

end Pm

/-- Both flags agree with their counters, after any sequence of requests and whatever
becomes of the delayed resumes. -/
theorem flags_count_references {ic : InhibitCtx} {pc : PmCtx}
    (hi : ic.loc = 0 ∧ ic.st.inhibited = false)
    (hp : pc.loc.suspendCtr = 0 ∧ pc.st.suspended = false)
    (rs : List FlagReq) (es : List PmEvent) (r : FlagReq) :
    Inhibit.FlagLaw (rs.foldl Inhibit.next ic) (FlagReq.refCount rs) r ∧
      Pm.FlagLaw (es.foldl Pm.next pc) (FlagReq.refCount (es.filterMap PmEvent.req)) r := by
  have hic : (Inhibit.counted ic).Counts 0 := ⟨hi.1, hi.2⟩
  have hpc : (Pm.counted pc).Counts 0 := ⟨hp.1, hp.2⟩
  constructor
  · apply Inhibit.FlagLaw.of_counts
    rw [Inhibit.counted_run]
    exact hic.foldl rs
  · apply Pm.FlagLaw.of_counts
    exact Pm.Counts.run hpc es

def Pm.start (cf : Conf) : PmCtx := { loc := .init, st := initState cf, cf := cf, out := [], calls := [] }

/-- Two inhibitions and a release; a resume that comes before the first suspend. -/
theorem flags_count_references_start :
    Inhibit.FlagLaw (List.foldl Inhibit.next (Inhibit.init .default)
        [⟨true, false⟩, ⟨true, false⟩, ⟨false, false⟩]) 1 ⟨false, true⟩ ∧
      Pm.FlagLaw (List.foldl Pm.next (Pm.start .default)
        [.suspendReq ⟨false, false⟩, .suspendReq ⟨true, false⟩, .resumedelay 5]) 1 ⟨false, true⟩ :=
  flags_count_references ⟨rfl, rfl⟩ ⟨rfl, rfl⟩ [⟨true, false⟩, ⟨true, false⟩, ⟨false, false⟩]
    [.suspendReq ⟨false, false⟩, .suspendReq ⟨true, false⟩, .resumedelay 5] ⟨false, true⟩

end Clight
