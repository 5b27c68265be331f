import Clight.DaytimeAlarm

/-! What get_next_events leaves: that it ends, what it publishes, and the events it stores. -/
namespace Clight.Daytime

section
variable {sun : Calcs} {now : ℤ} {c c' : DaytimeCtx}

/-- More fuel does not change what a run that ended has left. -/
theorem getNextEvents_mono {fuel n : ℕ} (hle : fuel ≤ n) {dayshift : ℤ}
    (hrun : getNextEvents sun now fuel dayshift c = some c') :
    getNextEvents sun now n dayshift c = some c' := by
  induction fuel generalizing n dayshift with
  | zero => cases hrun
  | succ fuel ih =>
    obtain ⟨n, rfl⟩ := Nat.exists_eq_add_of_le' (Nat.lt_of_lt_of_le (Nat.succ_pos fuel) hle)
    have hle' : fuel ≤ n := by omega
    by_cases hahead : now + 1 < c.st.dayEvents .sunset + c.cf.day.eventDuration
    · rw [getNextEvents_ahead hahead] at hrun ⊢
      exact hrun
    · by_cases hover : SunsetOver sun c.cf.day.eventDuration now dayshift
      · rw [getNextEvents_next (not_lt.mp hahead) hover] at hrun ⊢
        exact ih hle' hrun
      · rw [getNextEvents_stop (not_lt.mp hahead) hover] at hrun ⊢
        exact hrun

/-- A run either keeps the events in force, or stores those of the first day ahead. -/
theorem getNextEvents_cases {fuel : ℕ} (hrun : getNextEvents sun now fuel 0 c = some c') :
    (now + 1 < c.st.dayEvents .sunset + c.cf.day.eventDuration ∧ c' = evaluate now c) ∨
    ∃ k : ℕ, FirstAhead sun c.cf.day.eventDuration now 0 k ∧
      c' = evaluate now (storeEvents sun now k c) := by
  by_cases hahead : now + 1 < c.st.dayEvents .sunset + c.cf.day.eventDuration
  · have hone : getNextEvents sun now 1 0 c = some (evaluate now c) := getNextEvents_ahead hahead
    have hall := getNextEvents_mono (Nat.le_add_left 1 fuel) hone
    have hmore := getNextEvents_mono (Nat.le_add_right fuel 1) hrun
    exact .inl ⟨hahead, Option.some.inj (hmore.symm.trans hall)⟩
  · obtain ⟨k, hk, hc⟩ := getNextEvents_over (not_lt.mp hahead) hrun
    rw [zero_add] at hc
    exact .inr ⟨k, hk, hc⟩

theorem evaluate_out (now : ℤ) (c : DaytimeCtx) : (evaluate now c).out = c.out := by
  unfold evaluate checkState
  dsimp only
  split_ifs <;> rfl

/-- Both events are announced, each with the one it replaces. -/
theorem storeEvents_out (sun : Calcs) (now k : ℤ) (c : DaytimeCtx) :
    (storeEvents sun now k c).out = c.out ++
      [.sunriseUpd (c.st.dayEvents .sunrise) (sunTimes sun now k .sunrise),
        .sunsetUpd (c.st.dayEvents .sunset) (sunTimes sun now k .sunset)] :=
  List.append_assoc c.out _ _

theorem evaluate_acState (now : ℤ) (c : DaytimeCtx) :
    (evaluate now c).st.acState = c.st.acState := by
  unfold evaluate checkState
  dsimp only
  split_ifs <;> rfl

/-! ### The events of a day -/

/-- Sunsets fail, or come later and later without bound. -/
def GrowsOrFails (sun : Calcs) : Prop :=
  ∀ bound : ℤ, ∃ d : ℕ, ∀ d' : ℕ, d ≤ d' → (sun .sunset d').ok = true → bound < (sun .sunset d').tt

theorem exists_firstAhead (h : GrowsOrFails sun) (dur now : ℤ) : ∃ k, FirstAhead sun dur now 0 k := by
  classical
  obtain ⟨d, hd⟩ := h (now + 1 - dur)
  have hstop : ∃ k : ℕ, ¬SunsetOver sun dur now (0 + k) := by
    refine ⟨d, ?_⟩
    rintro ⟨hok, hover⟩
    rw [zero_add] at hok hover
    have hlate := hd d le_rfl hok
    omega
  -- the first day whose sunset is not over
  exact ⟨Nat.find hstop, Nat.find_spec hstop, fun j hj => not_not.mp (Nat.find_min hstop hj)⟩

/-- The computations that a day makes succeed: its own, and the sunrise of the day before when
the first one is after the sunset. -/
structure Computed (sun : Calcs) (k : ℤ) : Prop where
  sunset : (sun .sunset k).ok = true
  sunrise : (sun .sunrise k).ok = true
  before : (sun .sunset k).tt < (sun .sunrise k).tt → (sun .sunrise (k - 1)).ok = true

/-- Each sunrise comes before the sunset of the next day. -/
def Ordered (sun : Calcs) : Prop :=
  ∀ d, (sun .sunrise d).ok = true → (sun .sunset (d + 1)).ok = true →
    (sun .sunrise d).tt < (sun .sunset (d + 1)).tt

theorem sunTimes_ordered (hnow : -1 ≤ now + 12 * 60 * 60) (hord : Ordered sun) {k : ℤ}
    (hk : Computed sun k) : sunTimes sun now k .sunrise ≤ sunTimes sun now k .sunset := by
  have hle : (if (sun .sunset k).tt < (sun .sunrise k).tt then (sun .sunrise (k - 1)).tt
      else (sun .sunrise k).tt) ≤ (sun .sunset k).tt := by
    by_cases hlate : (sun .sunset k).tt < (sun .sunrise k).tt
    · -- the sunrise of the day before is taken
      have hprev := hord (k - 1) (hk.before hlate)
      rw [sub_add_cancel] at hprev
      rw [if_pos hlate]
      exact (hprev hk.sunset).le
    · rw [if_neg hlate]
      exact not_lt.mp hlate
  simp only [sunTimes, hk.sunset, hk.sunrise, if_true]
  by_cases hnone : (if (sun .sunset k).tt < (sun .sunrise k).tt then (sun .sunrise (k - 1)).tt
      else (sun .sunrise k).tt) = -1 ∧ (sun .sunset k).tt = -1
  · -- two events of -1 look like two failures
    rw [if_pos hnone, hnone.1]
    exact hnow
  · rw [if_neg hnone]
    exact hle

end

/-- On a day without any event it is day, until a sunset 12 hours from now. -/
theorem getNextEvents_failed {sun : Calcs} {now k : ℤ} {c : DaytimeCtx} (hnow : 0 ≤ now)
    (hfail : ∀ e, (sun e k).ok = false)
    (hover : c.st.dayEvents .sunset + c.cf.day.eventDuration ≤ now + 1) (fuel : ℕ) :
    ∃ c', getNextEvents sun now (fuel + 1) k c = some c' ∧
      c'.st.dayEvents .sunset = now + 12 * 60 * 60 ∧ c'.st.dayTime = some .day := by
  have hstop : ¬SunsetOver sun c.cf.day.eventDuration now k := by
    rintro ⟨hok, -⟩
    exact absurd (hok.symm.trans (hfail .sunset)) nofun
  have hset : sunTimes sun now k .sunset = now + 12 * 60 * 60 := by
    simp [sunTimes, hfail]
  have hrise : sunTimes sun now k .sunrise = -1 := by
    simp [sunTimes, hfail]
  have hday : ¬nightAt now (sunTimes sun now k) := by
    rw [nightAt, hset, hrise]
    omega
  refine ⟨_, getNextEvents_stop hover hstop, ?_, ?_⟩
  · rw [evaluate_dayEvents]
    exact hset
  · rw [evaluate_dayTime]
    exact congrArg some (if_neg hday)

/-- Nothing was computed, and the sunset in force is ahead. -/
structure KeptEvents (now : ℤ) (c c' : DaytimeCtx) : Prop where
  events : c'.st.dayEvents = c.st.dayEvents
  out : c'.out = c.out
  ahead : now + 1 < c'.st.dayEvents .sunset + c.cf.day.eventDuration

/-- The events of the first day ahead were stored: both are announced once with the events they
replace, the sunset is ahead or could not be computed, and the sunrise comes first (unless twelve
hours from now are still before the -1 of a failed computation). -/
structure NewEvents (sun : Calcs) (now : ℤ) (k : ℕ) (c c' : DaytimeCtx) : Prop where
  day : FirstAhead sun c.cf.day.eventDuration now 0 k
  out : c'.out = c.out ++
    [.sunriseUpd (c.st.dayEvents .sunrise) (c'.st.dayEvents .sunrise),
      .sunsetUpd (c.st.dayEvents .sunset) (c'.st.dayEvents .sunset)]
  ahead : (sun .sunset k).ok = false ∨ now + 1 < c'.st.dayEvents .sunset + c.cf.day.eventDuration
  ordered : -1 ≤ now + 12 * 60 * 60 → Ordered sun → Computed sun k →
    c'.st.dayEvents .sunrise ≤ c'.st.dayEvents .sunset

theorem newEvents_evaluate {k : ℕ} {sun : Calcs} {now : ℤ} {c : DaytimeCtx}
    (hdur : 0 < c.cf.day.eventDuration) (hk : FirstAhead sun c.cf.day.eventDuration now 0 k) :
    NewEvents sun now k c (evaluate now (storeEvents sun now k c)) := by
  have hevents : (evaluate now (storeEvents sun now k c)).st.dayEvents = sunTimes sun now k :=
    evaluate_dayEvents now _
  have hstop : ¬SunsetOver sun c.cf.day.eventDuration now k := by
    have hend := hk.1
    rwa [zero_add] at hend
  refine ⟨hk, ?_, ?_, ?_⟩
  · rw [evaluate_out, hevents]
    exact storeEvents_out sun now k c
  · rw [hevents]
    by_cases hok : (sun .sunset k).ok = true
    · exact .inr (sunTimes_sunset_ahead hdur hok hstop)
    · exact .inl (Bool.eq_false_iff.mpr hok)
  · intro hnow hord hk
    rw [hevents]
    exact sunTimes_ordered hnow hord hk

/-- get_next_events ends, and leaves usable events. -/
theorem get_next_events_usable {sun : Calcs} (hsun : GrowsOrFails sun) (now : ℤ) {c : DaytimeCtx}
    (hdur : 0 < c.cf.day.eventDuration) :
    ∃ fuel c', (∀ n, fuel ≤ n → getNextEvents sun now n 0 c = some c') ∧
      (KeptEvents now c c' ∨ ∃ k : ℕ, NewEvents sun now k c c') := by
  have hends : ∃ fuel c', getNextEvents sun now fuel 0 c = some c' := by
    by_cases hahead : now + 1 < c.st.dayEvents .sunset + c.cf.day.eventDuration
    · exact ⟨1, _, getNextEvents_ahead hahead⟩
    · obtain ⟨k, hk⟩ := exists_firstAhead hsun c.cf.day.eventDuration now
      exact ⟨k + 1, _, getNextEvents_of_firstAhead (not_lt.mp hahead) hk⟩
  obtain ⟨fuel, c', hrun⟩ := hends
  refine ⟨fuel, c', fun n hn => getNextEvents_mono hn hrun, ?_⟩
  rcases getNextEvents_cases hrun with ⟨hahead, rfl⟩ | ⟨k, hk, rfl⟩
  · refine .inl ⟨evaluate_dayEvents now c, evaluate_out now c, ?_⟩
    rw [evaluate_dayEvents]
    exact hahead
  · exact .inr ⟨k, newEvents_evaluate hdur hk⟩

/-- Both events a day later each day; the sunrise computed for a day is that of the next. -/
def lateSunrise : Calcs := fun e d => match e with
  | .sunrise => ⟨true, 110000 + 86400 * d⟩
  | .sunset => ⟨true, 60000 + 86400 * d⟩

theorem grows_lateSunrise : GrowsOrFails lateSunrise := by
  intro bound
  refine ⟨bound.toNat, ?_⟩
  intro d hd _
  change bound < 60000 + 86400 * (d : ℤ)
  omega

/-- In the evening of the first day, tomorrow's events are stored in their order. -/
theorem get_next_events_usable_evening : ∃ fuel c',
    (∀ n, fuel ≤ n → getNextEvents lateSunrise 70000 n 0 afternoon = some c') ∧
      (KeptEvents 70000 afternoon c' ∨ ∃ k : ℕ, NewEvents lateSunrise 70000 k afternoon c') :=
  get_next_events_usable grows_lateSunrise 70000 (by decide)

/-- The sunrise first tried for that day is that of the day after. -/
example : (getNextEvents lateSunrise 70000 2 0 afternoon).map (fun c => (c.st.dayEvents .sunrise,
    c.st.dayEvents .sunset)) = some (110000, 146400) := by decide +kernel

/-- The last sunset before the sun stays up. -/
def lastSunset : Calcs := fun e d => match e with
  | .sunrise => ⟨true, 30000 + 86400 * d⟩
  | .sunset => ⟨decide (d ≤ 0), 60000 + 86400 * d⟩

/-- Both events at one second before the epoch, and a day later each day. -/
def beforeEpoch : Calcs := fun _ d => ⟨true, -1 + 86400 * d⟩

theorem grows_beforeEpoch : GrowsOrFails beforeEpoch := by
  intro bound
  refine ⟨bound.toNat + 1, ?_⟩
  intro d hd _
  change bound < -1 + 86400 * (d : ℤ)
  omega

theorem ordered_beforeEpoch : Ordered beforeEpoch := by
  intro d _ _
  change -1 + 86400 * d < -1 + 86400 * (d + 1)
  omega

theorem computed_beforeEpoch (k : ℤ) : Computed beforeEpoch k := ⟨rfl, rfl, fun _ => rfl⟩

/-- A state whose sunset was a day before the epoch. -/
def earlyAfternoon : DaytimeCtx :=
  { afternoon with st := { afternoon.st with dayEvents := fun _ => -90000 } }

/-- Today's sunset is over and was computed; tomorrow's fails, and is stored as such. And 50000
seconds before the epoch, a sunset computed at -1 is taken for a failed one and replaced. -/
theorem get_next_events_last_sunset : (¬ ∀ (sun : Calcs) (now : ℤ) (c : DaytimeCtx),
    GrowsOrFails sun → 0 < c.cf.day.eventDuration →
    ∃ fuel c', (∀ n, fuel ≤ n → getNextEvents sun now n 0 c = some c') ∧
      ((sun .sunset 0).ok = false ∨ now + 1 < c'.st.dayEvents .sunset + c.cf.day.eventDuration)) ∧
    ¬ ∀ (sun : Calcs) (now : ℤ) (c : DaytimeCtx),
    GrowsOrFails sun → 0 < c.cf.day.eventDuration → Ordered sun → (∀ k, Computed sun k) →
    c.st.dayEvents .sunset + c.cf.day.eventDuration ≤ now + 1 →
    ∃ fuel c', (∀ n, fuel ≤ n → getNextEvents sun now n 0 c = some c') ∧
      c'.st.dayEvents .sunrise ≤ c'.st.dayEvents .sunset := by
  constructor <;> intro h
  · have hgrows : GrowsOrFails lastSunset := by
      intro bound
      refine ⟨1, ?_⟩
      intro d hd hok
      have hle : (d : ℤ) ≤ 0 := of_decide_eq_true hok
      omega
    obtain ⟨fuel, c', hrun, htoday⟩ := h lastSunset 70000 afternoon hgrows (by decide)
    have htwo : (getNextEvents lastSunset 70000 2 0 afternoon).map
        (fun c => c.st.dayEvents .sunset) = some (-1) := by decide +kernel
    obtain ⟨c₂, hc₂, hset⟩ := Option.map_eq_some_iff.mp htwo
    -- the run with fuel for two days is the one that ends
    have hsame := (hrun _ (Nat.le_add_right fuel 2)).symm.trans
      (getNextEvents_mono (Nat.le_add_left 2 fuel) hc₂)
    rw [Option.some.inj hsame, hset] at htoday
    revert htoday
    decide
  · obtain ⟨fuel, c', hrun, hle⟩ := h beforeEpoch (-50000) earlyAfternoon grows_beforeEpoch
      (by decide) ordered_beforeEpoch computed_beforeEpoch (by decide)
    have hone : (getNextEvents beforeEpoch (-50000) 1 0 earlyAfternoon).map
        (fun c => (c.st.dayEvents .sunrise, c.st.dayEvents .sunset)) = some (-1, -6800) := by
      decide +kernel
    obtain ⟨c₁, hc₁, hset⟩ := Option.map_eq_some_iff.mp hone
    obtain ⟨hrise, hsunset⟩ := Prod.mk.inj hset
    have hsame := (hrun _ (Nat.le_add_right fuel 1)).symm.trans
      (getNextEvents_mono (Nat.le_add_left 1 fuel) hc₁)
    rw [Option.some.inj hsame, hrise, hsunset] at hle
    revert hle
    decide

end Clight.Daytime
