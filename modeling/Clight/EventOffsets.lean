import Clight.DaytimeAlarm

/-! The offsets of sunrise and sunset: they shift the alarm, and should shift the whole event. -/
namespace Clight.Daytime

/-- A boundary at `b` and the same one shifted by `o` have `n` between them. -/
def Between (b o n : ℤ) : Prop := b ≤ n ∧ n < b + o ∨ b + o ≤ n ∧ n < b

instance (b o n : ℤ) : Decidable (Between b o n) := inferInstanceAs (Decidable (_ ∨ _))

/-- The events at their offset times, with no offset left. -/
def shifted (c : DaytimeCtx) : DaytimeCtx :=
  { c with
    st := { c.st with dayEvents := fun e => c.st.dayEvents e + c.cf.day.eventsOs e }
    cf := { c.cf with day := { c.cf.day with eventsOs := fun _ => 0 } } }

/-- The same daytime, next event and event state. -/
structure SameEvents (c c' : DaytimeCtx) : Prop where
  dayTime : c.st.dayTime = c'.st.dayTime
  nextEvent : c.st.nextEvent = c'.st.nextEvent
  inEvent : c.st.inEvent = c'.st.inEvent

/-- At the instant `n` no offset is felt: it is not between the end of the sunrise's window and
its shifted end, it is in the day when it is in the shifted day, and the same holds of the
window of the event that comes next. -/
structure OffsetsUnfelt (ev os : DayEvent → ℤ) (dur n : ℤ) : Prop where
  next : ¬Between (ev .sunrise + dur) (os .sunrise) n
  day : ev .sunrise ≤ n ∧ n ≤ ev .sunset ↔
    ev .sunrise + os .sunrise ≤ n ∧ n ≤ ev .sunset + os .sunset
  sunrise : n < ev .sunrise + dur → ¬Between (ev .sunrise - dur) (os .sunrise) n
  -- a shift of more than the whole window passes both its ends
  sunset : ev .sunrise + dur ≤ n →
    (Between (ev .sunset - dur) (os .sunset) n ↔ Between (ev .sunset + dur + 1) (os .sunset) n)

theorem evaluate_same_iff (now : ℤ) (c c' : DaytimeCtx) :
    SameEvents (evaluate now c) (evaluate now c') ↔
      (nightAt now c.st.dayEvents ↔ nightAt now c'.st.dayEvents) ∧
      nextAt c.cf.day.eventDuration now c.st.dayEvents =
        nextAt c'.cf.day.eventDuration now c'.st.dayEvents ∧
      (inEventAt c.cf.day.eventDuration now c.st.dayEvents ↔
        inEventAt c'.cf.day.eventDuration now c'.st.dayEvents) := by
  constructor
  · intro h
    refine ⟨(evaluate_dayTime_eq_iff now now c c').mp h.dayTime, ?_,
      (evaluate_inEvent_eq_iff now now c c').mp h.inEvent⟩
    have hnext := h.nextEvent
    rwa [evaluate_nextEvent, evaluate_nextEvent, Option.some_inj] at hnext
  · rintro ⟨hnight, hnext, hevent⟩
    refine ⟨(evaluate_dayTime_eq_iff now now c c').mpr hnight, ?_,
      (evaluate_inEvent_eq_iff now now c c').mpr hevent⟩
    rw [evaluate_nextEvent, evaluate_nextEvent, hnext]

section
variable {ev os : DayEvent → ℤ} {dur now : ℤ}

theorem night_shifted_iff : (nightAt now ev ↔ nightAt now fun e => ev e + os e) ↔
    (ev .sunrise ≤ now + 1 ∧ now + 1 ≤ ev .sunset ↔
      ev .sunrise + os .sunrise ≤ now + 1 ∧ now + 1 ≤ ev .sunset + os .sunset) := by
  simp only [nightAt]
  omega

theorem next_shifted_iff : nextAt dur now ev = nextAt dur now (fun e => ev e + os e) ↔
    ¬Between (ev .sunrise + dur) (os .sunrise) (now + 1) := by
  unfold nextAt Between
  dsimp only
  split_ifs with h h'
  · exact iff_of_true rfl (by omega)
  · exact iff_of_false nofun (by omega)
  · exact iff_of_false nofun (by omega)
  · exact iff_of_true rfl (by omega)

/-- With the same event ahead, only the ends of its window tell. -/
theorem window_shifted_iff (hdur : 0 < dur)
    (hnext : nextAt dur now ev = nextAt dur now fun e => ev e + os e) :
    (inEventAt dur now ev ↔ inEventAt dur now fun e => ev e + os e) ↔
      (now + 1 < ev .sunrise + dur → ¬Between (ev .sunrise - dur) (os .sunrise) (now + 1)) ∧
      (ev .sunrise + dur ≤ now + 1 → (Between (ev .sunset - dur) (os .sunset) (now + 1) ↔
        Between (ev .sunset + dur + 1) (os .sunset) (now + 1))) := by
  have hbefore := next_shifted_iff.mp hnext
  unfold inEventAt
  rw [← hnext, nextAt]
  simp only [Between, abs_le] at hbefore ⊢
  split_ifs with h
  · omega
  · omega

end

/-- The classification is that of the shifted events exactly while no offset is felt. -/
theorem offsets_shift_event_iff (now : ℤ) {c : DaytimeCtx} (hdur : 0 < c.cf.day.eventDuration) :
    SameEvents (evaluate now c) (evaluate now (shifted c)) ↔
      OffsetsUnfelt c.st.dayEvents c.cf.day.eventsOs c.cf.day.eventDuration (now + 1) := by
  have hsame := evaluate_same_iff now c (shifted c)
  constructor
  · intro h
    obtain ⟨hnight, hnext, hevent⟩ := hsame.mp h
    obtain ⟨hrise, hset⟩ := (window_shifted_iff hdur hnext).mp hevent
    exact ⟨next_shifted_iff.mp hnext, night_shifted_iff.mp hnight, hrise, hset⟩
  · intro h
    have hnext := next_shifted_iff.mpr h.next
    exact hsame.mpr ⟨night_shifted_iff.mpr h.day, hnext,
      (window_shifted_iff hdur hnext).mpr ⟨h.sunrise, h.sunset⟩⟩

/-- On a day whose sunrise comes first, offsets that are never felt are no offsets. -/
theorem offsets_never_felt_iff {ev os : DayEvent → ℤ} {dur : ℤ} (hdur : 0 < dur)
    (hday : ev .sunrise ≤ ev .sunset) : (∀ n, OffsetsUnfelt ev os dur n) ↔ ∀ e, os e = 0 := by
  constructor
  · intro h
    have hrise : os .sunrise = 0 := by
      by_contra hne
      rcases lt_or_gt_of_ne hne with hneg | hpos
      · exact (h (ev .sunrise + dur + os .sunrise)).next (.inr ⟨le_rfl, by omega⟩)
      · exact (h (ev .sunrise + dur)).next (.inl ⟨le_rfl, by omega⟩)
    have hset : os .sunset = 0 := by
      by_contra hne
      -- the end of the window, or the shifted one, whichever is later
      rcases lt_or_gt_of_ne hne with hneg | hpos
      · have hwindow := (h (ev .sunset + dur)).sunset (by omega)
        unfold Between at hwindow
        omega
      · have hwindow := (h (ev .sunset + dur + os .sunset)).sunset (by omega)
        unfold Between at hwindow
        omega
    intro e
    cases e with
    | sunrise => exact hrise
    | sunset => exact hset
  · intro h n
    refine ⟨?_, ?_, ?_, ?_⟩
    · simp only [Between, h]
      omega
    · simp only [h, add_zero]
    · simp only [Between, h]
      omega
    · simp only [Between, h]
      omega

/-- The sunset is to be managed ten minutes after the real one. -/
def delayedSunset : DaytimeCtx :=
  { afternoon with
    cf := { Conf.default with day := { Conf.default.day with
      eventsOs := fun e => if e = .sunset then 600 else 0 } } }

/-- At noon the offset is not felt. -/
theorem offsets_shift_event_noon :
    SameEvents (evaluate 40000 delayedSunset) (evaluate 40000 (shifted delayedSunset)) := by
  apply (offsets_shift_event_iff 40000 (by decide)).mpr
  constructor <;> decide +kernel

/-- 100 seconds after the real sunset it is night, and the event of the sunset is past its
middle, ten minutes before the time that was asked for. -/
theorem offsets_move_alarm_only : ¬ ∀ (now : ℤ) (c : DaytimeCtx), 0 < c.cf.day.eventDuration →
    SameEvents (evaluate now c) (evaluate now (shifted c)) := by
  intro h
  have hday := (h 60100 delayedSunset (by decide)).dayTime
  revert hday
  decide +kernel

end Clight.Daytime
