import Clight.DaytimeEvents
import Mathlib.Analysis.Real.Pi.Bounds
import Mathlib.Analysis.SpecialFunctions.Trigonometric.Arctan
import Mathlib.Analysis.SpecialFunctions.Trigonometric.Bounds

/-! Sunrise and sunset of a place (my_math.c), with exact trigonometry: the cosine of the
sun's hour angle, and what becomes of one that no angle has. -/
namespace Clight

/-- The fields of a `struct tm` that a conversion reads. -/
structure Tm where
  sec : ℤ
  min : ℤ
  hour : ℤ
  mday : ℤ
  mon : ℤ
  year : ℤ
  yday : ℤ
  isdst : ℤ

/-- The calendar of the C library, in the time zone in force; `strptime` reads "%R". -/
structure Calendar where
  localtime : ℤ → Option Tm
  strptime : EventTime → Tm → Tm
  mktime : Tm → ℤ
  timegm : Tm → ℤ

/-- Latitude and longitude in degrees; neither of the poles. -/
structure Place where
  lat : Set.Ioo (-90 : ℝ) 90
  lng : ℝ

/-- How a computation ends: with what it returns and leaves in the time it was given, or by
asking acos for the angle of a number that is no cosine. -/
inductive SunCalc
  | returned (r : ℤ) (tt : ℤ)
  | domain

/-- What get_next_events sees of it; `junk` stands for what comes of a NaN. -/
def SunCalc.toCalc (junk : Calc) : SunCalc → Calc
  | .returned r tt => ⟨r = 0, tt⟩
  | .domain => junk

noncomputable section

def zenith : ℝ := -0.83

def degToRad (angleDeg : ℝ) : ℝ := Real.pi * angleDeg / 180

def radToDeg (angleRad : ℝ) : ℝ := 180 * angleRad / Real.pi

def toHours (rad : ℝ) : ℝ := rad / 15

def truncReal (x : ℝ) : ℤ := if 0 ≤ x then ⌊x⌋ else ⌈x⌉

def fmod (x y : ℝ) : ℝ := x - truncReal (x / y) * y

namespace Sun

/-- `t`: the day of the year at which an event is looked for. -/
def approxTime (lng : ℝ) (event : DayEvent) (yday : ℤ) : ℝ :=
  match event with
  | .sunrise => yday + (6 - toHours lng) / 24
  | .sunset => yday + (18 - toHours lng) / 24

/-- `M`. -/
def meanAnomaly (t : ℝ) : ℝ := 0.9856 * t - 3.289

/-- `L` before it is reduced. -/
def longitude (t : ℝ) : ℝ :=
  meanAnomaly t + 1.916 * Real.sin (degToRad (meanAnomaly t)) +
    0.020 * Real.sin (2 * degToRad (meanAnomaly t)) + 282.634

/-- `L`. -/
def trueLongitude (t : ℝ) : ℝ := fmod (longitude t) 360

/-- `RA`, in the quadrant of `L`. -/
def rightAscension (L : ℝ) : ℝ :=
  let RA := fmod (radToDeg (Real.arctan (0.91764 * Real.tan (degToRad L)))) 360
  RA + (⌊L / 90⌋ * 90 - ⌊RA / 90⌋ * 90)

def sinDec (L : ℝ) : ℝ := 0.39782 * Real.sin (degToRad L)

def cosH (lat L : ℝ) : ℝ :=
  Real.sin (degToRad zenith) - (sinDec L * Real.sin (degToRad lat)) /
    (Real.cos (Real.arcsin (sinDec L)) * Real.cos (degToRad lat))

/-- `UT`, once the hour angle is known. -/
def universalTime (lng : ℝ) (event : DayEvent) (t cosH : ℝ) : ℝ :=
  let H := toHours (match event with
    | .sunrise => 360 - radToDeg (Real.arccos cosH)
    | .sunset => radToDeg (Real.arccos cosH))
  let T := H + toHours (rightAscension (trueLongitude t)) - 0.06571 * t - 6.622
  fmod (24 + fmod (T - toHours lng) 24) 24

/-- The day that is asked for. -/
def shiftDay (dayshift : ℤ) (timeinfo : Tm) : Tm :=
  { timeinfo with
    yday := timeinfo.yday + dayshift
    mday := timeinfo.mday + dayshift
    sec := 0 }

open Classical in
/-- calculate_sunrise_sunset at the time `now`. -/
def calculateSunriseSunset (k : Calendar) (cf : DaytimeConf) (p : Place) (now : ℤ)
    (event : DayEvent) (dayshift : ℤ) : SunCalc :=
  match k.localtime now with
  | none => .returned (-1) now
  | some timeinfo =>
    let timeinfo := shiftDay dayshift timeinfo
    if (cf.dayEvents event).1 ≠ [] then
      .returned 0 (k.mktime (k.strptime (cf.dayEvents event) timeinfo))
    else
      let t := approxTime p.lng event timeinfo.yday
      let c := cosH p.lat (trueLongitude t)
      if 1 < c ∧ event = .sunrise ∨ c < -1 ∧ event = .sunset then .returned (-2) now
      else if c ∉ Set.Icc (-1) 1 then .domain
      else
        let UT := universalTime p.lng event t c
        let hours := truncReal UT
        let tt := k.timegm { timeinfo with
          hour := hours
          min := truncReal ((UT - hours) * 60) }
        .returned (if tt = -1 then -1 else 0) tt

/-! ### The geometry -/

theorem sin_degToRad_fmod (x : ℝ) : Real.sin (degToRad (fmod x 360)) = Real.sin (degToRad x) := by
  have hturns : degToRad (fmod x 360) = degToRad x - truncReal (x / 360) * (2 * Real.pi) := by
    unfold degToRad fmod
    ring
  rw [hturns]
  exact Real.sin_sub_int_mul_two_pi _ _

/-- The sun's declination. -/
def declination (t : ℝ) : ℝ := Real.arcsin (sinDec (longitude t))

theorem sinDec_mem (L : ℝ) : sinDec L ∈ Set.Icc (-1 : ℝ) 1 := by
  have hlo := Real.neg_one_le_sin (degToRad L)
  have hhi := Real.sin_le_one (degToRad L)
  unfold sinDec
  constructor <;> linarith

theorem tan_declination (t : ℝ) : Real.tan (declination t) =
    sinDec (longitude t) / Real.cos (Real.arcsin (sinDec (longitude t))) := by
  rw [declination, Real.tan_eq_sin_div_cos, Real.sin_arcsin' (sinDec_mem _)]

theorem cosH_eq (lat t : ℝ) : cosH lat (trueLongitude t) =
    Real.sin (degToRad zenith) - Real.tan (declination t) * Real.tan (degToRad lat) := by
  have hdec : sinDec (trueLongitude t) = sinDec (longitude t) := by
    rw [sinDec, trueLongitude, sin_degToRad_fmod, sinDec]
  rw [cosH, hdec, tan_declination, Real.tan_eq_sin_div_cos, mul_div_mul_comm]

/-- The side that the guard leaves out: at the time tried for the sunrise the sun does not stay
up all day, at that of the sunset it does not stay down. -/
def Guarded (lat : ℝ) (event : DayEvent) (t : ℝ) : Prop :=
  match event with
  | .sunrise => Real.tan (declination t) * Real.tan (degToRad lat) ≤ 1 + Real.sin (degToRad zenith)
  | .sunset => Real.sin (degToRad zenith) - 1 ≤ Real.tan (declination t) * Real.tan (degToRad lat)

theorem guarded_iff (lat : ℝ) (event : DayEvent) (t : ℝ) : Guarded lat event t ↔
    (cosH lat (trueLongitude t) ∉ Set.Icc (-1 : ℝ) 1 →
      1 < cosH lat (trueLongitude t) ∧ event = .sunrise ∨
        cosH lat (trueLongitude t) < -1 ∧ event = .sunset) := by
  have hsides : cosH lat (trueLongitude t) ∉ Set.Icc (-1 : ℝ) 1 ↔
      cosH lat (trueLongitude t) < -1 ∨ 1 < cosH lat (trueLongitude t) := by
    rw [Set.mem_Icc, not_and_or, not_le, not_le]
  have hcos := cosH_eq lat t
  unfold Guarded
  rw [hsides]
  cases event with
  | sunrise =>
    simp only [and_true, reduceCtorEq, and_false, or_false]
    constructor
    · intro h hout
      apply hout.resolve_left
      linarith
    · intro h
      by_contra hup
      have hlow : cosH lat (trueLongitude t) < -1 := by linarith
      have hhigh := h (.inl hlow)
      linarith
  | sunset =>
    simp only [and_true, reduceCtorEq, and_false, false_or]
    constructor
    · intro h hout
      apply hout.resolve_right
      linarith
    · intro h
      by_contra hdown
      have hhigh : 1 < cosH lat (trueLongitude t) := by linarith
      have hlow := h (.inr hhigh)
      linarith

/-! ### The computation -/

/-- The cosine that a computation of an event, on this day of the year, comes to. -/
def hourCosine (p : Place) (event : DayEvent) (yday : ℤ) : ℝ :=
  cosH p.lat (trueLongitude (approxTime p.lng event yday))

/-- No sunrise or sunset: at the time that a computation of `e` reads, `d` days on, the hour
angle has a cosine that is none. -/
def Outside (k : Calendar) (p : Place) (time : ℤ) (e : DayEvent) (d : ℤ) : Prop :=
  ∀ tm, k.localtime time = some tm → hourCosine p e (tm.yday + d) ∉ Set.Icc (-1 : ℝ) 1

section
variable {k : Calendar} {cf : DaytimeConf} {p : Place} {now : ℤ} {event : DayEvent} {dayshift : ℤ}

theorem calculate_of_none (htm : k.localtime now = none) :
    calculateSunriseSunset k cf p now event dayshift = .returned (-1) now := by
  unfold calculateSunriseSunset
  rw [htm]

theorem calculate_of_localtime {tm : Tm} (hunset : (cf.dayEvents event).1 = [])
    (htm : k.localtime now = some tm) :
    (calculateSunriseSunset k cf p now event dayshift = .domain ↔
      ¬Guarded p.lat event (approxTime p.lng event (tm.yday + dayshift))) ∧
    (hourCosine p event (tm.yday + dayshift) ∉ Set.Icc (-1 : ℝ) 1 →
      calculateSunriseSunset k cf p now event dayshift = .domain ∨
        calculateSunriseSunset k cf p now event dayshift = .returned (-2) now) := by
  have hyday : (shiftDay dayshift tm).yday = tm.yday + dayshift := rfl
  rw [guarded_iff]
  unfold calculateSunriseSunset hourCosine
  simp only [htm, hunset, ne_eq, not_true_eq_false, if_false, hyday]
  generalize cosH p.lat (trueLongitude (approxTime p.lng event (tm.yday + dayshift))) = c
  by_cases hguard : 1 < c ∧ event = .sunrise ∨ c < -1 ∧ event = .sunset
  · rw [if_pos hguard]
    exact ⟨iff_of_false nofun fun h => h fun _ => hguard, fun _ => .inr rfl⟩
  · rw [if_neg hguard]
    by_cases hout : c ∉ Set.Icc (-1 : ℝ) 1
    · rw [if_pos hout]
      exact ⟨iff_of_true rfl fun h => hguard (h hout), fun _ => .inl rfl⟩
    · rw [if_neg hout]
      exact ⟨iff_of_false nofun fun h => h fun hout' => absurd hout' hout, fun h => absurd h hout⟩

theorem ne_domain_of_guarded (hunset : (cf.dayEvents event).1 = [])
    (h : ∀ tm, k.localtime now = some tm →
      Guarded p.lat event (approxTime p.lng event (tm.yday + dayshift))) :
    calculateSunriseSunset k cf p now event dayshift ≠ .domain := by
  cases htm : k.localtime now with
  | none =>
    rw [calculate_of_none htm]
    exact nofun
  | some tm =>
    intro hdom
    exact (calculate_of_localtime hunset htm).1.mp hdom (h tm htm)

/-- Where acos is not asked for it, an angle that there is not makes the computation fail. -/
theorem fails_of_outside (hunset : (cf.dayEvents event).1 = [])
    (h : ∀ tm, k.localtime now = some tm →
      Guarded p.lat event (approxTime p.lng event (tm.yday + dayshift)))
    (hout : Outside k p now event dayshift) :
    ∃ r tt, r ≠ 0 ∧ calculateSunriseSunset k cf p now event dayshift = .returned r tt := by
  have hdomain := ne_domain_of_guarded hunset h
  cases htm : k.localtime now with
  | none => exact ⟨-1, now, by decide, calculate_of_none htm⟩
  | some tm =>
    have hends := (calculate_of_localtime hunset htm).2 (hout tm htm)
    exact ⟨-2, now, by decide, hends.resolve_left hdomain⟩

end

/-- The computations of a configuration at a place; each one reads the time for itself. -/
def sunCalcs (k : Calendar) (cf : DaytimeConf) (p : Place) (times : DayEvent → ℤ → ℤ)
    (junk : Calcs) : Calcs :=
  fun e d => (calculateSunriseSunset k cf p (times e d) e d).toCalc (junk e d)

/-- acos is only asked for angles that there are, a computation without one fails, and when
both do get_next_events falls back on a sunset 12 hours from now. -/
structure PolarReported (k : Calendar) (cf : DaytimeConf) (p : Place) (times : DayEvent → ℤ → ℤ)
    (d : ℤ) : Prop where
  domain : ∀ e, (cf.dayEvents e).1 = [] →
    calculateSunriseSunset k cf p (times e d) e d ≠ .domain
  failure : ∀ e, (cf.dayEvents e).1 = [] → Outside k p (times e d) e d →
    ∃ r tt, r ≠ 0 ∧ calculateSunriseSunset k cf p (times e d) e d = .returned r tt
  fallback : (∀ e, (cf.dayEvents e).1 = [] ∧ Outside k p (times e d) e d) →
    ∀ (junk : Calcs) (now fuel : ℕ) (c : DaytimeCtx), c.cf.day = cf →
      c.st.dayEvents .sunset + cf.eventDuration ≤ now + 1 →
      ∃ c', Daytime.getNextEvents (sunCalcs k cf p times junk) now (fuel + 1) d c = some c' ∧
        c'.st.dayEvents .sunset = now + 12 * 60 * 60 ∧ c'.st.dayTime = some .day

/-- Polar days and nights are reported exactly where the sun, at the time tried for its rising,
does not stay up all day and, at the time tried for its setting, does not stay down. -/
theorem polar_reported_iff (k : Calendar) (cf : DaytimeConf) (p : Place) (times : DayEvent → ℤ → ℤ)
    (d : ℤ) : PolarReported k cf p times d ↔
      ∀ e tm, (cf.dayEvents e).1 = [] → k.localtime (times e d) = some tm →
        Guarded p.lat e (approxTime p.lng e (tm.yday + d)) := by
  constructor
  · intro h e tm hunset htm
    by_contra hmissed
    exact h.domain e hunset ((calculate_of_localtime hunset htm).1.mpr hmissed)
  · intro h
    have hfailure : ∀ e, (cf.dayEvents e).1 = [] → Outside k p (times e d) e d →
        ∃ r tt, r ≠ 0 ∧ calculateSunriseSunset k cf p (times e d) e d = .returned r tt := by
      intro e hunset hout
      exact fails_of_outside hunset (fun tm => h e tm hunset) hout
    refine ⟨fun e hunset => ne_domain_of_guarded hunset fun tm => h e tm hunset, hfailure, ?_⟩
    intro hboth junk now fuel c hcf hover
    have hfail : ∀ e, (sunCalcs k cf p times junk e d).ok = false := by
      intro e
      obtain ⟨r, tt, hr, hcalc⟩ := hfailure e (hboth e).1 (hboth e).2
      rw [sunCalcs, hcalc]
      exact decide_eq_false hr
    rw [← hcf] at hover
    exact Daytime.getNextEvents_failed (Int.natCast_nonneg now) hfail hover fuel

/-- Near the summer solstice the declination is that of the northern tropic. -/
theorem tan_declination_solstice {t : ℝ} (ht : |longitude t - 450| ≤ 3) :
    0.39 ≤ Real.tan (declination t) := by
  have hangle : |degToRad (longitude t - 450)| ≤ 1 / 15 := by
    have hpi := Real.pi_pos
    calc |degToRad (longitude t - 450)|
        = Real.pi * |longitude t - 450| / 180 := by
          rw [degToRad, abs_div, abs_mul, abs_of_pos hpi, abs_of_pos (by norm_num : (0 : ℝ) < 180)]
      _ ≤ 4 * 3 / 180 := by gcongr; exact Real.pi_le_four
      _ = 1 / 15 := by norm_num
  -- 450 degrees are a turn and a quarter
  have hturn : degToRad (longitude t) = degToRad (longitude t - 450) + Real.pi / 2 + 2 * Real.pi := by
    unfold degToRad
    ring
  have hsin : 0.99 ≤ Real.sin (degToRad (longitude t)) := by
    rw [hturn, Real.sin_add_two_pi, Real.sin_add_pi_div_two]
    have hcos := Real.one_sub_sq_div_two_le_cos (x := degToRad (longitude t - 450))
    have hsq := sq_le_sq' (neg_le_of_abs_le hangle) (le_of_abs_le hangle)
    linarith
  have hlow : 0.39 ≤ sinDec (longitude t) := by
    unfold sinDec
    linarith
  have hhigh : sinDec (longitude t) < 1 := by
    have hone := Real.sin_le_one (degToRad (longitude t))
    unfold sinDec
    linarith
  have hcos : 0 < Real.cos (Real.arcsin (sinDec (longitude t))) := by
    rw [Real.cos_arcsin, Real.sqrt_pos]
    nlinarith
  rw [tan_declination, le_div_iff₀ hcos]
  have hone := Real.cos_le_one (Real.arcsin (sinDec (longitude t)))
  linarith

/-- A degree from the pole. -/
theorem six_le_tan : 6 ≤ Real.tan (degToRad 89) := by
  have hangle : degToRad 89 = Real.pi / 2 - Real.pi / 180 := by
    unfold degToRad
    ring
  have hpi := Real.pi_le_four
  have hpos : 0 < Real.pi / 180 := by positivity
  have hsin : 0 < Real.sin (Real.pi / 180) := Real.sin_pos_of_pos_of_lt_pi hpos (by linarith)
  have hlt := Real.sin_lt hpos
  have hcos := Real.one_sub_sq_div_two_le_cos (x := Real.pi / 180)
  have hsq : (Real.pi / 180) ^ 2 ≤ (1 / 45) ^ 2 := by
    apply pow_le_pow_left₀ hpos.le
    linarith
  rw [hangle, Real.tan_eq_sin_div_cos, Real.sin_pi_div_two_sub, Real.cos_pi_div_two_sub,
    le_div_iff₀ hsin]
  linarith

/-- Noon of 22 June 2026, in UTC. -/
def solstice : Tm where
  sec := 0
  min := 0
  hour := 12
  mday := 22
  mon := 5
  year := 126
  yday := 172
  isdst := 0

/-- The calendar of that instant. -/
def solsticeCalendar : Calendar where
  localtime := fun _ => some solstice
  strptime := fun _ tm => tm
  mktime := fun _ => 1782129600
  timegm := fun _ => 1782129600

def nearPole : Place where
  lat := ⟨89, by norm_num⟩
  lng := 0

/-- On a polar day the sunrise is computed from the angle of a cosine below -1. -/
theorem polar_day_computed : ¬ ∀ (k : Calendar) (cf : DaytimeConf) (p : Place)
    (times : DayEvent → ℤ → ℤ) (d : ℤ), PolarReported k cf p times d := by
  intro h
  have hpolar := h solsticeCalendar Conf.default.day nearPole (fun _ _ => 1782129600) 0
  have htime : approxTime nearPole.lng .sunrise (solstice.yday + 0) = 172.25 := by
    norm_num [approxTime, nearPole, solstice, toHours]
  have hlong : |longitude 172.25 - 450| ≤ 3 := by
    have hsum : longitude 172.25 - 450 = 1.916 * Real.sin (degToRad (meanAnomaly 172.25)) +
        0.020 * Real.sin (2 * degToRad (meanAnomaly 172.25)) - 0.8854 := by
      norm_num [longitude, meanAnomaly]
      ring
    have hs := Real.abs_sin_le_one (degToRad (meanAnomaly 172.25))
    have hs' := Real.abs_sin_le_one (2 * degToRad (meanAnomaly 172.25))
    rw [abs_le] at hs hs' ⊢
    constructor <;> linarith
  have htm : solsticeCalendar.localtime 1782129600 = some solstice := rfl
  apply hpolar.domain .sunrise rfl
  apply (calculate_of_localtime rfl htm).1.mpr
  rw [htime]
  -- the sun stays up: the product of the tangents is above 2
  intro hguarded
  have hle : Real.tan (declination 172.25) * Real.tan (degToRad 89) ≤
      1 + Real.sin (degToRad zenith) := hguarded
  have hprod : 2 < Real.tan (declination 172.25) * Real.tan (degToRad 89) := by
    have hdec := tan_declination_solstice hlong
    calc (2 : ℝ) < 0.39 * 6 := by norm_num
      _ ≤ Real.tan (declination 172.25) * Real.tan (degToRad 89) :=
        mul_le_mul hdec six_le_tan (by norm_num) (by linarith)
  have hone := Real.sin_le_one (degToRad zenith)
  linarith

end Sun
end
end Clight
