import Clight.CurveRange
import Clight.Machine

/-! The curves of single monitors on the bus (backlight.c): what List reports, what Set accepts of it,
and what is left of the map after a call. The arrays are doubles, which may be NaN. -/
namespace Clight

/-- The configuration files are read one after another, over the defaults. -/
def loadConfigs (roots : List SettingTree) : Conf :=
  roots.foldl (fun cf root => readConfig SettingTree.libconfig root cf) Conf.default

/-- The command line changes no curve. -/
structure SameCurves (cf cf' : Conf) : Prop where
  defaultCurve : cf'.sens.defaultCurve = cf.sens.defaultCurve
  specificCurves : cf'.sens.specificCurves = cf.sens.specificCurves
  kbdCurve : cf'.kbd.curve = cf.kbd.curve

/-- The map of the curves of single monitors, as the bus sees it: ids and points. -/
abbrev Overrides := AList fun _ : MonId => AcState → List Double

def doublePoints (curve : AcState → Curve) (ac : AcState) : List Double :=
  (curve ac).points.map Double.num

/-- The curves of a configuration, whose points are numbers. -/
def SensorConf.overrides (sens : SensorConf) : Overrides where
  entries := sens.specificCurves.entries.map (.map id fun _ => doublePoints)
  nodupKeys := sens.specificCurves.nodupKeys.map₂ _ _

/-- method_list_mon_override: an id and both arrays for each entry. -/
def methodListMonOverride (curves : Overrides) : List (MonId × List Double × List Double) :=
  curves.entries.map fun e => (e.1, e.2 .onAc, e.2 .onBattery)

/-- A Set call. -/
structure OverrideCall where
  sn : MonId
  acPoints : List Double
  battPoints : List Double

namespace OverrideCall

def givenPoints (call : OverrideCall) : AcState → List Double
  | .onAc => call.acPoints
  | .onBattery => call.battPoints

/-- method_set_mon_override on the ids and points of the map. -/
def set (call : OverrideCall) (curves : Overrides) : Except OverrideErr Overrides :=
  if (overridePointsOk call.acPoints && overridePointsOk call.battPoints) = true ∧
      call.acPoints.length = call.battPoints.length then
    if 0 < call.acPoints.length then .ok (curves.insert call.sn call.givenPoints)
    else if call.sn ∈ curves then .ok (curves.erase call.sn)
    else .error .enoent
  else .error .einval

/-- What a Set call leaves, whatever it replies. -/
def apply (call : OverrideCall) (curves : Overrides) : Overrides :=
  match call.set curves with
  | .ok curves => curves
  | .error _ => curves

def Accepted (call : OverrideCall) (curves : Overrides) : Prop := ∃ curves', call.set curves = .ok curves'

/-- Points of a curve. -/
def IsCurve (pts : List Double) : Prop :=
  (0 < pts.length ∧ pts.length ≤ maxSizePoints) ∧ ∀ p ∈ pts, p.Fraction

instance (pts : List Double) : Decidable (IsCurve pts) := inferInstanceAs (Decidable (_ ∧ _))

/-- Both arrays are curves. -/
def Replaces (call : OverrideCall) : Prop := IsCurve call.acPoints ∧ IsCurve call.battPoints

instance (call : OverrideCall) : Decidable call.Replaces := inferInstanceAs (Decidable (_ ∧ _))

/-- Both arrays are empty, for a monitor that has curves. -/
def Removes (call : OverrideCall) (curves : Overrides) : Prop :=
  (call.acPoints = [] ∧ call.battPoints = []) ∧ call.sn ∈ curves

/-- Two arrays of one length that hold a NaN, and pass the check of the points. -/
def HidesNaN (call : OverrideCall) : Prop :=
  call.acPoints.length = call.battPoints.length ∧
    (overridePointsOk call.acPoints = true ∧ overridePointsOk call.battPoints = true) ∧
    ∃ ac, ∃ p ∈ call.givenPoints ac, p.isNaN = true

/-- A Set call does what it is for. -/
structure Right (call : OverrideCall) (curves : Overrides) : Prop where
  accepted : call.Accepted curves ↔ call.Replaces ∨ call.Removes curves
  /-- Curves are replaced, or added, for this monitor only. -/
  replaces : call.Replaces → ∀ id, (call.apply curves).lookup id =
    if id = call.sn then some call.givenPoints else curves.lookup id
  removes : call.Removes curves → ∀ id, (call.apply curves).lookup id =
    if id = call.sn then none else curves.lookup id
  rejected : ¬ call.Accepted curves → call.apply curves = curves
  /-- What List reports can be set back. -/
  listed : (call.sn, call.acPoints, call.battPoints) ∈ methodListMonOverride curves →
    call.Accepted curves ∧ ∀ id, (call.apply curves).lookup id = curves.lookup id

end OverrideCall

/-- BACKLIGHT with its API: the curves were loaded, checked and fitted, and calls of Set follow. -/
def overrideRun (fit : Fit) : Machine Overrides OverrideCall where
  init s := ∃ (roots : List SettingTree) (cf : Conf) (f : Option Features),
    SameCurves (loadConfigs roots) cf ∧ cf.wizard = false ∧ (checkConf f cf).bl.disabled = false ∧
      s = (initCurves fit (checkConf f cf)).sens.overrides
  next s call := some (call.apply s)

namespace OverrideCall

variable {fit : Fit} {call : OverrideCall} {curves : Overrides}

/-! ### Numbers only -/

theorem overridePointsOk_numbers (pts : List ℚ) :
    overridePointsOk (pts.map Double.num) = overridePointsOk pts :=
  overridePointsOk_map Double.pointOk_num pts

theorem map_kerase {α β γ : Type} [DecidableEq α] (f : β → γ) (a : α) (l : List (Sigma fun _ : α => β)) :
    (List.kerase a l).map (.map id fun _ => f) =
      List.kerase a (l.map (.map id fun _ => f) : List (Sigma fun _ : α => γ)) := by
  unfold List.kerase
  rw [List.eraseP_map]
  rfl

theorem mem_overrides {sens : SensorConf} {id : MonId} :
    id ∈ sens.overrides ↔ id ∈ sens.specificCurves := by
  rw [← AList.lookup_isSome, ← AList.lookup_isSome]
  unfold AList.lookup SensorConf.overrides
  rw [List.dlookup_map₂, Option.isSome_map]

/-- On arrays of numbers, Set does to the points what it does to the curves. -/
theorem set_numbers (fit : Fit) (sn : MonId) (acPoints battPoints : List ℚ) (sens : SensorConf) :
    set ⟨sn, acPoints.map .num, battPoints.map .num⟩ sens.overrides =
      (methodSetMonOverride fit sn acPoints battPoints sens).map SensorConf.overrides := by
  unfold set methodSetMonOverride
  simp only [overridePointsOk_numbers, List.length_map, mem_overrides]
  split_ifs with hok hne hmem
  · refine congrArg Except.ok (AList.ext ?_)
    show (⟨sn, _⟩ : Sigma fun _ : MonId => AcState → List Double) :: _ = _ :: _
    refine congrArg₂ List.cons ?_ (map_kerase doublePoints sn _).symm
    refine congrArg (Sigma.mk sn) (funext fun ac => ?_)
    cases ac <;> rfl
  · exact congrArg Except.ok (AList.ext (map_kerase doublePoints sn _).symm)
  · rfl
  · rfl

/-! ### Every way through Set -/

theorem overridePointsOk_iff {pts : List Double} : overridePointsOk pts = true ↔
    pts.length ≤ maxSizePoints ∧ ∀ p ∈ pts, pointOk p = true := by
  unfold overridePointsOk
  rw [Bool.and_eq_true, decide_eq_true_iff, List.all_eq_true]

/-- A curve is what the check lets through, NaN excepted. -/
theorem isCurve_iff {pts : List Double} : IsCurve pts ↔
    0 < pts.length ∧ overridePointsOk pts = true ∧ ∀ p ∈ pts, p.isNaN = false := by
  unfold IsCurve
  rw [overridePointsOk_iff]
  simp only [Double.fraction_iff]
  exact ⟨fun h => ⟨h.1.1, ⟨h.1.2, fun p hp => (h.2 p hp).1⟩, fun p hp => (h.2 p hp).2⟩,
    fun h => ⟨⟨h.1, h.2.1.1⟩, fun p hp => ⟨h.2.1.2 p hp, h.2.2 p hp⟩⟩⟩

variable (curves) in
theorem set_points (hok : overridePointsOk call.acPoints = true ∧ overridePointsOk call.battPoints = true)
    (hlen : call.acPoints.length = call.battPoints.length) (hne : 0 < call.acPoints.length) :
    call.set curves = .ok (curves.insert call.sn call.givenPoints) := by
  unfold set
  rw [if_pos ⟨Bool.and_eq_true_iff.mpr hok, hlen⟩, if_pos hne]

theorem set_removes (h : call.Removes curves) : call.set curves = .ok (curves.erase call.sn) := by
  obtain ⟨⟨hac, hbatt⟩, hmem⟩ := h
  unfold set
  rw [hac, hbatt, if_pos ⟨by decide, rfl⟩, if_neg (by decide), if_pos hmem]

/-- Arrays of different lengths are rejected, whatever they hold. -/
theorem set_lengths (h : call.acPoints.length ≠ call.battPoints.length) :
    call.set curves = .error .einval := by
  unfold set
  rw [if_neg fun hok => h hok.2]

/-- What is accepted passes the checks, and is stored, or removes curves. -/
theorem stored_or_removes {curves' : Overrides} (h : call.set curves = .ok curves') :
    ((overridePointsOk call.acPoints = true ∧ overridePointsOk call.battPoints = true) ∧
      call.acPoints.length = call.battPoints.length ∧ 0 < call.acPoints.length ∧
      curves' = curves.insert call.sn call.givenPoints) ∨
    call.Removes curves ∧ curves' = curves.erase call.sn := by
  unfold set at h
  split_ifs at h with hok hne hmem
  · exact .inl ⟨Bool.and_eq_true_iff.mp hok.1, hok.2, hne, (Except.ok.inj h).symm⟩
  · have hac : call.acPoints = [] := List.length_eq_zero_iff.mp (by omega)
    have hbatt : call.battPoints = [] := List.length_eq_zero_iff.mp (by omega)
    exact .inr ⟨⟨⟨hac, hbatt⟩, hmem⟩, (Except.ok.inj h).symm⟩

/-- What is accepted replaces curves or removes them, unless it holds a NaN. -/
theorem replaces_or_removes (hnan : ¬ call.HidesNaN) (h : call.Accepted curves) :
    call.Replaces ∨ call.Removes curves := by
  obtain ⟨curves', hset⟩ := h
  rcases stored_or_removes hset with ⟨hok, hlen, hne, -⟩ | ⟨hremoves, -⟩
  · have hnone (ac : AcState) : ∀ p ∈ call.givenPoints ac, p.isNaN = false := by
      intro p hp
      rw [Bool.eq_false_iff]
      exact fun hp' => hnan ⟨hlen, hok, ac, p, hp, hp'⟩
    exact .inl ⟨isCurve_iff.mpr ⟨hne, hok.1, hnone .onAc⟩,
      isCurve_iff.mpr ⟨hlen ▸ hne, hok.2, hnone .onBattery⟩⟩
  · exact .inr hremoves

theorem apply_of_set {curves' : Overrides} (h : call.set curves = .ok curves') :
    call.apply curves = curves' := by
  unfold apply
  rw [h]

theorem stored_lookup
    (hok : overridePointsOk call.acPoints = true ∧ overridePointsOk call.battPoints = true)
    (hlen : call.acPoints.length = call.battPoints.length) (hne : 0 < call.acPoints.length)
    (id : MonId) : (call.apply curves).lookup id =
      if id = call.sn then some call.givenPoints else curves.lookup id := by
  rw [apply_of_set (set_points curves hok hlen hne)]
  split_ifs with hid
  · rw [hid, AList.lookup_insert]
  · rw [AList.lookup_insert_ne hid]

theorem accepted_removes (h : call.Removes curves) (id : MonId) :
    (call.apply curves).lookup id = if id = call.sn then none else curves.lookup id := by
  rw [apply_of_set (set_removes h)]
  split_ifs with hid
  · rw [hid, AList.lookup_erase]
  · rw [AList.lookup_erase_ne hid]

theorem rejected_unchanged (h : ¬ call.Accepted curves) : call.apply curves = curves := by
  unfold apply
  split
  · next curves' hset => exact absurd ⟨curves', hset⟩ h
  · rfl

/-! ### What List reports -/

/-- Every entry of the map passes the checks of Set; one with a NaN was put there by it. -/
structure Entry (points : AcState → List Double) : Prop where
  nonempty : ∀ ac, 0 < (points ac).length
  ok : ∀ ac, overridePointsOk (points ac) = true
  sameLength : (∀ ac, ∀ p ∈ points ac, p.isNaN = false) ∨
    (points .onAc).length = (points .onBattery).length

def Entries (curves : Overrides) : Prop := ∀ id points, curves.lookup id = some points → Entry points

theorem entries_overrides {sens : SensorConf} (h : sens.Fractions) : Entries sens.overrides := by
  intro id points hlookup
  unfold AList.lookup SensorConf.overrides at hlookup
  rw [List.dlookup_map₂] at hlookup
  obtain ⟨curve, hcurve, rfl⟩ := Option.map_eq_some_iff.mp hlookup
  have hin := h.specific _ (List.of_mem_dlookup hcurve)
  refine ⟨fun ac => ?_, fun ac => ?_, .inl fun ac p hp => ?_⟩
  · unfold doublePoints
    rw [List.length_map]
    exact (curve ac).nonempty
  · unfold doublePoints
    rw [overridePointsOk_numbers]
    refine Bool.and_eq_true_iff.mpr ⟨decide_eq_true (curve ac).bounded, List.all_eq_true.mpr ?_⟩
    exact fun p hp => pointOk_iff.mpr (hin ac p hp)
  · obtain ⟨q, -, rfl⟩ := List.mem_map.mp hp
    rfl

theorem entries_apply (h : Entries curves) (call : OverrideCall) : Entries (call.apply curves) := by
  by_cases hacc : call.Accepted curves
  · obtain ⟨curves', hset⟩ := hacc
    rcases stored_or_removes hset with ⟨hok, hlen, hne, -⟩ | ⟨hremoves, -⟩
    · intro id points hlookup
      rw [stored_lookup hok hlen hne] at hlookup
      split_ifs at hlookup
      · obtain rfl := Option.some.inj hlookup
        refine ⟨fun ac => ?_, fun ac => ?_, .inr hlen⟩
        · cases ac with
          | onAc => exact hne
          | onBattery => exact hlen ▸ hne
        · cases ac with
          | onAc => exact hok.1
          | onBattery => exact hok.2
      · exact h id points hlookup
    · intro id points hlookup
      rw [accepted_removes hremoves] at hlookup
      split_ifs at hlookup
      exact h id points hlookup
  · rw [rejected_unchanged hacc]
    exact h

theorem lookup_of_listed (h : (call.sn, call.acPoints, call.battPoints) ∈ methodListMonOverride curves) :
    curves.lookup call.sn = some call.givenPoints := by
  obtain ⟨⟨id, points⟩, hmem, heq⟩ := List.mem_map.mp h
  obtain ⟨hid, hpoints⟩ := Prod.mk.inj heq
  obtain ⟨hac, hbatt⟩ := Prod.mk.inj hpoints
  have hgiven : points = call.givenPoints := by
    funext ac
    cases ac with
    | onAc => exact hac
    | onBattery => exact hbatt
  have hlookup : curves.lookup id = some points := List.mem_dlookup curves.nodupKeys hmem
  rw [← hid, hlookup, hgiven]

/-- An entry of two lengths is one that Set is for. -/
theorem Entry.replaces (h : Entry call.givenPoints)
    (hlen : call.acPoints.length ≠ call.battPoints.length) : call.Replaces := by
  have hnone := h.sameLength.resolve_right hlen
  exact ⟨isCurve_iff.mpr ⟨h.nonempty .onAc, h.ok .onAc, hnone .onAc⟩,
    isCurve_iff.mpr ⟨h.nonempty .onBattery, h.ok .onBattery, hnone .onBattery⟩⟩

/-! ### Runs -/

theorem overrideRun_entries (hs : (overrideRun fit).Reachable curves) : Entries curves := by
  refine hs.invariant ?_ ?_
  · rintro s ⟨roots, cf, f, -, -, hbl, rfl⟩
    exact entries_overrides (initCurves_fractions fit (checkConf_fractions hbl))
  · rintro s call s' hs - hn
    obtain rfl := Option.some.inj hn
    exact entries_apply hs call

variable (curves) in
theorem accepted_of_hidesNaN (h : call.HidesNaN) : call.Accepted curves ∧ ¬ call.Replaces ∧
    ¬ call.Removes curves := by
  obtain ⟨hlen, hok, ac, p, hp, hnan⟩ := h
  have hne : 0 < (call.givenPoints ac).length := List.length_pos_of_mem hp
  have hpos : 0 < call.acPoints.length := by
    cases ac with
    | onAc => exact hne
    | onBattery => exact hlen ▸ hne
  refine ⟨⟨_, set_points curves hok hlen hpos⟩, ?_, ?_⟩
  · rintro ⟨hac, hbatt⟩
    have hfraction : p.Fraction := by
      cases ac with
      | onAc => exact hac.2 p hp
      | onBattery => exact hbatt.2 p hp
    rw [(Double.fraction_iff.mp hfraction).2] at hnan
    cases hnan
  · rintro ⟨⟨hac, -⟩, -⟩
    rw [hac] at hpos
    cases hpos

def flatFit : Fit := fun _ => (0, 0, 0)

def defaultOverrides : Overrides := (initCurves flatFit (checkConf none (loadConfigs []))).sens.overrides

/-- A monitor with three points on AC, and four on battery. -/
def unevenConfig : SettingTree :=
  .group [("monitor_override", .list [.group [("monitor_id", .string "DP-1"),
    ("ac_regression_points", .array [.float 0, .float (1 / 2), .float 1]),
    ("batt_regression_points", .array [.float 0, .float (1 / 4), .float (1 / 2), .float 1])]])]

def unevenOverrides : Overrides :=
  (initCurves flatFit (checkConf none (loadConfigs [unevenConfig]))).sens.overrides

def unevenCall : OverrideCall :=
  ⟨"DP-1", [.num 0, .num (1 / 2), .num 1], [.num 0, .num (1 / 4), .num (1 / 2), .num 1]⟩

theorem unevenOverrides_listed : methodListMonOverride unevenOverrides =
    [("DP-1", unevenCall.acPoints, unevenCall.battPoints)] := by
  decide +kernel

end OverrideCall

end Clight
