import Clight.CheckConf
import Clight.Config

/-! What is read back from a file that Clight wrote. -/
universe u
namespace Clight

def curvePoints (curve : AcState → Curve) (ac : AcState) : List ℚ := (curve ac).points

/-- Two configurations agree in every field that is written. The parameters of a fit
are not, nor is wizard mode. -/
structure SameWritten (cf cf' : Conf) : Prop where
  verbose : cf'.verbose = cf.verbose
  resumedelay : cf'.resumedelay = cf.resumedelay
  bl : cf'.bl = cf.bl
  numCaptures : cf'.sens.numCaptures = cf.sens.numCaptures
  devName : cf'.sens.devName = cf.sens.devName
  devOpts : cf'.sens.devOpts = cf.sens.devOpts
  defaultCurve : curvePoints cf'.sens.defaultCurve = curvePoints cf.sens.defaultCurve
  specificCurves : ∀ id, (cf'.sens.specificCurves.lookup id).map curvePoints =
    (cf.sens.specificCurves.lookup id).map curvePoints
  kbdDisabled : cf'.kbd.disabled = cf.kbd.disabled
  kbdTimeout : cf'.kbd.timeout = cf.kbd.timeout
  kbdCurve : curvePoints cf'.kbd.curve = curvePoints cf.kbd.curve
  gamma : cf'.gamma = cf.gamma
  day : cf'.day = cf.day
  dim : cf'.dim = cf.dim
  dpms : cf'.dpms = cf.dpms
  screen : cf'.screen = cf.screen
  inh : cf'.inh = cf.inh

variable {S : Type u} (L : Libconfig S) (cf : Conf)

/-! ### Curves -/

theorem readPoints_storePoints {g : S} {k : String} {c : Curve}
    (h : L.member g k = some (storePoints L c)) :
    readPoints L g k = some ⟨c.points, c.nonempty, c.bounded⟩ := by
  unfold readPoints
  rw [h]
  simp only [storePoints, Libconfig.map_floatElem_array]
  rw [dif_pos ⟨c.nonempty, c.bounded⟩]

theorem loadPoints_storePoints {g : S} {k : String} {c : Curve} (old : Curve)
    (h : L.member g k = some (storePoints L c)) : (loadPoints L g k old).points = c.points := by
  unfold loadPoints
  rw [readPoints_storePoints L h]

theorem loadCurves_storePoints {g : S} {curve : AcState → Curve} (old : AcState → Curve)
    (hac : L.member g "ac_regression_points" = some (storePoints L (curve .onAc)))
    (hbatt : L.member g "batt_regression_points" = some (storePoints L (curve .onBattery))) :
    curvePoints (loadCurves L g old) = curvePoints curve := by
  funext ac
  cases ac with
  | onAc => exact loadPoints_storePoints L _ hac
  | onBattery => exact loadPoints_storePoints L _ hbatt

/-! ### Sections that come back -/

theorem loadTimeouts_store (bl : BlConf) (old : AcState → BlTime → ℤ) :
    loadTimeouts L (storeBacklightSettings L bl) old = bl.timeout := by
  funext ac
  cases ac with
  | onAc => simp [loadTimeouts, storeBacklightSettings, Libconfig.loadTable, mem_blTimes]
  | onBattery => simp [loadTimeouts, storeBacklightSettings, Libconfig.loadTable, mem_blTimes]

theorem loadBacklightSettings_storeConfig (old : BlConf) :
    loadBacklightSettings L (storeConfig L cf) old = cf.bl := by
  have hgroup : L.member (storeConfig L cf) "backlight" = some (storeBacklightSettings L cf.bl) := by
    simp [storeConfig]
  unfold loadBacklightSettings
  rw [hgroup]
  simp only [loadTimeouts_store]
  simp [storeBacklightSettings, Libconfig.lookupBool, Libconfig.lookupInt, Libconfig.lookupFloat]

theorem loadGammaSettings_storeConfig (old : GammaConf) :
    loadGammaSettings L (storeConfig L cf) old = cf.gamma := by
  have hgroup : L.member (storeConfig L cf) "gamma" = some (storeGammaSettings L cf.gamma) := by
    simp [storeConfig]
  unfold loadGammaSettings
  rw [hgroup]
  simp [storeGammaSettings, Libconfig.lookupBool, Libconfig.lookupInt, Libconfig.loadTable,
    mem_dayStates]

theorem loadDpmsSettings_storeConfig (old : DpmsConf) :
    loadDpmsSettings L (storeConfig L cf) old = cf.dpms := by
  have hgroup : L.member (storeConfig L cf) "dpms" = some (storeDpmsSettings L cf.dpms) := by
    simp [storeConfig]
  unfold loadDpmsSettings
  rw [hgroup]
  simp [storeDpmsSettings, Libconfig.lookupBool, Libconfig.loadTable, mem_acStates]

theorem loadInhSettings_storeConfig (old : InhConf) :
    loadInhSettings L (storeConfig L cf) old = cf.inh := by
  have hgroup : L.member (storeConfig L cf) "inhibit" = some (storeInhSettings L cf.inh) := by
    simp [storeConfig]
  unfold loadInhSettings
  rw [hgroup]
  simp [storeInhSettings, Libconfig.lookupBool]

theorem loadKbdSettings_storeConfig (old : KbdConf) :
    let kbd := loadKbdSettings L (storeConfig L cf) old
    kbd.disabled = cf.kbd.disabled ∧ kbd.timeout = cf.kbd.timeout ∧
      curvePoints kbd.curve = curvePoints cf.kbd.curve := by
  have hgroup : L.member (storeConfig L cf) "keyboard" = some (storeKbdSettings L cf.kbd) := by
    simp [storeConfig]
  unfold loadKbdSettings
  rw [hgroup]
  refine ⟨?_, ?_, ?_⟩
  · simp [storeKbdSettings, Libconfig.lookupBool]
  · simp [storeKbdSettings, Libconfig.loadTable, mem_acStates]
  · apply loadCurves_storePoints
    · simp [storeKbdSettings]
    · simp [storeKbdSettings]

/-- An event time fits in the buffer that it came from. -/
theorem EventTime.ofString_ofList (e : EventTime) : EventTime.ofString (String.ofList e.1) = e := by
  apply Subtype.ext
  change (String.ofList e.1).toList.take 9 = e.1
  rw [String.toList_ofList]
  exact List.take_of_length_le e.2

theorem member_storeLoc_append (loc : Loc) (ms : List (String × S)) {k : String}
    (hlat : "latitude" ≠ k) (hlon : "longitude" ≠ k) :
    L.member (L.group (storeLoc L loc ++ ms)) k = L.member (L.group ms) k := by
  unfold storeLoc
  split
  · simp [hlat, hlon]
  · rfl

theorem loadOffsets_store (day : DaytimeConf) (old : DayEvent → ℤ) :
    loadOffsets L (storeDaytimeSettings L day) old = day.eventsOs := by
  funext e
  cases e with
  | sunrise =>
    simp [loadOffsets, storeDaytimeSettings, member_storeLoc_append, Libconfig.lookupInt]
  | sunset =>
    simp [loadOffsets, storeDaytimeSettings, member_storeLoc_append, Libconfig.lookupInt]

theorem loadEvents_store (day : DaytimeConf) (old : DayEvent → EventTime) :
    loadEvents L (storeDaytimeSettings L day) old = day.dayEvents := by
  funext e
  cases e with
  | sunrise =>
    simp [loadEvents, storeDaytimeSettings, member_storeLoc_append, Libconfig.lookupString,
      EventTime.ofString_ofList]
  | sunset =>
    simp [loadEvents, storeDaytimeSettings, member_storeLoc_append, Libconfig.lookupString,
      EventTime.ofString_ofList]

/-- A location is written as a whole or not at all: without one the default stays. -/
theorem lookupLoc_store {day : DaytimeConf}
    (hloc : day.loc.lat = latUndefined ↔ day.loc.lon = lonUndefined) :
    L.lookupFloat (storeDaytimeSettings L day) "latitude" latUndefined = day.loc.lat ∧
      L.lookupFloat (storeDaytimeSettings L day) "longitude" lonUndefined = day.loc.lon := by
  by_cases hlat : day.loc.lat = latUndefined
  · have hlon : day.loc.lon = lonUndefined := hloc.mp hlat
    simp [storeDaytimeSettings, storeLoc, hlat, hlon, Libconfig.lookupFloat]
  · have hlon : day.loc.lon ≠ lonUndefined := fun h => hlat (hloc.mpr h)
    simp [storeDaytimeSettings, storeLoc, hlat, hlon, Libconfig.lookupFloat]

theorem loadDaySettings_storeConfig
    (hloc : cf.day.loc.lat = latUndefined ↔ cf.day.loc.lon = lonUndefined) :
    loadDaySettings L (storeConfig L cf) Conf.default.day = cf.day := by
  have hgroup : L.member (storeConfig L cf) "daytime" = some (storeDaytimeSettings L cf.day) := by
    simp [storeConfig]
  have hduration : ∀ old, L.lookupInt (storeDaytimeSettings L cf.day) "event_duration" old
      = cf.day.eventDuration := by
    intro old
    simp [storeDaytimeSettings, member_storeLoc_append, Libconfig.lookupInt]
  obtain ⟨hlat, hlon⟩ := lookupLoc_store L hloc
  unfold loadDaySettings
  rw [hgroup]
  simp only [loadOffsets_store, loadEvents_store, hduration]
  rw [show Conf.default.day.loc = ⟨latUndefined, lonUndefined⟩ from rfl, hlat, hlon]

/-! ### Sections that do not -/

/-- A flag of the dimmer is written as a boolean and read as a double. -/
theorem loadDimmerSettings_storeConfig (old : DimmerConf) :
    loadDimmerSettings L (storeConfig L cf) old =
      { cf.dim with smooth := fun t => { cf.dim.smooth t with noSmooth := false } } := by
  have hgroup : L.member (storeConfig L cf) "dimmer" = some (storeDimmerSettings L cf.dim) := by
    simp [storeConfig]
  have hflag : ∀ (t old : DimTrans → Bool),
      L.readTable dimTrans (flagElem L) old (L.storeTable dimTrans L.bool t) = fun _ => false := by
    intro t old
    apply Libconfig.readTable_storeTable t old mem_dimTrans (f := fun _ => false)
    intro s i v h
    rw [flagElem, Libconfig.floatElem_bool h]
    decide
  unfold loadDimmerSettings
  rw [hgroup]
  simp [storeDimmerSettings, Libconfig.lookupBool, Libconfig.lookupFloat, Libconfig.loadTable,
    mem_dimTrans, mem_acStates, hflag]

/-- The contribution of the screen is written under a key that is never read. -/
theorem loadScreenSettings_storeConfig (old : ScreenConf) :
    loadScreenSettings L (storeConfig L cf) old = { cf.screen with contrib := old.contrib } := by
  have hgroup : L.member (storeConfig L cf) "screen" = some (storeScreenSettings L cf.screen) := by
    simp [storeConfig]
  unfold loadScreenSettings
  rw [hgroup]
  simp [storeScreenSettings, Libconfig.lookupBool, Libconfig.lookupFloat, Libconfig.loadTable,
    mem_acStates]

/-- An empty string is written, but it is not read. -/
theorem loadString_storeString {g : S} {k : String} {o : Option String}
    (h : L.member g k = o.map L.string) : loadString L g k none = o.filter (· ≠ "") := by
  unfold loadString Libconfig.lookupString
  rw [h]
  cases o with
  | none => rfl
  | some s => by_cases hs : s = "" <;> simp [Option.filter, hs]

theorem member_storeString_append (k' : String) (o : Option String) (ms : List (String × S))
    (k : String) : L.member (L.group (storeString L k' o ++ ms)) k =
      if k' = k then (o.map L.string).or (L.member (L.group ms) k) else L.member (L.group ms) k := by
  cases o with
  | none => simp [storeString]
  | some s => simp [storeString]

theorem loadSensorSettings_storeConfig :
    let sens := loadSensorSettings L (storeConfig L cf) Conf.default.sens
    sens.numCaptures = cf.sens.numCaptures ∧
      sens.devName = cf.sens.devName.filter (· ≠ "") ∧
      sens.devOpts = cf.sens.devOpts.filter (· ≠ "") ∧
      curvePoints sens.defaultCurve = curvePoints cf.sens.defaultCurve ∧
      sens.specificCurves = ∅ := by
  have hgroup : L.member (storeConfig L cf) "sensor" = some (storeSensorsSettings L cf.sens) := by
    simp [storeConfig]
  unfold loadSensorSettings
  rw [hgroup]
  refine ⟨?_, ?_, ?_, ?_, rfl⟩
  · simp [storeSensorsSettings, Libconfig.loadTable, mem_acStates]
  · apply loadString_storeString
    simp [storeSensorsSettings, member_storeString_append]
  · apply loadString_storeString
    simp [storeSensorsSettings, member_storeString_append]
  · apply loadCurves_storePoints
    · simp [storeSensorsSettings, member_storeString_append]
    · simp [storeSensorsSettings, member_storeString_append]

/-! ### Monitor overrides -/

/-- The curves of a monitor as they are read back, not fitted yet. -/
def freshCurves (curve : AcState → Curve) (ac : AcState) : Curve :=
  .ofPoints ⟨(curve ac).points, (curve ac).nonempty, (curve ac).bounded⟩

theorem curvePoints_freshCurves (curve : AcState → Curve) :
    curvePoints (freshCurves curve) = curvePoints curve := rfl

theorem loadOverride_storeOverride (m : Sigma fun _ : MonId => AcState → Curve) :
    loadOverride L (storeOverride L m) = if m.1 = "" then none else some (m.1, freshCurves m.2) := by
  have hac : readPoints L (storeOverride L m) "ac_regression_points"
      = some ⟨(m.2 .onAc).points, (m.2 .onAc).nonempty, (m.2 .onAc).bounded⟩ := by
    apply readPoints_storePoints
    simp [storeOverride]
  have hbatt : readPoints L (storeOverride L m) "batt_regression_points"
      = some ⟨(m.2 .onBattery).points, (m.2 .onBattery).nonempty, (m.2 .onBattery).bounded⟩ := by
    apply readPoints_storePoints
    simp [storeOverride]
  have hid : L.lookupString (storeOverride L m) "monitor_id" = some m.1 := by
    simp [storeOverride, Libconfig.lookupString]
  have hcurves : overrideCurves ⟨(m.2 .onAc).points, (m.2 .onAc).nonempty, (m.2 .onAc).bounded⟩
      ⟨(m.2 .onBattery).points, (m.2 .onBattery).nonempty, (m.2 .onBattery).bounded⟩
        = freshCurves m.2 := by
    funext ac
    cases ac <;> rfl
  unfold loadOverride
  rw [hid, hac, hbatt, ← hcurves]
  by_cases hm : m.1 = ""
  · exact (if_pos hm).trans (if_pos hm).symm
  · exact (if_neg hm).trans (if_neg hm).symm

theorem putOverride_storeOverride (curves : AList fun _ : MonId => AcState → Curve)
    (m : Sigma fun _ : MonId => AcState → Curve) : putOverride L curves (storeOverride L m) =
      if m.1 = "" then curves else curves.insert m.1 (freshCurves m.2) := by
  unfold putOverride
  rw [loadOverride_storeOverride]
  by_cases hm : m.1 = "" <;> simp [hm]

/-- Reading the elements written for a table puts every monitor with an id back. -/
theorem lookup_foldl_putOverride (es : List (Sigma fun _ : MonId => AcState → Curve))
    (hes : es.NodupKeys) (curves : AList fun _ : MonId => AcState → Curve) (id : MonId) :
    ((es.map (storeOverride L)).foldl (putOverride L) curves).lookup id =
      ((if id = "" then none else es.dlookup id).map freshCurves).or (curves.lookup id) := by
  -- on the elements, with what was put before them
  induction es generalizing curves with
  | nil => simp
  | cons m es ih =>
    obtain ⟨hm, hes⟩ := List.nodupKeys_cons.mp hes
    rw [List.map_cons, List.foldl_cons, ih hes, putOverride_storeOverride]
    by_cases hid : id = ""
    · -- the monitor without an id is never put, hence never found either
      have hput : (if m.1 = "" then curves else curves.insert m.1 (freshCurves m.2)).lookup id
          = curves.lookup id := by
        split
        · rfl
        · next hne => exact AList.lookup_insert_ne fun h => hne (h.symm.trans hid)
      rw [hput, if_pos hid, if_pos hid]
    · rw [if_neg hid, if_neg hid]
      by_cases hmid : id = m.1
      · -- keys are distinct: no later element overwrites this one
        have hlater : es.dlookup id = none := List.dlookup_eq_none.mpr (hmid ▸ hm)
        have hne : m.1 ≠ "" := hmid ▸ hid
        obtain ⟨mid, curve⟩ := m
        subst hmid
        rw [hlater, if_neg hne, AList.lookup_insert, List.dlookup_cons_eq]
        rfl
      · have hput : (if m.1 = "" then curves else curves.insert m.1 (freshCurves m.2)).lookup id
            = curves.lookup id := by
          split
          · rfl
          · exact AList.lookup_insert_ne hmid
        rw [hput, List.dlookup_cons_ne _ _ hmid]

theorem loadOverrideSettings_storeConfig {sens : SensorConf} (hempty : sens.specificCurves = ∅)
    (id : MonId) :
    ((loadOverrideSettings L (storeConfig L cf) sens).specificCurves.lookup id).map curvePoints =
      if id = "" then none else (cf.sens.specificCurves.lookup id).map curvePoints := by
  have hgroup : L.member (storeConfig L cf) "monitor_override"
      = some (storeOverrideSettings L cf.sens) := by
    simp [storeConfig]
  have hpoints : curvePoints ∘ freshCurves = curvePoints := funext curvePoints_freshCurves
  unfold loadOverrideSettings
  rw [hgroup]
  simp only [storeOverrideSettings, Libconfig.filterMap_elem_list]
  rw [lookup_foldl_putOverride L _ cf.sens.specificCurves.nodupKeys, hempty, AList.lookup_empty,
    Option.or_none, Option.map_map, hpoints]
  split
  · rfl
  · rfl

/-! ### The whole file -/

/-- What a file keeps: the default contribution of the screen, smooth transitions of the
dimmer, and only strings that are not empty. -/
def ReadsBack (cf : Conf) : Prop :=
  cf.screen.contrib = Conf.default.screen.contrib ∧ (∀ t, (cf.dim.smooth t).noSmooth = false) ∧
    cf.sens.devName ≠ some "" ∧ cf.sens.devOpts ≠ some "" ∧ "" ∉ cf.sens.specificCurves

theorem filter_ne_empty_iff (o : Option String) : o.filter (· ≠ "") = o ↔ o ≠ some "" := by
  cases o with
  | none => simp
  | some s => by_cases hs : s = "" <;> simp [Option.filter, hs]

theorem loadOverrideSettings_eq (root : S) (sens : SensorConf) : loadOverrideSettings L root sens =
    { sens with specificCurves := (loadOverrideSettings L root sens).specificCurves } := by
  unfold loadOverrideSettings
  split
  · rfl
  · rfl

theorem readConfig_sens :
    let sens := (readConfig L (storeConfig L cf) Conf.default).sens
    sens.numCaptures = cf.sens.numCaptures ∧
      sens.devName = cf.sens.devName.filter (· ≠ "") ∧
      sens.devOpts = cf.sens.devOpts.filter (· ≠ "") ∧
      curvePoints sens.defaultCurve = curvePoints cf.sens.defaultCurve ∧
      ∀ id, (sens.specificCurves.lookup id).map curvePoints =
        if id = "" then none else (cf.sens.specificCurves.lookup id).map curvePoints := by
  obtain ⟨hcaptures, hname, hopts, hcurve, hempty⟩ := loadSensorSettings_storeConfig L cf
  have hoverride := loadOverrideSettings_storeConfig L cf hempty
  have hsens := loadOverrideSettings_eq L (storeConfig L cf)
    (loadSensorSettings L (storeConfig L cf) Conf.default.sens)
  dsimp only [readConfig]
  rw [hsens]
  exact ⟨hcaptures, hname, hopts, hcurve, hoverride⟩

/-- Each part of the condition is a field that came back. -/
theorem readsBack_of_sameWritten {cf : Conf}
    (h : SameWritten cf (readConfig L (storeConfig L cf) Conf.default)) : ReadsBack cf := by
  obtain ⟨-, hname, hopts, -, hoverride⟩ := readConfig_sens L cf
  refine ⟨?_, ?_, ?_, ?_, ?_⟩
  · have hscreen := loadScreenSettings_storeConfig L cf Conf.default.screen
    have hsame : { cf.screen with contrib := Conf.default.screen.contrib } = cf.screen :=
      hscreen.symm.trans h.screen
    exact (congrArg ScreenConf.contrib hsame).symm
  · intro t
    have hsame := (loadDimmerSettings_storeConfig L cf Conf.default.dim).symm.trans h.dim
    exact (congrArg (fun dim => (DimmerConf.smooth dim t).noSmooth) hsame).symm
  · exact (filter_ne_empty_iff _).mp (hname.symm.trans h.devName)
  · exact (filter_ne_empty_iff _).mp (hopts.symm.trans h.devOpts)
  · intro hmem
    -- an override without an id would be found on one side only
    have hlost := (hoverride "").symm.trans (h.specificCurves "")
    obtain ⟨curve, hfound⟩ := Option.isSome_iff_exists.mp (AList.lookup_isSome.mpr hmem)
    rw [if_pos rfl, hfound] at hlost
    cases hlost

theorem sameWritten_of_readsBack {cf : Conf}
    (hloc : cf.day.loc.lat = latUndefined ↔ cf.day.loc.lon = lonUndefined) (h : ReadsBack cf) :
    SameWritten cf (readConfig L (storeConfig L cf) Conf.default) := by
  obtain ⟨hcontrib, hsmooth, hdevName, hdevOpts, hid⟩ := h
  obtain ⟨hcaptures, hname, hopts, hcurve, hoverride⟩ := readConfig_sens L cf
  obtain ⟨hkbdDisabled, hkbdTimeout, hkbdCurve⟩ := loadKbdSettings_storeConfig L cf Conf.default.kbd
  have hdim : loadDimmerSettings L (storeConfig L cf) Conf.default.dim = cf.dim := by
    have hsmooth' : (fun t => { cf.dim.smooth t with noSmooth := false }) = cf.dim.smooth := by
      funext t
      rw [← hsmooth t]
    rw [loadDimmerSettings_storeConfig, hsmooth']
  have hscreen : loadScreenSettings L (storeConfig L cf) Conf.default.screen = cf.screen := by
    rw [loadScreenSettings_storeConfig, ← hcontrib]
  have hcurves (id : MonId) : (if id = "" then none
      else (cf.sens.specificCurves.lookup id).map curvePoints) =
        (cf.sens.specificCurves.lookup id).map curvePoints := by
    split
    · next hempty =>
      rw [AList.lookup_eq_none.mpr (hempty ▸ hid)]
      rfl
    · rfl
  exact {
    verbose := by simp [readConfig, storeConfig, Libconfig.lookupBool]
    resumedelay := by simp [readConfig, storeConfig, Libconfig.lookupInt]
    bl := loadBacklightSettings_storeConfig L cf _
    numCaptures := hcaptures
    devName := hname.trans ((filter_ne_empty_iff _).mpr hdevName)
    devOpts := hopts.trans ((filter_ne_empty_iff _).mpr hdevOpts)
    defaultCurve := hcurve
    specificCurves := fun id => (hoverride id).trans (hcurves id)
    kbdDisabled := hkbdDisabled
    kbdTimeout := hkbdTimeout
    kbdCurve := hkbdCurve
    gamma := loadGammaSettings_storeConfig L cf _
    day := loadDaySettings_storeConfig L cf hloc
    dim := hdim
    dpms := loadDpmsSettings_storeConfig L cf _
    screen := hscreen
    inh := loadInhSettings_storeConfig L cf _ }

/-- A stored configuration is read back as it was if and only if it is one of those. -/
theorem config_reads_back_iff {cf : Conf}
    (hloc : cf.day.loc.lat = latUndefined ↔ cf.day.loc.lon = lonUndefined) :
    SameWritten cf (readConfig L (storeConfig L cf) Conf.default) ↔ ReadsBack cf :=
  ⟨readsBack_of_sameWritten L, sameWritten_of_readsBack L hloc⟩

/-- The default configuration at a place on earth, with curves for one monitor. -/
def placedConf : Conf :=
  { Conf.default with
    sens := { Conf.default.sens with
      specificCurves := AList.singleton "DP-1" Conf.default.sens.defaultCurve }
    day := { Conf.default.day with loc := { lat := 45, lon := 9 } } }

/-- It comes back through plain trees of settings. -/
theorem config_reads_back_iff_placed :
    (placedConf.day.loc.lat = latUndefined ↔ placedConf.day.loc.lon = lonUndefined) ∧
    SameWritten placedConf (readConfig SettingTree.libconfig
      (storeConfig SettingTree.libconfig placedConf) Conf.default) := by
  have hloc : placedConf.day.loc.lat = latUndefined ↔ placedConf.day.loc.lon = lonUndefined := by
    decide
  refine ⟨hloc, (config_reads_back_iff SettingTree.libconfig hloc).mpr ?_⟩
  exact ⟨rfl, fun _ => rfl, by decide, by decide, by decide⟩

def contribConf : Conf := { Conf.default with screen := { Conf.default.screen with contrib := 1/2 } }

/-- The checks accept a contribution of one half, and it is lost when it is stored. -/
theorem contrib_not_read_back :
    checkConf (some ⟨true, true, true⟩) contribConf = contribConf ∧
    (contribConf.day.loc.lat = latUndefined ∧ contribConf.day.loc.lon = lonUndefined) ∧
    ¬ SameWritten contribConf (readConfig SettingTree.libconfig
      (storeConfig SettingTree.libconfig contribConf) Conf.default) := by
  have hchecked : Checked contribConf := { default_checked with
    screen := fun _ => by norm_num [checkScreenConf, contribConf, Conf.default, checkFraction] }
  have hfeatures : checkClightdFeatures (some ⟨true, true, true⟩) contribConf = contribConf := by
    simp [checkClightdFeatures]
  refine ⟨hchecked.checkConf_eq rfl hfeatures, ⟨rfl, rfl⟩, ?_⟩
  intro h
  have hcontrib : (2/10 : ℚ) = 1/2 := congrArg ScreenConf.contrib h.screen
  norm_num at hcontrib

end Clight
