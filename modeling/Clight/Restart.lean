import Clight.InitOpts

/-! What StoreConf keeps: the file that it writes is a layer of the next start, over the files of
the system and under the command line. -/
universe u
namespace Clight
variable {S : Type u} {L : Libconfig S}

namespace ConfSetting

/-- What the file written for a configuration says of a setting. The screen's contribution is written
under a name that is not read, the flags of the dimmer are read as numbers, and a position needs both
of its coordinates. -/
def stored (cf : Conf) : (k : ConfSetting) → Option k.Val
  | wizard | contrib => none
  | dimNoSmooth _ => some false
  | devName => (cf.sens.devName.filter (· ≠ "")).map some
  | devOpts => (cf.sens.devOpts.filter (· ≠ "")).map some
  | latitude => if cf.day.loc.lat ≠ latUndefined ∧ cf.day.loc.lon ≠ lonUndefined then some cf.day.loc.lat else none
  | longitude => if cf.day.loc.lat ≠ latUndefined ∧ cf.day.loc.lon ≠ lonUndefined then some cf.day.loc.lon else none
  | override mon =>
    if mon = "" then none else ((cf.sens.specificCurves.lookup mon).map curvePoints).map some
  | k => some (k.get cf)

end ConfSetting

/-! ### Each section of the file -/

theorem tableAt_storeTable {α β : Type} [DecidableEq α] {all : List α} {mk : β → S} {read : S → ℕ → β}
    {f : β → β} {g : S} {k : String} {t : α → β} (hall : ∀ a, a ∈ all)
    (hread : ∀ s i v, L.elem s i = some (mk v) → read s i = f v)
    (hm : L.member g k = some (L.storeTable all mk t)) (a : α) :
    tableAt L all read g k a = some (f (t a)) := by
  have hlen : L.length (L.storeTable all mk t) = all.length := by
    rw [Libconfig.storeTable, L.length_array, List.length_map]
  have hval := congrFun (Libconfig.readTable_storeTable (L := L) t t hall hread) a
  unfold Libconfig.readTable at hval
  rw [if_pos hlen] at hval
  unfold tableAt
  rw [hm, Option.bind_some, if_pos hlen, hval]

theorem pointsAt_storePoints {g : S} {k : String} {c : Curve} (h : L.member g k = some (storePoints L c)) :
    pointsAt L g k = some c.points := by
  unfold pointsAt
  rw [readPoints_storePoints L h]
  rfl

theorem stringAt_store {g : S} {k : String} {o : Option String} (h : L.member g k = o.map L.string) :
    stringAt L g k = (o.filter (· ≠ "")).map some := by
  unfold stringAt Libconfig.lookupString
  rw [h]
  cases o with
  | none => rfl
  | some s => simp

theorem boolAt_of {g : S} {k : String} {b : Bool} (h : L.member g k = some (L.bool b)) :
    boolAt L g k = some b := by
  rw [boolAt, h, Option.bind_some, L.asBool_bool]

theorem intAt_of {g : S} {k : String} {i : ℤ} (h : L.member g k = some (L.int i)) : intAt L g k = some i := by
  rw [intAt, h, Option.bind_some, L.asInt_int]

theorem floatAt_of {g : S} {k : String} {q : ℚ} (h : L.member g k = some (L.float q)) :
    floatAt L g k = some q := by
  rw [floatAt, h, Option.bind_some, L.asFloat_float]

theorem intTable_of {α : Type} [DecidableEq α] {all : List α} (hall : ∀ a, a ∈ all) {g : S} {k : String}
    {t : α → ℤ} (h : L.member g k = some (L.storeTable all L.int t)) (a : α) :
    tableAt L all L.intElem g k a = some (t a) :=
  tableAt_storeTable (f := id) hall (fun _ _ _ => Libconfig.intElem_int) h a

theorem in_section {α : Type} {root g : S} {name : String} {f : S → Option α} {v : Option α}
    (h : L.member root name = some g) (hf : f g = v) : (L.member root name).bind f = v := by
  rw [h, Option.bind_some, hf]

theorem overrideAt_storeOverride (mon : MonId) (m : Sigma fun _ : MonId => AcState → Curve) :
    overrideAt L mon (storeOverride L m) =
      if m.1 ≠ "" ∧ m.1 = mon then some (some (freshCurves m.2)) else none := by
  unfold overrideAt
  rw [loadOverride_storeOverride]
  by_cases hid : m.1 = ""
  · simp [hid]
  · simp [hid]

/-- The overrides that are written are the ones that are read, but for one without an id. -/
theorem setBy_storeOverride {es : List (Sigma fun _ : MonId => AcState → Curve)} (hes : es.NodupKeys)
    (mon : MonId) : (overrideLayers L).setBy (es.map (storeOverride L)) mon =
      if mon = "" then none else (es.dlookup mon).map fun c => some (freshCurves c) := by
  induction es with
  | nil => simp [Layers.setBy]
  | cons m es ih =>
    obtain ⟨hm, hes⟩ := List.nodupKeys_cons.mp hes
    rw [List.map_cons, Layers.setBy_cons, ih hes]
    change Option.or _ (overrideAt L mon (storeOverride L m)) = _
    rw [overrideAt_storeOverride]
    by_cases hmon : mon = ""
    · have hno : ¬(m.1 ≠ "" ∧ m.1 = mon) := fun h => h.1 (h.2.trans hmon)
      rw [if_pos hmon, if_pos hmon, if_neg hno]
      rfl
    · rw [if_neg hmon, if_neg hmon]
      by_cases hid : mon = m.1
      · -- keys are distinct: no later element has this one
        have hlater : es.dlookup mon = none := List.dlookup_eq_none.mpr (hid ▸ hm)
        obtain ⟨id, curve⟩ := m
        subst hid
        rw [hlater, if_pos ⟨hmon, rfl⟩, List.dlookup_cons_eq]
        rfl
      · have hno : ¬(m.1 ≠ "" ∧ m.1 = mon) := fun h => hid h.2.symm
        rw [if_neg hno, Option.or_none, List.dlookup_cons_ne _ _ hid]

theorem overrides_store (sens : SensorConf) (mon : MonId) :
    ((overrideLayers L).setBy (sens.specificCurves.entries.map (storeOverride L)) mon).map
        (Option.map curvePoints) =
      if mon = "" then none else ((sens.specificCurves.lookup mon).map curvePoints).map some := by
  rw [setBy_storeOverride sens.specificCurves.nodupKeys]
  split_ifs
  · rfl
  · rw [Option.map_map, Option.map_map]
    rfl

/-- The file says of each setting what `stored` tells. -/
theorem inFile_storeConfig (cf : Conf) (k : ConfSetting) : k.inFile L (storeConfig L cf) = k.stored cf := by
  have hbl : L.member (storeConfig L cf) "backlight" = some (storeBacklightSettings L cf.bl) := by
    simp [storeConfig]
  have hsens : L.member (storeConfig L cf) "sensor" = some (storeSensorsSettings L cf.sens) := by
    simp [storeConfig]
  have hover : L.member (storeConfig L cf) "monitor_override" = some (storeOverrideSettings L cf.sens) := by
    simp [storeConfig]
  have hkbd : L.member (storeConfig L cf) "keyboard" = some (storeKbdSettings L cf.kbd) := by
    simp [storeConfig]
  have hgamma : L.member (storeConfig L cf) "gamma" = some (storeGammaSettings L cf.gamma) := by
    simp [storeConfig]
  have hday : L.member (storeConfig L cf) "daytime" = some (storeDaytimeSettings L cf.day) := by
    simp [storeConfig]
  have hdim : L.member (storeConfig L cf) "dimmer" = some (storeDimmerSettings L cf.dim) := by
    simp [storeConfig]
  have hdpms : L.member (storeConfig L cf) "dpms" = some (storeDpmsSettings L cf.dpms) := by
    simp [storeConfig]
  have hscreen : L.member (storeConfig L cf) "screen" = some (storeScreenSettings L cf.screen) := by
    simp [storeConfig]
  have hinh : L.member (storeConfig L cf) "inhibit" = some (storeInhSettings L cf.inh) := by
    simp [storeConfig]
  cases k
  case verbose => exact boolAt_of (by simp [storeConfig, ConfSetting.get])
  case resumedelay => exact intAt_of (by simp [storeConfig, ConfSetting.get])
  case wizard => rfl
  case blDisabled | blRestore | blNoSmooth | noAutoCalib | pauseOnLidClosed | captureOnLidOpened =>
    exact in_section hbl (boolAt_of (by simp [storeBacklightSettings, ConfSetting.get]))
  case blTransTimeout | blTransFixed | syncMonitorsDelay =>
    exact in_section hbl (intAt_of (by simp [storeBacklightSettings, ConfSetting.get]))
  case blTransStep | shutterThreshold =>
    exact in_section hbl (floatAt_of (by simp [storeBacklightSettings, ConfSetting.get]))
  case blTimeout ac t =>
    refine in_section hbl (intTable_of mem_blTimes ?_ t)
    cases ac <;> simp [storeBacklightSettings, timeoutsKey]
  case devName | devOpts =>
    refine in_section hsens (stringAt_store ?_)
    simp [storeSensorsSettings, member_storeString_append]
  case numCaptures ac =>
    refine in_section hsens (intTable_of mem_acStates ?_ ac)
    simp [storeSensorsSettings]
  case sensPoints ac =>
    refine in_section hsens (pointsAt_storePoints ?_)
    cases ac <;> simp [storeSensorsSettings, member_storeString_append, pointsKey]
  case override mon =>
    refine in_section hover ?_
    rw [storeOverrideSettings, Libconfig.filterMap_elem_list]
    exact overrides_store cf.sens mon
  case kbdDisabled => exact in_section hkbd (boolAt_of (by simp [storeKbdSettings, ConfSetting.get]))
  case kbdTimeout ac => exact in_section hkbd (intTable_of mem_acStates (by simp [storeKbdSettings]) ac)
  case kbdPoints ac =>
    refine in_section hkbd (pointsAt_storePoints ?_)
    cases ac <;> simp [storeKbdSettings, pointsKey]
  case gammaDisabled | gammaRestore | gammaNoSmooth | longTransition | ambientGamma =>
    exact in_section hgamma (boolAt_of (by simp [storeGammaSettings, ConfSetting.get]))
  case gammaTransStep | gammaTransTimeout =>
    exact in_section hgamma (intAt_of (by simp [storeGammaSettings, ConfSetting.get]))
  case temp d => exact in_section hgamma (intTable_of mem_dayStates (by simp [storeGammaSettings]) d)
  case latitude | longitude =>
    refine in_section hday ?_
    unfold ConfSetting.stored storeDaytimeSettings storeLoc
    split_ifs
    · exact floatAt_of (by simp)
    · simp [floatAt]
      rfl
  case eventDuration =>
    refine in_section hday (intAt_of ?_)
    rw [storeDaytimeSettings, member_storeLoc_append L cf.day.loc _ (by decide) (by decide)]
    simp [ConfSetting.get]
  case offset e =>
    refine in_section hday (intAt_of ?_)
    rw [storeDaytimeSettings]
    cases e <;> rw [member_storeLoc_append L cf.day.loc _ (by decide) (by decide)] <;>
      simp [offsetKey, ConfSetting.get]
  case event e =>
    refine in_section hday ?_
    unfold timeAt Libconfig.lookupString
    rw [storeDaytimeSettings]
    cases e <;> rw [member_storeLoc_append L cf.day.loc _ (by decide) (by decide)] <;>
      simp [eventKey, EventTime.ofString_ofList] <;> rfl
  case dimDisabled => exact in_section hdim (boolAt_of (by simp [storeDimmerSettings, ConfSetting.get]))
  case dimmedPct => exact in_section hdim (floatAt_of (by simp [storeDimmerSettings, ConfSetting.get]))
  case dimTimeout ac => exact in_section hdim (intTable_of mem_acStates (by simp [storeDimmerSettings]) ac)
  case dimNoSmooth t =>
    -- the array of booleans holds no number
    have hflag (s : S) (i : ℕ) (v : Bool) (h : L.elem s i = some (L.bool v)) : flagElem L s i = false := by
      rw [flagElem, Libconfig.floatElem_bool h]
      decide
    refine in_section hdim (tableAt_storeTable (f := fun _ => false)
      (t := fun t => (cf.dim.smooth t).noSmooth) mem_dimTrans hflag ?_ t)
    simp [storeDimmerSettings]
  case dimTransStep t =>
    refine in_section hdim (tableAt_storeTable (f := id)
      (t := fun t => (cf.dim.smooth t).transStep) mem_dimTrans (fun _ _ _ => Libconfig.floatElem_float) ?_ t)
    simp [storeDimmerSettings]
  case dimTransTimeout t =>
    exact in_section hdim (intTable_of (t := fun t => (cf.dim.smooth t).transTimeout) mem_dimTrans
      (by simp [storeDimmerSettings]) t)
  case dimTransFixed t =>
    exact in_section hdim (intTable_of (t := fun t => (cf.dim.smooth t).transFixed) mem_dimTrans
      (by simp [storeDimmerSettings]) t)
  case dpmsDisabled => exact in_section hdpms (boolAt_of (by simp [storeDpmsSettings, ConfSetting.get]))
  case dpmsTimeout ac => exact in_section hdpms (intTable_of mem_acStates (by simp [storeDpmsSettings]) ac)
  case screenDisabled => exact in_section hscreen (boolAt_of (by simp [storeScreenSettings, ConfSetting.get]))
  case contrib =>
    refine in_section hscreen ?_
    simp [floatAt, storeScreenSettings]
    rfl
  case screenTimeout ac =>
    exact in_section hscreen (intTable_of mem_acStates (by simp [storeScreenSettings]) ac)
  case inhDisabled | inhibitDocked | inhibitPm | inhibitBl =>
    exact in_section hinh (boolAt_of (by simp [storeInhSettings, ConfSetting.get]))

/-! ### The next start -/

/-- Once StoreConf has written a configuration, Clight starts with the check of one in which each
setting has the value of the command line, else the stored one, else that of the files of the system:
they only show where nothing is stored, as for the contribution of the screen. -/
theorem stored_settings_restart (f : Option Features) (file : ConfigFile → Option S)
    (custom : String → Option S) (cf : Conf) (os : List CmdOption) (hos : ∀ o ∈ os, o.exits = false) :
    ∃ cf₀, initOpts L f (Function.update file .userLocal (some (storeConfig L cf))) custom (os.map some) =
        some (checkConf f cf₀) ∧ ∀ k : ConfSetting, k.get cf₀ =
          ((confLayers L).setBy (os.map .option ++ customLayer custom os) k).getD
            ((k.stored cf).getD (k.get (readFile L (file .global) (readFile L (file .oldGlobal) Conf.default)))) := by
  refine ⟨_, initOpts_eq f _ custom hos, ?_⟩
  intro k
  unfold layersOf
  rw [Layers.applyAll_append]
  have htop := Layers.get_applyAll (Y := confLayers L) (os.map .option ++ customLayer custom os)
    (readConfig L (storeConfig L cf)
      (readFile L (file .global) (readFile L (file .oldGlobal) Conf.default))) k
  refine Eq.trans ?_ (htop.trans (congrArg (Option.getD _) ?_))
  · rfl
  · exact (get_readConfig L (storeConfig L cf) _ k).trans (by rw [inFile_storeConfig])

/-- A warmer day than the one of the system's file, which is stored. -/
def warmConf : Conf := { Conf.default with gamma := { Conf.default.gamma with temp := fun _ => 5000 } }

def coldSystem : ConfigFile → Option SettingTree
  | .global => some (.group [("gamma", .group [("temp", .array [.int 7000, .int 7000])]),
      ("screen", .group [("contrib", .float (1/2))])])
  | _ => none

theorem stored_settings_restart_warm : ∃ cf₀,
    initOpts SettingTree.libconfig none (Function.update coldSystem .userLocal
      (some (storeConfig SettingTree.libconfig warmConf))) (fun _ => none) [some .verbose] =
        some (checkConf none cf₀) ∧
      cf₀.verbose = true ∧ cf₀.gamma.temp .day = 5000 ∧ cf₀.screen.contrib = 1/2 := by
  obtain ⟨cf₀, hrun, hget⟩ := stored_settings_restart (L := SettingTree.libconfig) none coldSystem
    (fun _ => none) warmConf [.verbose] (by decide)
  exact ⟨cf₀, hrun, hget .verbose, hget (.temp .day), hget .contrib⟩

end Clight
