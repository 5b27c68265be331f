import Clight.RestoreRuns
import Mathlib.Data.Finset.Insert

/-! The names of monitors in the signals of Clightd (backlight.c): Changed gives the id of a monitor,
InterfacesAdded and InterfacesRemoved its object path, and the startup reports ids that are stored as
paths. -/
namespace Clight

/-- PATH_MAX. -/
def pathMax : ℕ := 4096

namespace Backlight

/-- The object path of a monitor. -/
def objPath (id : String) : String := "/org/clightd/clightd/Backlight2/" ++ id

/-- The key that the startup builds with snprintf, in a buffer of PATH_MAX + 1 bytes. -/
def startupKey (id : String) : String := String.ofList ((objPath id).toList.take pathMax)

/-- `strrchr(path, '/') + 1`. -/
def lastComponent (path : String) : String :=
  String.ofList (path.toList.reverse.takeWhile (· ≠ '/')).reverse

/-- The reply to Get at startup: a level for each monitor id. -/
def storeLevels (levels : List (String × ℚ)) (c : BlCtx) : BlCtx :=
  { c with loc := { c.loc with
    bls := levels.foldl (fun b e => b.insert (startupKey e.1) e.2) c.loc.bls } }

/-- on_interface_removed with the object path that it is given; `none` when it compares with an unset
backlight_interface. -/
def onPathRemoved (path : String) (c : BlCtx) : Option BlCtx :=
  match c.loc.backlightInterface with
  | none => none
  | some bi => some (scheduleSync { c with loc := { c.loc with
      backlightInterface := if lastComponent path = bi then none else some bi
      bls := c.loc.bls.erase path } })

end Backlight

/-- Signals of Clightd, after the reply to Get with which the startup ends. -/
inductive HotplugSignal
  | started (levels : List (String × ℚ))
  | changed (id : String) (pct : ℚ)
  | added (path : String)
  | removed (path : String)

structure HotplugRun where
  ctx : BlCtx
  hasStarted : Bool
  /-- strcmp was called on an unset backlight_interface. -/
  crashed : Bool
  /-- The object paths of the monitors that were reported or added, and not removed since. -/
  tracked : Finset String
  /-- The path in the last signal, if it was InterfacesRemoved. -/
  justRemoved : Option String

namespace HotplugRun
open Backlight

/-- The bus library only passes object paths that start with a slash. -/
def next (s : HotplugRun) (e : HotplugSignal) : Option HotplugRun :=
  if s.crashed then none
  else match e with
    | .started levels =>
      if s.hasStarted then none
      else some { s with
        ctx := storeLevels levels s.ctx
        hasStarted := true
        tracked := (levels.map fun e => objPath e.1).toFinset
        justRemoved := none }
    | .changed id pct =>
      if s.hasStarted then some { s with ctx := onBlChanged id pct s.ctx, justRemoved := none }
      else none
    | .added path =>
      if s.hasStarted && path.toList.head? = some '/' then
        some { s with
          ctx := onInterfaceAdded path s.ctx
          tracked := insert path s.tracked
          justRemoved := none }
      else none
    | .removed path =>
      if s.hasStarted && path.toList.head? = some '/' then
        some { s with
          ctx := (onPathRemoved path s.ctx).getD s.ctx
          crashed := (onPathRemoved path s.ctx).isNone
          tracked := s.tracked.erase path
          justRemoved := some path }
      else none

/-- BACKLIGHT has matched the signals, and knows no monitor yet. -/
structure Initial (s : HotplugRun) : Prop where
  bls : s.ctx.loc.bls = ∅
  backlightInterface : s.ctx.loc.backlightInterface = none
  hasStarted : s.hasStarted = false
  crashed : s.crashed = false
  tracked : s.tracked = ∅
  justRemoved : s.justRemoved = none

/-- Nothing unset was compared, the reference is not the monitor just removed, and the keys are the
monitors there are. -/
structure Tracks (s : HotplugRun) : Prop where
  crashed : s.crashed = false
  reference : ∀ path, s.justRemoved = some path →
    s.ctx.loc.backlightInterface ≠ some (lastComponent path)
  keys : ∀ path, path ∈ s.ctx.loc.bls ↔ path ∈ s.tracked

/-- The reference is set when a monitor is removed, and the paths of the monitors reported at startup
fit in the buffer. -/
def Covered (s : HotplugRun) : HotplugSignal → Prop
  | .started levels => ∀ e ∈ levels, (objPath e.1).toList.length ≤ pathMax
  | .removed _ => s.ctx.loc.backlightInterface.isSome = true
  | _ => True

instance (s : HotplugRun) : ∀ e, Decidable (Covered s e)
  | .started levels =>
    inferInstanceAs (Decidable (∀ e ∈ levels, (objPath e.1).toList.length ≤ pathMax))
  | .removed _ => inferInstanceAs (Decidable (s.ctx.loc.backlightInterface.isSome = true))
  | .changed _ _ | .added _ => isTrue trivial

end HotplugRun

def hotplugRun : Machine HotplugRun HotplugSignal where
  init := HotplugRun.Initial
  next := HotplugRun.next

namespace Backlight

/-! ### Names and paths -/

/-- The two formats agree: an id without a slash is the last component of its object path. -/
theorem lastComponent_objPath {id : String} (hid : '/' ∉ id.toList) :
    lastComponent (objPath id) = id := by
  have hslash : (objPath id).toList.reverse =
      id.toList.reverse ++ '/' :: "/org/clightd/clightd/Backlight2".toList.reverse := by
    unfold objPath
    rw [String.toList_append, List.reverse_append]
    rfl
  have hall : ∀ ch ∈ id.toList.reverse, decide (ch ≠ '/') = true := by
    intro ch hch
    apply decide_eq_true
    rintro rfl
    exact hid (List.mem_reverse.mp hch)
  unfold lastComponent
  rw [hslash, List.takeWhile_append_of_pos hall, List.takeWhile_cons_of_neg (by decide),
    List.append_nil, List.reverse_reverse, String.ofList_toList]

theorem startupKey_eq_iff (id : String) :
    startupKey id = objPath id ↔ (objPath id).toList.length ≤ pathMax := by
  have htake : startupKey id = objPath id ↔ (objPath id).toList.take pathMax = (objPath id).toList := by
    constructor
    · intro heq
      have hlist := congrArg String.toList heq
      unfold startupKey at hlist
      rw [String.toList_ofList] at hlist
      exact hlist
    · intro heq
      unfold startupKey
      rw [heq, String.ofList_toList]
  rw [htake, List.take_eq_self_iff]

theorem startupKey_length (id : String) : (startupKey id).toList.length ≤ pathMax := by
  unfold startupKey
  rw [String.toList_ofList, List.length_take]
  exact min_le_left _ _

theorem mem_foldl_startup (levels : List (String × ℚ)) (bls : AList fun _ : MonId => ℚ) (path : String) :
    path ∈ levels.foldl (fun b e => b.insert (startupKey e.1) e.2) bls ↔
      path ∈ bls ∨ ∃ e ∈ levels, path = startupKey e.1 := by
  induction levels generalizing bls with
  | nil => simp
  | cons e levels ih =>
    rw [List.foldl_cons, ih, AList.mem_insert]
    constructor
    · rintro ((heq | hold) | ⟨e', he', heq⟩)
      · exact .inr ⟨e, List.mem_cons_self, heq⟩
      · exact .inl hold
      · exact .inr ⟨e', List.mem_cons_of_mem e he', heq⟩
    · rintro (hold | ⟨e', he', heq⟩)
      · exact .inl (.inr hold)
      · rcases List.mem_cons.mp he' with rfl | he'
        · exact .inl (.inl heq)
        · exact .inr ⟨e', he', heq⟩

/-! ### What a signal does to the reference and to the keys -/

theorem scheduleSync_interface (c : BlCtx) :
    (scheduleSync c).loc.backlightInterface = c.loc.backlightInterface := by
  unfold scheduleSync
  split_ifs <;> rfl

theorem onInterfaceAdded_bls (path : String) (c : BlCtx) :
    (onInterfaceAdded path c).loc.bls = c.loc.bls.insert path 1 :=
  scheduleSync_bls _

/-- A removal with a reference keeps it only if it is another monitor. -/
theorem onPathRemoved_monitors {c : BlCtx} {bi : String} (hbi : c.loc.backlightInterface = some bi)
    (path : String) : ∃ c', onPathRemoved path c = some c' ∧ c'.loc.bls = c.loc.bls.erase path ∧
      c'.loc.backlightInterface ≠ some (lastComponent path) := by
  unfold onPathRemoved
  rw [hbi]
  refine ⟨_, rfl, scheduleSync_bls _, ?_⟩
  rw [scheduleSync_interface]
  dsimp only
  split_ifs with hsame
  · exact Option.some_ne_none _ |>.symm
  · intro heq
    exact hsame (Option.some.inj heq).symm

theorem onPathRemoved_unset {c : BlCtx} (hbi : c.loc.backlightInterface = none) (path : String) :
    onPathRemoved path c = none := by
  unfold onPathRemoved
  rw [hbi]

end Backlight

namespace HotplugRun
open Backlight

variable {s s' : HotplugRun}

/-- Before the startup there are no keys. -/
def Fresh (s : HotplugRun) : Prop := s.hasStarted = false → s.ctx.loc.bls = ∅

theorem tracks_started_iff {levels : List (String × ℚ)} (hbls : s.ctx.loc.bls = ∅)
    (hcrashed : s'.crashed = false) (hremoved : s'.justRemoved = none)
    (hctx : s'.ctx = storeLevels levels s.ctx)
    (htracked : s'.tracked = (levels.map fun e => objPath e.1).toFinset) :
    Tracks s' ↔ ∀ e ∈ levels, (objPath e.1).toList.length ≤ pathMax := by
  have hkeys : ∀ path, path ∈ s'.ctx.loc.bls ↔ ∃ e ∈ levels, path = startupKey e.1 := by
    intro path
    rw [hctx]
    unfold storeLevels
    dsimp only
    rw [hbls, mem_foldl_startup]
    exact or_iff_right (AList.notMem_empty path)
  have htracks : ∀ path, path ∈ s'.tracked ↔ ∃ e ∈ levels, path = objPath e.1 := by
    intro path
    rw [htracked, List.mem_toFinset, List.mem_map]
    exact exists_congr fun e => and_congr_right fun _ => eq_comm
  constructor
  · intro h e he
    obtain ⟨e', -, heq⟩ := (hkeys _).mp ((h.keys _).mpr ((htracks _).mpr ⟨e, he, rfl⟩))
    rw [heq]
    exact startupKey_length e'.1
  · intro hfit
    refine ⟨hcrashed, fun path hpath => ?_, fun path => ?_⟩
    · rw [hremoved] at hpath
      cases hpath
    · rw [hkeys, htracks]
      refine exists_congr fun e => and_congr_right fun he => ?_
      rw [(startupKey_eq_iff e.1).mpr (hfit e he)]

theorem tracks_removed_iff {path : String} (h : Tracks s)
    (hctx : s'.ctx = (onPathRemoved path s.ctx).getD s.ctx)
    (hcrashed : s'.crashed = (onPathRemoved path s.ctx).isNone)
    (htracked : s'.tracked = s.tracked.erase path) (hremoved : s'.justRemoved = some path) :
    Tracks s' ↔ s.ctx.loc.backlightInterface.isSome = true := by
  cases hbi : s.ctx.loc.backlightInterface with
  | none =>
    rw [onPathRemoved_unset hbi] at hcrashed
    constructor
    · intro h'
      exact absurd (h'.crashed.symm.trans hcrashed) Bool.false_ne_true
    · intro habsurd
      cases habsurd
  | some bi =>
    obtain ⟨c', hsome, hbls, hinterface⟩ := onPathRemoved_monitors hbi path
    rw [hsome] at hctx hcrashed
    refine ⟨fun _ => rfl, fun _ => ⟨hcrashed, fun path' hpath => ?_, fun path' => ?_⟩⟩
    · obtain rfl := Option.some.inj (hremoved.symm.trans hpath)
      rw [hctx]
      exact hinterface
    · rw [hctx, htracked, Finset.mem_erase, ← h.keys, ← AList.mem_erase, ← hbls]
      rfl

/-- One signal: the hotplug tracking is right after it exactly when it is covered. -/
theorem tracks_next_iff (h : Tracks s) (hf : Fresh s) {e : HotplugSignal} (hn : s.next e = some s') :
    (Tracks s' ↔ Covered s e) ∧ Fresh s' := by
  have hcrashed : ¬ s.crashed = true := by
    rw [h.crashed]
    exact Bool.false_ne_true
  unfold next at hn
  rw [if_neg hcrashed] at hn
  cases e with
  | started levels =>
    dsimp only at hn
    split_ifs at hn with hstarted
    obtain rfl := Option.some.inj hn
    have hbls : s.ctx.loc.bls = ∅ := hf (Bool.eq_false_iff.mpr hstarted)
    exact ⟨tracks_started_iff hbls h.crashed rfl rfl rfl, fun habsurd => by cases habsurd⟩
  | changed id pct =>
    dsimp only at hn
    split_ifs at hn with hstarted
    obtain rfl := Option.some.inj hn
    refine ⟨⟨fun _ => trivial, fun _ => ⟨h.crashed, fun path hpath => ?_, fun path => ?_⟩⟩, ?_⟩
    · cases hpath
    · dsimp only
      rw [onBlChanged_bls]
      exact h.keys path
    · intro habsurd
      exact absurd (hstarted.symm.trans habsurd) (by decide)
  | added path =>
    dsimp only at hn
    split_ifs at hn with hstarted
    obtain rfl := Option.some.inj hn
    refine ⟨⟨fun _ => trivial, fun _ => ⟨h.crashed, fun path' hpath => ?_, fun path' => ?_⟩⟩, ?_⟩
    · cases hpath
    · dsimp only
      rw [onInterfaceAdded_bls, AList.mem_insert, Finset.mem_insert, h.keys]
    · intro habsurd
      exact absurd ((Bool.and_eq_true_iff.mp hstarted).1.symm.trans habsurd) (by decide)
  | removed path =>
    dsimp only at hn
    split_ifs at hn with hstarted
    obtain rfl := Option.some.inj hn
    refine ⟨tracks_removed_iff h rfl rfl rfl rfl, ?_⟩
    intro habsurd
    exact absurd ((Bool.and_eq_true_iff.mp hstarted).1.symm.trans habsurd) (by decide)

/-- The tracking is right in the state that the signal leads to. -/
def TracksAfter (s : HotplugRun) (e : HotplugSignal) : Prop := ∀ s', s.next e = some s' → Tracks s'

/-- The tracking is right in every state of a run exactly when all its signals are covered. -/
theorem tracksAfter_iff {es : List HotplugSignal} (hs : hotplugRun.init s)
    (hrun : hotplugRun.run s es = some s') :
    hotplugRun.RunBy TracksAfter s es ↔ hotplugRun.RunBy Covered s es := by
  have hinit : Tracks s := by
    refine ⟨hs.crashed, fun path hpath => ?_, fun path => ?_⟩
    · rw [hs.justRemoved] at hpath
      cases hpath
    · rw [hs.bls, hs.tracked]
      exact ⟨fun h => absurd h (AList.notMem_empty path), fun h => absurd h (Finset.notMem_empty path)⟩
  apply Machine.runBy_after_iff (I := Fresh) ?_ hinit (fun _ => hs.bls) hrun
  intro s e s' h hf hn
  exact tracks_next_iff h hf hn

/-- BACKLIGHT with the default configuration. -/
def unplugged : HotplugRun where
  ctx :=
    { loc := Backlight.init
      st := initState .default
      cf := .default
      out := []
      calls := [] }
  hasStarted := false
  crashed := false
  tracked := ∅
  justRemoved := none

theorem unplugged_init : hotplugRun.init unplugged := ⟨rfl, rfl, rfl, rfl, rfl, rfl⟩

/-- One monitor at startup, which is heard of before it is unplugged. -/
theorem tracksAfter_heard : ∃ s', hotplugRun.run unplugged
    [.started [("DP1", 1)], .changed "DP1" (1/2), .removed (objPath "DP1")] = some s' ∧
      hotplugRun.RunBy TracksAfter unplugged
        [.started [("DP1", 1)], .changed "DP1" (1/2), .removed (objPath "DP1")] := by
  have hrun : hotplugRun.run unplugged
    [.started [("DP1", 1)], .changed "DP1" (1/2), .removed (objPath "DP1")] = some _ := rfl
  exact ⟨_, hrun, (tracksAfter_iff unplugged_init hrun).mpr (by decide)⟩

/-- The only monitor is unplugged before anything was heard of it. -/
theorem tracksAfter_unheard : ¬ ∀ (s s' : HotplugRun) (es : List HotplugSignal), hotplugRun.init s →
    hotplugRun.run s es = some s' → hotplugRun.RunBy TracksAfter s es := by
  intro hall
  have hrun : hotplugRun.run unplugged [.started [("DP1", 1)], .removed (objPath "DP1")] = some _ := rfl
  have htracks := hall _ _ _ unplugged_init hrun
  have hafter := (htracks.2 _ rfl).1 _ rfl
  exact absurd hafter.crashed (by decide)

end HotplugRun

end Clight
