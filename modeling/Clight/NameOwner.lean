import Clight.LockAccounting

/-! NameOwnerChanged: the bus tells of names that are acquired, lost and passed on, and with
the same signal of connections that end. Only the latter should drop a lock. -/
namespace Clight

/-- A connection has its unique name, and may own well-known names besides. The owners are
unique names; the empty string stands for none. -/
structure NameOwnerChanged where
  name : String
  oldOwner : String
  newOwner : String

/-- The old owner left the bus: it is its unique name that has no owner any more. -/
def NameOwnerChanged.OwnerLeft (sig : NameOwnerChanged) : Prop :=
  sig.name = sig.oldOwner ∧ sig.newOwner = ""

instance (sig : NameOwnerChanged) : Decidable sig.OwnerLeft := by
  unfold NameOwnerChanged.OwnerLeft
  infer_instance

namespace Locks

/-- on_bus_name_changed. -/
def onBusNameChanged (sig : NameOwnerChanged) (s : Locks) : Locks × List Msg :=
  if .client sig.oldOwner ∈ s.lockMap ∧ sig.newOwner = "" then
    (dropInhibit none (.client sig.oldOwner) true s).getD (s, [])
  else (s, [])

/-- The disconnect of a client is the signal about its own name. -/
theorem next_disconnect {s : Locks} (h : s.listening = true) (name : String) :
    next s (.disconnect name) = some (onBusNameChanged ⟨name, name, ""⟩ s) := by
  unfold next onBusNameChanged
  simp only [h, if_true, and_true]
  split_ifs
  · rfl
  · rfl

/-- The lock of the old owner goes if it left the bus, and then an inhibition is released;
nothing else changes. -/
structure DropsOnExit (sig : NameOwnerChanged) (s : Locks) (r : Locks × List Msg) : Prop where
  locks : ∀ k, r.1.lockMap.lookup k =
    if k = .client sig.oldOwner ∧ sig.OwnerLeft then none else s.lockMap.lookup k
  published : r.2 =
    if .client sig.oldOwner ∈ s.lockMap ∧ sig.OwnerLeft then [.inhibitReq false false] else []

/-- What the handler really does: any name that its owner gives up drops the lock. -/
theorem onBusNameChanged_spec (sig : NameOwnerChanged) (s : Locks) :
    (∀ k, (onBusNameChanged sig s).1.lockMap.lookup k =
      if k = .client sig.oldOwner ∧ sig.newOwner = "" then none else s.lockMap.lookup k) ∧
    (onBusNameChanged sig s).2 =
      if .client sig.oldOwner ∈ s.lockMap ∧ sig.newOwner = "" then [.inhibitReq false false] else [] := by
  unfold onBusNameChanged
  by_cases h : .client sig.oldOwner ∈ s.lockMap ∧ sig.newOwner = ""
  · obtain ⟨l, hl⟩ := Option.isSome_iff_exists.mp (AList.lookup_isSome.mpr h.1)
    have hown : findLock none (.client sig.oldOwner) s = some (.client sig.oldOwner, l) :=
      findLock_own hl
    obtain ⟨s', ms, hd⟩ := exists_dropInhibit hown true
    obtain ⟨k, l', hf, hcases⟩ := dropInhibit_cases hd
    obtain ⟨rfl, -⟩ := findLock_none hf
    -- a forced drop leaves no reference
    rcases hcases with ⟨-, rfl, hmap⟩ | ⟨hrefs, -⟩
    · rw [if_pos h, if_pos h, hd, Option.getD_some]
      refine ⟨?_, rfl⟩
      intro k
      rw [hmap, lookup_insert_erase]
      exact if_congr (iff_self_and.mpr fun _ => h.2) rfl rfl
    · exact absurd rfl hrefs
  · rw [if_neg h, if_neg h]
    refine ⟨?_, rfl⟩
    intro k
    split_ifs with hk
    · obtain ⟨rfl, hnew⟩ := hk
      exact AList.lookup_eq_none.mpr fun hmem => h ⟨hmem, hnew⟩
    · rfl

end Locks

open Locks in
/-- The handler drops a lock for its owner's exit alone, but for a name other than its own
that a lock holder gives up and nobody takes. -/
theorem drops_on_exit_iff (sig : NameOwnerChanged) (s : Locks) :
    DropsOnExit sig s (onBusNameChanged sig s) ↔
      ¬ (.client sig.oldOwner ∈ s.lockMap ∧ sig.newOwner = "" ∧ sig.name ≠ sig.oldOwner) := by
  obtain ⟨hlocks, hpublished⟩ := onBusNameChanged_spec sig s
  constructor
  · rintro h ⟨hheld, hnew, hname⟩
    -- the lock is gone, and should not be
    have hgone := hlocks (.client sig.oldOwner)
    have hkept := h.locks (.client sig.oldOwner)
    rw [if_pos ⟨rfl, hnew⟩] at hgone
    rw [if_neg fun hleft => hname hleft.2.1, hgone] at hkept
    exact AList.lookup_eq_none.mp hkept.symm hheld
  · intro h
    by_cases hheld : .client sig.oldOwner ∈ s.lockMap
    · -- then no name but its own is given up
      have hleft : sig.OwnerLeft ↔ sig.newOwner = "" := by
        constructor
        · exact And.right
        · intro hnew
          exact ⟨by_contra fun hname => h ⟨hheld, hnew, hname⟩, hnew⟩
      constructor
      · simpa only [hleft] using hlocks
      · simpa only [hleft] using hpublished
    · have hnone := AList.lookup_eq_none.mpr hheld
      constructor
      · intro k
        rw [hlocks k]
        by_cases hk : k = .client sig.oldOwner
        · rw [hk, hnone, ite_self, ite_self]
        · rw [if_neg fun hand => hk hand.1, if_neg fun hand => hk hand.1]
      · rw [hpublished, if_neg fun hand => hheld hand.1, if_neg fun hand => hheld hand.1]

/-- A player holds a lock and releases the well-known name that it has owned. -/
def releasedName : NameOwnerChanged := ⟨"org.mpris.MediaPlayer2.player", ":1.42", ""⟩

def playerLock : Locks :=
  { lockMap := (∅ : AList fun _ : LockKey => Lock).insert (.client ":1.42") ⟨7, 1⟩, listening := true }

/-- The player is still connected, and its inhibition is released. -/
theorem drops_on_release : ¬ ∀ (sig : NameOwnerChanged) (s : Locks),
    Locks.DropsOnExit sig s (Locks.onBusNameChanged sig s) := by
  intro h
  have hpublished := (h releasedName playerLock).published
  have hdropped : (Locks.onBusNameChanged releasedName playerLock).2 = [.inhibitReq false false] := by
    decide +kernel
  have hstays : ¬ releasedName.OwnerLeft := by decide
  rw [hdropped, if_neg fun hand => hstays hand.2] at hpublished
  exact absurd hpublished (List.cons_ne_nil _ _)

end Clight
