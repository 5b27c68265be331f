import Mathlib.Data.List.Basic

/-! Values that are read in layers: each layer gives some keys a value and leaves the others as they
are, so that the last layer that gives a key a value decides it. -/
universe u v w x

/-- `apply` puts a layer over the values that are there; `sets` is what the layer says of a key. -/
structure Layers (σ : Type u) (ℓ : Type v) (κ : Type w) (ν : κ → Type x) where
  get : σ → (k : κ) → ν k
  apply : ℓ → σ → σ
  sets : ℓ → (k : κ) → Option (ν k)
  get_apply : ∀ l s k, get (apply l s) k = (sets l k).getD (get s k)

namespace Layers
variable {σ : Type u} {ℓ : Type v} {κ : Type w} {ν : κ → Type x} (Y : Layers σ ℓ κ ν)

def applyAll (ls : List ℓ) (s : σ) : σ := ls.foldl (fun s l => Y.apply l s) s

/-- What the layers say of a key: the last one that says anything. -/
def setBy (ls : List ℓ) (k : κ) : Option (ν k) := (ls.filterMap fun l => Y.sets l k).getLast?

@[simp] theorem applyAll_nil (s : σ) : Y.applyAll [] s = s := rfl

@[simp] theorem applyAll_cons (l : ℓ) (ls : List ℓ) (s : σ) :
    Y.applyAll (l :: ls) s = Y.applyAll ls (Y.apply l s) := rfl

theorem applyAll_append (ls ls' : List ℓ) (s : σ) :
    Y.applyAll (ls ++ ls') s = Y.applyAll ls' (Y.applyAll ls s) := List.foldl_append

variable {Y}

/-- Of two stacks of layers the upper one is asked first. -/
theorem setBy_append (ls ls' : List ℓ) (k : κ) :
    Y.setBy (ls ++ ls') k = (Y.setBy ls' k).or (Y.setBy ls k) := by
  unfold setBy
  rw [List.filterMap_append, List.getLast?_append]

theorem setBy_cons (l : ℓ) (ls : List ℓ) (k : κ) :
    Y.setBy (l :: ls) k = (Y.setBy ls k).or (Y.sets l k) := by
  have hone : Y.setBy [l] k = Y.sets l k := by
    unfold setBy
    cases h : Y.sets l k with
    | none => simp [h]
    | some v => simp [h]
  calc Y.setBy (l :: ls) k = Y.setBy ([l] ++ ls) k := rfl
    _ = (Y.setBy ls k).or (Y.sets l k) := by rw [setBy_append, hone]

/-- Whatever the order of the layers, the last one that sets a key decides it. -/
theorem get_applyAll (ls : List ℓ) (s : σ) (k : κ) :
    Y.get (Y.applyAll ls s) k = (Y.setBy ls k).getD (Y.get s k) := by
  induction ls generalizing s with
  | nil => rfl
  | cons l ls ih =>
    rw [applyAll_cons, ih, Y.get_apply, setBy_cons]
    cases Y.setBy ls k with
    | none => rfl
    | some v => rfl

end Layers
