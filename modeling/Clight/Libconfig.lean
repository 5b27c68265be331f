import Mathlib.Data.List.Basic
import Mathlib.Data.Rat.Defs

/-! Trees of typed settings, as libconfig keeps them: what is written, what is read back,
and the laws between the two. -/
universe u v w

structure Libconfig (S : Type u) where
  bool : Bool → S
  int : ℤ → S
  float : ℚ → S
  string : String → S
  /-- Named members, in the order in which they are added. -/
  group : List (String × S) → S
  array : List S → S
  list : List S → S
  member : S → String → Option S
  elem : S → ℕ → Option S
  length : S → ℕ
  asBool : S → Option Bool
  asInt : S → Option ℤ
  asFloat : S → Option ℚ
  asString : S → Option String
  member_group : ∀ ms k, member (group ms) k = (ms.find? fun m => m.1 = k).map Prod.snd
  elem_array : ∀ es i, elem (array es) i = es[i]?
  length_array : ∀ es, length (array es) = es.length
  elem_list : ∀ es i, elem (list es) i = es[i]?
  length_list : ∀ es, length (list es) = es.length
  asBool_bool : ∀ b, asBool (bool b) = some b
  asInt_int : ∀ i, asInt (int i) = some i
  asFloat_float : ∀ q, asFloat (float q) = some q
  asFloat_bool : ∀ b, asFloat (bool b) = none
  asString_string : ∀ s, asString (string s) = some s

namespace Libconfig
variable {S : Type u} (L : Libconfig S)

/-! ### Reading -/

/-- config_setting_lookup_bool and its kin: the target keeps its value when the key is
absent or of another type. -/
def lookupBool (g : S) (k : String) (old : Bool) : Bool := ((L.member g k).bind L.asBool).getD old
def lookupInt (g : S) (k : String) (old : ℤ) : ℤ := ((L.member g k).bind L.asInt).getD old
def lookupFloat (g : S) (k : String) (old : ℚ) : ℚ := ((L.member g k).bind L.asFloat).getD old
def lookupString (g : S) (k : String) : Option String := (L.member g k).bind L.asString

/-- config_setting_get_int_elem and config_setting_get_float_elem. -/
def intElem (s : S) (i : ℕ) : ℤ := ((L.elem s i).bind L.asInt).getD 0
def floatElem (s : S) (i : ℕ) : ℚ := ((L.elem s i).bind L.asFloat).getD 0

/-- Reads a table of fixed length, indexed by the position in `all`. -/
def readTable {α : Type v} {β : Type w} [DecidableEq α] (all : List α) (read : S → ℕ → β)
    (old : α → β) (s : S) : α → β :=
  if L.length s = all.length then fun a => read s (all.idxOf a) else old

def loadTable {α : Type v} {β : Type w} [DecidableEq α] (all : List α) (read : S → ℕ → β) (g : S)
    (k : String) (old : α → β) : α → β :=
  match L.member g k with
  | some s => L.readTable all read old s
  | none => old

/-! ### Writing -/

/-- A table as an array, in the order of `all`. -/
def storeTable {α : Type v} {β : Type w} (all : List α) (mk : β → S) (t : α → β) : S :=
  L.array (all.map fun a => mk (t a))

/-! ### What is read is what was written -/

variable {L}

attribute [simp] asBool_bool asInt_int asFloat_float asFloat_bool asString_string

@[simp] theorem member_group_nil (k : String) : L.member (L.group []) k = none :=
  L.member_group [] k

@[simp] theorem member_group_cons (m : String × S) (ms : List (String × S)) (k : String) :
    L.member (L.group (m :: ms)) k = if m.1 = k then some m.2 else L.member (L.group ms) k := by
  by_cases h : m.1 = k
  · rw [L.member_group, List.find?_cons_of_pos (by simpa using h), if_pos h, Option.map_some]
  · rw [L.member_group, List.find?_cons_of_neg (by simpa using h), if_neg h, L.member_group]

theorem intElem_int {s : S} {i : ℕ} {v : ℤ} (h : L.elem s i = some (L.int v)) : L.intElem s i = v := by
  simp [intElem, h]

theorem floatElem_float {s : S} {i : ℕ} {v : ℚ} (h : L.elem s i = some (L.float v)) :
    L.floatElem s i = v := by
  simp [floatElem, h]

/-- An element that is no number is read as 0. -/
theorem floatElem_bool {s : S} {i : ℕ} {b : Bool} (h : L.elem s i = some (L.bool b)) :
    L.floatElem s i = 0 := by
  simp [floatElem, h]

section Tables
variable {α : Type v} {β : Type w} [DecidableEq α] {all : List α}

/-- A table comes back through whatever the reader makes of each element. -/
theorem readTable_storeTable {mk : β → S} {read : S → ℕ → β} {f : β → β} (t old : α → β)
    (hall : ∀ a, a ∈ all) (hread : ∀ s i v, L.elem s i = some (mk v) → read s i = f v) :
    L.readTable all read old (L.storeTable all mk t) = fun a => f (t a) := by
  have hlen : L.length (L.storeTable all mk t) = all.length := by
    rw [storeTable, L.length_array, List.length_map]
  unfold readTable
  rw [if_pos hlen]
  funext a
  apply hread
  rw [storeTable, L.elem_array, List.getElem?_map, List.getElem?_idxOf (hall a), Option.map_some]

@[simp] theorem readTable_int (t old : α → ℤ) (hall : ∀ a, a ∈ all) :
    L.readTable all L.intElem old (L.storeTable all L.int t) = t :=
  readTable_storeTable t old hall fun _ _ _ h => intElem_int h

@[simp] theorem readTable_float (t old : α → ℚ) (hall : ∀ a, a ∈ all) :
    L.readTable all L.floatElem old (L.storeTable all L.float t) = t :=
  readTable_storeTable t old hall fun _ _ _ h => floatElem_float h

end Tables

theorem map_floatElem_array (qs : List ℚ) :
    (List.range (L.length (L.array (qs.map L.float)))).map
      (L.floatElem (L.array (qs.map L.float))) = qs := by
  have hlen : L.length (L.array (qs.map L.float)) = qs.length := by
    rw [L.length_array, List.length_map]
  apply List.ext_getElem
  · rw [List.length_map, List.length_range, hlen]
  · intro i h₁ h₂
    rw [List.getElem_map, List.getElem_range]
    apply floatElem_float
    rw [L.elem_array, List.getElem?_map, List.getElem?_eq_getElem h₂, Option.map_some]

theorem filterMap_elem_list (es : List S) :
    (List.range (L.length (L.list es))).filterMap (L.elem (L.list es)) = es := by
  have hmap : (List.range (L.length (L.list es))).map (L.elem (L.list es)) = es.map some := by
    apply List.ext_getElem
    · rw [List.length_map, List.length_range, L.length_list, List.length_map]
    · intro i h₁ h₂
      rw [List.length_map] at h₂
      rw [List.getElem_map, List.getElem_range, L.elem_list, List.getElem_map,
        List.getElem?_eq_getElem h₂]
  calc (List.range (L.length (L.list es))).filterMap (L.elem (L.list es))
      = ((List.range (L.length (L.list es))).map (L.elem (L.list es))).filterMap id := by
        rw [List.filterMap_map, Function.id_comp]
    _ = es := by
        rw [hmap, List.filterMap_map, Function.id_comp]
        exact List.filterMap_some

end Libconfig

/-! ### A library -/

inductive SettingTree
  | bool (b : Bool)
  | int (i : ℤ)
  | float (q : ℚ)
  | string (s : String)
  | group (ms : List (String × SettingTree))
  | array (es : List SettingTree)
  | list (es : List SettingTree)

namespace SettingTree

def member : SettingTree → String → Option SettingTree
  | group ms, k => (ms.find? fun m => m.1 = k).map Prod.snd
  | _, _ => none

def elems : SettingTree → List SettingTree
  | array es | list es => es
  | _ => []

def asBool : SettingTree → Option Bool
  | bool b => some b
  | _ => none

def asInt : SettingTree → Option ℤ
  | int i => some i
  | _ => none

def asFloat : SettingTree → Option ℚ
  | float q => some q
  | _ => none

def asString : SettingTree → Option String
  | string s => some s
  | _ => none

def libconfig : Libconfig SettingTree where
  bool := bool
  int := int
  float := float
  string := string
  group := group
  array := array
  list := list
  member := member
  elem s i := s.elems[i]?
  length s := s.elems.length
  asBool := asBool
  asInt := asInt
  asFloat := asFloat
  asString := asString
  member_group _ _ := rfl
  elem_array _ _ := rfl
  length_array _ := rfl
  elem_list _ _ := rfl
  length_list _ := rfl
  asBool_bool _ := rfl
  asInt_int _ := rfl
  asFloat_float _ := rfl
  asFloat_bool _ := rfl
  asString_string _ := rfl

end SettingTree
