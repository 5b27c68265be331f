import Mathlib.Data.List.AList

/-! Association maps with values of one type: a change to every value, and the list of pairs
that a map is read as and entered from. -/
universe u v

namespace AssocMap
variable {α : Type u} {β : Type v}

def mapValues (f : α → β → β) (s : AList fun _ : α => β) : AList fun _ : α => β where
  entries := s.entries.map fun e => ⟨e.1, f e.1 e.2⟩
  nodupKeys := by
    have hkeys : (s.entries.map fun e => (⟨e.1, f e.1 e.2⟩ : Sigma fun _ : α => β)).keys =
        s.entries.keys := by
      unfold List.keys
      rw [List.map_map]
      rfl
    unfold List.NodupKeys
    rw [hkeys]
    exact s.nodupKeys

def pairs (s : AList fun _ : α => β) : List (α × β) := s.entries.map fun e => (e.1, e.2)

theorem mapValues_congr {f g : α → β → β} {s : AList fun _ : α => β}
    (hfg : ∀ e ∈ s.entries, f e.1 e.2 = g e.1 e.2) : mapValues f s = mapValues g s := by
  apply AList.ext
  apply List.map_congr_left
  intro e he
  rw [hfg e he]

theorem mapValues_self (s : AList fun _ : α => β) : mapValues (fun _ v => v) s = s :=
  AList.ext (List.map_id' _)

/-- A map whose values a function leaves alone is left alone by it. -/
theorem mapValues_eq_self {f : α → β → β} {s : AList fun _ : α => β}
    (hf : ∀ e ∈ s.entries, f e.1 e.2 = e.2) : mapValues f s = s :=
  (mapValues_congr hf).trans (mapValues_self s)

variable [DecidableEq α]

theorem dlookup_map (f : α → β → β) (a : α) (l : List (Sigma fun _ : α => β)) :
    (l.map fun e => (⟨e.1, f e.1 e.2⟩ : Sigma fun _ : α => β)).dlookup a =
      (l.dlookup a).map (f a) := by
  induction l with
  | nil => rfl
  | cons e l ih =>
    obtain ⟨k, v⟩ := e
    rw [List.map_cons]
    by_cases ha : a = k
    · subst ha
      rw [List.dlookup_cons_eq, List.dlookup_cons_eq]
      rfl
    · rw [List.dlookup_cons_ne _ _ ha, List.dlookup_cons_ne _ _ ha, ih]

@[simp] theorem lookup_mapValues (f : α → β → β) (a : α) (s : AList fun _ : α => β) :
    (mapValues f s).lookup a = (s.lookup a).map (f a) :=
  dlookup_map f a s.entries

@[simp] theorem mem_mapValues {f : α → β → β} {a : α} {s : AList fun _ : α => β} :
    a ∈ mapValues f s ↔ a ∈ s := by
  rw [← AList.lookup_isSome, ← AList.lookup_isSome, lookup_mapValues, Option.isSome_map]

theorem dlookup_foldl_insert {l : List (Sigma fun _ : α => β)} (hl : l.NodupKeys) (a : α)
    (s : AList fun _ : α => β) :
    ((l.map fun e => (e.1, e.2)).foldl (fun s e => s.insert e.1 e.2) s).lookup a =
      (l.dlookup a).or (s.lookup a) := by
  -- on the pairs, with what was entered before them
  induction l generalizing s with
  | nil => rfl
  | cons e l ih =>
    obtain ⟨k, v⟩ := e
    obtain ⟨hk, hl⟩ := List.nodupKeys_cons.mp hl
    rw [List.map_cons, List.foldl_cons, ih hl]
    by_cases ha : a = k
    · -- keys are distinct: no later pair overwrites this one
      subst ha
      rw [List.dlookup_eq_none.mpr hk, AList.lookup_insert, List.dlookup_cons_eq]
      rfl
    · rw [AList.lookup_insert_ne ha, List.dlookup_cons_ne _ _ ha]

/-- The pairs of a map, entered into an empty one, are found there again. -/
theorem lookup_foldl_pairs (s : AList fun _ : α => β) (a : α) :
    ((pairs s).foldl (fun s e => s.insert e.1 e.2) (∅ : AList fun _ : α => β)).lookup a =
      s.lookup a := by
  have hfold := dlookup_foldl_insert s.nodupKeys a ∅
  rw [AList.lookup_empty, Option.or_none] at hfold
  exact hfold

theorem filterMap_dlookup {l : List (Sigma fun _ : α => β)} (hl : l.NodupKeys) (a : α) :
    l.filterMap (fun e => if e.1 = a then some e.2 else none) = (l.dlookup a).toList := by
  induction l with
  | nil => rfl
  | cons e l ih =>
    obtain ⟨k, v⟩ := e
    obtain ⟨hk, hl⟩ := List.nodupKeys_cons.mp hl
    by_cases ha : k = a
    · subst ha
      rw [List.filterMap_cons, ih hl, List.dlookup_eq_none.mpr hk, List.dlookup_cons_eq, if_pos rfl]
      rfl
    · rw [List.filterMap_cons, ih hl, List.dlookup_cons_ne _ _ (Ne.symm ha), if_neg ha]

/-- A key stands once among the entries, with its value. -/
theorem filterMap_entries (s : AList fun _ : α => β) (a : α) :
    s.entries.filterMap (fun e => if e.1 = a then some e.2 else none) = (s.lookup a).toList :=
  filterMap_dlookup s.nodupKeys a

end AssocMap
