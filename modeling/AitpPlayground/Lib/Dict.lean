import Mathlib.Data.List.Nodup

/-!
# `AitpPlayground.Lib.Dict`: insertion-ordered dictionaries

`Dict κ ν` is the dictionary of the Python language: a finite map that keeps the order in
which its keys were first inserted. `set` writes in place when the key is there and appends
otherwise. `erase` and `filter` keep the order of what stays. `merge a b` is `{**a, **b}`.

The keys are distinct by construction. The value of a dictionary is read through `get?`,
and every operation has its `get?` equation, so a proof never opens the entries.
-/

set_option autoImplicit false

namespace AitpPlayground.Lib

/-- A finite map with its keys in insertion order. -/
structure Dict (κ ν : Type) where
  /-- The items, first inserted first. -/
  entries : List (κ × ν)
  /-- No key occurs twice. -/
  nodup : (entries.map Prod.fst).Nodup
deriving DecidableEq

namespace Dict

variable {κ ν : Type} [DecidableEq κ]

/-- The keys in insertion order. -/
def keys (d : Dict κ ν) : List κ := d.entries.map Prod.fst

/-- The number of items, `len(d)`. -/
def size (d : Dict κ ν) : Nat := d.entries.length

/-- The empty dictionary `{}`. -/
def empty : Dict κ ν := ⟨[], List.nodup_nil⟩

instance : Inhabited (Dict κ ν) := ⟨empty⟩

/-- The value at a key, `d.get(k)`. -/
def get? (d : Dict κ ν) (k : κ) : Option ν := d.entries.lookup k

/-- Overwrites the value at `k` in the items. -/
def overwrite (k : κ) (v : ν) (l : List (κ × ν)) : List (κ × ν) :=
  l.map fun e => if e.1 = k then (k, v) else e

/-- Writing over an entry leaves the keys. -/
theorem map_fst_overwrite (k : κ) (v : ν) (l : List (κ × ν)) :
    (overwrite k v l).map Prod.fst = l.map Prod.fst := by
  rw [overwrite, List.map_map]
  apply List.map_congr_left
  intro e _
  by_cases h : e.1 = k <;> simp [h]

/-- The assignment `d[k] = v`: in place when `k` is a key, at the end otherwise. -/
def set (d : Dict κ ν) (k : κ) (v : ν) : Dict κ ν :=
  if h : k ∈ d.keys then
    ⟨overwrite k v d.entries, by rw [map_fst_overwrite]; exact d.nodup⟩
  else
    ⟨d.entries ++ [(k, v)], by
      rw [List.map_append, List.nodup_append']
      refine ⟨d.nodup, List.nodup_singleton _, ?_⟩
      intro a ha hk
      rw [List.map_singleton, List.mem_singleton] at hk
      subst hk
      exact h ha⟩

/-- The items that satisfy `p`. -/
def filter (d : Dict κ ν) (p : κ → ν → Bool) : Dict κ ν :=
  ⟨d.entries.filter fun e => p e.1 e.2, d.nodup.sublist (List.filter_sublist.map _)⟩

/-- The first `n` entries. -/
def take (d : Dict κ ν) (n : Nat) : Dict κ ν :=
  ⟨d.entries.take n, d.nodup.sublist ((List.take_sublist _ _).map _)⟩

/-- The dictionary without the key `k`, `del d[k]` and `d.pop(k, None)`. -/
def erase (d : Dict κ ν) (k : κ) : Dict κ ν := d.filter fun k' _ => decide (k' ≠ k)

/-- Assigns the items of a list, in order: a later item wins. -/
def setAll (d : Dict κ ν) (l : List (κ × ν)) : Dict κ ν := l.foldl (fun d e => d.set e.1 e.2) d

/-- The dictionary of a list of items. -/
def ofList (l : List (κ × ν)) : Dict κ ν := empty.setAll l

/-- The display `{**a, **b}`. -/
def merge (a b : Dict κ ν) : Dict κ ν := a.setAll b.entries

omit [DecidableEq κ] in
/-- A dictionary is its items. -/
theorem eq_of_entries {d d' : Dict κ ν} (h : d.entries = d'.entries) : d = d' := by
  obtain ⟨entries, nodup⟩ := d
  cases h
  rfl

omit [DecidableEq κ] in
/-- A dictionary without entries is empty. -/
theorem eq_empty {d : Dict κ ν} (h : d.entries = []) : d = empty := eq_of_entries h

/-! ### Lookups -/

/-- The empty dictionary has no key. -/
@[simp] theorem get?_empty (k : κ) : (empty : Dict κ ν).get? k = none := rfl

/-- With distinct keys a lookup finds exactly the entries. -/
theorem lookup_eq_some_iff {l : List (κ × ν)} (hl : (l.map Prod.fst).Nodup) (k : κ) (v : ν) :
    l.lookup k = some v ↔ (k, v) ∈ l := by
  induction l with
  | nil => simp
  | cons e l ih =>
    obtain ⟨k', v'⟩ := e
    rw [List.map_cons, List.nodup_cons] at hl
    rw [List.lookup_cons]
    by_cases h : k = k'
    · subst h
      have hnot : (k, v) ∉ l := fun hm => hl.1 (List.mem_map.mpr ⟨(k, v), hm, rfl⟩)
      simp [hnot, eq_comm]
    · rw [beq_false_of_ne h]
      simp [ih hl.2, h]

/-- A lookup finds exactly the items. -/
theorem get?_eq_some_iff (d : Dict κ ν) (k : κ) (v : ν) :
    d.get? k = some v ↔ (k, v) ∈ d.entries := lookup_eq_some_iff d.nodup k v

/-- The keys are those that a lookup finds. -/
theorem mem_keys_iff (d : Dict κ ν) (k : κ) : k ∈ d.keys ↔ (d.get? k).isSome := by
  rw [Option.isSome_iff_exists]
  simp [keys, get?_eq_some_iff]

/-- A lookup after an assignment. -/
theorem get?_set (d : Dict κ ν) (k k' : κ) (v : ν) :
    (d.set k v).get? k' = if k = k' then some v else d.get? k' := by
  apply Option.ext
  intro w
  rw [get?_eq_some_iff]
  -- A key that is there is overwritten in its place, and a new one goes to the end.
  by_cases hmem : k ∈ d.keys
  · rw [set, dif_pos hmem]
    obtain ⟨w', hw'⟩ := Option.isSome_iff_exists.mp ((mem_keys_iff d k).mp hmem)
    have hold : (k, w') ∈ d.entries := (get?_eq_some_iff d k w').mp hw'
    by_cases hk : k = k'
    · subst hk
      simp only [overwrite, List.mem_map, if_pos, Option.some.injEq]
      constructor
      · rintro ⟨e, he, heq⟩
        by_cases hek : e.1 = k
        · rw [if_pos hek] at heq
          exact (Prod.mk.inj heq).2
        · rw [if_neg hek] at heq
          exact absurd (congrArg Prod.fst heq) hek
      · rintro rfl
        exact ⟨(k, w'), hold, by simp⟩
    · rw [if_neg hk, get?_eq_some_iff]
      simp only [overwrite, List.mem_map]
      constructor
      · rintro ⟨e, he, heq⟩
        by_cases hek : e.1 = k
        · rw [if_pos hek] at heq
          exact absurd (congrArg Prod.fst heq) hk
        · rw [if_neg hek] at heq
          exact heq ▸ he
      · intro he
        exact ⟨(k', w), he, by simp [Ne.symm hk]⟩
  · rw [set, dif_neg hmem]
    have hnone : ∀ u, (k, u) ∉ d.entries := fun u hu => hmem (List.mem_map_of_mem hu)
    by_cases hk : k = k'
    · subst hk
      simp [hnone, eq_comm]
    · rw [if_neg hk, get?_eq_some_iff]
      simp [Ne.symm hk]

/-- The key that was assigned. -/
@[simp] theorem get?_set_self (d : Dict κ ν) (k : κ) (v : ν) : (d.set k v).get? k = some v := by
  simp [get?_set]

/-- Another key. -/
theorem get?_set_ne (d : Dict κ ν) {k k' : κ} (v : ν) (h : k ≠ k') :
    (d.set k v).get? k' = d.get? k' := by
  simp [get?_set, h]

/-- The items after an assignment: the new one, and old ones. -/
theorem mem_set {d : Dict κ ν} {k : κ} {v : ν} {e : κ × ν} (h : e ∈ (d.set k v).entries) :
    e = (k, v) ∨ e ∈ d.entries := by
  obtain ⟨k', v'⟩ := e
  rw [← get?_eq_some_iff, get?_set] at h
  split at h
  case isTrue hk =>
    cases h
    exact .inl (by rw [hk])
  case isFalse => exact .inr ((get?_eq_some_iff _ _ _).mp h)

/-- An assignment to a new key is at the end. -/
theorem entries_set_of_notMem {d : Dict κ ν} {k : κ} (v : ν) (h : k ∉ d.keys) :
    (d.set k v).entries = d.entries ++ [(k, v)] := by
  unfold set
  rw [dif_neg h]

/-- An assignment to a key that is there is in place. -/
theorem entries_set_of_mem {d : Dict κ ν} {k : κ} (v : ν) (h : k ∈ d.keys) :
    (d.set k v).entries = overwrite k v d.entries := by
  unfold set
  rw [dif_pos h]

/-- An assignment adds one item at most. -/
theorem size_set_le (d : Dict κ ν) (k : κ) (v : ν) : (d.set k v).size ≤ d.size + 1 := by
  unfold size
  by_cases h : k ∈ d.keys
  · rw [entries_set_of_mem v h, overwrite, List.length_map]
    exact Nat.le_succ _
  · rw [entries_set_of_notMem v h, List.length_append]
    exact Nat.le_refl _

omit [DecidableEq κ] in
/-- A filter leaves no more entries. -/
theorem size_filter_le (d : Dict κ ν) (p : κ → ν → Bool) : (d.filter p).size ≤ d.size :=
  List.length_filter_le _ _

/-- Of two assignments to one key the second one counts. -/
theorem set_set (d : Dict κ ν) (k : κ) (v w : ν) : (d.set k v).set k w = d.set k w := by
  have hmem : k ∈ (d.set k v).keys := by
    rw [mem_keys_iff, get?_set_self]
    rfl
  -- To overwrite twice is to overwrite with the second value.
  have htwice : ∀ l : List (κ × ν), overwrite k w (overwrite k v l) = overwrite k w l := by
    intro l
    rw [overwrite, overwrite, List.map_map]
    apply List.map_congr_left
    intro e _
    by_cases h : e.1 = k <;> simp [h]
  have hentries : ((d.set k v).set k w).entries = (d.set k w).entries := by
    rw [entries_set_of_mem w hmem]
    by_cases h : k ∈ d.keys
    · rw [entries_set_of_mem v h, entries_set_of_mem w h]
      exact htwice d.entries
    · rw [entries_set_of_notMem v h, entries_set_of_notMem w h, overwrite, List.map_append]
      have hkeep : d.entries.map (fun e => if e.1 = k then (k, w) else e) = d.entries := by
        rw [List.map_congr_left (g := id), List.map_id]
        intro e he
        have hne : e.1 ≠ k := fun heq => h (heq ▸ List.mem_map_of_mem he)
        rw [if_neg hne]
        rfl
      rw [hkeep]
      simp
  generalize (d.set k v).set k w = d₁ at hentries
  generalize d.set k w = d₂ at hentries
  obtain ⟨entries, nodup⟩ := d₁
  exact (mk.injEq ..).mpr hentries

/-- A lookup after a filter. -/
theorem get?_filter (d : Dict κ ν) (p : κ → ν → Bool) (k : κ) :
    (d.filter p).get? k = (d.get? k).filter (p k) := by
  apply Option.ext
  intro v
  rw [get?_eq_some_iff, Option.filter_eq_some_iff, get?_eq_some_iff]
  simp [filter]

/-- A lookup after a deletion. -/
theorem get?_erase (d : Dict κ ν) (k k' : κ) :
    (d.erase k).get? k' = if k' = k then none else d.get? k' := by
  rw [erase, get?_filter]
  by_cases h : k' = k
  · simp [h]
  · cases hd : d.get? k' <;> simp [h]

/-- A lookup after an update. -/
theorem get?_setAll (d : Dict κ ν) {l : List (κ × ν)} (hl : (l.map Prod.fst).Nodup) (k : κ) :
    (d.setAll l).get? k = (l.lookup k).or (d.get? k) := by
  induction l generalizing d with
  | nil => rfl
  | cons e l ih =>
    obtain ⟨k', v⟩ := e
    rw [List.map_cons, List.nodup_cons] at hl
    show ((d.set k' v).setAll l).get? k = _
    rw [ih _ hl.2, get?_set, List.lookup_cons]
    by_cases h : k = k'
    · subst h
      have hnone : l.lookup k = none := by
        rw [Option.eq_none_iff_forall_ne_some]
        intro w hw
        exact hl.1 (List.mem_map.mpr ⟨(k, w), (lookup_eq_some_iff hl.2 k w).mp hw, rfl⟩)
      simp [hnone]
    · rw [beq_false_of_ne h]
      simp [Ne.symm h]

/-- A merged dictionary reads the second one first. -/
theorem get?_merge (a b : Dict κ ν) (k : κ) : (a.merge b).get? k = (b.get? k).or (a.get? k) :=
  get?_setAll a b.nodup k

/-- The items of a list with distinct keys, read back. -/
theorem get?_ofList {l : List (κ × ν)} (hl : (l.map Prod.fst).Nodup) (k : κ) :
    (ofList l).get? k = l.lookup k := by
  rw [ofList, get?_setAll _ hl]
  simp

/-- Two updates in turn. -/
theorem setAll_append (d : Dict κ ν) (l l' : List (κ × ν)) :
    d.setAll (l ++ l') = (d.setAll l).setAll l' := List.foldl_append

/-- Items with other keys leave a value as it is. -/
theorem get?_setAll_of_ne (d : Dict κ ν) {l : List (κ × ν)} {k : κ} (h : ∀ e ∈ l, e.1 ≠ k) :
    (d.setAll l).get? k = d.get? k := by
  induction l generalizing d with
  | nil => rfl
  | cons e l ih =>
    show ((d.set e.1 e.2).setAll l).get? k = _
    rw [ih _ fun e' he' => h e' (List.mem_cons_of_mem _ he'), get?_set_ne _ _ (h e (by simp))]

/-- The last item of a list with a key is the one the dictionary has. -/
theorem get?_ofList_last {l l' : List (κ × ν)} {k : κ} {v : ν} (h : ∀ e ∈ l', e.1 ≠ k) :
    (ofList (l ++ (k, v) :: l')).get? k = some v := by
  rw [ofList, setAll_append]
  show (((empty.setAll l).set k v).setAll l').get? k = some v
  rw [get?_setAll_of_ne _ h, get?_set_self]

/-- The key of every item of a list is a key of its dictionary. -/
theorem mem_keys_ofList {l : List (κ × ν)} {e : κ × ν} (h : e ∈ l) : e.1 ∈ (ofList l).keys := by
  have hkept : ∀ (l : List (κ × ν)) (d : Dict κ ν) (k : κ), k ∈ d.keys → k ∈ (d.setAll l).keys := by
    intro l
    induction l with
    | nil => exact fun _ _ hk => hk
    | cons e l ih =>
      intro d k hk
      refine ih (d.set e.1 e.2) k ?_
      rw [mem_keys_iff, get?_set] at *
      split
      · rfl
      · exact hk
  obtain ⟨l₁, l₂, rfl⟩ := List.append_of_mem h
  rw [ofList, setAll_append]
  refine hkept l₂ ((empty.setAll l₁).set e.1 e.2) e.1 ?_
  rw [mem_keys_iff, get?_set_self]
  rfl

/-- The items of the dictionary of a list are items of the list. -/
theorem mem_of_mem_ofList {l : List (κ × ν)} {e : κ × ν} (h : e ∈ (ofList l).entries) : e ∈ l := by
  have hfrom : ∀ (l : List (κ × ν)) (d : Dict κ ν),
      e ∈ (d.setAll l).entries → e ∈ d.entries ∨ e ∈ l := by
    intro l
    induction l with
    | nil => exact fun _ he => .inl he
    | cons first l ih =>
      intro d he
      rcases ih (d.set first.1 first.2) he with hset | hl
      · rcases mem_set hset with rfl | hd
        · exact .inr (List.mem_cons_self ..)
        · exact .inl hd
      · exact .inr (List.mem_cons_of_mem _ hl)
  rcases hfrom l empty h with hempty | hl
  · exact absurd hempty (List.not_mem_nil)
  · exact hl

/-- Items with new and distinct keys are appended in order. -/
theorem entries_setAll (d : Dict κ ν) {l : List (κ × ν)}
    (h : ((d.entries ++ l).map Prod.fst).Nodup) : (d.setAll l).entries = d.entries ++ l := by
  induction l generalizing d with
  | nil => simp [setAll]
  | cons e l ih =>
    obtain ⟨k, v⟩ := e
    have hnew : k ∉ d.keys := by
      intro hk
      rw [List.map_append, List.nodup_append'] at h
      exact h.2.2 hk (by simp)
    have hset : (d.set k v).entries = d.entries ++ [(k, v)] := by simp [set, hnew]
    show ((d.set k v).setAll l).entries = _
    rw [ih _ (by rw [hset]; simpa using h), hset]
    simp

/-- The items of a dictionary make the dictionary. -/
theorem ofList_entries (d : Dict κ ν) : ofList d.entries = d := by
  have h : (ofList d.entries).entries = d.entries := entries_setAll empty d.nodup
  obtain ⟨entries, nodup⟩ := d
  exact (Dict.mk.injEq ..).mpr h

omit [DecidableEq κ] in
/-- A filter keeps what it has kept. -/
theorem filter_filter (d : Dict κ ν) (p : κ → ν → Bool) : (d.filter p).filter p = d.filter p := by
  simp [filter]

end Dict

end AitpPlayground.Lib
