import Mathlib.Data.List.Basic
import Mathlib.Data.List.Nodup
import Mathlib.Data.Int.Notation
import Mathlib.Tactic.TypeStar

/-!
# Hash maps

Two views of a hash map as the list of its items, in some order.

A `Keyed` table is searched by a key of its items. It is described by what `get` yields for
every key after each operation.

An item set is filled through a hash and a compare function: an item replaces the one of the
same hash that compares as equal. `setAll_mem_iff` and `setAll_nodup` say what the set holds
when hash and comparison together identify the items.
-/

namespace Keyed

variable {α κ : Type*} [DecidableEq κ] (key : α → κ)

/-- The item with that key. -/
def get (t : List α) (k : κ) : Option α := t.find? fun x => key x = k

/-- Change the item with that key in place. -/
def modify (t : List α) (k : κ) (f : α → α) : List α := t.map fun x => if key x = k then f x else x

/-- Remove the item with that key. -/
def delete (t : List α) (k : κ) : List α := t.filter fun x => !(key x = k)

/-- `hashmap_set`: put the item in the place of the one with its key, or add it. -/
def put (t : List α) (x : α) : List α :=
  if (get key t (key x)).isSome then t.map fun y => if key y = key x then x else y else t ++ [x]

variable {key}

theorem get_eq_none_iff {t : List α} {k : κ} : get key t k = none ↔ ∀ x ∈ t, key x ≠ k := by
  simp [get]

theorem key_of_get_eq_some {t : List α} {k : κ} {x : α} (h : get key t k = some x) :
    key x = k := by
  simpa using List.find?_some h

theorem mem_of_get_eq_some {t : List α} {k : κ} {x : α} (h : get key t k = some x) : x ∈ t :=
  List.mem_of_find?_eq_some h

@[simp] theorem get_nil (k : κ) : get key [] k = none := rfl

theorem get_cons (x : α) (t : List α) (k : κ) :
    get key (x :: t) k = if key x = k then some x else get key t k := by
  by_cases h : key x = k <;> simp [get, h]

/-- A new item is found under its key. -/
theorem get_append_singleton {t : List α} {x : α} (h : get key t (key x) = none) (k : κ) :
    get key (t ++ [x]) k = if key x = k then some x else get key t k := by
  induction t with
  | nil => rw [List.nil_append, get_cons]
  | cons y t ih =>
    have hy : key y ≠ key x := get_eq_none_iff.mp h y (by simp)
    have ht : get key t (key x) = none :=
      get_eq_none_iff.mpr fun z hz => get_eq_none_iff.mp h z (by simp [hz])
    rw [List.cons_append, get_cons, get_cons, ih ht]
    by_cases hk : key y = k
    · have hxk : key x ≠ k := fun hx => hy (hk.trans hx.symm)
      rw [if_pos hk, if_neg hxk, if_pos hk]
    · rw [if_neg hk, if_neg hk]

/-- A change that keeps the key is seen under that key and nowhere else. -/
theorem get_modify {f : α → α} (hf : ∀ x, key (f x) = key x) (t : List α) (k k' : κ) :
    get key (modify key t k f) k' =
      if k' = k then (get key t k).map f else get key t k' := by
  induction t with
  | nil => simp [modify]
  | cons x t ih =>
    rw [modify, List.map_cons, ← modify, get_cons, ih, get_cons, get_cons]
    by_cases hx : key x = k
    · rw [if_pos hx, hf, hx]
      by_cases hk : k' = k
      · simp [hk]
      · simp [hk, Ne.symm hk]
    · rw [if_neg hx]
      by_cases hk : k' = k
      · subst hk
        simp [hx]
      · simp [hk]

/-- A change of all items that keeps the keys. -/
theorem get_map {f : α → α} (hf : ∀ x, key (f x) = key x) (t : List α) (k : κ) :
    get key (t.map f) k = (get key t k).map f := by
  induction t with
  | nil => rfl
  | cons x t ih =>
    rw [List.map_cons, get_cons, get_cons, ih, hf]
    split <;> rfl

theorem get_delete (t : List α) (k k' : κ) :
    get key (delete key t k) k' = if k' = k then none else get key t k' := by
  induction t with
  | nil => simp [delete]
  | cons x t ih =>
    by_cases hx : key x = k
    · rw [delete, List.filter_cons_of_neg (by simp [hx]), ← delete, ih, get_cons, hx]
      by_cases hk : k' = k
      · simp [hk]
      · simp [hk, Ne.symm hk]
    · rw [delete, List.filter_cons_of_pos (by simp [hx]), ← delete, get_cons, ih, get_cons]
      by_cases hk : k' = k
      · subst hk
        simp [hx]
      · simp [hk]

/-- The keys after a change that keeps them. -/
theorem map_key_modify {f : α → α} (hf : ∀ x, key (f x) = key x) (t : List α) (k : κ) :
    (modify key t k f).map key = t.map key := by
  rw [modify, List.map_map]
  refine List.map_congr_left fun x _ => ?_
  by_cases hx : key x = k <;> simp [hx, hf]

/-- A function that changes no item with the key changes nothing. -/
theorem modify_eq_self {f : α → α} {t : List α} {k : κ} (h : ∀ x ∈ t, key x = k → f x = x) :
    modify key t k f = t := by
  have hid : ∀ x ∈ t, (if key x = k then f x else x) = id x := fun x hx => by
    split
    · rename_i hk
      exact h x hx hk
    · rfl
  exact (List.map_congr_left hid).trans (List.map_id t)

theorem nodup_append_singleton {t : List α} {x : α} (h : (t.map key).Nodup)
    (hx : get key t (key x) = none) : ((t ++ [x]).map key).Nodup := by
  rw [List.map_append, List.nodup_append]
  refine ⟨h, by simp, fun a ha b hb => ?_⟩
  obtain ⟨y, hy, rfl⟩ := List.mem_map.mp ha
  simp only [List.map_cons, List.map_nil, List.mem_singleton] at hb
  subst hb
  exact get_eq_none_iff.mp hx y hy

theorem nodup_delete {t : List α} (h : (t.map key).Nodup) (k : κ) :
    ((delete key t k).map key).Nodup :=
  h.sublist (List.Sublist.map _ List.filter_sublist)

/-- An item of a table with distinct keys is found under its key. -/
theorem get_of_mem {t : List α} (h : (t.map key).Nodup) {x : α} (hx : x ∈ t) :
    get key t (key x) = some x := by
  induction t with
  | nil => simp at hx
  | cons y t ih =>
    rw [List.map_cons, List.nodup_cons] at h
    rw [get_cons]
    rcases List.mem_cons.mp hx with rfl | hx
    · rw [if_pos rfl]
    · have hne : key y ≠ key x := fun heq => h.1 (heq ▸ List.mem_map_of_mem hx)
      rw [if_neg hne, ih h.2 hx]

/-- An item that is put is found under its key, the others as before. -/
theorem get_put (t : List α) (x : α) (k : κ) :
    get key (put key t x) k = if key x = k then some x else get key t k := by
  unfold put
  split
  · rename_i hfound
    induction t with
    | nil => cases hfound
    | cons y t ih =>
      rw [List.map_cons, get_cons, get_cons]
      by_cases hy : key y = key x
      · rw [if_pos hy, hy]
        by_cases hk : key x = k
        · rw [if_pos hk, if_pos hk]
        · -- the items behind the first one are not looked at for this key
          rw [if_neg hk, if_neg hk, if_neg hk]
          clear ih hfound
          induction t with
          | nil => rfl
          | cons z t ih =>
            rw [List.map_cons, get_cons, get_cons, ih]
            by_cases hz : key z = key x
            · rw [if_pos hz, if_neg hk, hz, if_neg hk]
            · rw [if_neg hz]
      · rw [get_cons, if_neg hy] at hfound
        rw [if_neg hy, ih hfound]
        by_cases hk : key x = k
        · have hyk : key y ≠ k := fun h => hy (h.trans hk.symm)
          rw [if_neg hyk]
          simp [hk]
        · rw [if_neg hk, if_neg hk]
  · rename_i hfound
    exact get_append_singleton (by simpa using hfound) k

theorem nodup_put {t : List α} (h : (t.map key).Nodup) (x : α) : ((put key t x).map key).Nodup := by
  unfold put
  split
  · have hkeys : (t.map fun y => if key y = key x then x else y).map key = t.map key := by
      rw [List.map_map]
      refine List.map_congr_left fun y _ => ?_
      by_cases hy : key y = key x
      · simp [hy]
      · simp [hy]
    rw [hkeys]
    exact h
  · rename_i hfound
    exact nodup_append_singleton h (by simpa using hfound)

/-- Items with distinct keys that are all put into a table hide the ones there. -/
theorem get_foldl_put {l : List α} (h : (l.map key).Nodup) (t : List α) (k : κ) :
    get key (l.foldl (put key) t) k = (get key l k).or (get key t k) := by
  induction l generalizing t with
  | nil => rfl
  | cons x l ih =>
    rw [List.map_cons, List.nodup_cons] at h
    rw [List.foldl_cons, ih h.2, get_put, get_cons]
    by_cases hk : key x = k
    · have hnone : get key l k = none := by
        apply get_eq_none_iff.mpr
        intro y hy heq
        apply h.1
        rw [hk, ← heq]
        exact List.mem_map_of_mem hy
      rw [if_pos hk, if_pos hk, hnone]
      rfl
    · rw [if_neg hk, if_neg hk]

end Keyed

namespace ItemSet

variable {α η : Type*} [DecidableEq η] (hash : α → η) (compare : α → α → ℤ)

/-- Two items have the same key. -/
def Same (x y : α) : Prop := hash x = hash y ∧ compare x y = 0

instance (x y : α) : Decidable (Same hash compare x y) := 
  inferInstanceAs (Decidable (hash x = hash y ∧ compare x y = 0))

/-- `hashmap_set`: replace the item of the same key, or add a new one. -/
def set (t : List α) (x : α) : List α :=
  if t.any fun y => Same hash compare y x then
    t.map fun y => if Same hash compare y x then x else y
  else t ++ [x]

/-- The set filled with the items of a list. -/
def setAll (xs : List α) : List α := xs.foldl (set hash compare) []

variable {hash compare}

/-- When only equal items have the same key, setting an item adds it unless it is there. -/
theorem set_eq [DecidableEq α] {t : List α} {x : α}
    (hid : ∀ y, y = x ∨ y ∈ t → (Same hash compare y x ↔ y = x)) :
    set hash compare t x = if x ∈ t then t else t ++ [x] := by
  by_cases hx : x ∈ t
  · have hany : (t.any fun y => decide (Same hash compare y x)) = true := by
      rw [List.any_eq_true]
      exact ⟨x, hx, by simpa using (hid x (Or.inl rfl)).mpr rfl⟩
    rw [set, if_pos hany, if_pos hx]
    refine (List.map_congr_left fun y hy => ?_).trans (List.map_id t)
    by_cases hyx : y = x
    · simp [hyx]
    · rw [if_neg (fun h => hyx ((hid y (Or.inr hy)).mp h))]
      rfl
  · have hany : ¬ (t.any fun y => decide (Same hash compare y x)) = true := by
      simp only [List.any_eq_true, decide_eq_true_eq, not_exists, not_and]
      intro y hy hsame
      exact hx ((hid y (Or.inr hy)).mp hsame ▸ hy)
    rw [set, if_neg hany, if_neg hx]

private lemma foldl_set_spec (xs t : List α) (ht : t.Nodup)
    (hid : ∀ x ∈ t ++ xs, ∀ y ∈ t ++ xs, Same hash compare x y ↔ x = y) :
    (xs.foldl (set hash compare) t).Nodup ∧
      ∀ x, x ∈ xs.foldl (set hash compare) t ↔ x ∈ t ∨ x ∈ xs := by
  classical
  induction xs generalizing t with
  | nil => exact ⟨ht, by simp⟩
  | cons a xs ih =>
    have hset : set hash compare t a = if a ∈ t then t else t ++ [a] :=
      set_eq fun y hy => hid y (by rcases hy with rfl | hy <;> simp_all) a (by simp)
    rw [List.foldl_cons, hset]
    by_cases ha : a ∈ t
    · rw [if_pos ha]
      obtain ⟨hnodup, hmem⟩ := ih t ht fun x hx y hy => hid x (by
        rw [List.mem_append, List.mem_cons]; rw [List.mem_append] at hx; tauto) y (by
        rw [List.mem_append, List.mem_cons]; rw [List.mem_append] at hy; tauto)
      refine ⟨hnodup, fun x => (hmem x).trans ?_⟩
      rw [List.mem_cons]
      constructor
      · rintro (h | h)
        · exact Or.inl h
        · exact Or.inr (Or.inr h)
      · rintro (h | rfl | h)
        · exact Or.inl h
        · exact Or.inl ha
        · exact Or.inr h
    · rw [if_neg ha]
      have hnodup' : (t ++ [a]).Nodup := by
        rw [List.nodup_append]
        refine ⟨ht, by simp, fun x hx y hy => ?_⟩
        rw [List.mem_singleton] at hy
        subst hy
        exact fun h => ha (h ▸ hx)
      have hid' : ∀ x ∈ t ++ [a] ++ xs, ∀ y ∈ t ++ [a] ++ xs,
          Same hash compare x y ↔ x = y := by
        simpa using hid
      obtain ⟨hnodup, hmem⟩ := ih _ hnodup' hid'
      refine ⟨hnodup, fun x => (hmem x).trans ?_⟩
      simp [or_assoc]

/-- Whatever the key, only items put in are held. -/
theorem mem_of_mem_setAll {xs : List α} {x : α} (h : x ∈ setAll hash compare xs) : x ∈ xs := by
  have hfold : ∀ t : List α, ∀ x ∈ xs.foldl (set hash compare) t, x ∈ t ∨ x ∈ xs := by
    clear h
    induction xs with
    | nil => exact fun t x hx => Or.inl hx
    | cons a xs ih =>
      intro t x hx
      rw [List.foldl_cons] at hx
      rcases ih _ x hx with hset | hxs
      · unfold set at hset
        split at hset
        · obtain ⟨y, hy, hyx⟩ := List.mem_map.mp hset
          split at hyx
          · exact Or.inr (by simp [← hyx])
          · exact Or.inl (hyx ▸ hy)
        · rcases List.mem_append.mp hset with ht | ha
          · exact Or.inl ht
          · exact Or.inr (by simp_all)
      · exact Or.inr (List.mem_cons_of_mem a hxs)
  exact (hfold [] x h).resolve_left (by simp)

/-- No item is held twice. -/
theorem setAll_nodup {xs : List α} (hid : ∀ x ∈ xs, ∀ y ∈ xs, Same hash compare x y ↔ x = y) :
    (setAll hash compare xs).Nodup :=
  (foldl_set_spec xs [] List.nodup_nil (by simpa using hid)).1

/-- Exactly the items put in are held. -/
theorem mem_setAll_iff {xs : List α} (hid : ∀ x ∈ xs, ∀ y ∈ xs, Same hash compare x y ↔ x = y)
    (x : α) : x ∈ setAll hash compare xs ↔ x ∈ xs := by
  simpa [setAll] using (foldl_set_spec xs [] List.nodup_nil (by simpa using hid)).2 x

end ItemSet
