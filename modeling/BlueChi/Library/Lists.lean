import Mathlib.Algebra.GroupWithZero.Nat
import Mathlib.Data.List.Basic
import Mathlib.Data.List.Nodup
import Mathlib.Data.List.Perm.Basic

/-!
# Lists searched for their first match

A loop that stops at the first element satisfying `p` sees all of them exactly when there is
at most one. `find?` and `eraseP` are what such a loop finds and removes, `filter` is what it
should have found.
-/

namespace List

variable {α β : Type*} (p : α → Bool)

theorem find?_toList_eq_filter {l : List α} (h : l.countP p ≤ 1) :
    (l.find? p).toList = l.filter p := by
  induction l with
  | nil => rfl
  | cons x l ih =>
    by_cases hx : p x = true
    · rw [countP_cons_of_pos hx] at h
      have hnone : l.filter p = [] := by
        rw [filter_eq_nil_iff]
        exact countP_eq_zero.mp (by omega)
      rw [find?_cons_of_pos hx, filter_cons_of_pos hx, hnone]
      rfl
    · rw [countP_cons_of_neg hx] at h
      rw [find?_cons_of_neg hx, filter_cons_of_neg hx, ih h]

theorem eraseP_eq_filter_not {l : List α} (h : l.countP p ≤ 1) :
    l.eraseP p = l.filter fun x => !p x := by
  induction l with
  | nil => rfl
  | cons x l ih =>
    by_cases hx : p x = true
    · rw [countP_cons_of_pos hx] at h
      have hnone : ∀ y ∈ l, ¬ p y = true := countP_eq_zero.mp (by omega)
      rw [eraseP_cons_of_pos hx, filter_cons_of_neg (by simp [hx]), eq_comm, filter_eq_self]
      simpa using hnone
    · rw [countP_cons_of_neg hx] at h
      rw [eraseP_cons_of_neg hx, filter_cons_of_pos (by simp [hx]), ih h]

/-- With one match at most, removing the first match removes all; with more, one is left. -/
theorem eraseP_eq_filter_not_iff {l : List α} :
    l.eraseP p = l.filter (fun x => !p x) ↔ l.countP p ≤ 1 := by
  refine ⟨fun h => ?_, eraseP_eq_filter_not p⟩
  by_contra hlt
  have hlen : (l.eraseP p).countP p = 0 := by
    rw [h, countP_eq_zero]
    simp
  have hpos : ∃ a ∈ l, p a = true := countP_pos_iff.mp (by omega)
  obtain ⟨a, ha, hpa⟩ := hpos
  obtain ⟨b, l₁, l₂, _, hpb, hl, herase⟩ := exists_of_eraseP ha hpa
  rw [herase, countP_append] at hlen
  rw [hl, countP_append, countP_cons_of_pos hpb] at hlt
  omega

/-- The first match and what its removal leaves make up the list. -/
theorem find?_toList_append_eraseP_perm (l : List α) :
    ((l.find? p).toList ++ l.eraseP p).Perm l := by
  induction l with
  | nil => exact .refl _
  | cons x l ih =>
    by_cases hx : p x = true
    · rw [find?_cons_of_pos hx, eraseP_cons_of_pos hx]
      exact .refl _
    · rw [find?_cons_of_neg hx, eraseP_cons_of_neg hx]
      exact perm_middle.trans (ih.cons x)

/-- A change of one element that keeps its key. -/
theorem map_modify_of_key {κ : Type*} {g : α → κ} {f : α → α} (hf : ∀ x, g (f x) = g x)
    (l : List α) (i : ℕ) : (l.modify i f).map g = l.map g := by
  apply ext_getElem?
  intro j
  rw [getElem?_map, getElem?_map, getElem?_modify]
  by_cases hj : i = j
  · cases l[j]? with
    | none => rfl
    | some x => simp [hj, hf]
  · simp [hj]

/-- The first match is changed. -/
theorem modify_findIdx_append {l₁ l₂ : List α} {a : α} (ha : p a = true)
    (hl₁ : ∀ x ∈ l₁, p x = false) (f : α → α) :
    (l₁ ++ a :: l₂).modify ((l₁ ++ a :: l₂).findIdx p) f = l₁ ++ f a :: l₂ := by
  induction l₁ with
  | nil => simp [findIdx_cons, ha]
  | cons x l₁ ih =>
    have hx : p x = false := hl₁ x (by simp)
    have hrest := ih fun y hy => hl₁ y (by simp [hy])
    simp [findIdx_cons, hx, hrest]

/-- Keys that are distinct are matched at most once. -/
theorem Nodup.countP_key_le_one {κ : Type*} [DecidableEq κ] {f : α → κ} {l : List α}
    (h : (l.map f).Nodup) (k : κ) : l.countP (fun x => f x = k) ≤ 1 := by
  have hcount : (l.map f).count k ≤ 1 := nodup_iff_count_le_one.mp h k
  rw [count_eq_countP, countP_map] at hcount
  calc l.countP (fun x => f x = k) = l.countP ((fun x => x == k) ∘ f) := by
        congr 1
    _ ≤ 1 := hcount

/-- Sums over distinct elements that differ at one of them. -/
theorem Nodup.sum_map_add {l : List α} (h : l.Nodup) {a : α} (ha : a ∈ l) {f g : α → ℕ}
    (hfg : ∀ x ∈ l, x ≠ a → f x = g x) : (l.map f).sum + g a = (l.map g).sum + f a := by
  induction l with
  | nil => simp at ha
  | cons x l ih =>
    rw [nodup_cons] at h
    simp only [map_cons, sum_cons]
    by_cases hx : x = a
    · subst hx
      have hrest : l.map f = l.map g := map_congr_left fun y hy => by
        refine hfg y (by simp [hy]) ?_
        rintro rfl
        exact h.1 hy
      rw [hrest]
      omega
    · have hmem : a ∈ l := (mem_cons.mp ha).resolve_left fun heq => hx heq.symm
      have hhead := hfg x (by simp) hx
      have htail := ih h.2 hmem fun y hy => hfg y (by simp [hy])
      omega

/-- Counts over distinct elements that differ at one of them. -/
theorem Nodup.countP_add {l : List α} (h : l.Nodup) {a : α} (ha : a ∈ l) {p q : α → Bool}
    (hpq : ∀ x ∈ l, x ≠ a → p x = q x) :
    l.countP p + (if q a then 1 else 0) = l.countP q + (if p a then 1 else 0) := by
  have hsum : ∀ r : α → Bool, ∀ l : List α, (l.map fun x => if r x then 1 else 0).sum = l.countP r := by
    intro r l
    induction l with
    | nil => rfl
    | cons x l ih =>
      rw [map_cons, sum_cons, ih, countP_cons]
      omega
  have hadd := h.sum_map_add ha (f := fun x => if p x then 1 else 0)
    (g := fun x => if q x then 1 else 0) fun x hx hxa => by rw [hpq x hx hxa]
  rw [hsum p l, hsum q l] at hadd
  exact hadd

end List
