import Mathlib.Data.List.Basic
import Mathlib.Algebra.Order.Ring.Int
import Mathlib.Tactic.TypeStar

/-!
# Reference counts with owners

A reference count is an integer. `owners` lists who holds the references; no program reads it,
it only states who may drop one. As long as every reference is dropped by an owner, the count
is the number of owners (`RefCount.WF`), so an object whose count reaches zero has no owner
left, and an object with an owner has a positive count.
-/

/-- A reference count together with the holders of the references. -/
structure RefCount (ω : Type*) where
  count : ℤ
  owners : List ω

namespace RefCount

variable {ω : Type*}

/-- The count of memory that holds no object. -/
def free : RefCount ω := ⟨0, []⟩

/-- A new object, whose only reference is held by `o`. -/
def new (o : ω) : RefCount ω := ⟨1, [o]⟩

/-- `o` takes a reference. -/
def ref (r : RefCount ω) (o : ω) : RefCount ω := ⟨r.count + 1, o :: r.owners⟩

/-- `o` takes `k` references. -/
def refs (r : RefCount ω) (o : ω) (k : ℕ) : RefCount ω :=
  ⟨r.count + k, List.replicate k o ++ r.owners⟩

/-- `o` drops its reference. -/
def unref [DecidableEq ω] (r : RefCount ω) (o : ω) : RefCount ω :=
  ⟨r.count - 1, r.owners.erase o⟩

/-- The count is the number of owners. -/
def WF (r : RefCount ω) : Prop := r.count = r.owners.length

@[simp] theorem count_new (o : ω) : (new o).count = 1 := rfl
@[simp] theorem owners_new (o : ω) : (new o).owners = [o] := rfl
@[simp] theorem count_ref (r : RefCount ω) (o : ω) : (r.ref o).count = r.count + 1 := rfl
@[simp] theorem owners_ref (r : RefCount ω) (o : ω) : (r.ref o).owners = o :: r.owners := rfl

section

variable [DecidableEq ω]

@[simp] theorem count_unref (r : RefCount ω) (o : ω) : (r.unref o).count = r.count - 1 := rfl
@[simp] theorem owners_unref (r : RefCount ω) (o : ω) : (r.unref o).owners = r.owners.erase o :=
  rfl

end

theorem wf_free : (free : RefCount ω).WF := rfl

theorem wf_new (o : ω) : (new o).WF := rfl

theorem WF.ref {r : RefCount ω} (h : r.WF) (o : ω) : (r.ref o).WF := by
  simp only [WF, count_ref, owners_ref, List.length_cons] at h ⊢
  omega

theorem ref_eq_refs (r : RefCount ω) (o : ω) : r.ref o = r.refs o 1 := rfl

@[simp] theorem refs_zero (r : RefCount ω) (o : ω) : r.refs o 0 = r := by
  simp [refs]

theorem refs_refs (r : RefCount ω) (o : ω) (j k : ℕ) :
    (r.refs o j).refs o k = r.refs o (j + k) := by
  simp only [refs, Nat.cast_add, add_assoc, ← List.append_assoc,
    List.replicate_append_replicate, Nat.add_comm k j]

theorem WF.refs {r : RefCount ω} (h : r.WF) (o : ω) (k : ℕ) : (r.refs o k).WF := by
  simp only [WF, RefCount.refs, List.length_append, List.length_replicate] at h ⊢
  omega

theorem mem_owners_refs {r : RefCount ω} {o : ω} (ho : o ∈ r.owners) (o' : ω) (k : ℕ) :
    o ∈ (r.refs o' k).owners :=
  List.mem_append_right _ ho

theorem WF.count_pos {r : RefCount ω} (h : r.WF) {o : ω} (ho : o ∈ r.owners) : 0 < r.count := by
  have hlen : 0 < r.owners.length := List.length_pos_of_mem ho
  rw [h]
  omega

theorem WF.owners_eq_nil {r : RefCount ω} (h : r.WF) (h0 : r.count = 0) : r.owners = [] := by
  rw [← List.length_eq_zero_iff]
  have hlen : (r.owners.length : ℤ) = 0 := by rw [← h, h0]
  omega

theorem WF.unref [DecidableEq ω] {r : RefCount ω} (h : r.WF) {o : ω} (ho : o ∈ r.owners) :
    (r.unref o).WF := by
  have hlen := List.length_erase_of_mem ho
  have hpos : 0 < r.owners.length := List.length_pos_of_mem ho
  simp only [WF, count_unref, owners_unref] at h ⊢
  omega

/-- An owner keeps its reference when another one drops its own. -/
theorem mem_owners_unref [DecidableEq ω] {r : RefCount ω} {o o' : ω} (ho : o ∈ r.owners)
    (hne : o ≠ o') : o ∈ (r.unref o').owners :=
  (List.mem_erase_of_ne hne).mpr ho

/-- Dropping a reference does not free an object that another owner holds. -/
theorem WF.unref_ne_zero [DecidableEq ω] {r : RefCount ω} (h : r.WF) {o o' : ω}
    (ho' : o' ∈ r.owners) (ho : o ∈ r.owners) (hne : o ≠ o') : (r.unref o').count ≠ 0 := by
  have hpos := (h.unref ho').count_pos (mem_owners_unref ho hne)
  omega

end RefCount
