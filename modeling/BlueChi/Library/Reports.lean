import Mathlib.Data.Multiset.AddSub

/-!
# Reports about tasks

A worker reports on a queue when one of its tasks is opened, changed and closed. A client that reads
the reports in order keeps a multiset of open tasks (`settle`), and a report about a task that is not
open makes no sense to it.

The invariant of such a queue is that the client, once it has read what is in the queue, has the
tasks open that the worker has (`settle m reports = some m'`). It is kept by a report that the worker
sends (`settle_open`, `settle_change`, `settle_close`) and by one that the client reads
(`settle_cons_iff`).
-/

namespace Reports

variable {κ σ ρ : Type*}

/-- What is reported about a task. -/
inductive Report (κ σ ρ : Type*)
  | opened (k : κ)
  | changed (k : κ) (state : σ)
  | closed (k : κ) (result : ρ)
  deriving DecidableEq

/-- The task that a report is about. -/
def Report.key : Report κ σ ρ → κ
  | .opened k => k
  | .changed k _ => k
  | .closed k _ => k

variable [DecidableEq κ]

/-- The open tasks after one report, if it makes sense. -/
def read (m : Multiset κ) : Report κ σ ρ → Option (Multiset κ)
  | .opened k => some (k ::ₘ m)
  | .changed k _ => if k ∈ m then some m else none
  | .closed k _ => if k ∈ m then some (m.erase k) else none

/-- The open tasks after all reports, if all make sense. -/
def settle (m : Multiset κ) : List (Report κ σ ρ) → Option (Multiset κ)
  | [] => some m
  | r :: rs => (read m r).bind fun m => settle m rs

variable {m m' : Multiset κ} {rs rs' : List (Report κ σ ρ)} {r : Report κ σ ρ} {k : κ}

@[simp] theorem settle_nil : settle m ([] : List (Report κ σ ρ)) = some m := rfl

/-- The client reads the first report. -/
theorem settle_cons_iff : settle m (r :: rs) = some m' ↔
    ∃ n, read m r = some n ∧ settle n rs = some m' := by
  rw [settle, Option.bind_eq_some_iff]

theorem settle_append : settle m (rs ++ rs') = (settle m rs).bind fun n => settle n rs' := by
  induction rs generalizing m with
  | nil => rfl
  | cons r rs ih =>
    show (read m r).bind _ = ((read m r).bind _).bind _
    rw [Option.bind_assoc]
    congr 1
    exact funext fun n => ih

/-- The worker sends one more report. -/
theorem settle_concat (h : settle m rs = some m') :
    settle m (rs ++ [r]) = read m' r := by
  rw [settle_append, h]
  exact Option.bind_fun_some _

theorem settle_open (h : settle m rs = some m') (k : κ) :
    settle m (rs ++ [.opened k]) = some (k ::ₘ m') := settle_concat h

theorem settle_change (h : settle m rs = some m') (hk : k ∈ m') (state : σ) :
    settle m (rs ++ [.changed k state]) = some m' := by
  rw [settle_concat h, read, if_pos hk]

theorem settle_close (h : settle m rs = some m') (hk : k ∈ m') (result : ρ) :
    settle m (rs ++ [.closed k result]) = some (m'.erase k) := by
  rw [settle_concat h, read, if_pos hk]

/-- A task that is changed or closed by the next report is open. -/
theorem mem_of_read {n : Multiset κ} (h : read m r = some n) (hr : ∀ k, r ≠ .opened k) : r.key ∈ m := by
  by_contra hk
  have hnone : read m r = none := by
    cases r with
    | opened k => exact absurd rfl (hr k)
    | changed k state => exact if_neg hk
    | closed k result => exact if_neg hk
  rw [hnone] at h
  cases h

/-! ## Counting -/

/-- How often a task is opened. -/
def openings (k : κ) (rs : List (Report κ σ ρ)) : ℕ :=
  rs.countP fun r => match r with
    | .opened k' => k' = k
    | _ => false

/-- How often a task is closed. -/
def closings (k : κ) (rs : List (Report κ σ ρ)) : ℕ :=
  rs.countP fun r => match r with
    | .closed k' _ => k' = k
    | _ => false

/-- What one report does to the number of open tasks of a key. -/
theorem count_of_read {n : Multiset κ} (h : read m r = some n) (k : κ) :
    n.count k + closings k [r] = m.count k + openings k [r] := by
  cases r with
  | opened k' =>
    obtain rfl := Option.some.inj h
    by_cases hk : k' = k
    · subst hk
      simp [openings, closings]
    · simp [openings, closings, hk, Multiset.count_cons_of_ne (Ne.symm hk)]
  | changed k' state =>
    have hmem : k' ∈ m := mem_of_read h (by simp)
    rw [read, if_pos hmem] at h
    obtain rfl := Option.some.inj h
    simp [openings, closings]
  | closed k' result =>
    have hmem : k' ∈ m := mem_of_read h (by simp)
    rw [read, if_pos hmem] at h
    obtain rfl := Option.some.inj h
    by_cases hk : k' = k
    · subst hk
      have hpos := Multiset.count_pos.mpr hmem
      simp only [openings, closings, Multiset.count_erase_self, List.countP_singleton]
      simp
      omega
    · simp [openings, closings, hk, Multiset.count_erase_of_ne (Ne.symm hk)]

/-- The tasks that were opened are closed, or still open. -/
theorem count_of_settle (h : settle m rs = some m') (k : κ) :
    m'.count k + closings k rs = m.count k + openings k rs := by
  induction rs generalizing m with
  | nil =>
    obtain rfl := Option.some.inj h
    rfl
  | cons r rs ih =>
    obtain ⟨n, hn, hrest⟩ := settle_cons_iff.mp h
    have hfirst := count_of_read hn k
    have hrest := ih hrest
    have hopen : openings k (r :: rs) = openings k [r] + openings k rs := by
      unfold openings
      rw [← List.countP_append, List.singleton_append]
    have hclose : closings k (r :: rs) = closings k [r] + closings k rs := by
      unfold closings
      rw [← List.countP_append, List.singleton_append]
    omega

end Reports
