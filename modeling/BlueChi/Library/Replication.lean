import Mathlib.Data.List.Induction
import Mathlib.Data.Set.Insert

/-!
# Sets that are replicated by messages

A source keeps a set of keys and sends a message for each key that it puts in or takes out. A
replica carries the messages out in the order in which they were sent. `about` reads off a message
which key it puts in (`true`) or takes out (`false`); messages about nothing are passed over.

A connection starts with nothing sent, so a source that repeats its set at the start has
`exec about ∅ sent` as its set at any time. A replica that kept a set over the end of the last
connection has `exec about K sent` once it has handled what was sent. The two differ in the keys of
`K` that no message mentions (`mem_exec_iff`).
-/

namespace Replication

variable {κ μ ν : Type*} (about : μ → Option (κ × Bool))

/-- What one message does to a set. -/
def act (K : Set κ) (m : μ) : Set κ :=
  match about m with
  | none => K
  | some (k, true) => insert k K
  | some (k, false) => K \ {k}

/-- What the messages do, one after the other. -/
def exec (K : Set κ) (l : List μ) : Set κ := l.foldl (act about) K

/-- One of the messages is about the key. -/
def Mentions (l : List μ) (k : κ) : Prop := ∃ m ∈ l, ∃ b, about m = some (k, b)

variable {about}

@[simp] theorem exec_nil (K : Set κ) : exec about K [] = K := rfl

@[simp] theorem exec_cons (K : Set κ) (m : μ) (l : List μ) :
    exec about K (m :: l) = exec about (act about K m) l := rfl

@[simp] theorem exec_append (K : Set κ) (l l' : List μ) :
    exec about K (l ++ l') = exec about (exec about K l) l' := List.foldl_append

theorem act_of_none {m : μ} (hm : about m = none) (K : Set κ) : act about K m = K := by
  rw [act, hm]

theorem act_of_put {m : μ} {k : κ} (hm : about m = some (k, true)) (K : Set κ) :
    act about K m = insert k K := by
  rw [act, hm]

theorem act_of_take {m : μ} {k : κ} (hm : about m = some (k, false)) (K : Set κ) :
    act about K m = K \ {k} := by
  rw [act, hm]

/-- Messages about nothing. -/
theorem exec_of_silent {l : List μ} (hl : ∀ m ∈ l, about m = none) (K : Set κ) :
    exec about K l = K := by
  induction l generalizing K with
  | nil => rfl
  | cons m l ih =>
    rw [exec_cons, act_of_none (hl m List.mem_cons_self)]
    exact ih (fun m' hm' => hl m' (List.mem_cons_of_mem _ hm')) K

/-- Only what the messages are about matters. -/
theorem exec_congr {about' : μ → Option (κ × Bool)} {l : List μ}
    (h : ∀ m ∈ l, about m = about' m) (K : Set κ) : exec about K l = exec about' K l := by
  induction l generalizing K with
  | nil => rfl
  | cons m l ih =>
    have hact : act about K m = act about' K m := by
      rw [act, act, h m List.mem_cons_self]
    rw [exec_cons, exec_cons, hact]
    exact ih (fun m' hm' => h m' (List.mem_cons_of_mem _ hm')) _

/-- The messages are read off those of another kind. -/
theorem exec_filterMap (f : ν → Option μ) (l : List ν) (K : Set κ) :
    exec about K (l.filterMap f) = exec (fun x => (f x).bind about) K l := by
  induction l generalizing K with
  | nil => rfl
  | cons x l ih =>
    rw [exec_cons]
    cases hx : f x with
    | none =>
      rw [List.filterMap_cons_none hx, ih, act_of_none (by rw [hx]; rfl)]
    | some m =>
      have hact : act (fun x => (f x).bind about) K x = act about K m := by
        rw [act, act, hx]
        rfl
      rw [List.filterMap_cons_some hx, exec_cons, ih, hact]

/-- A row of messages that each put a key in. -/
theorem exec_map_put {m : κ → μ} (hm : ∀ k, about (m k) = some (k, true)) (ks : List κ) (K : Set κ) :
    exec about K (ks.map m) = K ∪ {k | k ∈ ks} := by
  induction ks generalizing K with
  | nil => simp
  | cons k ks ih =>
    rw [List.map_cons, exec_cons, act_of_put (hm k), ih]
    ext k'
    simp only [Set.mem_union, Set.mem_insert_iff, Set.mem_ofPred_eq, List.mem_cons]
    rw [or_comm (a := k' = k), or_assoc]

/-- The last message about a key decides. Without one the key is where it was. -/
theorem mem_exec_iff (K : Set κ) (l : List μ) (k : κ) :
    k ∈ exec about K l ↔ k ∈ exec about ∅ l ∨ k ∈ K ∧ ¬Mentions about l k := by
  induction l using List.reverseRecOn with
  | nil => simp [Mentions]
  | append_singleton l m ih =>
    have hmentions : Mentions about (l ++ [m]) k ↔
        Mentions about l k ∨ ∃ b, about m = some (k, b) := by
      simp only [Mentions, List.mem_append, List.mem_singleton, or_and_right, exists_or,
        exists_eq_left]
    rw [exec_append, exec_append, exec_cons, exec_cons, exec_nil, exec_nil, hmentions]
    match hm : about m with
    | none => simpa [act_of_none hm] using ih
    | some (k', true) =>
      rw [act_of_put hm, act_of_put hm, Set.mem_insert_iff, Set.mem_insert_iff, ih]
      by_cases hk : k = k'
      · simp [hk]
      · simp [hk, Ne.symm hk]
    | some (k', false) =>
      rw [act_of_take hm, act_of_take hm, Set.mem_sdiff, Set.mem_sdiff, ih, Set.mem_singleton_iff]
      by_cases hk : k = k'
      · simp [hk]
      · simp [hk, Ne.symm hk]

/-- A replica that started without keys has those of the source. -/
theorem exec_eq_of_fresh {K keys : Set κ} {l : List μ} (hkeys : keys = exec about ∅ l)
    (hfresh : ∀ k ∈ K, Mentions about l k) : exec about K l = keys := by
  ext k
  rw [mem_exec_iff, hkeys]
  constructor
  · intro hk
    exact hk.resolve_right fun hold => hold.2 (hfresh k hold.1)
  · exact Or.inl

end Replication
