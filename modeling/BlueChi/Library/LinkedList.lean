import Mathlib.Data.List.Nodup
import Mathlib.Logic.Function.Basic
import Mathlib.Data.Nat.Notation
import Mathlib.Tactic.TypeStar

/-!
# Intrusive doubly linked lists

A list is a head and, for each item, the items after and before it. `Represents l xs` says that
`l` is the list of the items `xs`. Appending walks to the tail first, for which `fuel` bounds the
number of items; removing an item asserts that one without predecessor is the head.
-/

/-- The head of a list, and the neighbours of each item. -/
structure LinkedList (α : Type*) where
  head : Option α
  next : α → Option α
  prev : α → Option α

namespace LinkedList

variable {α : Type*} [DecidableEq α] {l : LinkedList α} {xs ys : List α} {a b : α}

/-! ## Operations -/

def empty : LinkedList α := ⟨none, fun _ => none, fun _ => none⟩

def setNext (l : LinkedList α) (a : α) (b : Option α) : LinkedList α :=
  { l with next := Function.update l.next a b }

def setPrev (l : LinkedList α) (a : α) (b : Option α) : LinkedList α :=
  { l with prev := Function.update l.prev a b }

@[simp] theorem head_setNext (l : LinkedList α) (a : α) (b : Option α) :
    (l.setNext a b).head = l.head := rfl

@[simp] theorem next_setNext (l : LinkedList α) (a : α) (b : Option α) :
    (l.setNext a b).next = Function.update l.next a b := rfl

@[simp] theorem prev_setNext (l : LinkedList α) (a : α) (b : Option α) :
    (l.setNext a b).prev = l.prev := rfl

@[simp] theorem head_setPrev (l : LinkedList α) (a : α) (b : Option α) :
    (l.setPrev a b).head = l.head := rfl

@[simp] theorem next_setPrev (l : LinkedList α) (a : α) (b : Option α) :
    (l.setPrev a b).next = l.next := rfl

@[simp] theorem prev_setPrev (l : LinkedList α) (a : α) (b : Option α) :
    (l.setPrev a b).prev = Function.update l.prev a b := rfl

/-- Set the predecessor of an item, if there is one. -/
def setPrev? (l : LinkedList α) (a b : Option α) : LinkedList α :=
  match a with
  | some a => l.setPrev a b
  | none => l

/-- Follow the items to the last one. -/
def findTail (l : LinkedList α) : ℕ → α → Option α
  | 0, _ => none
  | fuel + 1, a =>
    match l.next a with
    | none => some a
    | some b => l.findTail fuel b

/-- Insert an item after another one, or at the head. -/
def insertAfter (l : LinkedList α) (a : Option α) (b : α) : LinkedList α :=
  match a with
  | none => { ((l.setNext b l.head).setPrev? l.head (some b)).setPrev b none with head := some b }
  | some a => (((l.setNext b (l.next a)).setPrev? (l.next a) (some b)).setPrev b (some a)).setNext a
      (some b)

def append (l : LinkedList α) (fuel : ℕ) (b : α) : Option (LinkedList α) :=
  match l.head with
  | none => some (l.insertAfter none b)
  | some a => (l.findTail fuel a).map fun tail => l.insertAfter (some tail) b

/-- Remove an item; `none` when the assertion about the head fails. -/
def remove (l : LinkedList α) (a : α) : Option (LinkedList α) :=
  let l := l.setPrev? (l.next a) (l.prev a)
  match l.prev a with
  | some b => some (((l.setNext b (l.next a)).setNext a none).setPrev a none)
  | none =>
    if l.head = some a then some (({ l with head := l.next a }.setNext a none).setPrev a none)
    else none

/-! ## Representation -/

/-- The items `xs` are linked to each other, to `before` at the front and `after` at the end. -/
def Segment (l : LinkedList α) : Option α → List α → Option α → Prop
  | _, [], _ => True
  | before, a :: as, after =>
    l.prev a = before ∧ l.next a = as.head?.or after ∧ l.Segment (some a) as after

/-- `l` is the list of the items `xs`. -/
structure Represents (l : LinkedList α) (xs : List α) : Prop where
  head : l.head = xs.head?
  segment : l.Segment none xs none
  nodup : xs.Nodup

omit [DecidableEq α] in
theorem segment_append {before after : Option α} : l.Segment before (xs ++ ys) after ↔
    l.Segment before xs (ys.head?.or after) ∧ l.Segment (xs.getLast?.or before) ys after := by
  induction xs generalizing before with
  | nil => exact (and_iff_right trivial).symm
  | cons a xs ih =>
    have hlast : (a :: xs).getLast?.or before = xs.getLast?.or (some a) := by
      rw [List.getLast?_cons]
      cases xs.getLast? <;> rfl
    show _ ∧ l.next a = (xs ++ ys).head?.or after ∧ l.Segment (some a) (xs ++ ys) after ↔
      (_ ∧ _ = _ ∧ _) ∧ _
    rw [ih, hlast, List.head?_append, Option.or_assoc]
    simp only [and_assoc]

omit [DecidableEq α] in
/-- The links of other items do not matter. -/
theorem Segment.congr {l' : LinkedList α} {before after : Option α} (h : l.Segment before xs after)
    (hnext : ∀ a ∈ xs, l'.next a = l.next a) (hprev : ∀ a ∈ xs, l'.prev a = l.prev a) :
    l'.Segment before xs after := by
  induction xs generalizing before with
  | nil => exact trivial
  | cons a xs ih =>
    have ⟨h₁, h₂, h₃⟩ := h
    refine ⟨(hprev a List.mem_cons_self).trans h₁, (hnext a List.mem_cons_self).trans h₂, ?_⟩
    apply ih h₃
    · exact fun b hb => hnext b (List.mem_cons_of_mem a hb)
    · exact fun b hb => hprev b (List.mem_cons_of_mem a hb)

/-- The first item gets another predecessor. -/
theorem Segment.setPrev {before after : Option α} (h : l.Segment before (a :: xs) after)
    (hnodup : (a :: xs).Nodup) (before' : Option α) :
    (l.setPrev a before').Segment before' (a :: xs) after := by
  have ⟨_, h₂, h₃⟩ := h
  refine ⟨Function.update_self .., h₂, h₃.congr (fun _ _ => rfl) fun b hb => ?_⟩
  apply Function.update_of_ne
  intro heq
  exact (List.nodup_cons.mp hnodup).1 (heq ▸ hb)

/-- The last item gets another successor. -/
theorem Segment.setNext {before after : Option α} (h : l.Segment before (xs ++ [a]) after)
    (hnodup : (xs ++ [a]).Nodup) (after' : Option α) :
    (l.setNext a after').Segment before (xs ++ [a]) after' := by
  rw [segment_append] at h ⊢
  have ⟨h₁, h₂, _⟩ := h
  refine ⟨h₁.congr (fun b hb => ?_) (fun _ _ => rfl), h₂, Function.update_self .., trivial⟩
  apply Function.update_of_ne
  intro heq
  exact (List.nodup_append.mp hnodup).2.2 b hb a (List.mem_singleton_self a) heq

omit [DecidableEq α] in
theorem represents_empty : (empty : LinkedList α).Represents [] := ⟨rfl, trivial, List.nodup_nil⟩

/-! ## Rules of the operations -/

/-- From `l` to `l'` only the links of those items change. -/
def Changes (l l' : LinkedList α) (xs : List α) : Prop :=
  ∀ a, a ∉ xs → l'.next a = l.next a ∧ l'.prev a = l.prev a

omit [DecidableEq α] in
theorem findTail_eq_some {before : Option α} (h : l.Segment before (xs ++ [a]) none) :
    ∀ {fuel : ℕ} {b : α}, (xs ++ [a]).head? = some b → xs.length < fuel →
      l.findTail fuel b = some a := by
  induction xs generalizing before with
  | nil =>
    intro fuel b hhead hfuel
    rw [← Option.some.inj hhead]
    have ⟨n, hn⟩ := Nat.exists_eq_succ_of_ne_zero (Nat.pos_iff_ne_zero.mp hfuel)
    rw [hn, findTail, show l.next a = none from h.2.1]
  | cons c xs ih =>
    intro fuel b hhead hfuel
    rw [← Option.some.inj hhead]
    have ⟨n, hn⟩ := Nat.exists_eq_succ_of_ne_zero (Nat.ne_zero_of_lt hfuel)
    have ⟨d, hd⟩ : ∃ d, (xs ++ [a]).head? = some d := by cases xs <;> exact ⟨_, rfl⟩
    have hnext : l.next c = some d := by
      rw [show l.next c = (xs ++ [a]).head?.or none from h.2.1, hd]
      rfl
    rw [hn, findTail, hnext]
    rw [hn] at hfuel
    exact ih h.2.2 hd (Nat.lt_of_succ_lt_succ hfuel)

lemma insertAfter_last (hnext : l.next a = none) : l.insertAfter (some a) b =
    ((l.setNext b none).setPrev b (some a)).setNext a (some b) := by
  unfold insertAfter
  dsimp only
  rw [hnext]
  rfl

/-- With enough fuel for its items the list grows at the end. -/
theorem append_represents (h : l.Represents xs) (hb : b ∉ xs) {fuel : ℕ} (hfuel : xs.length ≤ fuel) :
    ∃ l', l.append fuel b = some l' ∧ l'.Represents (xs ++ [b]) ∧ Changes l l' (xs ++ [b]) := by
  have hnodup : (xs ++ [b]).Nodup := by
    rw [List.nodup_append]
    refine ⟨h.nodup, List.pairwise_singleton _ b, fun a ha c hc heq => ?_⟩
    rw [heq, List.mem_singleton.mp hc] at ha
    exact hb ha
  unfold append
  cases hlast : xs.getLast? with
  | none =>
    have hnil := List.getLast?_eq_none_iff.mp hlast
    have hhead : l.head = none := by rw [h.head, hnil]; rfl
    rw [hhead]
    refine ⟨_, rfl, ?_, fun a ha => ?_⟩
    · rw [hnil] at hnodup ⊢
      refine ⟨rfl, ?_, hnodup⟩
      simp [Segment, insertAfter, hhead, setPrev?]
    · have hne : a ≠ b := fun heq => ha (heq ▸ by simp)
      simp [insertAfter, hhead, setPrev?, hne]
  | some a =>
    have ⟨zs, hzs⟩ := List.getLast?_eq_some_iff.mp hlast
    have ⟨hhead, hseg, _⟩ := h
    rw [hzs] at hseg hb hfuel hnodup hhead ⊢
    have ⟨c, hc⟩ : ∃ c, (zs ++ [a]).head? = some c := by cases zs <;> exact ⟨_, rfl⟩
    rw [List.length_append, List.length_singleton] at hfuel
    have htail := findTail_eq_some hseg hc hfuel
    have hnext : l.next a = none := (segment_append.mp hseg).2.2.1
    have hab : a ≠ b := fun heq => hb (heq ▸ by simp)
    rw [hhead, hc]
    dsimp only
    rw [htail, Option.map_some, insertAfter_last hnext]
    refine ⟨_, rfl, ⟨?_, ?_, hnodup⟩, fun d hd => ?_⟩
    · show l.head = _
      rw [hhead, hc]
      cases zs with
      | nil => exact hc.symm
      | cons z zs => exact hc.symm
    · rw [segment_append]
      constructor
      · -- the old items keep their links but for the successor of the last one
        refine (hseg.setNext (List.nodup_append.mp hnodup).1 (some b)).congr (fun d hd => ?_)
          fun d hd => ?_
        · have hdb : d ≠ b := fun heq => hb (heq ▸ hd)
          by_cases hda : d = a
          · simp [hda]
          · simp [hda, hdb]
        · have hdb : d ≠ b := fun heq => hb (heq ▸ hd)
          simp [hdb]
      · simp [Segment, hab.symm]
    · have hda : d ≠ a := fun heq => hd (by rw [heq]; simp)
      have hdb : d ≠ b := fun heq => hd (by rw [heq]; simp)
      simp [hda, hdb]

/-- The items after a removed one get its predecessor. -/
lemma segment_setPrev? (h : l.Segment (some a) ys none) (hnodup : ys.Nodup) (before : Option α) :
    (l.setPrev? ys.head? before).Segment before ys none := by
  cases ys with
  | nil => exact trivial
  | cons y ys => exact h.setPrev hnodup before

lemma setPrev?_of_not_mem {d : α} {before : Option α} (hd : d ∉ ys) :
    (l.setPrev? ys.head? before).prev d = l.prev d := by
  cases ys with
  | nil => rfl
  | cons y ys =>
    have hne : d ≠ y := fun heq => hd (heq ▸ List.mem_cons_self)
    simp [setPrev?, hne]

@[simp] lemma next_setPrev? (a b : Option α) : (l.setPrev? a b).next = l.next := by
  cases a <;> rfl

@[simp] lemma head_setPrev? (a b : Option α) : (l.setPrev? a b).head = l.head := by
  cases a <;> rfl

/-- An item of the list can be removed. Its neighbours are joined, and it has none after that. -/
theorem remove_represents (h : l.Represents (xs ++ a :: ys)) :
    ∃ l', l.remove a = some l' ∧ l'.Represents (xs ++ ys) ∧ l'.next a = none ∧ l'.prev a = none ∧
      Changes l l' (xs ++ a :: ys) := by
  have ⟨hhead, hseg, hnodup⟩ := h
  have ⟨hxs, hprev, hnext, hys⟩ := segment_append.mp hseg
  rw [Option.or_none] at hprev hnext
  have ⟨hnodupxs, hnodupays, hdisjoint⟩ := List.nodup_append.mp hnodup
  have ⟨haY, hnodupys⟩ := List.nodup_cons.mp hnodupays
  have haX : a ∉ xs := fun ha => hdisjoint a ha a List.mem_cons_self rfl
  have hXY : ∀ d ∈ xs, d ∉ ys := fun d hd hd' => hdisjoint d hd d (List.mem_cons_of_mem a hd') rfl
  have hnodup' : (xs ++ ys).Nodup := List.nodup_append.mpr
    ⟨hnodupxs, hnodupys, fun d hd e he => hdisjoint d hd e (List.mem_cons_of_mem a he)⟩
  -- the items after it are joined to those before it
  have hys' := segment_setPrev? hys hnodupys xs.getLast?
  have hself : (l.setPrev? ys.head? xs.getLast?).prev a = xs.getLast? :=
    (setPrev?_of_not_mem haY).trans hprev
  have hxs' : (l.setPrev? ys.head? xs.getLast?).Segment none xs (some a) :=
    hxs.congr (fun d _ => by simp) fun d hd => setPrev?_of_not_mem (hXY d hd)
  have hframe : ∀ d, d ∉ ys → (l.setPrev? ys.head? xs.getLast?).prev d = l.prev d :=
    fun d hd => setPrev?_of_not_mem hd
  have hnext' : (l.setPrev? ys.head? xs.getLast?).next = l.next := by simp
  have hhead' : (l.setPrev? ys.head? xs.getLast?).head = l.head := by simp
  unfold remove
  rw [hnext, hprev]
  dsimp only
  generalize l.setPrev? ys.head? xs.getLast? = m at *
  rw [hself, hnext', hnext, hhead']
  cases hlast : xs.getLast? with
  | none =>
    have hnil := List.getLast?_eq_none_iff.mp hlast
    rw [hnil] at hhead ⊢
    dsimp only
    rw [if_pos (by rw [hhead]; rfl)]
    refine ⟨_, rfl, ⟨?_, ?_, hnodupys⟩, by simp, by simp, fun d hd => ?_⟩
    · rfl
    · rw [hlast] at hys'
      refine hys'.congr (fun d hd => ?_) fun d hd => ?_
      · have hda : d ≠ a := fun heq => haY (heq ▸ hd)
        simp [hda, hnext']
      · have hda : d ≠ a := fun heq => haY (heq ▸ hd)
        simp [hda]
    · have hda : d ≠ a := fun heq => hd (by rw [heq]; simp)
      have hdy : d ∉ ys := fun hmem => hd (List.mem_cons_of_mem a hmem)
      simp [hda, hframe d hdy]
  | some b =>
    have ⟨zs, hzs⟩ := List.getLast?_eq_some_iff.mp hlast
    have hbX : b ∈ xs := by rw [hzs]; simp
    have hbY : b ∉ ys := hXY b hbX
    refine ⟨_, rfl, ⟨?_, ?_, hnodup'⟩, by simp, by simp, fun d hd => ?_⟩
    · show m.head = _
      rw [hhead', hhead, hzs]
      cases zs <;> rfl
    · rw [segment_append, Option.or_none, Option.or_none, hlast]
      constructor
      · -- the last item before it gets its successor
        rw [hzs] at hxs' hnodupxs haX ⊢
        refine (hxs'.setNext hnodupxs ys.head?).congr (fun d hd => ?_) fun d hd => ?_
        · have hda : d ≠ a := fun heq => haX (heq ▸ hd)
          simp [hda]
        · have hda : d ≠ a := fun heq => haX (heq ▸ hd)
          simp [hda]
      · rw [hlast] at hys'
        refine hys'.congr (fun d hd => ?_) fun d hd => ?_
        · have hda : d ≠ a := fun heq => haY (heq ▸ hd)
          have hdb : d ≠ b := fun heq => hbY (heq ▸ hd)
          simp [hda, hdb]
        · have hda : d ≠ a := fun heq => haY (heq ▸ hd)
          simp [hda]
    · have hda : d ≠ a := fun heq => hd (by rw [heq]; simp)
      have hdb : d ≠ b := fun heq => hd (by rw [heq]; simp [hbX])
      have hdy : d ∉ ys := fun hmem => hd (by simp [hmem])
      simp [hda, hdb, hnext', hframe d hdy]

end LinkedList
