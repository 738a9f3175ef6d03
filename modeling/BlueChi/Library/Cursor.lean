import Mathlib.Algebra.GroupWithZero.Nat

/-!
# Reading nested messages

A cursor moves over the items of a message. It enters a container and leaves it again, and only the
innermost container can be left. A reader is what moves a cursor of its own in that way.
-/

namespace Cursor

inductive Kind
  | array | dictEntry | variant | body
  deriving DecidableEq, Repr

/-- An item has a signature. Only strings are read, so the other basic values have no content. -/
inductive Item
  | string (s : String)
  | other (signature : String)
  | container (kind : Kind) (contents : String) (items : List Item)

/-- A container that has been entered, with the items that have not been read. -/
structure Frame where
  kind : Kind
  rest : List Item

/-- The innermost container and those around it. -/
structure Position where
  frame : Frame
  outer : List Frame

namespace Position

/-- Enter the next item, which must be such a container; at the end of an array there is none. -/
def enter (kind : Kind) (contents : String) (c : Position) : Option (Bool × Position) :=
  match c.frame.rest with
  | [] => if c.frame.kind = .array then some (false, c) else none
  | .container k s items :: rest =>
    if k = kind ∧ s = contents then
      some (true, ⟨⟨k, items⟩, ⟨c.frame.kind, rest⟩ :: c.outer⟩)
    else none
  | _ => none

/-- Leave the innermost container, which must have been read entirely. -/
def exit (c : Position) : Option (Unit × Position) :=
  match c.frame.rest, c.outer with
  | [], frame :: outer => some ((), ⟨frame, outer⟩)
  | _, _ => none

/-- Read a string. -/
def read (c : Position) : Option (Option String × Position) :=
  match c.frame.rest with
  | [] => if c.frame.kind = .array then some (none, c) else none
  | .string s :: rest => some (some s, ⟨⟨c.frame.kind, rest⟩, c.outer⟩)
  | _ => none

/-- The contents of the container that is next, if one is. -/
def peek (c : Position) : Option String :=
  match c.frame.rest with
  | .container _ contents _ :: _ => some contents
  | _ => none

/-- Pass over the next item. -/
def skip (c : Position) : Option (Unit × Position) :=
  match c.frame.rest with
  | [] => none
  | _ :: rest => some ((), ⟨⟨c.frame.kind, rest⟩, c.outer⟩)

end Position

/-! ## What is left to read -/

mutual

/-- The number of items in an item, itself included. -/
def Item.size : Item → ℕ
  | .string _ => 1
  | .other _ => 1
  | .container _ _ items => sizeOfItems items + 1

def sizeOfItems : List Item → ℕ
  | [] => 0
  | i :: items => i.size + sizeOfItems items

end

def Frame.size (f : Frame) : ℕ := sizeOfItems f.rest

/-- The number of items that have not been read. -/
def Position.size (c : Position) : ℕ := c.frame.size + (c.outer.map Frame.size).sum

namespace Position

variable {c c' : Position} {kind : Kind} {contents : String}

lemma size_enter (h : c.enter kind contents = some (true, c')) : c'.size < c.size := by
  have ⟨⟨k, items⟩, outer⟩ := c
  match items with
  | [] =>
    simp only [enter] at h
    split at h
    · simp at h
    · simp at h
  | .string _ :: _ => simp [enter] at h
  | .other _ :: _ => simp [enter] at h
  | .container k' s inner :: rest =>
    simp only [enter] at h
    split at h
    · have hc : ⟨⟨k', inner⟩, ⟨k, rest⟩ :: outer⟩ = c' := by simpa using h
      rw [← hc]
      simp only [size, Frame.size, sizeOfItems, Item.size, List.map_cons, List.sum_cons]
      omega
    · simp at h

lemma size_exit (h : c.exit = some ((), c')) : c'.size = c.size := by
  have ⟨⟨k, items⟩, outer⟩ := c
  match items, outer with
  | [], frame :: outer =>
    have hc : (⟨frame, outer⟩ : Position) = c' := by simpa [exit] using h
    rw [← hc]
    simp [size, Frame.size, sizeOfItems]
  | [], [] => simp [exit] at h
  | _ :: _, _ => simp [exit] at h

lemma size_read {s : Option String} (h : c.read = some (s, c')) : c'.size ≤ c.size := by
  have ⟨⟨k, items⟩, outer⟩ := c
  match items with
  | [] =>
    simp only [read] at h
    split at h
    · have hc : (⟨⟨k, []⟩, outer⟩ : Position) = c' := by simpa using (Prod.mk.inj (Option.some.inj h)).2
      exact Nat.le_of_eq (congrArg size hc.symm)
    · simp at h
  | .string s' :: rest =>
    have hc : (⟨⟨k, rest⟩, outer⟩ : Position) = c' := (Prod.mk.inj (Option.some.inj h)).2
    rw [← hc]
    simp only [size, Frame.size, sizeOfItems]
    omega
  | .other _ :: _ => simp [read] at h
  | .container _ _ _ :: _ => simp [read] at h

lemma size_skip (h : c.skip = some ((), c')) : c'.size ≤ c.size := by
  have ⟨⟨k, items⟩, outer⟩ := c
  match items with
  | [] => simp [skip] at h
  | i :: rest =>
    have hc : (⟨⟨k, rest⟩, outer⟩ : Position) = c' := (Prod.mk.inj (Option.some.inj h)).2
    rw [← hc]
    simp only [size, Frame.size, sizeOfItems]
    omega

end Position

/-! ## Readers -/

/-- What a reader returns, and where it stands then: a step that is refused gives an error and leaves
the reader where it was. -/
def Follows {μ α : Type} (position : μ → Position) (m : μ) (out : Except ℤ α × μ)
    (step : Option (α × Position)) : Prop :=
  match step with
  | none => (∃ e, out.1 = .error e) ∧ position out.2 = position m
  | some (a, c) => out.1 = .ok a ∧ position out.2 = c

/-- The operations on a message. -/
structure Reader (μ : Type) where
  position : μ → Position
  enterContainer : Kind → String → μ → Except ℤ Bool × μ
  exitContainer : μ → Except ℤ Unit × μ
  readString : μ → Except ℤ (Option String) × μ
  peekType : μ → Except ℤ (Option String)
  skip : μ → Except ℤ Unit × μ
  enter_follows : ∀ kind contents m,
    Follows position m (enterContainer kind contents m) ((position m).enter kind contents)
  exit_follows : ∀ m, Follows position m (exitContainer m) (position m).exit
  read_follows : ∀ m, Follows position m (readString m) (position m).read
  peek_eq : ∀ m, peekType m = .ok (position m).peek
  skip_follows : ∀ m, Follows position m (skip m) (position m).skip

/-- A step as an operation, with the error for a step that is refused. -/
def operation {α : Type} (e : ℤ) (step : Position → Option (α × Position)) (c : Position) :
    Except ℤ α × Position :=
  match step c with
  | none => (.error e, c)
  | some (a, c') => (.ok a, c')

lemma follows_operation {α : Type} (e : ℤ) (step : Position → Option (α × Position)) (c : Position) :
    Follows id c (operation e step c) (step c) := by
  unfold operation
  match step c with
  | none => exact ⟨⟨e, rfl⟩, rfl⟩
  | some (a, c') => exact ⟨rfl, rfl⟩

/-- The cursor is a reader, with `-ENXIO` and `-EBUSY` for what it refuses. -/
def Position.reader : Reader Position where
  position := id
  enterContainer kind contents := operation (-6) (enter kind contents)
  exitContainer := operation (-16) exit
  readString := operation (-6) read
  peekType c := .ok c.peek
  skip := operation (-6) skip
  enter_follows kind contents := follows_operation (-6) (enter kind contents)
  exit_follows := follows_operation (-16) exit
  read_follows := follows_operation (-6) read
  peek_eq _ := rfl
  skip_follows := follows_operation (-6) skip

namespace Reader

variable {μ : Type} (reader : Reader μ) {m : μ}

/-- What is left to read. -/
def size (m : μ) : ℕ := (reader.position m).size

lemma size_le_of_follows {α : Type} {out : Except ℤ α × μ} {step : Option (α × Position)}
    (h : Follows reader.position m out step)
    (hstep : ∀ a c, step = some (a, c) → c.size ≤ (reader.position m).size) :
    reader.size out.2 ≤ reader.size m := by
  unfold Follows at h
  unfold size
  match step with
  | none => exact Nat.le_of_eq (congrArg Position.size h.2)
  | some (a, c) =>
    rw [h.2]
    exact hstep a c rfl

lemma size_exitContainer (m : μ) : reader.size (reader.exitContainer m).2 ≤ reader.size m :=
  reader.size_le_of_follows (reader.exit_follows m) fun _ _ h => Nat.le_of_eq (Position.size_exit h)

lemma size_readString (m : μ) : reader.size (reader.readString m).2 ≤ reader.size m :=
  reader.size_le_of_follows (reader.read_follows m) fun _ _ h => Position.size_read h

lemma size_skip (m : μ) : reader.size (reader.skip m).2 ≤ reader.size m :=
  reader.size_le_of_follows (reader.skip_follows m) fun _ _ h => Position.size_skip h

/-- A container that has been entered counts as read. -/
lemma size_enterContainer {kind : Kind} {contents : String} {m' : μ}
    (h : reader.enterContainer kind contents m = (.ok true, m')) : reader.size m' < reader.size m := by
  have hfollows := reader.enter_follows kind contents m
  rw [h] at hfollows
  unfold Follows at hfollows
  unfold size
  match hs : (reader.position m).enter kind contents with
  | none =>
    rw [hs] at hfollows
    have ⟨⟨e, he⟩, _⟩ := hfollows
    simp at he
  | some (entered, c) =>
    rw [hs] at hfollows
    have hentered : true = entered := Except.ok.inj hfollows.1
    rw [← hentered] at hs
    rw [hfollows.2]
    exact Position.size_enter hs

lemma size_enterContainer_le (kind : Kind) (contents : String) (m : μ) :
    reader.size (reader.enterContainer kind contents m).2 ≤ reader.size m := by
  apply reader.size_le_of_follows (reader.enter_follows kind contents m)
  intro entered c h
  match entered with
  | true => exact Nat.le_of_lt (Position.size_enter h)
  | false =>
    unfold Position.enter at h
    split at h
    · split at h
      · have hc : reader.position m = c := (Prod.mk.inj (Option.some.inj h)).2
        exact Nat.le_of_eq (congrArg Position.size hc.symm)
      · simp at h
    · split at h
      · simp at h
      · simp at h
    · simp at h

/-- An operation on a reader at a known position, when the step is possible. -/
lemma eq_ok_of_follows {α : Type} {out : Except ℤ α × μ} {a : α} {c : Position}
    (h : Follows reader.position m out (some (a, c))) :
    ∃ m', out = (.ok a, m') ∧ reader.position m' = c :=
  ⟨out.2, Prod.ext h.1 rfl, h.2⟩

/-- An operation on a reader when the step is refused. -/
lemma eq_error_of_follows {α : Type} {out : Except ℤ α × μ}
    (h : Follows reader.position m out none) :
    ∃ e m', out = (.error e, m') ∧ reader.position m' = reader.position m := by
  have ⟨⟨e, he⟩, hm⟩ := h
  exact ⟨e, out.2, Prod.ext he rfl, hm⟩

/-! ## Steps from known positions -/

variable {reader} {k kind : Kind} {contents : String} {items rest : List Item} {frame : Frame}
  {outer : List Frame}

lemma enter_of_container
    (hm : reader.position m = ⟨⟨k, .container kind contents items :: rest⟩, outer⟩) :
    ∃ m', reader.enterContainer kind contents m = (.ok true, m') ∧
      reader.position m' = ⟨⟨kind, items⟩, ⟨k, rest⟩ :: outer⟩ := by
  apply reader.eq_ok_of_follows (m := m)
  have hfollows := reader.enter_follows kind contents m
  rw [hm] at hfollows
  simpa [Position.enter] using hfollows

lemma enter_of_end (hm : reader.position m = ⟨⟨.array, []⟩, outer⟩) (kind : Kind)
    (contents : String) : ∃ m', reader.enterContainer kind contents m = (.ok false, m') ∧
      reader.position m' = ⟨⟨.array, []⟩, outer⟩ := by
  apply reader.eq_ok_of_follows (m := m)
  have hfollows := reader.enter_follows kind contents m
  rw [hm] at hfollows
  simpa [Position.enter] using hfollows

lemma enter_of_refused (hm : (reader.position m).enter kind contents = none) :
    ∃ e m', reader.enterContainer kind contents m = (.error e, m') ∧
      reader.position m' = reader.position m := by
  apply reader.eq_error_of_follows
  have hfollows := reader.enter_follows kind contents m
  rw [hm] at hfollows
  exact hfollows

lemma read_of_string {s : String} (hm : reader.position m = ⟨⟨k, .string s :: rest⟩, outer⟩) :
    ∃ m', reader.readString m = (.ok (some s), m') ∧ reader.position m' = ⟨⟨k, rest⟩, outer⟩ := by
  apply reader.eq_ok_of_follows (m := m)
  have hfollows := reader.read_follows m
  rw [hm] at hfollows
  exact hfollows

lemma exit_of_read (hm : reader.position m = ⟨⟨k, []⟩, frame :: outer⟩) :
    ∃ m', reader.exitContainer m = (.ok (), m') ∧ reader.position m' = ⟨frame, outer⟩ := by
  apply reader.eq_ok_of_follows (m := m)
  have hfollows := reader.exit_follows m
  rw [hm] at hfollows
  exact hfollows

lemma exit_of_unread {item : Item} (hm : reader.position m = ⟨⟨k, item :: rest⟩, outer⟩) :
    ∃ e m', reader.exitContainer m = (.error e, m') ∧ reader.position m' = reader.position m := by
  apply reader.eq_error_of_follows
  have hfollows := reader.exit_follows m
  rw [hm] at hfollows
  exact hfollows

lemma skip_of_item {item : Item} (hm : reader.position m = ⟨⟨k, item :: rest⟩, outer⟩) :
    ∃ m', reader.skip m = (.ok (), m') ∧ reader.position m' = ⟨⟨k, rest⟩, outer⟩ := by
  apply reader.eq_ok_of_follows (m := m)
  have hfollows := reader.skip_follows m
  rw [hm] at hfollows
  exact hfollows

/-! ## Loops that read -/

/-- One round of a loop that reads with every round: it goes on, or it ends with a result. -/
structure Round (reader : Reader μ) (δ ρ : Type) where
  run : μ → δ → (μ × δ) ⊕ ρ
  reads : ∀ {m d m' d'}, run m d = .inl (m', d') → reader.size m' < reader.size m

/-- The loop ends because a message is finite. -/
def Round.loop {δ ρ : Type} (round : reader.Round δ ρ) (m : μ) (d : δ) : ρ :=
  match _h : round.run m d with
  | .inr result => result
  | .inl (m', d') => Round.loop round m' d'
  termination_by reader.size m
  decreasing_by exact round.reads _h

variable {δ ρ : Type} {round : reader.Round δ ρ} {d d' : δ} {m' : μ} {result : ρ}

lemma loop_of_inr (h : round.run m d = .inr result) : round.loop m d = result := by
  rw [Round.loop]
  split
  · rename_i result' h'
    exact Sum.inr.inj (h'.symm.trans h)
  · rename_i m' d' h'
    rw [h] at h'
    simp at h'

lemma loop_of_inl (h : round.run m d = .inl (m', d')) : round.loop m d = round.loop m' d' := by
  rw [Round.loop]
  split
  · rename_i result' h'
    rw [h] at h'
    simp at h'
  · rename_i m'' d'' h'
    have hnext := Prod.mk.inj (Sum.inl.inj (h'.symm.trans h))
    rw [hnext.1, hnext.2]

end Reader
end Cursor
