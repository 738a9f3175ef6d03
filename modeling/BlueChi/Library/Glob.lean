import Mathlib.Computability.Language

/-!
# Globs

A glob is a list of symbols, each of which stands for some words. Its language is the product of
theirs.
-/

namespace BlueChi
namespace Glob

variable {α : Type*}

inductive Symbol (α : Type*)
  | all
  | one
  | char (a : α)

/-- The words that a symbol stands for. -/
def Symbol.language : Symbol α → Language α
  | .all => ⊤
  | .one => {w | w.length = 1}
  | .char a => {[a]}

/-- The words that a glob matches. -/
def language (glob : List (Symbol α)) : Language α := (glob.map Symbol.language).prod

variable {glob : List (Symbol α)} {a b : α} {w : List α}

lemma mem_language_nil : w ∈ language ([] : List (Symbol α)) ↔ w = [] := by
  unfold language
  rw [List.map_nil, List.prod_nil, Language.mem_one]

/-- A word is split into one of the first symbol and one of the rest. -/
lemma mem_language_cons {symbol : Symbol α} : w ∈ language (symbol :: glob) ↔
    ∃ u ∈ symbol.language, ∃ v ∈ language glob, u ++ v = w := by
  unfold language
  rw [List.map_cons, List.prod_cons, Language.mem_mul]

lemma nil_mem_language_all : [] ∈ language (.all :: glob) ↔ [] ∈ language glob := by
  rw [mem_language_cons]
  constructor
  · intro ⟨u, _, v, hv, heq⟩
    rw [(List.append_eq_nil_iff.mp heq).2] at hv
    exact hv
  · intro hglob
    exact ⟨[], trivial, [], hglob, rfl⟩

/-- The first symbol stands for nothing, or takes the next character. -/
lemma cons_mem_language_all :
    a :: w ∈ language (.all :: glob) ↔ a :: w ∈ language glob ∨ w ∈ language (.all :: glob) := by
  rw [mem_language_cons, mem_language_cons]
  constructor
  · intro ⟨u, _, v, hv, heq⟩
    match u with
    | [] => exact Or.inl (heq ▸ hv)
    | b :: u =>
      rw [List.cons_append, List.cons.injEq] at heq
      exact Or.inr ⟨u, trivial, v, hv, heq.2⟩
  · intro h
    apply h.elim
    · intro hglob
      exact ⟨[], trivial, a :: w, hglob, rfl⟩
    · intro ⟨u, _, v, hv, heq⟩
      exact ⟨a :: u, trivial, v, hv, by rw [List.cons_append, heq]⟩

/-- A symbol for words of one character. -/
lemma cons_mem_language_of_single {symbol : Symbol α} {p : α → Prop}
    (hsymbol : ∀ u, u ∈ symbol.language ↔ ∃ c, p c ∧ u = [c]) :
    a :: w ∈ language (symbol :: glob) ↔ p a ∧ w ∈ language glob := by
  rw [mem_language_cons]
  constructor
  · intro ⟨u, hu, v, hv, heq⟩
    have ⟨c, hc, hsingle⟩ := (hsymbol u).mp hu
    rw [hsingle, List.singleton_append, List.cons.injEq] at heq
    rw [← heq.1, ← heq.2]
    exact ⟨hc, hv⟩
  · intro ⟨ha, hw⟩
    exact ⟨[a], (hsymbol [a]).mpr ⟨a, ha, rfl⟩, w, hw, rfl⟩

lemma nil_not_mem_language_of_single {symbol : Symbol α} {p : α → Prop}
    (hsymbol : ∀ u, u ∈ symbol.language ↔ ∃ c, p c ∧ u = [c]) :
    [] ∉ language (symbol :: glob) := by
  rw [mem_language_cons]
  intro ⟨u, hu, v, _, heq⟩
  have ⟨c, _, hsingle⟩ := (hsymbol u).mp hu
  rw [hsingle] at heq
  exact absurd heq (List.cons_ne_nil c v)

lemma mem_language_one (u : List α) :
    u ∈ (Symbol.one : Symbol α).language ↔ ∃ c, True ∧ u = [c] := by
  show u.length = 1 ↔ _
  rw [List.length_eq_one_iff]
  simp

lemma mem_language_char (b : α) (u : List α) :
    u ∈ (Symbol.char b).language ↔ ∃ c, c = b ∧ u = [c] := by
  show u = [b] ↔ _
  simp

lemma cons_mem_language_one : a :: w ∈ language (.one :: glob) ↔ w ∈ language glob := by
  rw [cons_mem_language_of_single mem_language_one, true_and]

lemma nil_not_mem_language_one : [] ∉ language (.one :: glob) :=
  nil_not_mem_language_of_single mem_language_one

lemma cons_mem_language_char :
    a :: w ∈ language (.char b :: glob) ↔ a = b ∧ w ∈ language glob :=
  cons_mem_language_of_single (mem_language_char b)

lemma nil_not_mem_language_char : [] ∉ language (.char b :: glob) :=
  nil_not_mem_language_of_single (mem_language_char b)

/-- A glob of characters alone matches itself and nothing else. -/
lemma language_chars (chars : List α) : w ∈ language (chars.map .char) ↔ w = chars := by
  induction chars generalizing w with
  | nil => exact mem_language_nil
  | cons b chars ih =>
    rw [List.map_cons]
    match w with
    | [] =>
      constructor
      · intro hnil
        exact absurd hnil nil_not_mem_language_char
      · intro heq
        exact absurd heq.symm (List.cons_ne_nil b chars)
    | a :: w => rw [cons_mem_language_char, ih, List.cons.injEq]

end Glob
end BlueChi
