import Mathlib.Data.List.Basic
import Mathlib.Tactic.TypeStar

/-!
# Words with separators between them

A text of words that has one separator between each two of them, as `List.intercalate` joins them,
and the scanner that recognises such texts. The scanner reads a text once and keeps two flags: that a
word has to begin here, and that a separator has been seen.
-/

namespace Words

variable {α : Type*} (sep : α) (letter : α → Bool)

/-- A word has letters only, and one at least. -/
def IsWord (w : List α) : Prop := w ≠ [] ∧ ∀ c ∈ w, letter c = true

/-- The scanner: whether what is left of a text completes words of which there are two at least. -/
def scan [DecidableEq α] (expect found : Bool) : List α → Bool
  | [] => !expect && found
  | c :: cs =>
    if c = sep then !expect && scan true true cs else letter c && scan false found cs

/-- What may be left of a text: the rest of a word, and more words that each follow a separator. -/
structure Completes (expect found : Bool) (text w : List α) (ws : List (List α)) : Prop where
  text : text = w ++ ws.flatMap (sep :: ·)
  letters : ∀ c ∈ w, letter c = true
  begins : expect = true → w ≠ []
  words : ∀ v ∈ ws, IsWord letter v
  many : found = true ∨ ws ≠ []

variable {sep letter} {expect found : Bool} {c : α} {cs w : List α} {ws : List (List α)}

lemma completes_nil (h : Completes sep letter expect found [] w ws) :
    expect = false ∧ found = true := by
  have ⟨hw, hws⟩ := List.append_eq_nil_iff.mp h.text.symm
  have hnone : ws = [] := by
    match ws, hws with
    | [], _ => rfl
    | v :: vs, hws => exact absurd hws (by simp)
  constructor
  · exact Bool.eq_false_iff.mpr fun hexpect => h.begins hexpect hw
  · exact h.many.resolve_right fun hne => hne hnone

/-- A separator ends the word in front of it, and the next word begins. -/
lemma completes_sep (hsep : letter sep = false) (h : Completes sep letter expect found (sep :: cs) w ws) :
    expect = false ∧ ∃ v vs, Completes sep letter true true cs v vs := by
  have hw : w = [] := by
    match w, h.text, h.letters with
    | [], _, _ => rfl
    | d :: w, htext, hletters =>
      -- the separator is no letter, so it is not in a word
      have hd : sep = d := (List.cons.inj htext).1
      have hletter := hletters d (List.mem_cons_self ..)
      rw [← hd, hsep] at hletter
      exact absurd hletter Bool.false_ne_true
  have hbegins : expect = false := Bool.eq_false_iff.mpr fun hexpect => h.begins hexpect hw
  match ws, h.text, h.words with
  | [], htext, _ =>
    rw [hw] at htext
    exact absurd htext (by simp)
  | v :: vs, htext, hwords =>
    rw [hw, List.nil_append, List.flatMap_cons, List.cons_append, List.cons.injEq] at htext
    have hv : IsWord letter v := hwords v (List.mem_cons_self ..)
    refine ⟨hbegins, v, vs, htext.2, hv.2, fun _ => hv.1, fun u hu => ?_, Or.inl rfl⟩
    exact hwords u (List.mem_cons_of_mem v hu)

/-- Any other symbol is a letter of the word that is being read. -/
lemma completes_letter (hc : c ≠ sep) (h : Completes sep letter expect found (c :: cs) w ws) :
    letter c = true ∧ ∃ v, Completes sep letter false found cs v ws := by
  match w, h.text, h.letters with
  | [], htext, _ =>
    match ws, htext with
    | [], htext => exact absurd htext (by simp)
    | v :: vs, htext =>
      rw [List.nil_append, List.flatMap_cons, List.cons_append, List.cons.injEq] at htext
      exact absurd htext.1 hc
  | d :: w, htext, hletters =>
    have ⟨hd, hcs⟩ := List.cons.inj htext
    refine ⟨hd ▸ hletters d (List.mem_cons_self ..), w, hcs, fun x hx => ?_, ?_, h.words, h.many⟩
    · exact hletters x (List.mem_cons_of_mem d hx)
    · exact fun hfalse => absurd hfalse Bool.false_ne_true

/-- The scanner accepts exactly what completes words. The induction is on what is left of the text,
for all flags. -/
theorem scan_iff [DecidableEq α] (hsep : letter sep = false) (text : List α) :
    scan sep letter expect found text = true ↔
      ∃ w ws, Completes sep letter expect found text w ws := by
  induction text generalizing expect found with
  | nil =>
    rw [scan, Bool.and_eq_true, Bool.not_eq_true']
    constructor
    · intro ⟨hexpect, hfound⟩
      refine ⟨[], [], rfl, by simp, fun h => ?_, by simp, Or.inl hfound⟩
      rw [hexpect] at h
      exact absurd h Bool.false_ne_true
    · intro ⟨w, ws, h⟩
      exact completes_nil h
  | cons c cs ih =>
    rw [scan]
    by_cases hc : c = sep
    · rw [if_pos hc, Bool.and_eq_true, Bool.not_eq_true', ih, hc]
      constructor
      · intro ⟨hexpect, v, vs, h⟩
        refine ⟨[], v :: vs, ?_, by simp, fun htrue => ?_, fun u hu => ?_, Or.inr (by simp)⟩
        · rw [List.nil_append, List.flatMap_cons, List.cons_append, ← h.text]
        · rw [hexpect] at htrue
          exact absurd htrue Bool.false_ne_true
        · match u, hu with
          | _, .head _ => exact ⟨h.begins rfl, h.letters⟩
          | u, .tail _ hu => exact h.words u hu
      · intro ⟨w, ws, h⟩
        exact completes_sep hsep h
    · rw [if_neg hc, Bool.and_eq_true, ih]
      constructor
      · intro ⟨hletter, v, vs, h⟩
        refine ⟨c :: v, vs, ?_, fun x hx => ?_, fun _ => List.cons_ne_nil c v, h.words, h.many⟩
        · rw [List.cons_append, ← h.text]
        · match x, hx with
          | _, .head _ => exact hletter
          | x, .tail _ hx => exact h.letters x hx
      · intro ⟨w, ws, h⟩
        have ⟨hletter, v, hv⟩ := completes_letter hc h
        exact ⟨hletter, v, ws, hv⟩

lemma intercalate_cons (w : List α) (ws : List (List α)) :
    [sep].intercalate (w :: ws) = w ++ ws.flatMap (sep :: ·) := by
  induction ws generalizing w with
  | nil => simp
  | cons v vs ih =>
    rw [List.intercalate_cons_cons, ih, List.flatMap_cons, List.append_assoc]
    rfl

/-- From the beginning, the scanner accepts two or more words with single separators. -/
theorem scan_iff_intercalate [DecidableEq α] (hsep : letter sep = false) (text : List α) :
    scan sep letter true false text = true ↔
      ∃ words, 2 ≤ words.length ∧ (∀ w ∈ words, IsWord letter w) ∧ text = [sep].intercalate words := by
  rw [scan_iff hsep]
  constructor
  · intro ⟨w, ws, h⟩
    have hmany : ws ≠ [] := h.many.resolve_left Bool.false_ne_true
    refine ⟨w :: ws, ?_, fun u hu => ?_, ?_⟩
    · have hpos : 0 < ws.length := List.length_pos_iff.mpr hmany
      rw [List.length_cons]
      omega
    · match u, hu with
      | _, .head _ => exact ⟨h.begins rfl, h.letters⟩
      | u, .tail _ hu => exact h.words u hu
    · rw [intercalate_cons]
      exact h.text
  · intro ⟨words, hlength, hwords, htext⟩
    match words, hlength with
    | w :: v :: vs, _ =>
      have hw : IsWord letter w := hwords w (List.mem_cons_self ..)
      refine ⟨w, v :: vs, ?_, hw.2, fun _ => hw.1, fun u hu => ?_, Or.inr (by simp)⟩
      · rw [htext, intercalate_cons]
      · exact hwords u (List.mem_cons_of_mem w hu)

end Words
