import Mathlib.Algebra.Order.Ring.Int
import Mathlib.Data.Int.Notation

/-!
# Numbers and lists in texts

`strtol` and the parsers on top of it, and the tokens that `strtok_r` finds.
-/

namespace BlueChi
namespace ParseUtil

/-! ## Numbers -/

def longMin : ℤ := -2 ^ 63
def longMax : ℤ := 2 ^ 63 - 1
def ushrtMax : ℤ := 2 ^ 16 - 1

/-- `isspace` in the C locale. -/
def isSpace (c : Char) : Bool := c = ' ' || 9 ≤ c.toNat && c.toNat ≤ 13

/-- The number that decimal digits stand for. -/
def digitsValue (digits : List Char) : ℕ :=
  digits.foldl (fun value c => value * 10 + (c.toNat - '0'.toNat)) 0

/-- The sign in front of a number, and what follows. -/
def takeSign : List Char → Bool × List Char
  | '-' :: rest => (true, rest)
  | '+' :: rest => (false, rest)
  | rest => (false, rest)

/-- What `strtol` returns: the number, whether `errno` is `ERANGE`, and the text at `endptr`. -/
structure Strtol where
  value : ℤ
  outOfRange : Bool
  endptr : List Char
  deriving DecidableEq

/-- A number that is no `long` is replaced by the closest one. -/
def toLong (value : ℤ) (endptr : List Char) : Strtol :=
  if value < longMin then ⟨longMin, true, endptr⟩
  else if longMax < value then ⟨longMax, true, endptr⟩
  else ⟨value, false, endptr⟩

/-- `strtol` with base 10. Without digits nothing is parsed. -/
def strtol (nptr : List Char) : Strtol :=
  match takeSign (nptr.dropWhile isSpace) with
  | (negative, rest) =>
    let digits := rest.takeWhile Char.isDigit
    if digits = [] then ⟨0, false, nptr⟩
    else toLong (if negative then -digitsValue digits else digitsValue digits)
      (rest.dropWhile Char.isDigit)

/-- `parse_long`. -/
def parseLong (input : Option String) : Option ℤ :=
  match input with
  | none => none
  | some s =>
    if s = "" then none
    else
      let r := strtol s.toList
      if r.outOfRange || r.endptr = s.toList || r.endptr ≠ [] then none else some r.value

/-- `parse_port`. -/
def parsePort (input : Option String) : Option ℤ :=
  (parseLong input).filter fun l => 0 ≤ l && l ≤ ushrtMax

lemma toLong_range (value : ℤ) (endptr : List Char) :
    longMin ≤ (toLong value endptr).value ∧ (toLong value endptr).value ≤ longMax := by
  have hbounds : longMin ≤ longMax := by decide
  unfold toLong
  split
  · exact ⟨le_refl longMin, hbounds⟩
  · split
    · exact ⟨hbounds, le_refl longMax⟩
    · rename_i hmin hmax
      exact ⟨not_lt.mp hmin, not_lt.mp hmax⟩

lemma strtol_range (nptr : List Char) :
    longMin ≤ (strtol nptr).value ∧ (strtol nptr).value ≤ longMax := by
  have hzero : longMin ≤ 0 ∧ 0 ≤ longMax := by decide
  unfold strtol
  dsimp only
  split
  · exact hzero
  · exact toLong_range _ _

/-- What is parsed is a `long`. -/
theorem parseLong_range {input : Option String} {value : ℤ} (hparse : parseLong input = some value) :
    longMin ≤ value ∧ value ≤ longMax := by
  match input with
  | none => simp [parseLong] at hparse
  | some s =>
    unfold parseLong at hparse
    dsimp only at hparse
    split at hparse
    · simp at hparse
    · split at hparse
      · simp at hparse
      · rw [← Option.some.inj hparse]
        exact strtol_range s.toList

example : parseLong (some " -60000") = some (-60000) := by decide +kernel
example : parseLong (some "9223372036854775808") = none := by decide +kernel

/-! ## Lists -/

variable {delim : Char} {s token rest : List Char}

/-- One call of `strtok_r`: the next token, and what it leaves at `saveptr`. -/
def strtokR (delim : Char) (s : List Char) : Option (List Char × List Char) :=
  match s.dropWhile (· = delim) with
  | [] => none
  | c :: cs =>
    some ((c :: cs).takeWhile (· ≠ delim), ((c :: cs).dropWhile (· ≠ delim)).tail)

/-- A text is delimiters only, or the next token follows them. -/
lemma strtokR_cases (delim : Char) (s : List Char) :
    strtokR delim s = none ∧ s.dropWhile (· = delim) = [] ∨
      ∃ token rest, strtokR delim s = some (token, rest) ∧ token ≠ [] ∧
        (∀ c ∈ token, c ≠ delim) ∧ (s.dropWhile (· = delim) = token ∧ rest = [] ∨
          s.dropWhile (· = delim) = token ++ delim :: rest) := by
  unfold strtokR
  match hdrop : s.dropWhile (· = delim) with
  | [] => exact Or.inl ⟨rfl, rfl⟩
  | c :: cs =>
    have hc : c ≠ delim := by
      have hhead := List.head?_dropWhile_not (fun c => decide (c = delim)) s
      rw [hdrop] at hhead
      simpa using hhead
    refine Or.inr ⟨_, _, rfl, ?_, fun c' hc' => ?_, ?_⟩
    · rw [List.takeWhile_cons_of_pos (by simpa using hc)]
      exact List.cons_ne_nil _ _
    · have hall := List.all_takeWhile (p := fun c => decide (c ≠ delim)) (l := c :: cs)
      simpa using List.all_eq_true.mp hall c' hc'
    · have hsplit := List.takeWhile_append_dropWhile (p := fun c => decide (c ≠ delim)) (l := c :: cs)
      match hrest : (c :: cs).dropWhile (fun c => decide (c ≠ delim)) with
      | [] =>
        rw [hrest, List.append_nil] at hsplit
        exact Or.inl ⟨hsplit.symm, rfl⟩
      | d :: ds =>
        have hd : d = delim := by
          have hhead := List.head?_dropWhile_not (fun c => decide (c ≠ delim)) (c :: cs)
          rw [hrest] at hhead
          simpa using hhead
        rw [hrest, hd] at hsplit
        exact Or.inr hsplit.symm

lemma strtokR_length (h : strtokR delim s = some (token, rest)) : rest.length < s.length := by
  have hle : (s.dropWhile (· = delim)).length ≤ s.length := (List.dropWhile_sublist _).length_le
  apply (strtokR_cases delim s).elim
  · intro ⟨hnone, _⟩
    rw [h] at hnone
    simp at hnone
  · intro ⟨token', rest', hsome, hne, _, hcases⟩
    rw [h, Option.some.injEq, Prod.mk.injEq] at hsome
    have hpos := List.length_pos_iff.mpr hne
    apply hcases.elim
    · intro ⟨heq, hnil⟩
      rw [heq] at hle
      rw [hsome.2, hnil, List.length_nil]
      omega
    · intro heq
      rw [heq, List.length_append, List.length_cons] at hle
      rw [hsome.2]
      omega

/-- The tokens that `strtok_r` finds until there are none. -/
def tokens (delim : Char) (s : List Char) : List (List Char) :=
  match _h : strtokR delim s with
  | none => []
  | some (token, rest) => token :: tokens delim rest
  termination_by s.length
  decreasing_by exact strtokR_length _h

/-- The parts between delimiters that are not empty. -/
def fields (delim : Char) (s : List Char) : List (List Char) :=
  (s.splitOn delim).filter (· ≠ [])

lemma fields_dropWhile (delim : Char) (s : List Char) :
    fields delim (s.dropWhile (· = delim)) = fields delim s := by
  induction s with
  | nil => rfl
  | cons c s ih =>
    by_cases hc : c = delim
    · rw [List.dropWhile_cons_of_pos (by simpa using hc), ih]
      unfold fields
      rw [List.splitOn_cons_eq_if_modifyHead, if_pos (by simpa using hc),
        List.filter_cons_of_neg (by simp)]
    · rw [List.dropWhile_cons_of_neg (by simpa using hc)]

/-- The tokens are the fields that are not empty. -/
theorem tokens_eq_fields (delim : Char) (s : List Char) : tokens delim s = fields delim s := by
  induction hn : s.length using Nat.strong_induction_on generalizing s with
  | _ n ih =>
    rw [tokens, ← fields_dropWhile]
    apply (strtokR_cases delim s).elim
    · intro ⟨hnone, hdrop⟩
      rw [hdrop]
      split
      · rfl
      · rename_i hsome
        rw [hnone] at hsome
        simp at hsome
    · intro ⟨token, rest, hsome, hne, hfree, hcases⟩
      have hrest := ih rest.length (hn ▸ strtokR_length hsome) rest rfl
      split
      · rename_i hnone
        rw [hsome] at hnone
        simp at hnone
      · rename_i token' rest' hsome'
        rw [hsome, Option.some.injEq, Prod.mk.injEq] at hsome'
        rw [← hsome'.1, ← hsome'.2, hrest]
        have hother : delim ∉ token := fun hin => hfree delim hin rfl
        apply hcases.elim
        · intro ⟨heq, hnil⟩
          rw [heq, hnil]
          unfold fields
          rw [List.splitOn_eq_singleton hother]
          simp [hne]
        · intro heq
          rw [heq]
          unfold fields
          rw [List.splitOn_append_cons_self, List.splitOn_eq_singleton hother,
            List.singleton_append, List.filter_cons_of_pos (by simpa using hne)]

/-- The names in a list of names. -/
def names (list : String) : List String := (tokens ',' list.toList).map String.ofList

example : names "laptop,,pi," = ["laptop", "pi"] := by
  rw [names, tokens_eq_fields]
  decide +kernel

end ParseUtil
end BlueChi
