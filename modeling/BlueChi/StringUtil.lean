import BlueChi.Library.Glob

/-!
# Strings of the command line

`is_glob` and `match_glob`, which `bluechictl list-units --filter` uses. A string is the list of its
bytes, without the one that ends it.
-/

namespace BlueChi
namespace StringUtil

open Glob

/-- `SYMBOL_GLOB_ALL`, an asterisk. -/
def symbolGlobAll : UInt8 := 42

/-- `SYMBOL_GLOB_ONE`, a question mark. -/
def symbolGlobOne : UInt8 := 63

/-- `is_glob`; a string that is missing is none. -/
def isGlob : Option (List UInt8) → Bool
  | none => false
  | some s => s.contains symbolGlobAll || s.contains symbolGlobOne

/-- `match_glob` on strings that are there. -/
def matchGlobFrom : List UInt8 → List UInt8 → Bool
  | [], [] => true
  | _ :: _, [] => false
  | [], g :: glob => if g = symbolGlobAll then matchGlobFrom [] glob else false
  | c :: str, g :: glob =>
    if g = symbolGlobAll then matchGlobFrom (c :: str) glob || matchGlobFrom str (g :: glob)
    else (symbolGlobOne = g || c = g) && matchGlobFrom str glob
  termination_by str glob => str.length + glob.length

/-- `match_glob`. -/
def matchGlob : Option (List UInt8) → Option (List UInt8) → Bool
  | some str, some glob => matchGlobFrom str glob
  | _, _ => false

/-- What a byte of a glob stands for. -/
def symbolOf (g : UInt8) : Symbol UInt8 :=
  if g = symbolGlobAll then .all else if g = symbolGlobOne then .one else .char g

lemma symbolOf_all : symbolOf symbolGlobAll = .all := if_pos rfl

lemma symbolOf_other {g : UInt8} (hg : g ≠ symbolGlobAll) :
    symbolOf g = if g = symbolGlobOne then .one else .char g := if_neg hg

/-- A byte that is not an asterisk needs one that it stands for. -/
lemma cons_mem_language_symbolOf {g c : UInt8} (hg : g ≠ symbolGlobAll) (str : List UInt8)
    (glob : List (Symbol UInt8)) : c :: str ∈ language (symbolOf g :: glob) ↔
      (symbolGlobOne = g ∨ c = g) ∧ str ∈ language glob := by
  rw [symbolOf_other hg]
  by_cases hone : g = symbolGlobOne
  · rw [if_pos hone, cons_mem_language_one, hone]
    simp
  · rw [if_neg hone, cons_mem_language_char, or_iff_right (Ne.symm hone)]

lemma nil_not_mem_language_symbolOf {g : UInt8} (hg : g ≠ symbolGlobAll)
    (glob : List (Symbol UInt8)) : [] ∉ language (symbolOf g :: glob) := by
  rw [symbolOf_other hg]
  split
  · exact nil_not_mem_language_one
  · exact nil_not_mem_language_char

/-- Every call of `match_glob` ends, and tells whether the string is in the language of the glob. -/
theorem matchGlob_iff (str glob : List UInt8) :
    matchGlob (some str) (some glob) = true ↔ str ∈ language (glob.map symbolOf) := by
  show matchGlobFrom str glob = true ↔ _
  induction str, glob using matchGlobFrom.induct with
  | case1 =>
    rw [matchGlobFrom, List.map_nil, mem_language_nil]
    simp
  | case2 c str =>
    rw [matchGlobFrom, List.map_nil, mem_language_nil]
    simp
  | case3 glob ih =>
    rw [matchGlobFrom, if_pos rfl, ih, List.map_cons, symbolOf_all, nil_mem_language_all]
  | case4 g glob hother =>
    rw [matchGlobFrom, if_neg hother, List.map_cons]
    have hnil := nil_not_mem_language_symbolOf hother (glob.map symbolOf)
    simp [hnil]
  | case5 c str glob ih ih' =>
    -- the asterisk stands for nothing, or for one more byte
    rw [matchGlobFrom, if_pos rfl, Bool.or_eq_true, ih, ih', List.map_cons, symbolOf_all,
      cons_mem_language_all]
  | case6 c str g glob hother ih =>
    rw [matchGlobFrom, if_neg hother, List.map_cons, cons_mem_language_symbolOf hother, ← ih]
    simp

/-- A string without globs matches itself and nothing else. -/
theorem matchGlob_of_not_isGlob {glob : List UInt8} (hglob : isGlob (some glob) = false)
    (str : List UInt8) : matchGlob (some str) (some glob) = true ↔ str = glob := by
  have hchars : glob.map symbolOf = glob.map .char := by
    unfold isGlob at hglob
    rw [Bool.or_eq_false_iff] at hglob
    apply List.map_congr_left
    intro g hg
    have hall : g ≠ symbolGlobAll := fun heq => by
      rw [heq] at hg
      simp [hg] at hglob
    have hone : g ≠ symbolGlobOne := fun heq => by
      rw [heq] at hg
      simp [hg] at hglob
    rw [symbolOf_other hall, if_neg hone]
  rw [matchGlob_iff, hchars, language_chars]

end StringUtil
end BlueChi
