import Mathlib.Data.Nat.Notation
import Mathlib.Data.List.Basic
import Mathlib.Data.Set.Basic
import BlueChi.Protocol
import BlueChi.Library.Words

/-!
# Object paths, bus names and property arrays

`bus_path_escape`, the object paths made with it, the test of unique bus names, and the reader of
`a{sv}` property arrays.

The escape works on the bytes of the name. It is injective (`busPathEscape_injective`), so the
unit path under which the agent files its information on a unit determines the unit's name.
-/

namespace BlueChi

/-! ## Path escaping -/

/-- `hexchar`: the lowest four bits as a hexadecimal digit. -/
def hexchar (x : ℕ) : Char :=
  "0123456789abcdef".toList.getD (x % 16) '0'

/-- `ascii_isdigit` on a byte. -/
def asciiIsDigit (c : UInt8) : Bool := 48 ≤ c.toNat ∧ c.toNat ≤ 57

/-- `ascii_isalpha` on a byte. A byte from 128 on is negative as a `char`, so no letter. -/
def asciiIsAlpha (c : UInt8) : Bool :=
  (97 ≤ c.toNat ∧ c.toNat ≤ 122) ∨ (65 ≤ c.toNat ∧ c.toNat ≤ 90)

/-- What the loop of `bus_path_escape` writes for one byte; `first` is `f == s`. -/
def escapeByte (first : Bool) (c : UInt8) : List Char :=
  if !asciiIsAlpha c && !(!first && asciiIsDigit c) then
    ['_', hexchar (c.toNat / 16), hexchar c.toNat]
  else
    [Char.ofNat c.toNat]

/-- The loop of `bus_path_escape`. -/
def escapeBytes (first : Bool) : List UInt8 → List Char
  | [] => []
  | c :: cs => escapeByte first c ++ escapeBytes false cs

/-- `bus_path_escape` on the bytes of its argument. -/
def busPathEscapeBytes (bs : List UInt8) : List Char :=
  if bs = [] then ['_'] else escapeBytes true bs

/-- `bus_path_escape`. -/
def busPathEscape (s : String) : String :=
  String.ofList (busPathEscapeBytes s.toUTF8.data.toList)

/-- The value of a hexadecimal digit, the inverse of `hexchar`. -/
def hexval (c : Char) : ℕ := "0123456789abcdef".toList.idxOf c

lemma hexval_hexchar (x : ℕ) : hexval (hexchar x) = x % 16 := by
  have h : ∀ r : Fin 16, hexval (hexchar r) = r := by decide
  have hx := h ⟨x % 16, Nat.mod_lt _ (by decide)⟩
  simpa [hexchar] using hx

/-- The byte read back from the head of an escaped text, with what follows. -/
def unescapeHead : List Char → Option (ℕ × List Char)
  | [] => none
  | '_' :: h :: l :: rest => some (hexval h * 16 + hexval l, rest)
  | c :: rest => some (c.toNat, rest)

/-- No letter and no digit is the escape character. -/
lemma ofNat_ne_underscore {c : UInt8} (h : asciiIsAlpha c = true ∨ asciiIsDigit c = true) :
    Char.ofNat c.toNat ≠ '_' ∧ (Char.ofNat c.toNat).toNat = c.toNat := by
  have hc : c.toNat < 128 := by
    simp only [asciiIsAlpha, asciiIsDigit, decide_eq_true_eq] at h
    omega
  have hall : ∀ k : Fin 128, (Char.ofNat k.val).toNat = k.val := by decide
  have hval : (Char.ofNat c.toNat).toNat = c.toNat := hall ⟨c.toNat, hc⟩
  refine ⟨fun heq => ?_, hval⟩
  have h95 : c.toNat = 95 := by rw [← hval, heq]; rfl
  simp [asciiIsAlpha, asciiIsDigit, h95] at h

/-- An escaped byte can be read back whatever follows it. -/
lemma unescapeHead_escapeByte (first : Bool) (c : UInt8) (rest : List Char) :
    unescapeHead (escapeByte first c ++ rest) = some (c.toNat, rest) := by
  unfold escapeByte
  by_cases h : (!asciiIsAlpha c && !(!first && asciiIsDigit c)) = true
  · rw [if_pos h]
    simp only [List.cons_append, List.nil_append, unescapeHead, hexval_hexchar]
    have hlt : c.toNat < 256 := c.toNat_lt
    congr 2
    omega
  · rw [if_neg h]
    have halnum : asciiIsAlpha c = true ∨ asciiIsDigit c = true := by
      cases ha : asciiIsAlpha c <;> cases hd : asciiIsDigit c <;> simp_all
    obtain ⟨hne, hval⟩ := ofNat_ne_underscore halnum
    rw [List.cons_append, List.nil_append, unescapeHead, hval]
    intro h l r heq
    exact absurd heq hne

lemma escapeByte_ne_nil (first : Bool) (c : UInt8) : escapeByte first c ≠ [] := by
  unfold escapeByte
  split <;> simp

lemma escapeBytes_injective (first : Bool) : Function.Injective (escapeBytes first) := by
  intro xs
  induction xs generalizing first with
  | nil =>
    intro ys h
    cases ys with
    | nil => rfl
    | cons y ys =>
      have hnil : escapeByte first y = [] := (List.append_eq_nil_iff.mp h.symm).1
      exact absurd hnil (escapeByte_ne_nil first y)
  | cons x xs ih =>
    intro ys h
    cases ys with
    | nil =>
      have hnil : escapeByte first x = [] := (List.append_eq_nil_iff.mp h).1
      exact absurd hnil (escapeByte_ne_nil first x)
    | cons y ys =>
      have hhead := congrArg unescapeHead h
      simp only [escapeBytes, unescapeHead_escapeByte, Option.some.injEq, Prod.mk.injEq] at hhead
      rw [UInt8.toNat_inj.mp hhead.1, ih false hhead.2]

/-- The escape of the empty name is the escape of no other name. -/
lemma escapeBytes_ne_underscore (first : Bool) (bs : List UInt8) : escapeBytes first bs ≠ ['_'] := by
  intro h
  cases bs with
  | nil => simp [escapeBytes] at h
  | cons c cs =>
    rw [escapeBytes, escapeByte] at h
    by_cases hc : (!asciiIsAlpha c && !(!first && asciiIsDigit c)) = true
    · rw [if_pos hc] at h
      simp at h
    · rw [if_neg hc] at h
      have halnum : asciiIsAlpha c = true ∨ asciiIsDigit c = true := by
        cases ha : asciiIsAlpha c <;> cases hd : asciiIsDigit c <;> simp_all
      exact (ofNat_ne_underscore halnum).1 (List.cons.inj h).1

theorem busPathEscapeBytes_injective : Function.Injective busPathEscapeBytes := by
  intro as bs h
  unfold busPathEscapeBytes at h
  by_cases ha : as = [] <;> by_cases hb : bs = []
  · rw [ha, hb]
  · rw [if_pos ha, if_neg hb] at h
    exact absurd h.symm (escapeBytes_ne_underscore _ _)
  · rw [if_neg ha, if_pos hb] at h
    exact absurd h (escapeBytes_ne_underscore _ _)
  · rw [if_neg ha, if_neg hb] at h
    exact escapeBytes_injective true h

lemma toUTF8_data_injective {a b : String} (h : a.toUTF8.data.toList = b.toUTF8.data.toList) :
    a = b :=
  String.toByteArray_inj.mp (ByteArray.ext (Array.toList_inj.mp h))

/-- Distinct names have distinct escapes. -/
theorem busPathEscape_injective : Function.Injective busPathEscape := fun _ _ h =>
  toUTF8_data_injective (busPathEscapeBytes_injective (String.ofList_inj.mp h))

/-- `assemble_object_path_string`. -/
def assembleObjectPathString (pre name : String) : String :=
  pre ++ "/" ++ busPathEscape name

/-- `SYSTEMD_OBJECT_PATH`. -/
def systemdObjectPath : String := "/org/freedesktop/systemd1"

/-- `make_unit_path`. -/
def makeUnitPath (unit : String) : String :=
  systemdObjectPath ++ "/unit/" ++ busPathEscape unit

theorem assembleObjectPathString_injective (pre : String) :
    Function.Injective (assembleObjectPathString pre) := fun _ _ h =>
  busPathEscape_injective ((String.append_right_inj _).mp h)

theorem makeUnitPath_injective : Function.Injective makeUnitPath := fun _ _ h =>
  busPathEscape_injective ((String.append_right_inj _).mp h)

@[simp] theorem makeUnitPath_inj {u v : String} : makeUnitPath u = makeUnitPath v ↔ u = v :=
  makeUnitPath_injective.eq_iff

/-! ## Escaped texts

They are elements of object paths, fit into the buffer, and can be read back.
-/

/-- The characters that an element of an object path may have. -/
def isPathChar (c : Char) : Bool := c.isAlphanum || c = '_'

/-- The inverse of the loop of `bus_path_escape`. -/
def unescapeBytes : List Char → List UInt8
  | [] => []
  | '_' :: h :: l :: rest => UInt8.ofNat (hexval h * 16 + hexval l) :: unescapeBytes rest
  | c :: rest => UInt8.ofNat c.toNat :: unescapeBytes rest

/-- The inverse of `bus_path_escape`. -/
def busPathUnescape (cs : List Char) : List UInt8 :=
  if cs = ['_'] then [] else unescapeBytes cs

/-- `assemble_object_path_string` on the bytes of a name. -/
def assembleObjectPathBytes (pre : String) (name : List UInt8) : String :=
  pre ++ "/" ++ String.ofList (busPathEscapeBytes name)

/-- `make_unit_path` on the bytes of a name. -/
def makeUnitPathBytes (unit : List UInt8) : String :=
  systemdObjectPath ++ "/unit/" ++ String.ofList (busPathEscapeBytes unit)

lemma assembleObjectPathString_eq (pre name : String) : assembleObjectPathString pre name =
    assembleObjectPathBytes pre name.toUTF8.data.toList := rfl

lemma makeUnitPath_eq (unit : String) :
    makeUnitPath unit = makeUnitPathBytes unit.toUTF8.data.toList := rfl

lemma isPathChar_hexchar (x : ℕ) : isPathChar (hexchar x) = true := by
  have h : ∀ r : Fin 16, isPathChar (hexchar r) = true := by decide
  have hx := h ⟨x % 16, Nat.mod_lt _ (by decide)⟩
  simpa [hexchar] using hx

/-- A letter stays a letter, and a digit a digit. -/
lemma ofNat_isAlpha {c : UInt8} (h : asciiIsAlpha c = true) :
    (Char.ofNat c.toNat).isAlphanum = true ∧ (Char.ofNat c.toNat).isDigit = false := by
  have hall : ∀ k : Fin 128, 97 ≤ k.val ∧ k.val ≤ 122 ∨ 65 ≤ k.val ∧ k.val ≤ 90 →
      (Char.ofNat k.val).isAlphanum = true ∧ (Char.ofNat k.val).isDigit = false := by decide
  have hc : 97 ≤ c.toNat ∧ c.toNat ≤ 122 ∨ 65 ≤ c.toNat ∧ c.toNat ≤ 90 := of_decide_eq_true h
  exact hall ⟨c.toNat, by omega⟩ hc

lemma ofNat_isDigit {c : UInt8} (h : asciiIsDigit c = true) :
    (Char.ofNat c.toNat).isAlphanum = true := by
  have hall : ∀ k : Fin 128, 48 ≤ k.val ∧ k.val ≤ 57 → (Char.ofNat k.val).isAlphanum = true := by
    decide
  have hc : 48 ≤ c.toNat ∧ c.toNat ≤ 57 := of_decide_eq_true h
  exact hall ⟨c.toNat, by omega⟩ hc

/-- A byte is a letter, a digit behind the first byte, or escaped. -/
lemma escapeByte_cases (first : Bool) (c : UInt8) :
    escapeByte first c = ['_', hexchar (c.toNat / 16), hexchar c.toNat] ∨
      escapeByte first c = [Char.ofNat c.toNat] ∧
        (asciiIsAlpha c = true ∨ first = false ∧ asciiIsDigit c = true) := by
  unfold escapeByte
  split
  · exact Or.inl rfl
  · rename_i h
    refine Or.inr ⟨rfl, ?_⟩
    match ha : asciiIsAlpha c, hf : first, hd : asciiIsDigit c with
    | true, _, _ => exact Or.inl rfl
    | false, false, true => exact Or.inr ⟨rfl, rfl⟩
    | false, false, false => simp [ha, hd] at h
    | false, true, _ => simp [ha] at h

/-- What is written for one byte: path characters, three at most. -/
lemma escapeByte_wellFormed (first : Bool) (c : UInt8) :
    (∀ x ∈ escapeByte first c, isPathChar x = true) ∧ (escapeByte first c).length ≤ 3 := by
  apply (escapeByte_cases first c).elim
  · intro hescaped
    rw [hescaped]
    refine ⟨fun x hx => ?_, le_refl 3⟩
    match x, hx with
    | _, .head _ => decide
    | _, .tail _ (.head _) => exact isPathChar_hexchar _
    | _, .tail _ (.tail _ (.head _)) => exact isPathChar_hexchar _
  · intro ⟨hplain, hkind⟩
    rw [hplain]
    have halnum : (Char.ofNat c.toNat).isAlphanum = true :=
      hkind.elim (fun ha => (ofNat_isAlpha ha).1) fun hd => ofNat_isDigit hd.2
    refine ⟨fun x hx => ?_, Nat.le_add_left 1 2⟩
    rw [List.mem_singleton.mp hx]
    unfold isPathChar
    rw [halnum]
    rfl

/-- The first character is no digit. -/
lemma head_escapeByte (c : UInt8) (rest : List Char) :
    ∃ x, (escapeByte true c ++ rest).head? = some x ∧ x.isDigit = false := by
  apply (escapeByte_cases true c).elim
  · intro hescaped
    rw [hescaped]
    exact ⟨'_', rfl, by decide⟩
  · intro ⟨hplain, hkind⟩
    rw [hplain]
    have halpha : asciiIsAlpha c = true := hkind.resolve_right fun hd => Bool.noConfusion hd.1
    exact ⟨_, rfl, (ofNat_isAlpha halpha).2⟩

lemma escapeBytes_wellFormed (first : Bool) (bs : List UInt8) :
    (∀ x ∈ escapeBytes first bs, isPathChar x = true) ∧
      (escapeBytes first bs).length ≤ 3 * bs.length := by
  induction bs generalizing first with
  | nil =>
    refine ⟨fun x hx => ?_, le_refl 0⟩
    simp [escapeBytes] at hx
  | cons c cs ih =>
    have ⟨hchars, hlength⟩ := escapeByte_wellFormed first c
    have ⟨hrest, hrestLength⟩ := ih false
    constructor
    · intro x hx
      exact (List.mem_append.mp hx).elim (hchars x) (hrest x)
    · have happend : (escapeBytes first (c :: cs)).length =
          (escapeByte first c).length + (escapeBytes false cs).length := List.length_append
      rw [happend, List.length_cons]
      omega

/-- The byte at the head of an escaped text is read back. -/
lemma unescapeBytes_eq (first : Bool) (c : UInt8) (rest : List Char) :
    unescapeBytes (escapeByte first c ++ rest) = c :: unescapeBytes rest := by
  apply (escapeByte_cases first c).elim
  · intro hescaped
    rw [hescaped]
    show UInt8.ofNat (hexval (hexchar (c.toNat / 16)) * 16 + hexval (hexchar c.toNat)) :: _ = _
    have hlt : c.toNat < 256 := c.toNat_lt
    have hval : hexval (hexchar (c.toNat / 16)) * 16 + hexval (hexchar c.toNat) = c.toNat := by
      rw [hexval_hexchar, hexval_hexchar]
      omega
    rw [hval, UInt8.ofNat_toNat]
    rfl
  · intro ⟨hplain, hkind⟩
    have halnum : asciiIsAlpha c = true ∨ asciiIsDigit c = true := hkind.imp id And.right
    have ⟨hne, hval⟩ := ofNat_ne_underscore halnum
    rw [hplain, List.singleton_append, unescapeBytes, hval, UInt8.ofNat_toNat]
    intro h l r heq
    exact absurd heq hne

lemma unescapeBytes_escapeBytes (first : Bool) (bs : List UInt8) :
    unescapeBytes (escapeBytes first bs) = bs := by
  induction bs generalizing first with
  | nil => rfl
  | cons c cs ih =>
    show unescapeBytes (escapeByte first c ++ escapeBytes false cs) = _
    rw [unescapeBytes_eq, ih]

lemma busPathUnescape_busPathEscapeBytes (bs : List UInt8) :
    busPathUnescape (busPathEscapeBytes bs) = bs := by
  unfold busPathUnescape busPathEscapeBytes
  by_cases hbs : bs = []
  · rw [if_pos hbs, if_pos rfl, hbs]
  · rw [if_neg hbs, if_neg (escapeBytes_ne_underscore true bs), unescapeBytes_escapeBytes]

/-- An escaped name is an element of an object path and fits into the buffer, and the name can be
read back from it. So the paths of two nodes differ, and those of two units. -/
theorem busPathEscapeBytes_decodable : ∃ decode : List Char → List UInt8,
    (∀ s : List UInt8, busPathEscapeBytes s ≠ [] ∧
      (∀ c ∈ busPathEscapeBytes s, isPathChar c = true) ∧
      (∀ c ∈ (busPathEscapeBytes s).head?, c.isDigit = false) ∧
      (busPathEscapeBytes s).length ≤ (if s = [] then 1 else 3 * s.length) ∧
      decode (busPathEscapeBytes s) = s) ∧
    (∀ pre, Function.Injective (assembleObjectPathBytes pre)) ∧
    Function.Injective makeUnitPathBytes := by
  have hpath : ∀ pre : String, Function.Injective fun s =>
      pre ++ String.ofList (busPathEscapeBytes s) := fun pre s t heq =>
    busPathEscapeBytes_injective (String.ofList_inj.mp ((String.append_right_inj _).mp heq))
  refine ⟨busPathUnescape, fun s => ?_, fun pre => hpath _, hpath _⟩
  match s with
  | [] =>
    refine ⟨by decide, fun c hc => ?_, fun c hc => ?_, le_refl 1, rfl⟩
    · have heq : c = '_' := List.mem_singleton.mp hc
      rw [heq]
      decide
    · have heq : c = '_' := (Option.some.inj hc).symm
      rw [heq]
      decide
  | b :: bs =>
    have hescape : busPathEscapeBytes (b :: bs) = escapeByte true b ++ escapeBytes false bs := rfl
    have ⟨hchars, hlength⟩ := escapeBytes_wellFormed true (b :: bs)
    have ⟨x, hhead, hdigit⟩ := head_escapeByte b (escapeBytes false bs)
    refine ⟨fun hnil => ?_, hchars, fun c hc => ?_, ?_, busPathUnescape_busPathEscapeBytes _⟩
    · rw [hescape] at hnil
      exact absurd (List.append_eq_nil_iff.mp hnil).1 (escapeByte_ne_nil true b)
    · rw [hescape, hhead] at hc
      rw [← Option.some.inj hc]
      exact hdigit
    · rw [if_neg (List.cons_ne_nil b bs)]
      exact hlength

/-! ## Unique bus names -/

/-- `SD_BUS_MAXIMUM_NAME_LENGTH`. -/
def sdBusMaximumNameLength : ℕ := 255

/-- The loop of `bus_id_is_valid` over the bytes behind the colon, and the tests after it. The
length is the one of the whole name. -/
def busIdLoop (length : ℕ) (dot foundDot : Bool) : List UInt8 → Bool
  | [] => !(length > sdBusMaximumNameLength) && !(dot || !foundDot)
  | c :: cs =>
    if c.toNat = 46 then !dot && busIdLoop length true true cs
    else (asciiIsAlpha c || asciiIsDigit c) && busIdLoop length false foundDot cs

/-- `bus_id_is_valid`. -/
def busIdIsValid (name : String) : Bool :=
  match name.toUTF8.data.toList with
  | [] => false
  | c :: cs => c.toNat = 58 && busIdLoop (cs.length + 1) true false cs

/-- `bus_id_is_valid` on the bytes of a string, which may be missing. -/
def busIdIsValidBytes : Option (List UInt8) → Bool
  | none => false
  | some [] => false
  | some (c :: cs) => c.toNat = 58 && busIdLoop (cs.length + 1) true false cs

lemma busIdIsValid_eq (name : String) :
    busIdIsValid name = busIdIsValidBytes (some name.toUTF8.data.toList) := by
  unfold busIdIsValid busIdIsValidBytes
  cases name.toUTF8.data.toList <;> rfl

/-- A letter or a digit of ASCII. -/
def isNameByte (c : UInt8) : Bool := (Char.ofNat c.toNat).isAlphanum

/-- The grammar of unique names: a colon, and two or more elements of letters and digits with a dot
between each two, all of it not too long. -/
def IsUniqueName (name : List UInt8) : Prop :=
  ∃ elements : List (List UInt8), 2 ≤ elements.length ∧
    (∀ element ∈ elements, element ≠ [] ∧ ∀ c ∈ element, isNameByte c = true) ∧
    name = ':'.toUInt8 :: ['.'.toUInt8].intercalate elements ∧ name.length ≤ sdBusMaximumNameLength

/-- The tests of the loop for a letter and a digit, compared with those of `Char` on every byte. -/
lemma isAlpha_or_isDigit (c : UInt8) : (asciiIsAlpha c || asciiIsDigit c) = isNameByte c := by
  have hall : ∀ k : Fin 256, (asciiIsAlpha (UInt8.ofNat k.val) || asciiIsDigit (UInt8.ofNat k.val)) =
      isNameByte (UInt8.ofNat k.val) := by decide +kernel
  have hc := hall ⟨c.toNat, c.toNat_lt⟩
  rw [UInt8.ofNat_toNat] at hc
  exact hc

/-- The loop scans the elements, and the length is tested behind it. -/
lemma busIdLoop_eq_scan (length : ℕ) (dot foundDot : Bool) (cs : List UInt8) :
    busIdLoop length dot foundDot cs =
      (decide (length ≤ sdBusMaximumNameLength) && Words.scan '.'.toUInt8 isNameByte dot foundDot cs) := by
  induction cs generalizing dot foundDot with
  | nil =>
    have hlength : (!decide (length > sdBusMaximumNameLength)) =
        decide (length ≤ sdBusMaximumNameLength) := by
      rw [← decide_not]
      exact decide_eq_decide.mpr Nat.not_lt
    rw [busIdLoop, Words.scan, Bool.not_or, Bool.not_not, hlength]
  | cons c cs ih =>
    have hdot : c.toNat = 46 ↔ c = '.'.toUInt8 := UInt8.toNat_inj (b := '.'.toUInt8)
    rw [busIdLoop, Words.scan, isAlpha_or_isDigit, ih, ih]
    simp only [hdot]
    by_cases hc : c = '.'.toUInt8
    · rw [if_pos hc, if_pos hc, Bool.and_left_comm]
    · rw [if_neg hc, if_neg hc, Bool.and_left_comm]

/-- `bus_id_is_valid` accepts the names of the grammar and nothing else. -/
theorem busIdIsValidBytes_iff (name : Option (List UInt8)) :
    busIdIsValidBytes name = true ↔ ∃ s, name = some s ∧ IsUniqueName s := by
  match name with
  | none => simp [busIdIsValidBytes]
  | some [] => simp [busIdIsValidBytes, IsUniqueName]
  | some (c :: cs) =>
    have hcolon : c.toNat = 58 ↔ c = ':'.toUInt8 := UInt8.toNat_inj (b := ':'.toUInt8)
    have hsep : isNameByte '.'.toUInt8 = false := by decide
    rw [busIdIsValidBytes, busIdLoop_eq_scan, Bool.and_eq_true, Bool.and_eq_true, decide_eq_true_eq,
      decide_eq_true_eq, hcolon, Words.scan_iff_intercalate hsep]
    constructor
    · intro ⟨hc, hlength, words, hmany, hwords, hcs⟩
      refine ⟨c :: cs, rfl, words, hmany, hwords, ?_, hlength⟩
      rw [hc, hcs]
    · intro ⟨s, hs, elements, hmany, helements, hname, hlength⟩
      rw [← Option.some.inj hs] at hname hlength
      have ⟨hc, hcs⟩ := List.cons.inj hname
      exact ⟨hc, hlength, elements, hmany, helements, hcs⟩

/-! ## Property arrays -/

/-- A D-Bus variant: a string, or a value of another type, of which only the type is read. -/
inductive Variant
  | string (value : String)
  | other (signature : String) (isOther : signature ≠ "s")
  deriving DecidableEq

/-- The type that `sd_bus_message_peek_type` reports for a variant. -/
def Variant.valueType : Variant → String
  | .string _ => "s"
  | .other signature _ => signature

/-- The content of an `a{sv}` array. -/
abbrev Properties := List (String × Variant)

/-- The errors of the readers: `-ENOENT`, `-EIO`, `-ENXIO` and `-EBUSY`. -/
inductive Errno
  | enoent | eio | enxio | ebusy
  deriving DecidableEq, Repr

/-- The result of a `bus_property_cb` that did not fail: 0, 1 or 2. -/
inductive PropertyCbResult
  | next | stop | skip
  deriving DecidableEq, Repr

/-- `bus_parse_properties_foreach`, with the callback's `userdata` threaded through. When the
callback stops the loop, the array is left before its end is reached: leaving the container
then fails with `-EBUSY` unless the entry was the last one. -/
def busParsePropertiesForeach {δ : Type}
    (cb : String → Variant → δ → Except Errno (PropertyCbResult × δ)) :
    Properties → δ → Except Errno (Bool × δ)
  | [], data => .ok (false, data)
  | (key, value) :: rest, data =>
    match cb key value data with
    | .error r => .error r
    | .ok (.stop, data) => if rest.isEmpty then .ok (true, data) else .error .ebusy
    | .ok (_, data) => busParsePropertiesForeach cb rest data

/-- `bus_parse_property_string_cb`. -/
def busParsePropertyStringCb (name key : String) (value : Variant) (data : Option String) :
    Except Errno (PropertyCbResult × Option String) :=
  if key ≠ name then .ok (.skip, data)
  else match value with
    | .other _ _ => .error .eio
    | .string v => .ok (.stop, some v)

/-- Entries of other properties are skipped. -/
lemma busParsePropertiesForeach_skip {name : String} {e : String × Variant} (h : e.1 ≠ name)
    (rest : Properties) (data : Option String) :
    busParsePropertiesForeach (busParsePropertyStringCb name) (e :: rest) data =
      busParsePropertiesForeach (busParsePropertyStringCb name) rest data := by
  simp [busParsePropertiesForeach, busParsePropertyStringCb, h]

/-- `bus_parse_property_string`. -/
def busParsePropertyString (props : Properties) (name : String) : Except Errno String :=
  match busParsePropertiesForeach (busParsePropertyStringCb name) props none with
  | .error r => .error r
  | .ok (true, some v) => .ok v
  | .ok (_, _) => .error .enoent

/-- What the reader is meant to find: the first entry of that name, if it is a string. -/
def Properties.stringValue (props : Properties) (name : String) : Option String :=
  match props.lookup name with
  | some (.string value) => some value
  | _ => none

/-- No entry of that name is followed by another entry. -/
def Properties.LastEntry (props : Properties) (name : String) : Prop :=
  ∀ e ∈ props.dropLast, e.1 ≠ name

instance (props : Properties) (name : String) : Decidable (props.LastEntry name) :=
  inferInstanceAs (Decidable (∀ e ∈ props.dropLast, e.1 ≠ name))

/-- The reader finds the string it is asked for exactly when no entry follows it. -/
theorem busParsePropertyString_toOption (props : Properties) (name : String) :
    (busParsePropertyString props name).toOption =
      if props.LastEntry name then props.stringValue name else none := by
  induction props with
  | nil => rfl
  | cons e rest ih =>
    obtain ⟨key, value⟩ := e
    by_cases hkey : key = name
    · subst hkey
      cases value with
      | other signature hs =>
        simp [busParsePropertyString, busParsePropertiesForeach, busParsePropertyStringCb,
          Properties.stringValue, Except.toOption]
      | string v =>
        cases rest with
        | nil =>
          simp [busParsePropertyString, busParsePropertiesForeach, busParsePropertyStringCb,
            Properties.LastEntry, Properties.stringValue, Except.toOption]
        | cons e' rest' =>
          simp [busParsePropertyString, busParsePropertiesForeach, busParsePropertyStringCb,
            Properties.LastEntry, Except.toOption]
    · have hread : busParsePropertyString ((key, value) :: rest) name =
          busParsePropertyString rest name := by
        rw [busParsePropertyString, busParsePropertyString, busParsePropertiesForeach_skip hkey]
      have hvalue : Properties.stringValue ((key, value) :: rest) name =
          Properties.stringValue rest name := by
        have hbeq : (name == key) = false := by simpa using Ne.symm hkey
        simp [Properties.stringValue, List.lookup_cons, hbeq]
      have hlast : Properties.LastEntry ((key, value) :: rest) name ↔
          Properties.LastEntry rest name := by
        cases rest with
        | nil => simp [Properties.LastEntry]
        | cons e' rest' => simp [Properties.LastEntry, hkey]
      rw [hread, ih, hvalue]
      simp only [hlast]

end BlueChi
