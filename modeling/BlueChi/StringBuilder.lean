import BlueChi.Library.Buffer
import BlueChi.Library.Checked
import BlueChi.Library.Execution

/-!
# The string builder

`StringBuilder` with `string_builder_append` and `string_builder_printf`. Lengths and capacities are
of type `size_t`, with 64 bits. What the C standard leaves undefined is an error here: a write outside
the block, and an `int` that overflows.
-/

namespace BlueChi

open Execution

/-! ## The C library -/

/-- A string: the bytes in front of the NUL that ends it. -/
structure CString where
  bytes : List UInt8
  noNul : 0 ∉ bytes

/-- What an allocation gives: nothing, or memory that holds any bytes where it is new. -/
abbrev Allocation := Option (ℕ → UInt8)

/-- What is undefined in C. -/
inductive Undefined
  | outOfBounds | intOverflow
  deriving DecidableEq

/-- `INT_MAX`. -/
def intMax : ℤ := 2147483647

/-- An addition of type `int`, of numbers that are not negative. -/
def addInt (x y : ℤ) : Except Undefined ℤ := if intMax < x + y then .error .intOverflow else .ok (x + y)

/-- A write into a block of memory. -/
def writeBytes (block : List UInt8) (offset : ℕ) (cells : List UInt8) :
    Except Undefined (List UInt8) :=
  match Buffer.write block offset cells with
  | none => .error .outOfBounds
  | some written => .ok written

/-- `strlen`. -/
def CString.strlen (s : CString) : UInt64 := UInt64.ofNat s.bytes.length

/-- The `n` bytes that `strncpy` writes: those of the string, and NULs behind them. -/
def CString.strncpy (s : CString) (n : ℕ) : List UInt8 :=
  s.bytes.take n ++ List.replicate (n - s.bytes.length) 0

/-- `vsnprintf` at an offset of a block. The format and its arguments make up a text, or cannot be
converted. The result is the length of the text, and -1 on failure and when it is no `int`. -/
def vsnprintf (block : List UInt8) (offset size : ℕ) (text : Option (List UInt8)) :
    Except Undefined (ℤ × List UInt8) :=
  match text with
  | none => .ok (-1, block)
  | some bytes =>
    if intMax < bytes.length then .ok (-1, block)
    else if size = 0 then .ok (bytes.length, block)
    else do
      let written ← writeBytes block offset (bytes.take (size - 1) ++ [0])
      return (bytes.length, written)

/-! ## The builder -/

/-- `StringBuilder`; `str` is the block it points to. -/
structure StringBuilder where
  str : List UInt8
  len : UInt64
  capacity : UInt64
  deriving DecidableEq

namespace StringBuilder

/-- `STRING_BUILDER_DEFAULT_CAPACITY`. -/
def defaultCapacity : UInt64 := 1024

/-- `string_builder_init`; without memory there is no builder. -/
def init (initialCapacity : UInt64) (alloc : Allocation) : Except Undefined (Option StringBuilder) :=
  let capacity := if initialCapacity = 0 then defaultCapacity else initialCapacity
  match alloc with
  | none => .ok none
  | some fill => do
    let str ← writeBytes (Buffer.resize [] capacity.toNat fill) 0 [0]
    return some ⟨str, 0, capacity⟩

/-- `string_builder_realloc`. -/
def realloc (b : StringBuilder) (newSize : UInt64) (alloc : Allocation) : Bool × StringBuilder :=
  match alloc with
  | none => (false, b)
  | some fill => (true, { b with str := Buffer.resize b.str newSize.toNat fill, capacity := newSize })

/-- `string_builder_grow`. -/
def grow (b : StringBuilder) (extraSize : UInt64) (alloc : Allocation) : Bool × StringBuilder :=
  let requiredSize := b.len + extraSize + 1
  if b.capacity < requiredSize then
    let newSize := if b.capacity * 2 < requiredSize then requiredSize else b.capacity * 2
    match b.realloc newSize alloc with
    | (false, b) => (false, b)
    | (true, b) => (true, { b with len := b.len + extraSize })
  else (true, { b with len := b.len + extraSize })

/-- `string_builder_append`. -/
def append (b : StringBuilder) (str : CString) (alloc : Allocation) :
    Except Undefined (Bool × StringBuilder) :=
  let oldLen := b.len
  match b.grow str.strlen alloc with
  | (false, b) => .ok (false, b)
  | (true, b) => do
    let written ← writeBytes b.str oldLen.toNat (str.strncpy (b.capacity - oldLen).toNat)
    return (true, { b with str := written })

/-- `string_builder_printf`. Both calls of `vsnprintf` get the same format and arguments. -/
def printf (b : StringBuilder) (text : Option (List UInt8)) (alloc : Allocation) :
    Except Undefined (Bool × StringBuilder) := do
  let (n, _) ← vsnprintf b.str 0 0 text
  if n < 0 then return (false, b)
  let oldLen := b.len
  match b.grow (UInt64.ofNat n.toNat) alloc with
  | (false, b) => return (false, b)
  | (true, b) =>
    -- `n + 1` is computed as an `int`
    let size ← addInt n 1
    let (_, written) ← vsnprintf b.str oldLen.toNat size.toNat text
    return (true, { b with str := written })

/-- An operation on a builder. For `string_builder_printf` it has the text that the format and its
arguments make up, unless they cannot be converted. -/
inductive Operation
  | append (str : CString) (alloc : Allocation)
  | printf (text : Option (List UInt8)) (alloc : Allocation)

/-- What the operation is to add. -/
def Operation.piece : Operation → List UInt8
  | .append str _ => str.bytes
  | .printf text _ => text.getD []

def perform (b : StringBuilder) : Operation → Except Undefined (Bool × StringBuilder)
  | .append str alloc => b.append str alloc
  | .printf text alloc => b.printf text alloc

/-- What the builder holds. -/
def content (b : StringBuilder) : List UInt8 := b.str.take b.len.toNat

/-! ## What it represents -/

/-- The builder holds a text and the NUL behind it, in a block as large as its capacity says. -/
structure Represents (b : StringBuilder) (text : List UInt8) : Prop where
  length : b.len.toNat = text.length
  room : b.len.toNat + 1 ≤ b.capacity.toNat
  block : b.str.length = b.capacity.toNat
  holds : b.str.take (b.len.toNat + 1) = text ++ [0]

/-- The builder has grown: it still holds the text, and has room for a piece behind it. -/
structure Grown (b grown : StringBuilder) (text : List UInt8) (extra : ℕ) : Prop where
  length : b.len.toNat = text.length
  len : grown.len.toNat = b.len.toNat + extra
  room : grown.len.toNat + 1 ≤ grown.capacity.toNat
  block : grown.str.length = grown.capacity.toNat
  holds : grown.str.take b.len.toNat = text

variable {b grown : StringBuilder} {text piece cells : List UInt8} {extra : UInt64} {alloc : Allocation}

lemma Represents.content_eq (h : Represents b text) : b.content = text := by
  have htake := congrArg (List.take b.len.toNat) h.holds
  rw [List.take_take, Nat.min_eq_left (Nat.le_succ _), h.length, List.take_left] at htake
  rw [content, h.length]
  exact htake

/-- A new builder holds the empty text. -/
lemma init_spec (initialCapacity : UInt64) (alloc : Allocation) :
    init initialCapacity alloc = .ok none ∨
      ∃ b, init initialCapacity alloc = .ok (some b) ∧ Represents b [] := by
  have hpos : 0 < (if initialCapacity = 0 then defaultCapacity else initialCapacity).toNat := by
    by_cases hzero : initialCapacity = 0
    · rw [if_pos hzero]
      decide
    · rw [if_neg hzero]
      exact Nat.pos_of_ne_zero fun h => hzero (UInt64.toNat_inj.mp h)
  match alloc with
  | none => exact Or.inl rfl
  | some fill =>
    refine Or.inr ?_
    unfold init
    generalize (if initialCapacity = 0 then defaultCapacity else initialCapacity) = capacity at hpos
    have hfits : 0 + [(0 : UInt8)].length ≤ (Buffer.resize [] capacity.toNat fill).length := by
      rw [Buffer.length_resize]
      exact hpos
    have ⟨written, hwrite, hlength, htake⟩ := Buffer.write_of_le hfits
    refine ⟨⟨written, 0, capacity⟩, ?_, rfl, hpos, ?_, ?_⟩
    · simp only [writeBytes, hwrite]
      rfl
    · rw [hlength, Buffer.length_resize]
    · have hone := htake 1 (Nat.le_refl 1)
      rw [List.take_zero, List.nil_append] at hone
      exact hone

/-! ## Growing -/

/-- There is room for a piece, or memory for it. -/
def CanGrow (b : StringBuilder) (extra : ℕ) (alloc : Allocation) : Prop :=
  b.len.toNat + extra + 1 ≤ b.capacity.toNat ∨ alloc.isSome

instance (b : StringBuilder) (extra : ℕ) (alloc : Allocation) : Decidable (b.CanGrow extra alloc) :=
  inferInstanceAs (Decidable (_ ∨ _))

/-- Without room and memory the builder stays as it is. -/
lemma grow_of_not_canGrow (hfits : b.len.toNat + extra.toNat + 1 < 2 ^ 64)
    (hgrow : ¬b.CanGrow extra.toNat alloc) : b.grow extra alloc = (false, b) := by
  have ⟨hroom, halloc⟩ := not_or.mp hgrow
  have hnone : alloc = none := Option.not_isSome_iff_eq_none.mp halloc
  have hlen := (Checked.add_of_lt (a := b.len) (b := extra) (by omega)).2
  have hrequired := (Checked.add_of_lt (a := b.len + extra) (b := 1) (by rw [hlen]; exact hfits)).2
  have hless : b.capacity < b.len + extra + 1 := by
    rw [UInt64.lt_iff_toNat_lt, hrequired, hlen]
    exact Nat.not_le.mp hroom
  simp only [grow, if_pos hless, realloc, hnone]

/-- With room or memory it grows. The capacity is doubled, or as large as need be when that is too
little or does not fit in a `size_t`. -/
lemma grow_of_canGrow (h : Represents b text) (hfits : b.len.toNat + extra.toNat + 1 < 2 ^ 64)
    (hgrow : b.CanGrow extra.toNat alloc) :
    ∃ grown, b.grow extra alloc = (true, grown) ∧ Grown b grown text extra.toNat := by
  have hlen := (Checked.add_of_lt (a := b.len) (b := extra) (by omega)).2
  have hrequired := (Checked.add_of_lt (a := b.len + extra) (b := 1) (by rw [hlen]; exact hfits)).2
  have hone : (1 : UInt64).toNat = 1 := by decide
  rw [hlen, hone] at hrequired
  have hholds : b.str.take b.len.toNat = text := h.content_eq
  by_cases hless : b.capacity < b.len + extra + 1
  · have hsmall : b.capacity.toNat < b.len.toNat + extra.toNat + 1 := by
      rw [UInt64.lt_iff_toNat_lt, hrequired] at hless
      exact hless
    match alloc, hgrow.resolve_left (Nat.not_le.mpr hsmall) with
    | some fill, _ =>
      simp only [grow, if_pos hless, realloc]
      refine ⟨_, rfl, h.length, hlen, ?_, Buffer.length_resize _ _ _, ?_⟩
      · rw [hlen]
        split
        · exact Nat.le_of_eq hrequired.symm
        · rename_i hdouble
          rw [UInt64.lt_iff_toNat_lt, hrequired, Nat.not_lt] at hdouble
          exact hdouble
      · have hblock := h.block
        have hroom := h.room
        rw [← hholds]
        apply Buffer.take_resize
        · omega
        · split
          · rw [hrequired]
            omega
          · rename_i hdouble
            rw [UInt64.lt_iff_toNat_lt, hrequired, Nat.not_lt] at hdouble
            omega
  · simp only [grow, if_neg hless]
    refine ⟨_, rfl, h.length, hlen, ?_, h.block, hholds⟩
    rw [UInt64.lt_iff_toNat_lt, hrequired, Nat.not_lt] at hless
    rw [hlen]
    exact hless

/-- What is written behind the old text is the piece, the NUL and whatever comes then. -/
lemma Grown.write (h : Grown b grown text piece.length)
    (hcells : cells.take (piece.length + 1) = piece ++ [0])
    (hfits : b.len.toNat + cells.length ≤ grown.capacity.toNat) :
    ∃ written, writeBytes grown.str b.len.toNat cells = .ok written ∧
      Represents { grown with str := written } (text ++ piece) := by
  have hlong : piece.length + 1 ≤ cells.length := by
    have hlength := congrArg List.length hcells
    rw [List.length_take, List.length_append, List.length_singleton] at hlength
    omega
  have hinside : b.len.toNat + cells.length ≤ grown.str.length := by
    rw [h.block]
    exact hfits
  have ⟨written, hwrite, hlength, htake⟩ := Buffer.write_of_le hinside
  refine ⟨written, ?_, ?_, h.room, ?_, ?_⟩
  · simp only [writeBytes, hwrite]
  · show grown.len.toNat = _
    rw [h.len, h.length, List.length_append]
  · show written.length = _
    rw [hlength, h.block]
  · show written.take (grown.len.toNat + 1) = _
    rw [h.len, Nat.add_assoc, htake _ hlong, h.holds, hcells, List.append_assoc]

/-! ## Adding -/

/-- The sizes stay below the limit of `size_t`. -/
def Fits (b : StringBuilder) (op : Operation) : Prop :=
  b.len.toNat + op.piece.length + 1 < 2 ^ 64

/-- No text of `INT_MAX` bytes is printed for which there is room or memory. -/
def AvoidsIntMax (b : StringBuilder) : Operation → Prop
  | .append _ _ => True
  | .printf none _ => True
  | .printf (some text) alloc => text.length = intMax → ¬b.CanGrow text.length alloc

/-- The operation fails and leaves the builder as it is, or adds its piece. -/
inductive Performs (b : StringBuilder) (text : List UInt8) (op : Operation) : Prop
  | fails (h : b.perform op = .ok (false, b))
  | adds (b' : StringBuilder) (h : b.perform op = .ok (true, b'))
      (represents : Represents b' (text ++ op.piece))

lemma toNat_ofNat_of_fits {n : ℕ} (hfits : b.len.toNat + n + 1 < 2 ^ 64) :
    (UInt64.ofNat n).toNat = n := by
  rw [UInt64.toNat_ofNat']
  exact Nat.mod_eq_of_lt (by omega)

lemma append_spec (h : Represents b text) (str : CString)
    (hfits : b.len.toNat + str.bytes.length + 1 < 2 ^ 64) :
    Performs b text (.append str alloc) := by
  have hstrlen : str.strlen.toNat = str.bytes.length := toNat_ofNat_of_fits hfits
  rw [← hstrlen] at hfits
  by_cases hgrow : b.CanGrow str.strlen.toNat alloc
  · have ⟨grown, hgrown, hspec⟩ := grow_of_canGrow h hfits hgrow
    rw [hstrlen] at hspec
    have hlen := hspec.len
    have hroom := hspec.room
    have hn : (grown.capacity - b.len).toNat = grown.capacity.toNat - b.len.toNat :=
      (Checked.sub_of_le (by omega)).2
    have hcount : str.bytes.length + 1 ≤ (grown.capacity - b.len).toNat := by omega
    -- the padding of `strncpy` begins with the NUL that ends the text
    have hcells : (str.strncpy (grown.capacity - b.len).toNat).take (str.bytes.length + 1) =
        str.bytes ++ [0] := by
      have hwhole : str.bytes.take (grown.capacity - b.len).toNat = str.bytes :=
        List.take_of_length_le (by omega)
      have hone : min 1 ((grown.capacity - b.len).toNat - str.bytes.length) = 1 := by omega
      rw [CString.strncpy, hwhole, List.take_length_add_append, List.take_replicate, hone]
      rfl
    have hcellsFit : b.len.toNat + (str.strncpy (grown.capacity - b.len).toNat).length ≤
        grown.capacity.toNat := by
      rw [CString.strncpy, List.length_append, List.length_take, List.length_replicate]
      omega
    have ⟨written, hwrite, hrepresents⟩ := hspec.write hcells hcellsFit
    refine .adds _ ?_ hrepresents
    simp only [perform, append, hgrown, hwrite]
    rfl
  · refine .fails ?_
    simp only [perform, append, grow_of_not_canGrow hfits hgrow]

/-- A text that cannot be made up, or is too long for an `int`, is not printed. -/
lemma printf_fails {text : Option (List UInt8)} (h : ∀ bytes, text = some bytes → intMax < bytes.length) :
    b.printf text alloc = .ok (false, b) := by
  match text, h with
  | none, _ => rfl
  | some bytes, h =>
    simp only [printf, vsnprintf, if_pos (h bytes rfl)]
    rfl

/-- A text that is an `int` long is measured first. -/
lemma printf_eq {bytes : List UInt8} (h : (bytes.length : ℤ) ≤ intMax) :
    b.printf (some bytes) alloc =
      match b.grow (UInt64.ofNat bytes.length) alloc with
      | (false, b') => .ok (false, b')
      | (true, b') => do
        let size ← addInt bytes.length 1
        let (_, written) ← vsnprintf b'.str b.len.toNat size.toNat (some bytes)
        return (true, { b' with str := written }) := by
  have hmeasure : vsnprintf b.str 0 0 (some bytes) = .ok (bytes.length, b.str) := by
    simp only [vsnprintf, if_neg (Int.not_lt.mpr h), if_true]
  have hnonneg : ¬(bytes.length : ℤ) < 0 := by omega
  simp only [printf, hmeasure]
  exact if_neg (t := pure (false, b)) hnonneg

/-- A text is printed like a string is appended, as long as `n + 1` does not overflow. -/
lemma printf_adds {bytes : List UInt8} (h : Represents b text)
    (hfits : b.len.toNat + bytes.length + 1 < 2 ^ 64) (hint : (bytes.length : ℤ) < intMax)
    (hgrow : b.CanGrow bytes.length alloc) :
    ∃ b', b.printf (some bytes) alloc = .ok (true, b') ∧ Represents b' (text ++ bytes) := by
  have hn : (UInt64.ofNat bytes.length).toNat = bytes.length := toNat_ofNat_of_fits hfits
  rw [← hn] at hfits hgrow
  have ⟨grown, hgrown, hspec⟩ := grow_of_canGrow h hfits hgrow
  rw [hn] at hspec
  have hlen := hspec.len
  have hroom := hspec.room
  have hsize : addInt bytes.length 1 = .ok (bytes.length + 1) := if_neg (by omega)
  have hcells : (bytes ++ [0]).take (bytes.length + 1) = bytes ++ [(0 : UInt8)] :=
    List.take_of_length_le (Nat.le_of_eq List.length_append)
  have hcellsFit : b.len.toNat + (bytes ++ [(0 : UInt8)]).length ≤ grown.capacity.toNat := by
    rw [List.length_append, List.length_singleton]
    omega
  have ⟨written, hwrite, hrepresents⟩ := hspec.write hcells hcellsFit
  have hwhole : bytes.take ((bytes.length + 1 : ℤ).toNat - 1) = bytes := List.take_of_length_le (by omega)
  have hsecond : vsnprintf grown.str b.len.toNat (bytes.length + 1 : ℤ).toNat (some bytes) =
      .ok (bytes.length, written) := by
    have hpos : ¬(bytes.length + 1 : ℤ).toNat = 0 := by omega
    simp only [vsnprintf, if_neg (Int.not_lt.mpr (Int.le_of_lt hint)), if_neg hpos, hwhole, hwrite]
    rfl
  refine ⟨_, ?_, hrepresents⟩
  rw [printf_eq (Int.le_of_lt hint), hgrown]
  show (addInt bytes.length 1 >>= _) = _
  rw [hsize]
  show (vsnprintf grown.str b.len.toNat (bytes.length + 1 : ℤ).toNat (some bytes) >>= _) = _
  rw [hsecond]
  rfl

/-- The sum of `INT_MAX` and 1 is no `int`. -/
lemma printf_overflows {bytes : List UInt8} (h : Represents b text)
    (hfits : b.len.toNat + bytes.length + 1 < 2 ^ 64) (hint : (bytes.length : ℤ) = intMax)
    (hgrow : b.CanGrow bytes.length alloc) :
    b.printf (some bytes) alloc = .error .intOverflow := by
  have hn : (UInt64.ofNat bytes.length).toNat = bytes.length := toNat_ofNat_of_fits hfits
  rw [← hn] at hfits hgrow
  have ⟨grown, hgrown, _⟩ := grow_of_canGrow h hfits hgrow
  have hsize : addInt bytes.length 1 = .error .intOverflow := if_pos (by omega)
  rw [printf_eq (Int.le_of_eq hint), hgrown]
  show (addInt bytes.length 1 >>= _) = _
  rw [hsize]
  rfl

/-- An operation fails or adds its piece, unless it prints a text of `INT_MAX` bytes. -/
lemma performs_of_avoids (h : Represents b text) (op : Operation) (hfits : b.Fits op)
    (havoids : b.AvoidsIntMax op) : Performs b text op := by
  match op, hfits, havoids with
  | .append str alloc, hfits, _ => exact append_spec h str hfits
  | .printf none alloc, _, _ =>
    exact .fails (printf_fails fun bytes hbytes => absurd hbytes (by simp))
  | .printf (some bytes) alloc, hfits, havoids =>
    have hpiece : b.len.toNat + bytes.length + 1 < 2 ^ 64 := hfits
    by_cases hlong : intMax < bytes.length
    · exact .fails (printf_fails fun bytes' hbytes => Option.some.inj hbytes ▸ hlong)
    · by_cases hgrow : b.CanGrow bytes.length alloc
      · have hne : (bytes.length : ℤ) ≠ intMax := fun heq => havoids heq hgrow
        have ⟨b', hb', hrepresents⟩ := printf_adds h hpiece (by omega) hgrow
        exact .adds b' hb' hrepresents
      · have hn : (UInt64.ofNat bytes.length).toNat = bytes.length := toNat_ofNat_of_fits hpiece
        refine .fails ?_
        show b.printf (some bytes) alloc = _
        rw [← hn] at hpiece hgrow
        rw [printf_eq (Int.not_lt.mp hlong), grow_of_not_canGrow hpiece hgrow]

lemma avoids_of_perform_eq_ok (h : Represents b text) {op : Operation} (hfits : b.Fits op)
    {result : Bool × StringBuilder} (hresult : b.perform op = .ok result) : b.AvoidsIntMax op := by
  match op, hfits, hresult with
  | .append _ _, _, _ => exact trivial
  | .printf none _, _, _ => exact trivial
  | .printf (some bytes) alloc, hfits, hresult =>
    intro hint hgrow
    have hperform : b.perform (.printf (some bytes) alloc) = .error .intOverflow :=
      printf_overflows h hfits hint hgrow
    rw [hperform] at hresult
    exact absurd hresult (by simp)

instance (b : StringBuilder) (op : Operation) : Decidable (b.Fits op) :=
  inferInstanceAs (Decidable (_ < _))

instance (b : StringBuilder) : ∀ op : Operation, Decidable (b.AvoidsIntMax op)
  | .append _ _ => isTrue trivial
  | .printf none _ => isTrue trivial
  | .printf (some text) alloc =>
    inferInstanceAs (Decidable ((text.length : ℤ) = intMax → ¬b.CanGrow text.length alloc))

/-! ## Runs -/

/-- A builder in use, with the pieces that have been added to it. -/
structure Building where
  builder : StringBuilder
  added : List (List UInt8)
  deriving DecidableEq

/-- The runs of a builder. There is no step where the behaviour is undefined. -/
def system : System Building Operation where
  init s := (∃ initialCapacity alloc, init initialCapacity alloc = .ok (some s.builder)) ∧ s.added = []
  step s op :=
    match s.builder.perform op with
    | .ok (true, b) => some ⟨b, s.added ++ [op.piece]⟩
    | .ok (false, b) => some ⟨b, s.added⟩
    | .error _ => none

/-- The sizes stay below the limit, and no text of `INT_MAX` bytes is printed. -/
def Sized (s : Building) (op : Operation) : Prop := s.builder.Fits op ∧ s.builder.AvoidsIntMax op

instance (s : Building) (op : Operation) : Decidable (Sized s op) := inferInstanceAs (Decidable (_ ∧ _))

/-- One operation keeps the builder in step with the pieces. -/
lemma represents_step {s s' : Building} {op : Operation} (h : Represents s.builder s.added.flatten)
    (hsized : Sized s op) (hstep : system.step s op = some s') :
    Represents s'.builder s'.added.flatten := by
  match performs_of_avoids h op hsized.1 hsized.2 with
  | .fails hfails =>
    simp only [system, hfails, Option.some.injEq] at hstep
    rw [← hstep]
    exact h
  | .adds b' hadds hrepresents =>
    simp only [system, hadds, Option.some.injEq] at hstep
    rw [← hstep]
    show Represents b' (s.added ++ [op.piece]).flatten
    rw [List.flatten_append, List.flatten_singleton]
    exact hrepresents

lemma represents_of_reachable {s : Building} (h : ReachableUnder system Sized s) :
    Represents s.builder s.added.flatten := by
  refine h.invariant (fun t ht => ?_) fun _ _ _ hs hsized hstep => represents_step hs hsized hstep
  have ⟨⟨initialCapacity, alloc, hinit⟩, hadded⟩ := ht
  rw [hadded]
  apply (init_spec initialCapacity alloc).elim
  · intro hnone
    rw [hinit] at hnone
    exact absurd hnone (by simp)
  · intro ⟨b, hb, hrepresents⟩
    rw [hinit, Except.ok.injEq, Option.some.injEq] at hb
    rw [hb]
    exact hrepresents

/-- In every run the content is what was added, with a NUL behind it, and fits. The next operation stays
inside the block and fails without a trace or not at all, unless it prints a text of `INT_MAX` bytes. -/
theorem content_eq_added (initialCapacity : UInt64) (alloc : Allocation) :
    (∃ made, init initialCapacity alloc = .ok made) ∧
    ∀ s, ReachableUnder system Sized s →
      s.builder.content = s.added.flatten ∧ s.builder.len.toNat = s.builder.content.length ∧
      s.builder.len.toNat + 1 ≤ s.builder.capacity.toNat ∧
      s.builder.str.length = s.builder.capacity.toNat ∧
      s.builder.str.take (s.builder.len.toNat + 1) = s.builder.content ++ [0] ∧
      ∀ op, s.builder.Fits op →
        ((∃ succeeded b', s.builder.perform op = .ok (succeeded, b') ∧
          (succeeded = false → b' = s.builder)) ↔ s.builder.AvoidsIntMax op) := by
  constructor
  · apply (init_spec initialCapacity alloc).elim
    · exact fun hnone => ⟨none, hnone⟩
    · exact fun ⟨b, hb, _⟩ => ⟨some b, hb⟩
  · intro s hs
    have h := represents_of_reachable hs
    refine ⟨h.content_eq, ?_, h.room, h.block, ?_, fun op hfits => ⟨?_, fun havoids => ?_⟩⟩
    · rw [h.content_eq, h.length]
    · rw [h.content_eq, h.holds]
    · intro ⟨succeeded, b', hperform, _⟩
      exact avoids_of_perform_eq_ok h hfits hperform
    · match performs_of_avoids h op hfits havoids with
      | .fails hfails => exact ⟨false, s.builder, hfails, fun _ => rfl⟩
      | .adds b' hadds _ => exact ⟨true, b', hadds, fun hfalse => absurd hfalse (by simp)⟩

lemma intMaxText_undefined {bytes : List UInt8} (hlength : bytes.length = 2147483647) :
    ReachableUnder system (fun s op => s.builder.Fits op) ⟨⟨[0], 0, 1⟩, []⟩ ∧
      (⟨[0], 0, 1⟩ : StringBuilder).Fits (.printf (some bytes) (some fun _ => 0)) ∧
      (⟨[0], 0, 1⟩ : StringBuilder).perform (.printf (some bytes) (some fun _ => 0)) =
        .error .intOverflow := by
  have hrepresents : Represents ⟨[0], 0, 1⟩ [] := ⟨by decide, by decide, by decide, by decide⟩
  have hfits : (0 : UInt64).toNat + bytes.length + 1 < 2 ^ 64 := by
    have hzero : (0 : UInt64).toNat = 0 := by decide
    omega
  have hint : (bytes.length : ℤ) = intMax := by
    unfold intMax
    omega
  refine ⟨.init ⟨⟨1, some fun _ => 0, by rfl⟩, rfl⟩, hfits, ?_⟩
  exact printf_overflows hrepresents hfits hint (Or.inr rfl)

/-- A builder of capacity 1 that gets a text of `INT_MAX` bytes to print: `n + 1` overflows. -/
theorem printf_intMax_undefined :
    ReachableUnder system (fun s op => s.builder.Fits op) ⟨⟨[0], 0, 1⟩, []⟩ ∧
      (⟨[0], 0, 1⟩ : StringBuilder).Fits
        (.printf (some (List.replicate 2147483647 120)) (some fun _ => 0)) ∧
      (⟨[0], 0, 1⟩ : StringBuilder).perform
        (.printf (some (List.replicate 2147483647 120)) (some fun _ => 0)) = .error .intOverflow := by
  apply intMaxText_undefined
  exact List.length_replicate

/-- The beginning of the tests: from a capacity of 1 to what is needed for a string, and to twice as
much for the next one. A third one fails for lack of memory. -/
def addsTwoStrings : List Operation :=
  [.append ⟨"string1".toUTF8.data.toList, by decide⟩ (some fun _ => 1),
    .printf (some "string2".toUTF8.data.toList) (some fun _ => 2),
    .append ⟨"string3".toUTF8.data.toList, by decide⟩ none]

theorem content_addsTwoStrings :
    ∃ s : Building, run system ⟨⟨[0], 0, 1⟩, []⟩ addsTwoStrings = some s ∧
      s.builder.len = 14 ∧ s.builder.capacity = 16 ∧
      s.builder.content = "string1string2".toUTF8.data.toList ∧ s.builder.content = s.added.flatten := by
  have hinit : ReachableUnder system Sized ⟨⟨[0], 0, 1⟩, []⟩ :=
    .init ⟨⟨1, some fun _ => 0, by rfl⟩, rfl⟩
  have hsized : GuardedRun system Sized ⟨⟨[0], 0, 1⟩, []⟩ addsTwoStrings := by decide +kernel
  have hrun : ∃ s, run system ⟨⟨[0], 0, 1⟩, []⟩ addsTwoStrings = some s ∧ s.builder.len = 14 ∧
      s.builder.capacity = 16 ∧ s.builder.content = "string1string2".toUTF8.data.toList := by
    refine ⟨_, rfl, by decide +kernel, by decide +kernel, by decide +kernel⟩
  have ⟨s, hs, hlen, hcapacity, hcontent⟩ := hrun
  exact ⟨s, hs, hlen, hcapacity, hcontent,
    ((content_eq_added 1 none).2 s (hinit.run hsized hs)).1⟩

end StringBuilder

end BlueChi
