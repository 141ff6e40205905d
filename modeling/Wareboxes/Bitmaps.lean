import Mathlib

/-!
# Bit strings and bitmaps

Numbers as bit strings with the highest bit first, and bit strings as bytes. A set of indices is
a number with the bits of the indices set. A bitmap is painted with a list of strokes, each of
which sets one index; when no index comes twice, every stroke is seen in the end.
-/

namespace Wareboxes.Bitmaps

section Strings

/-- The lowest bits of a number, the highest of them first. -/
def bitsOf : ℕ → ℕ → List Bool
  | 0, _ => []
  | count + 1, value => value.testBit count :: bitsOf count value

/-- The number of a bit string. -/
def ofBits : List Bool → ℕ
  | [] => 0
  | bit :: rest => bit.toNat * 2 ^ rest.length + ofBits rest

/-- Eight bits a byte. -/
def bytesOf : List Bool → List ℕ
  | a :: b :: c :: d :: e :: f :: g :: h :: rest => ofBits [a, b, c, d, e, f, g, h] :: bytesOf rest
  | short => if short = [] then [] else [ofBits short]

/-- The bits of bytes. -/
def bitsOfBytes (bytes : List ℕ) : List Bool := bytes.flatMap (bitsOf 8)

/-- As many bits as were asked for. -/
@[simp] theorem length_bitsOf (count value : ℕ) : (bitsOf count value).length = count := by
  induction count with
  | zero => rfl
  | succ count ih => rw [bitsOf, List.length_cons, ih]

/-- A bit string is less than the power of two of its length. -/
theorem ofBits_lt (bits : List Bool) : ofBits bits < 2 ^ bits.length := by
  induction bits with
  | nil => decide
  | cons bit rest ih =>
    have hbit : bit.toNat * 2 ^ rest.length ≤ 2 ^ rest.length :=
      (Nat.mul_le_mul_right _ bit.toNat_le).trans_eq (one_mul _)
    rw [ofBits, List.length_cons, pow_succ]
    omega

/-- A string without eight bits at its start is shorter than eight. -/
theorem length_lt_of_short {bits : List Bool} (hshort : ∀ a b c d e f g h rest,
    bits = a :: b :: c :: d :: e :: f :: g :: h :: rest → False) : bits.length < 8 := by
  by_contra hlength
  match bits, hshort, hlength with
  | _ :: _ :: _ :: _ :: _ :: _ :: _ :: _ :: _, hshort, _ => exact hshort _ _ _ _ _ _ _ _ _ rfl
  | [], _, h | [_], _, h | [_, _], _, h | [_, _, _], _, h | [_, _, _, _], _, h
  | [_, _, _, _, _], _, h | [_, _, _, _, _, _], _, h | [_, _, _, _, _, _, _], _, h =>
    exact h (by simp)

/-- Bytes are less than 256. -/
theorem bytesOf_lt (bits : List Bool) : ∀ byte ∈ bytesOf bits, byte < 256 := by
  have hbyte (short : List Bool) (h : short.length ≤ 8) : ofBits short < 256 :=
    (ofBits_lt short).trans_le (Nat.pow_le_pow_right (by decide) h)
  fun_induction bytesOf bits with
  | case1 a b c d e f g h rest ih => exact List.forall_mem_cons.mpr ⟨hbyte _ le_rfl, ih⟩
  | case2 => exact List.forall_mem_nil _
  | case3 short hshort =>
    rw [List.forall_mem_singleton]
    exact hbyte short (length_lt_of_short hshort).le

/-- The lowest bits of a number are its remainder. -/
theorem ofBits_bitsOf (count value : ℕ) : ofBits (bitsOf count value) = value % 2 ^ count := by
  induction count with
  | zero => rw [bitsOf, ofBits, pow_zero, Nat.mod_one]
  | succ count ih =>
    rw [bitsOf, ofBits, length_bitsOf, ih, Nat.toNat_testBit, pow_succ, Nat.mod_mul]
    ring

/-- Higher bits do not change the lowest ones. -/
theorem bitsOf_add {count value : ℕ} (bound factor : ℕ) (hvalue : value < 2 ^ bound)
    (hcount : count ≤ bound) : bitsOf count (2 ^ bound * factor + value) = bitsOf count value := by
  induction count with
  | zero => rfl
  | succ count ih =>
    rw [bitsOf, bitsOf, ih (by omega), Nat.testBit_two_pow_mul_add _ hvalue,
      if_pos (show count < bound by omega)]

/-- A bit string is read back from its number. -/
theorem bitsOf_ofBits (bits : List Bool) : bitsOf bits.length (ofBits bits) = bits := by
  induction bits with
  | nil => rfl
  | cons bit rest ih =>
    have hlt := ofBits_lt rest
    rw [List.length_cons, bitsOf, ofBits, mul_comm, bitsOf_add _ _ hlt le_rfl, ih,
      Nat.testBit_two_pow_mul_add _ hlt, if_neg (lt_irrefl _), Nat.sub_self]
    cases bit <;> rfl

/-- Eight bits a byte. -/
@[simp] theorem length_bitsOfBytes (bytes : List ℕ) :
    (bitsOfBytes bytes).length = 8 * bytes.length := by
  simp only [bitsOfBytes, List.length_flatMap, length_bitsOf, List.map_const', List.sum_replicate,
    smul_eq_mul, mul_comm]

/-- Whole bytes are read back as bits. -/
theorem bitsOfBytes_bytesOf {bits : List Bool} (h : bits.length % 8 = 0) :
    bitsOfBytes (bytesOf bits) = bits := by
  fun_induction bytesOf bits with
  | case1 a b c d e f g h' rest ih =>
    simp only [List.length_cons] at h
    rw [bitsOfBytes, List.flatMap_cons]
    change bitsOf [a, b, c, d, e, f, g, h'].length _ ++ bitsOfBytes (bytesOf rest) = _
    rw [bitsOf_ofBits, ih (by omega)]
    rfl
  | case2 => rfl
  | case3 short hshort hlong =>
    exfalso
    have hlength := length_lt_of_short hshort
    have hpos := List.length_pos_of_ne_nil hlong
    omega

/-- Bytes are read back from their bits. -/
theorem bytesOf_bitsOfBytes {bytes : List ℕ} (h : ∀ byte ∈ bytes, byte < 256) :
    bytesOf (bitsOfBytes bytes) = bytes := by
  induction bytes with
  | nil => rfl
  | cons byte rest ih =>
    obtain ⟨hbyte, hrest⟩ := List.forall_mem_cons.mp h
    have hback : ofBits (bitsOf 8 byte) = byte := by
      exact (ofBits_bitsOf 8 byte).trans (Nat.mod_eq_of_lt hbyte)
    change ofBits (bitsOf 8 byte) :: bytesOf (bitsOfBytes rest) = _
    rw [hback, ih hrest]

end Strings

section Sets

/-- The set of some indices. -/
def indexSet : List ℕ → ℕ
  | [] => 0
  | index :: rest => 2 ^ index ||| indexSet rest

/-- No index comes twice and none is in a set. -/
def distinct : ℕ → List ℕ → Bool
  | _, [] => true
  | set, index :: rest => !set.testBit index && distinct (2 ^ index ||| set) rest

variable {indices : List ℕ}

/-- The set has its indices and no others. -/
theorem testBit_indexSet {index : ℕ} :
    (indexSet indices).testBit index = true ↔ index ∈ indices := by
  induction indices with
  | nil => simp [indexSet]
  | cons first rest ih =>
    rw [indexSet, Nat.testBit_or, Bool.or_eq_true, ih, Nat.testBit_two_pow, decide_eq_true_eq,
      List.mem_cons, eq_comm]

/-- What is found distinct has no index twice. -/
theorem nodup_of_distinct {set : ℕ} (h : distinct set indices = true) :
    indices.Nodup ∧ ∀ index ∈ indices, set.testBit index = false := by
  induction indices generalizing set with
  | nil => exact ⟨List.nodup_nil, List.forall_mem_nil _⟩
  | cons first rest ih =>
    rw [distinct, Bool.and_eq_true, Bool.not_eq_true'] at h
    obtain ⟨hnodup, hfresh⟩ := ih h.2
    have hrest : ∀ index ∈ rest, index ≠ first ∧ set.testBit index = false := by
      intro index hindex
      have hbit := hfresh index hindex
      rw [Nat.testBit_or, Nat.testBit_two_pow, Bool.or_eq_false_iff, decide_eq_false_iff_not,
        eq_comm] at hbit
      exact hbit
    refine ⟨List.nodup_cons.mpr ⟨fun hmem => (hrest first hmem).1 rfl, hnodup⟩, ?_⟩
    exact List.forall_mem_cons.mpr ⟨h.1, fun index hindex => (hrest index hindex).2⟩

end Sets

section Painting

variable {α : Type} [DecidableEq α]

/-- A bitmap after some strokes. -/
def paint (strokes : List (α × Bool)) (bitmap : α → Bool) : α → Bool :=
  strokes.foldl (fun bitmap stroke => Function.update bitmap stroke.1 stroke.2) bitmap

variable {strokes : List (α × Bool)}

/-- An index without a stroke is left alone. -/
theorem paint_of_notMem {bitmap : α → Bool} {index : α} (h : index ∉ strokes.map Prod.fst) :
    paint strokes bitmap index = bitmap index := by
  induction strokes generalizing bitmap with
  | nil => rfl
  | cons stroke rest ih =>
    rw [List.map_cons, List.mem_cons, not_or] at h
    change paint rest (Function.update bitmap stroke.1 stroke.2) index = _
    rw [ih h.2, Function.update_of_ne h.1]

/-- Without an index twice every stroke is seen. -/
theorem map_paint (bitmap : α → Bool) (h : (strokes.map Prod.fst).Nodup) :
    (strokes.map Prod.fst).map (paint strokes bitmap) = strokes.map Prod.snd := by
  induction strokes generalizing bitmap with
  | nil => rfl
  | cons stroke rest ih =>
    rw [List.map_cons, List.nodup_cons] at h
    have hfirst : paint (stroke :: rest) bitmap stroke.1 = stroke.2 := by
      change paint rest (Function.update bitmap stroke.1 stroke.2) stroke.1 = _
      rw [paint_of_notMem h.1, Function.update_self]
    rw [List.map_cons, List.map_cons, hfirst, List.map_cons]
    exact congrArg _ (ih _ h.2)

end Painting

end Wareboxes.Bitmaps
