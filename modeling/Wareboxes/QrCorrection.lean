import Wareboxes.QrCodes

/-!
# Error correction codewords of a QR code

A reader checks the codewords of a code by their syndromes: the codewords are the coefficients of
a polynomial over the field with 256 elements, and its values at the powers of two are zero. The
reader only doubles and adds, by itself. The encoder divides by the polynomial that has these
powers as its roots, so what it appends makes every syndrome zero.
-/

namespace Wareboxes.QrCorrection

open QrCodes List

/-- Twice an element of the field. -/
def double (x : ℕ) : ℕ := 2 * x % 256 ^^^ if x.testBit 7 then 0x1D else 0

/-- The value of a polynomial at a power of two, from the coefficients after a value. -/
def evalFrom (power : ℕ) : ℕ → List ℕ → ℕ
  | value, [] => value
  | value, codeword :: rest => evalFrom power (double^[power] value ^^^ codeword) rest

/-- The syndromes of the codewords are zero. -/
def Corrects (count : ℕ) (codewords : List ℕ) : Prop :=
  ∀ power < count, evalFrom power 0 codewords = 0

instance (count : ℕ) (codewords : List ℕ) : Decidable (Corrects count codewords) :=
  inferInstanceAs (Decidable (∀ power < count, evalFrom power 0 codewords = 0))

variable {power x y value : ℕ} {codewords others : List ℕ}

section Linear

/-- Doubling is additive. -/
theorem double_xor (x y : ℕ) : double (x ^^^ y) = double x ^^^ double y := by
  have htwice : 2 * (x ^^^ y) % 256 = (2 * x % 256) ^^^ (2 * y % 256) := by
    have hshift : 2 * (x ^^^ y) = (2 * x) ^^^ (2 * y) := by
      have h := Nat.shiftLeft_xor_distrib (a := x) (b := y) (i := 1)
      simpa only [Nat.shiftLeft_eq, pow_one, mul_comm] using h
    rw [hshift]
    exact Nat.xor_mod_two_pow (n := 8)
  unfold double
  rw [htwice, Nat.testBit_xor]
  cases x.testBit 7 <;> cases y.testBit 7 <;>
    simp [Nat.xor_comm, Nat.xor_left_comm]

/-- Multiplication by a power of the generator is additive. -/
theorem double_iterate_xor (power x y : ℕ) :
    double^[power] (x ^^^ y) = double^[power] x ^^^ double^[power] y := by
  induction power generalizing x y with
  | zero => rfl
  | succ power ih =>
    rw [Function.iterate_succ_apply, double_xor, ih]
    rfl

/-- It keeps zero. -/
theorem double_iterate_zero (power : ℕ) : double^[power] 0 = 0 :=
  Function.iterate_fixed rfl power

/-- The evaluation goes on where it stopped. -/
theorem evalFrom_append (value : ℕ) (codewords others : List ℕ) :
    evalFrom power value (codewords ++ others) =
      evalFrom power (evalFrom power value codewords) others := by
  induction codewords generalizing value with
  | nil => rfl
  | cons codeword rest ih => exact ih _

/-- The value of a sum of polynomials is the sum of their values. -/
theorem evalFrom_zipWith (power x y : ℕ) (h : codewords.length = others.length) :
    evalFrom power (x ^^^ y) (zipWith (· ^^^ ·) codewords others) =
      evalFrom power x codewords ^^^ evalFrom power y others := by
  induction codewords generalizing others x y with
  | nil =>
    rw [length_eq_zero_iff.mp h.symm]
    rfl
  | cons codeword rest ih =>
    obtain ⟨other, others, rfl⟩ := exists_cons_of_length_pos (h ▸ length_cons.trans_gt (by omega))
    rw [zipWith_cons_cons, evalFrom, double_iterate_xor, evalFrom, evalFrom]
    rw [← ih _ _ (Nat.succ.inj h)]
    congr 1
    simp only [Nat.xor_assoc, Nat.xor_left_comm]

/-- A map that respects sums and doubles respects values. -/
theorem evalFrom_map (times : ℕ → ℕ) (hxor : ∀ x y, times (x ^^^ y) = times x ^^^ times y)
    (hdouble : ∀ x, times (double x) = double (times x)) (power value : ℕ) (codewords : List ℕ) :
    evalFrom power (times value) (codewords.map times) =
      times (evalFrom power value codewords) := by
  induction codewords generalizing value with
  | nil => rfl
  | cons codeword rest ih =>
    have hiterate : times (double^[power] value) = double^[power] (times value) :=
      Function.Semiconj.iterate_right hdouble power value
    rw [map_cons, evalFrom, evalFrom, ← hiterate, ← hxor, ih]

end Linear

section Product

/-- One round of the product doubles its first factor. -/
theorem gfLoop_succ (rounds x y z : ℕ) : gfLoop (rounds + 1) x y z =
    if y = 0 then z else gfLoop rounds (double x) (y / 2) (if y.testBit 0 then z ^^^ x else z) := by
  rw [gfLoop, double, Nat.mul_comm]

/-- The loop is additive in its first factor. -/
theorem gfLoop_xor (rounds x x' y z z' : ℕ) :
    gfLoop rounds (x ^^^ x') y (z ^^^ z') = gfLoop rounds x y z ^^^ gfLoop rounds x' y z' := by
  induction rounds generalizing x x' y z z' with
  | zero => rfl
  | succ rounds ih =>
    simp only [gfLoop_succ]
    split_ifs
    · rfl
    · rw [double_xor, ← ih]
      congr 1
      simp only [Nat.xor_assoc, Nat.xor_left_comm]
    · rw [double_xor, ih]

/-- The loop commutes with doubling. -/
theorem gfLoop_double (rounds x y z : ℕ) :
    gfLoop rounds (double x) y (double z) = double (gfLoop rounds x y z) := by
  induction rounds generalizing x y z with
  | zero => rfl
  | succ rounds ih =>
    simp only [gfLoop_succ]
    split_ifs
    · rfl
    · rw [← double_xor, ih]
    · rw [ih]

/-- Multiplication is additive. -/
theorem gfMultiply_xor (x y factor : ℕ) :
    gfMultiply (x ^^^ y) factor = gfMultiply x factor ^^^ gfMultiply y factor :=
  gfLoop_xor 8 x y factor 0 0

/-- Multiplication commutes with doubling. -/
theorem gfMultiply_double (x factor : ℕ) :
    gfMultiply (double x) factor = double (gfMultiply x factor) :=
  gfLoop_double 8 x factor 0

/-- Zero times anything is zero. -/
theorem gfMultiply_zero (factor : ℕ) : gfMultiply 0 factor = 0 :=
  (gfMultiply_xor 0 0 factor).trans (Nat.xor_self _)

/-- Doubling gives a byte. -/
theorem double_lt (x : ℕ) : double x < 256 := by
  refine Nat.xor_lt_two_pow (n := 8) (Nat.mod_lt _ (by decide)) ?_
  split_ifs <;> decide

/-- The loop stays among the bytes. -/
theorem gfLoop_lt {rounds x y z : ℕ} (hx : x < 256) (hz : z < 256) : gfLoop rounds x y z < 256 := by
  induction rounds generalizing x y z with
  | zero => exact hz
  | succ rounds ih =>
    rw [gfLoop_succ]
    split_ifs
    · exact hz
    · exact ih (double_lt x) (Nat.xor_lt_two_pow (n := 8) hz hx)
    · exact ih (double_lt x) hz

end Product

section Remainder

/-- What the division needs of its divisor: the coefficients after the first are bytes, and the
polynomial has the powers of two as roots. -/
structure Divides (degree : ℕ) (divisor : List ℕ) : Prop where
  /-- It has as many coefficients. -/
  length : divisor.length = degree
  /-- It is not constant. -/
  positive : 0 < degree
  /-- They are bytes. -/
  bytes : ∀ coefficient ∈ divisor, coefficient < 256
  /-- With the leading one it has the roots. -/
  roots : Corrects degree (1 :: divisor)

/-- The divisor of every symbol size has the roots it needs. -/
theorem divides : ∀ info ∈ qrVersions,
    Divides info.eccCodewords (reedSolomonDivisor info.eccCodewords) := by
  have hchecks : ∀ info ∈ qrVersions,
      (reedSolomonDivisor info.eccCodewords).length = info.eccCodewords ∧ 0 < info.eccCodewords ∧
      (∀ coefficient ∈ reedSolomonDivisor info.eccCodewords, coefficient < 256) ∧
      Corrects info.eccCodewords (1 :: reedSolomonDivisor info.eccCodewords) := by
    decide +kernel
  intro info hinfo
  obtain ⟨hlength, hpositive, hbytes, hroots⟩ := hchecks info hinfo
  exact ⟨hlength, hpositive, hbytes, hroots⟩

variable {data : List ℕ} {degree byte : ℕ}

/-- One round of the division: the next codeword and the new remainder are the old remainder, moved
on, plus a multiple of the divisor. -/
theorem round_eq {head : ℕ} {tail divisor : List ℕ} (hhead : head < 256) (hbyte : byte < 256) :
    byte :: zipWith (fun slot coefficient => slot ^^^ gfMultiply coefficient (byte ^^^ head))
        (tail ++ [0]) divisor =
      zipWith (· ^^^ ·) (head :: tail ++ [0])
        ((1 :: divisor).map fun coefficient => gfMultiply coefficient (byte ^^^ head)) := by
  have hone : ∀ factor < 256, gfMultiply 1 factor = factor := by decide +kernel
  have hfirst : head ^^^ gfMultiply 1 (byte ^^^ head) = byte := by
    rw [hone _ (Nat.xor_lt_two_pow (n := 8) hbyte hhead), Nat.xor_comm byte, ← Nat.xor_assoc,
      Nat.xor_self, Nat.zero_xor]
  rw [map_cons, cons_append, zipWith_cons_cons, hfirst, zipWith_map_right]

/-- What is appended has its length, consists of bytes and makes all syndromes zero. -/
theorem reedSolomonRemainder_corrects (hdivides : Divides degree (reedSolomonDivisor degree))
    (hdata : ∀ byte ∈ data, byte < 256) :
    (reedSolomonRemainder data degree).length = degree ∧
      (∀ byte ∈ reedSolomonRemainder data degree, byte < 256) ∧
      Corrects degree (data ++ reedSolomonRemainder data degree) := by
  induction data using List.reverseRecOn with
  | nil =>
    refine ⟨length_replicate, fun byte hbyte => ?_, fun power _ => ?_⟩
    · rw [eq_of_mem_replicate hbyte]
      decide
    · change evalFrom power 0 (replicate degree 0) = 0
      generalize degree = count
      induction count with
      | zero => rfl
      | succ count ih => rwa [replicate_succ, evalFrom, double_iterate_zero]
  | append_singleton data byte ih =>
    rw [forall_mem_append, forall_mem_singleton] at hdata
    obtain ⟨hlength, hbytes, hcorrects⟩ := ih hdata.1
    obtain ⟨head, tail, hremainder⟩ := exists_cons_of_length_pos (hlength ▸ hdivides.positive)
    have hnext : reedSolomonRemainder (data ++ [byte]) degree =
        zipWith (fun slot coefficient => slot ^^^ gfMultiply coefficient (byte ^^^ head))
          (tail ++ [0]) (reedSolomonDivisor degree) := by
      unfold reedSolomonRemainder at hremainder ⊢
      rw [foldl_append, hremainder]
      rfl
    rw [hremainder, length_cons] at hlength
    rw [hremainder] at hbytes hcorrects
    have hhead := hbytes head mem_cons_self
    refine ⟨?_, fun other hother => ?_, fun power hpower => ?_⟩
    · rw [hnext, length_zipWith, length_append, length_singleton, hlength, hdivides.length,
        min_self]
    · rw [hnext, ← map_uncurry_zip_eq_zipWith] at hother
      obtain ⟨⟨slot, coefficient⟩, hpair, rfl⟩ := List.mem_map.mp hother
      obtain ⟨hslot, hcoefficient⟩ := of_mem_zip hpair
      refine Nat.xor_lt_two_pow (n := 8) ?_ (gfLoop_lt (hdivides.bytes _ hcoefficient) (by decide))
      rcases List.mem_append.mp hslot with hslot | hslot
      · exact hbytes slot (mem_cons_of_mem _ hslot)
      · rw [mem_singleton.mp hslot]
        exact Nat.two_pow_pos 8
    · rw [append_assoc, singleton_append, hnext, round_eq hhead hdata.2, evalFrom_append]
      have hlengths : (head :: tail ++ [0]).length = ((1 :: reedSolomonDivisor degree).map
          fun coefficient => gfMultiply coefficient (byte ^^^ head)).length := by
        simp [hdivides.length, hlength]
      have hsum := evalFrom_zipWith power (evalFrom power 0 data) 0 hlengths
      have hmoved : evalFrom power (evalFrom power 0 data) (head :: tail ++ [0]) = 0 := by
        rw [evalFrom_append, ← evalFrom_append 0 data, hcorrects power hpower]
        exact (Nat.xor_zero _).trans (double_iterate_zero power)
      have hmultiple := evalFrom_map (gfMultiply · (byte ^^^ head))
        (fun x y => gfMultiply_xor x y (byte ^^^ head))
        (fun x => gfMultiply_double x (byte ^^^ head)) power 0 (1 :: reedSolomonDivisor degree)
      rw [gfMultiply_zero, hdivides.roots power hpower, gfMultiply_zero] at hmultiple
      rw [Nat.xor_zero, hmoved, hmultiple] at hsum
      exact hsum

end Remainder

end Wareboxes.QrCorrection
