import Wareboxes.Code128

/-!
# UPC-A barcodes

Eleven digits and a check digit, drawn as 95 bits between guards. Space and hyphens in the text
do not count, and the check digit may be left out.
-/

namespace Wareboxes.UpcA

open RustText TrimmedTexts Code128 List

section Encoder

/-- `UPC_LEFT_PATTERNS`. -/
def upcLeftPatterns : List String := ["0001101", "0011001", "0010011", "0111101", "0100011",
  "0110001", "0101111", "0111011", "0110111", "0001011"]

/-- `UPC_RIGHT_PATTERNS`. -/
def upcRightPatterns : List String := ["1110010", "1100110", "1101100", "1000010", "1011100",
  "1001110", "1010000", "1000100", "1001000", "1110100"]

/-- The byte of a digit without that of zero. -/
def digitOf (character : Char) : ℕ := character.toNat - 48

/-- The sum of `upc_a_check_digit`: every other digit counts three times. -/
def upcASum : Bool → List Char → ℕ
  | _, [] => 0
  | triple, digit :: rest =>
    (if triple then digitOf digit * 3 else digitOf digit) + upcASum (!triple) rest

/-- `upc_a_check_digit`. -/
def upcACheckDigit (digits : List Char) : ℕ := (10 - upcASum true digits % 10) % 10

/-- `upc_a_digits`. -/
def upcADigits (value : String) : Except Fault String :=
  let digits := (trim value).toList.filter fun character =>
    !isWhitespace character && character != '-'
  if digits = [] then .error (.refused .empty)
  else
    match digits.find? fun character => (digitValue character).isNone with
    | some character => .error (.refused (.unsupportedCharacter character))
    | none =>
      if digits.length = 11 then
        .ok (String.ofList (digits ++ [Char.ofNat (48 + upcACheckDigit digits)]))
      else if digits.length = 12 then
        if digits[11]?.map digitOf = some (upcACheckDigit (digits.take 11)) then
          .ok (String.ofList digits)
        else .error (.refused (.invalidChecksum "UPC-A"))
      else .error (.refused (.invalidLength "UPC-A"
        "11 digits without a check digit or 12 digits with a valid check digit"))

/-- `push_barcode_bits`. -/
def barcodeBits (pattern : String) : List Bool := pattern.toList.map fun bit => bit == '1'

/-- The loop of `modules_from_bits`. -/
def modulesFrom : Bool → ℕ → List Bool → List Module
  | black, width, [] => if 0 < width then [⟨black, width⟩] else []
  | black, width, bit :: rest =>
    if bit = black then modulesFrom black (width + 1) rest
    else ⟨black, width⟩ :: modulesFrom bit 1 rest

/-- `modules_from_bits`. -/
def modulesFromBits (bits : List Bool) : List Module := modulesFrom true 0 bits

/-- The bits of twelve digits. -/
def upcABits (digits : List Char) : List Bool :=
  barcodeBits "101" ++
    (digits.take 6).flatMap (fun digit => barcodeBits (upcLeftPatterns.getD (digitOf digit) "")) ++
    barcodeBits "01010" ++
    (digits.drop 6).flatMap (fun digit => barcodeBits (upcRightPatterns.getD (digitOf digit) "")) ++
    barcodeBits "101"

/-- `encode_upc_a`. -/
def encodeUpcA (value : String) : Except Fault EncodedBarcode := do
  let digits ← upcADigits value
  return ⟨modulesFromBits (upcABits digits.toList)⟩

end Encoder

section Digits

/-- Twelve digits of which the last one checks the others. -/
structure IsUpcA (digits : List Char) : Prop where
  /-- It has twelve characters. -/
  length : digits.length = 12
  /-- They are digits. -/
  numeric : ∀ digit ∈ digits, (digitValue digit).isSome = true
  /-- The last one checks the others. -/
  check : digits[11]?.map digitOf = some (upcACheckDigit (digits.take 11))

variable {character : Char} {digits : List Char} {text : String}

theorem digitValue_isSome :
    (digitValue character).isSome = true ↔ 48 ≤ character.toNat ∧ character.toNat ≤ 57 := by
  unfold digitValue
  split_ifs with h <;> simp [h]

theorem digit_kept (h : (digitValue character).isSome = true) :
    isWhitespace character = false ∧ character ≠ '-' := by
  have hbounds := digitValue_isSome.mp h
  constructor
  · simp only [isWhitespace, Bool.or_eq_false_iff, Bool.and_eq_false_iff, decide_eq_false_iff_not,
      beq_eq_false_iff_ne]
    omega
  · rintro rfl
    exact absurd hbounds.1 (by decide)

theorem check_character (digits : List Char) :
    (digitValue (Char.ofNat (48 + upcACheckDigit digits))).isSome = true ∧
      digitOf (Char.ofNat (48 + upcACheckDigit digits)) = upcACheckDigit digits := by
  have hall : ∀ check < 10, (digitValue (Char.ofNat (48 + check))).isSome = true ∧
      digitOf (Char.ofNat (48 + check)) = check := by decide
  exact hall _ (Nat.mod_lt _ (by decide))

theorem isUpcA_of_upcADigits {value : String} (h : upcADigits value = .ok text) :
    IsUpcA text.toList := by
  unfold upcADigits at h
  generalize ((trim value).toList.filter fun character =>
    !isWhitespace character && character != '-') = digits at h
  rw [ite_eq_iff] at h
  obtain ⟨-, h⟩ | ⟨-, h⟩ := h
  · cases h
  split at h
  · cases h
  · next hnone =>
    have hdigits := find?_eq_none.mp hnone
    simp only [Bool.not_eq_true, Option.isNone_eq_false_iff] at hdigits
    split_ifs at h with heleven htwelve hcheck
    · obtain ⟨hdigit, hvalue⟩ := check_character digits
      rw [← Except.ok.inj h, String.toList_ofList]
      refine ⟨by rw [length_append, heleven]; rfl, ?_, ?_⟩
      · rw [forall_mem_append, forall_mem_singleton]
        exact ⟨hdigits, hdigit⟩
      · rw [← heleven, getElem?_concat_length, take_left, Option.map_some, hvalue]
    · rw [← Except.ok.inj h, String.toList_ofList]
      exact ⟨htwelve, hdigits, hcheck⟩

/-- Eleven digits get their check digit, and of twelve the last one is compared with it. -/
theorem upcADigits_of_numeric
    (h : ∀ digit ∈ text.toList, (digitValue digit).isSome = true) :
    (text.toList.length = 11 → upcADigits text =
      .ok (String.ofList (text.toList ++ [Char.ofNat (48 + upcACheckDigit text.toList)]))) ∧
    (text.toList.length = 12 → upcADigits text =
      if text.toList[11]?.map digitOf = some (upcACheckDigit (text.toList.take 11)) then .ok text
      else .error (.refused (.invalidChecksum "UPC-A"))) := by
  have hkept : ∀ digit ∈ text.toList, isWhitespace digit = false ∧ digit ≠ '-' :=
    fun digit hdigit => digit_kept (h digit hdigit)
  have htrim : trim text = text := by
    unfold trim
    rw [trimChars_eq_self, String.ofList_toList]
    · exact fun first hfirst => (hkept first (mem_of_mem_head? hfirst)).1
    · exact fun last hlast => (hkept last (mem_of_mem_getLast? hlast)).1
  have hfilter : (text.toList.filter fun character =>
      !isWhitespace character && character != '-') = text.toList :=
    filter_eq_self.mpr fun digit hdigit => by simp [hkept digit hdigit]
  have hfind : text.toList.find? (fun character => (digitValue character).isNone) = none :=
    find?_eq_none.mpr fun digit hdigit => by
      rw [← Option.not_isSome, h digit hdigit]
      decide
  unfold upcADigits
  dsimp only
  rw [htrim, hfilter, hfind, String.ofList_toList]
  constructor
  · intro hlength
    rw [if_neg (ne_nil_of_length_pos (by omega))]
    exact if_pos hlength
  · intro hlength
    rw [if_neg (ne_nil_of_length_pos (by omega))]
    rw [if_neg (by omega), if_pos hlength]

theorem upcADigits_of_isUpcA (h : IsUpcA text.toList) :
    upcADigits text = .ok text := by
  rw [(upcADigits_of_numeric h.numeric).2 h.length, if_pos h.check]

end Digits

section Reading

variable {character before digit : Char} {digits : List Char} {index : ℕ}

/-- The bars and spaces of some modules, bit by bit. -/
def drawnBits (modules : List Module) : List Bool :=
  modules.flatMap fun module => replicate module.width module.black

/-- Read digits of seven bits each by their patterns. -/
def readDigits (patterns : List String) : ℕ → List Bool → Option (List Char)
  | 0, _ => some []
  | count + 1, bits => do
    let digit ← patterns.findIdx? fun pattern => barcodeBits pattern == bits.take 7
    let rest ← readDigits patterns count (bits.drop 7)
    return Char.ofNat (48 + digit) :: rest

/-- Find the three guards, and read the six digits on each side of the middle one. -/
def readUpcA (barcode : EncodedBarcode) : Option String :=
  let bits := drawnBits barcode.modules
  if bits.take 3 = barcodeBits "101" ∧ (bits.drop 45).take 5 = barcodeBits "01010" ∧
      bits.drop 92 = barcodeBits "101" then do
    let left ← readDigits upcLeftPatterns 6 (bits.drop 3)
    let right ← readDigits upcRightPatterns 6 (bits.drop 50)
    return String.ofList (left ++ right)
  else none

/-- A digit is the character of its value. -/
theorem ofNat_digitOf (h : (digitValue character).isSome = true) :
    digitOf character < 10 ∧ Char.ofNat (48 + digitOf character) = character := by
  have hbounds := digitValue_isSome.mp h
  unfold digitOf
  rw [Nat.add_sub_cancel' hbounds.1, Char.ofNat_toNat]
  exact ⟨by omega, rfl⟩

/-- Modules that are drawn give the bits they were made from. -/
theorem drawnBits_modulesFrom (black : Bool) (width : ℕ) (bits : List Bool) :
    drawnBits (modulesFrom black width bits) = replicate width black ++ bits := by
  induction bits generalizing black width with
  | nil =>
    rw [modulesFrom]
    split_ifs with hwidth
    · simp [drawnBits]
    · simp [drawnBits, Nat.eq_zero_of_not_pos hwidth]
  | cons bit rest ih =>
    rw [modulesFrom]
    split_ifs with hsame
    · rw [ih, hsame, replicate_succ', append_assoc]
      rfl
    · change replicate width black ++ drawnBits (modulesFrom bit 1 rest) = _
      rw [ih]
      rfl

theorem sum_width (modules : List Module) :
    (modules.map Module.width).sum = (drawnBits modules).length := by
  simp [drawnBits, length_flatMap]

/-- The bits of some digits. -/
def digitBits (patterns : List String) (digits : List Char) : List Bool :=
  digits.flatMap fun digit => barcodeBits (patterns.getD (digitOf digit) "")

/-- Seven bits tell the ten digits apart. -/
def Tells (patterns : List String) : Prop :=
  ∀ digit < 10, (barcodeBits (patterns.getD digit "")).length = 7 ∧
    patterns.findIdx? (fun pattern => barcodeBits pattern == barcodeBits (patterns.getD digit "")) =
      some digit

/-- Digits that are drawn are read. -/
theorem readDigits_digitBits {patterns : List String} (htells : Tells patterns)
    (hdigits : ∀ digit ∈ digits, (digitValue digit).isSome = true) :
    (digitBits patterns digits).length = 7 * digits.length ∧ ∀ rest,
      readDigits patterns digits.length (digitBits patterns digits ++ rest) = some digits := by
  induction digits with
  | nil => exact ⟨rfl, fun _ => rfl⟩
  | cons digit others ih =>
    obtain ⟨hdigit, hothers⟩ := forall_mem_cons.mp hdigits
    obtain ⟨hlt, hcharacter⟩ := ofNat_digitOf hdigit
    obtain ⟨hlength, hfound⟩ := htells _ hlt
    obtain ⟨hbits, hread⟩ := ih hothers
    unfold digitBits at *
    refine ⟨?_, fun rest => ?_⟩
    · rw [flatMap_cons, length_append, hlength, hbits, length_cons]
      omega
    · rw [flatMap_cons, append_assoc, length_cons, readDigits,
        take_left' hlength, drop_left' hlength, hfound, hread]
      exact congrArg (fun first => some (first :: others)) hcharacter

/-- Twelve digits are drawn with 95 bits between guards, and read from their places. -/
theorem read_upcABits (h : IsUpcA digits) :
    (upcABits digits).length = 95 ∧
      ((upcABits digits).take 3 = barcodeBits "101" ∧
        ((upcABits digits).drop 45).take 5 = barcodeBits "01010" ∧
        (upcABits digits).drop 92 = barcodeBits "101") ∧
      readDigits upcLeftPatterns 6 ((upcABits digits).drop 3) = some (digits.take 6) ∧
      readDigits upcRightPatterns 6 ((upcABits digits).drop 50) = some (digits.drop 6) := by
  have hlength := h.length
  have htells : Tells upcLeftPatterns ∧ Tells upcRightPatterns := by
    unfold Tells
    decide +kernel
  obtain ⟨hleft, hreadLeft⟩ := readDigits_digitBits htells.1
    fun digit (hdigit : digit ∈ digits.take 6) => h.numeric digit (mem_of_mem_take hdigit)
  obtain ⟨hright, hreadRight⟩ := readDigits_digitBits htells.2
    fun digit (hdigit : digit ∈ digits.drop 6) => h.numeric digit (mem_of_mem_drop hdigit)
  rw [length_take, hlength] at hleft hreadLeft
  rw [length_drop, hlength] at hright hreadRight
  have hguards : (barcodeBits "101").length = 3 ∧ (barcodeBits "01010").length = 5 := by decide
  have hbits : upcABits digits = barcodeBits "101" ++
      (digitBits upcLeftPatterns (digits.take 6) ++ (barcodeBits "01010" ++
        (digitBits upcRightPatterns (digits.drop 6) ++ barcodeBits "101"))) := by
    unfold upcABits digitBits
    simp only [append_assoc]
  rw [hbits]
  refine ⟨?_, ⟨take_left' hguards.1, ?_, ?_⟩, ?_, ?_⟩
  · simp only [length_append, hguards, hleft, hright]
    rfl
  · rw [← append_assoc, drop_left', take_left' hguards.2]
    simp only [length_append, hguards, hleft]
    rfl
  · rw [← append_assoc, ← append_assoc, ← append_assoc, drop_left']
    simp only [length_append, hguards, hleft, hright]
    rfl
  · rw [drop_left' hguards.1]
    exact hreadLeft _
  · rw [← append_assoc, ← append_assoc, drop_left']
    · exact hreadRight _
    · simp only [length_append, hguards, hleft]
      rfl

/-- A digit that is changed counts once or three times. -/
theorem upcASum_set (triple : Bool) (hbefore : digits[index]? = some before) (digit : Char) :
    ∃ weight, (weight = 1 ∨ weight = 3) ∧
      upcASum triple (digits.set index digit) + weight * digitOf before =
        upcASum triple digits + weight * digitOf digit := by
  induction digits generalizing index triple with
  | nil => cases hbefore
  | cons first rest ih =>
    cases index with
    | zero =>
      cases hbefore
      refine ⟨if triple then 3 else 1, ?_, ?_⟩
      · cases triple <;> simp
      · cases triple <;> simp [upcASum] <;> omega
    | succ index =>
      obtain ⟨weight, hweight, hsum⟩ := ih (!triple) hbefore
      refine ⟨weight, hweight, ?_⟩
      rw [set_cons_succ, upcASum, upcASum, Nat.add_assoc, Nat.add_assoc, hsum]

/-- A changed digit does not go with the check digit. -/
theorem check_changed (h : IsUpcA digits) (hbefore : digits[index]? = some before)
    (hdigit : (digitValue digit).isSome = true) (hne : digit ≠ before) :
    (digits.set index digit)[11]?.map digitOf ≠
      some (upcACheckDigit ((digits.set index digit).take 11)) := by
  have hcheck := h.check
  obtain ⟨hlt, hcharacter⟩ := ofNat_digitOf hdigit
  obtain ⟨hltBefore, hcharacterBefore⟩ :=
    ofNat_digitOf (h.numeric before (mem_of_getElem? hbefore))
  have hvalues : digitOf digit ≠ digitOf before := by
    intro hsame
    rw [hsame, hcharacterBefore] at hcharacter
    exact hne hcharacter.symm
  obtain ⟨hindex, -⟩ := List.getElem?_eq_some_iff.mp hbefore
  by_cases hlast : index = 11
  · subst hlast
    rw [hbefore] at hcheck
    rw [getElem?_set_self hindex, take_set_of_le (le_refl 11), ← hcheck]
    exact fun hsame => hvalues (Option.some.inj hsame)
  · rw [getElem?_set_ne hlast, hcheck, take_set]
    have hfront : (digits.take 11)[index]? = some before := by
      rw [getElem?_take_of_lt (by have := h.length; omega), hbefore]
    obtain ⟨weight, hweight, hchange⟩ := upcASum_set true hfront digit
    intro hsame
    have hdigits : upcACheckDigit (digits.take 11) = _ := Option.some.inj hsame
    unfold upcACheckDigit at hdigits
    rcases hweight with rfl | rfl <;> omega

/-- Eleven digits have one completion that is taken, a changed digit is noticed, and what is
drawn has 95 modules and is read again. A code of twelve digits is taken when it is its own
completion. -/
theorem upcA_is_sound :
    (∀ text : String, text.toList.length = 11 →
      (∀ digit ∈ text.toList, (digitValue digit).isSome = true) →
      ∃ code, upcADigits text = .ok code ∧
        ∀ other : String, upcADigits other = .ok other ∧ text.toList <+: other.toList ↔
          other = code) ∧
    (∀ code : String, upcADigits code = .ok code →
      ∀ (index : ℕ) (before digit : Char), code.toList[index]? = some before →
        (digitValue digit).isSome = true → digit ≠ before →
        upcADigits (String.ofList (code.toList.set index digit)) =
          .error (.refused (.invalidChecksum "UPC-A"))) ∧
    ∀ value text : String, upcADigits value = .ok text →
      ∃ barcode, encodeUpcA value = .ok barcode ∧
        (barcode.modules.map Module.width).sum = 95 ∧ readUpcA barcode = some text := by
  refine ⟨fun text hlength hdigits => ?_,
    fun code hcode index before digit hbefore hdigit hne => ?_, fun value text h => ?_⟩
  · obtain ⟨hcheck, hvalue⟩ := check_character text.toList
    have hcode := (upcADigits_of_numeric hdigits).1 hlength
    refine ⟨_, hcode, fun other => ⟨?_, ?_⟩⟩
    · rintro ⟨hother, last, hlast⟩
      have hupcA := isUpcA_of_upcADigits hother
      have htwelve := hupcA.length
      have hlastDigit := hupcA.check
      rw [← hlast, length_append, hlength] at htwelve
      obtain ⟨last, rfl⟩ := length_eq_one_iff.mp (by omega : last.length = 1)
      rw [← hlast, ← hlength, getElem?_concat_length, take_left, Option.map_some,
        Option.some_inj] at hlastDigit
      rw [← hlastDigit, (ofNat_digitOf (hupcA.numeric last (by simp [← hlast]))).2, hlast,
        String.ofList_toList]
    · rintro rfl
      exact ⟨upcADigits_of_isUpcA (isUpcA_of_upcADigits hcode), _, String.toList_ofList.symm⟩
  · have hupcA := isUpcA_of_upcADigits hcode
    have hrefused := (@upcADigits_of_numeric (String.ofList (code.toList.set index digit)) ?_).2 ?_
    · rw [hrefused, String.toList_ofList, if_neg (check_changed hupcA hbefore hdigit hne)]
    · intro other hother
      rw [String.toList_ofList] at hother
      rcases mem_or_eq_of_mem_set hother with hold | rfl
      · exact hupcA.numeric other hold
      · exact hdigit
    · rw [String.toList_ofList, length_set, hupcA.length]
  · obtain ⟨hbits, hguards, hleft, hright⟩ := read_upcABits (isUpcA_of_upcADigits h)
    have hdrawn : drawnBits (modulesFromBits (upcABits text.toList)) = upcABits text.toList :=
      drawnBits_modulesFrom true 0 _
    refine ⟨_, by rw [encodeUpcA, h]; rfl, ?_, ?_⟩
    · rw [sum_width, hdrawn, hbits]
    · unfold readUpcA
      dsimp only
      rw [hdrawn, if_pos hguards, hleft, hright]
      change some (String.ofList (text.toList.take 6 ++ text.toList.drop 6)) = _
      rw [take_append_drop, String.ofList_toList]

/-- Eleven digits get the check digit 2, a changed digit is refused, and the code is read. -/
theorem eleven_digits_are_completed :
    (∃ code, upcADigits "03600029145" = .ok code ∧
      (upcADigits "036000291452" = .ok "036000291452" ∧
        "03600029145".toList <+: "036000291452".toList ↔ "036000291452" = code)) ∧
    upcADigits (String.ofList ("036000291452".toList.set 0 '1')) =
      .error (.refused (.invalidChecksum "UPC-A")) ∧
    ∃ barcode, encodeUpcA "0-36000-29145-2" = .ok barcode ∧
      (barcode.modules.map Module.width).sum = 95 ∧ readUpcA barcode = some "036000291452" := by
  obtain ⟨hcomplete, hchange, hread⟩ := upcA_is_sound
  obtain ⟨code, hcode, hunique⟩ := hcomplete "03600029145" rfl (by simp [digitValue])
  exact ⟨⟨code, hcode, hunique _⟩,
    hchange "036000291452" (by decide +kernel) 0 '0' '1' rfl (by decide) (by decide),
    hread "0-36000-29145-2" "036000291452" (by decide +kernel)⟩

end Reading

end Wareboxes.UpcA
