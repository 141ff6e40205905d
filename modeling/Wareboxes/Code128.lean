import Wareboxes.TrimmedTexts

/-!
# Code 128 symbols

A Code 128 barcode is a start symbol, data symbols, a check symbol and a stop symbol, drawn as
bars and spaces. The check symbol is a weighted sum that the encoder adds up with 32 bits, so
what happens at an overflow depends on how the program was built: it panics when overflow checks
are on and wraps when they are off. A reader measures the widths, finds each symbol in the
pattern table and compares the check symbol with the sum over the integers.
-/

namespace Wareboxes.Code128

open RustText TrimmedTexts

/-- `BarcodeError`. -/
inductive BarcodeError where
  /-- There is nothing to encode. -/
  | empty
  /-- There is no such kind of barcode. -/
  | unsupportedKind (kind : String)
  /-- The barcode cannot show the character. -/
  | unsupportedCharacter (character : Char)
  /-- The text has the wrong length. -/
  | invalidLength (kind expected : String)
  /-- The check digit is wrong. -/
  | invalidChecksum (kind : String)
  /-- The application identifier is unknown, or its data do not fit it. -/
  | invalidGs1Ai (ai : String)
  /-- The text is too long for a QR code. -/
  | dataTooLong (maxBytes : ℕ)
  deriving DecidableEq

/-- How a call fails. -/
inductive Fault where
  | panicked
  | refused (error : BarcodeError)
  deriving DecidableEq

/-- What integer operations do at an overflow. -/
inductive Overflow where
  /-- They panic, as in a debug build. -/
  | checked
  /-- They wrap, as in a release build. -/
  | wrapping

/-- A result that has to be a `u32`. -/
def fitU32 (overflow : Overflow) (value : ℕ) : Except Fault ℕ :=
  if value < 2 ^ 32 then .ok value
  else match overflow with
    | .checked => .error .panicked
    | .wrapping => .ok (value % 2 ^ 32)

/-- `Module`: a bar or a space. -/
structure Module where
  black : Bool
  width : ℕ
  deriving DecidableEq

/-- `EncodedBarcode`. -/
structure EncodedBarcode where
  modules : List Module
  deriving DecidableEq

/-- `CODE128_PATTERNS`. -/
def code128Patterns : List String := [
  "212222", "222122", "222221", "121223", "121322", "131222", "122213", "122312", "132212",
  "221213", "221312", "231212", "112232", "122132", "122231", "113222", "123122", "123221",
  "223211", "221132", "221231", "213212", "223112", "312131", "311222", "321122", "321221",
  "312212", "322112", "322211", "212123", "212321", "232121", "111323", "131123", "131321",
  "112313", "132113", "132311", "211313", "231113", "231311", "112133", "112331", "132131",
  "113123", "113321", "133121", "313121", "211331", "231131", "213113", "213311", "213131",
  "311123", "311321", "331121", "312113", "312311", "332111", "314111", "221411", "431111",
  "111224", "111422", "121124", "121421", "141122", "141221", "112214", "112412", "122114",
  "122411", "142112", "142211", "241211", "221114", "413111", "241112", "134111", "111242",
  "121142", "121241", "114212", "124112", "124211", "411212", "421112", "421211", "212141",
  "214121", "412121", "111143", "111341", "131141", "114113", "114311", "411113", "411311",
  "113141", "114131", "311141", "411131", "211412", "211214", "211232", "2331112"]

/-- The symbol that starts code set B. -/
def startB : ℕ := 104

/-- The function symbol 1. -/
def fnc1 : ℕ := 102

/-- The stop symbol. -/
def stop : ℕ := 106

/-- `append_pattern`: bars and spaces in turn. -/
def appendPattern : Bool → List Char → List Module
  | _, [] => []
  | black, width :: rest => ⟨black, width.toNat - 48⟩ :: appendPattern (!black) rest

/-- The bars and spaces of a symbol. -/
def symbolModules (code : ℕ) : Except Fault (List Module) :=
  match code128Patterns[code]? with
  | some pattern => .ok (appendPattern true pattern.toList)
  | none => .error .panicked

/-- `code128_modules`. -/
def code128Modules : List ℕ → Except Fault (List Module)
  | [] => .ok []
  | code :: rest => do
    let modules ← symbolModules code
    let others ← code128Modules rest
    return modules ++ others

/-- What a symbol adds to the sum. The position is cast to a `u32`. -/
def checkTerm (overflow : Overflow) (position code : ℕ) : Except Fault ℕ :=
  if position = 0 then .ok code else fitU32 overflow (code * (position % 2 ^ 32))

/-- The sum of the check symbol from a position on. -/
def checkSum (overflow : Overflow) : ℕ → ℕ → List ℕ → Except Fault ℕ
  | _, sum, [] => .ok sum
  | position, sum, code :: rest => do
    let term ← checkTerm overflow position code
    let sum ← fitU32 overflow (sum + term)
    checkSum overflow (position + 1) sum rest

/-- `append_code128_checksum_and_stop`. -/
def appendCode128ChecksumAndStop (overflow : Overflow) (codes : List ℕ) :
    Except Fault (List ℕ) := do
  let sum ← checkSum overflow 0 0 codes
  return codes ++ [sum % 103, stop]

/-- The barcode of the symbols before the check symbol. -/
def finishCode128 (overflow : Overflow) (codes : List ℕ) : Except Fault EncodedBarcode := do
  let symbols ← appendCode128ChecksumAndStop overflow codes
  let modules ← code128Modules symbols
  return ⟨modules⟩

/-- The symbol of a character in code set B. -/
def codeB (character : Char) : Except Fault ℕ :=
  if 32 ≤ character.toNat ∧ character.toNat ≤ 127 then .ok (character.toNat - 32)
  else .error (.refused (.unsupportedCharacter character))

/-- The symbols of characters in code set B. -/
def codesB : List Char → Except Fault (List ℕ)
  | [] => .ok []
  | character :: rest => do
    let code ← codeB character
    let codes ← codesB rest
    return code :: codes

/-- `encode_code128_b`. -/
def encodeCode128B (overflow : Overflow) (value : String) : Except Fault EncodedBarcode := do
  let value := trim value
  if isEmpty value then .error (.refused .empty)
  else do
    let codes ← codesB value.toList
    finishCode128 overflow (startB :: codes)

variable {codes : List ℕ} {overflow : Overflow}

section Sum

/-- What a symbol adds to the sum over the integers: the start symbol counts once, every other
symbol as often as its position says. -/
def weight (position code : ℕ) : ℕ := if position = 0 then code else code * position

/-- The weighted sum over the integers, from a position on. -/
def weightedFrom : ℕ → List ℕ → ℕ
  | _, [] => 0
  | position, code :: rest => weight position code + weightedFrom (position + 1) rest

/-- The weighted sum over the integers. -/
def weightedSum (codes : List ℕ) : ℕ := weightedFrom 0 codes

/-- What a symbol adds to the encoder's sum, which counts positions with 32 bits. -/
def castWeight (position code : ℕ) : ℕ := weight position 1 % 2 ^ 32 * code

/-- The sum that the encoder adds up when it does not overflow, from a position on. -/
def castFrom : ℕ → List ℕ → ℕ
  | _, [] => 0
  | position, code :: rest => castWeight position code + castFrom (position + 1) rest

/-- The sum that the encoder adds up when it does not overflow. -/
def castSum (codes : List ℕ) : ℕ := castFrom 0 codes

variable {position : ℕ}

theorem fitU32_wrapping (value : ℕ) : fitU32 .wrapping value = .ok (value % 2 ^ 32) := by
  unfold fitU32
  split_ifs with h
  · rw [Nat.mod_eq_of_lt h]
  · rfl

/-- It is enough to look at the last of the sums. -/
theorem fitU32_add (value more : ℕ) :
    (fitU32 overflow value >>= fun sum => fitU32 overflow (sum + more)) =
      fitU32 overflow (value + more) := by
  by_cases hfits : value < 2 ^ 32
  · rw [show fitU32 overflow value = .ok value from if_pos hfits]
    rfl
  · cases overflow with
    | checked =>
      rw [show fitU32 .checked value = .error .panicked from if_neg hfits,
        show fitU32 .checked (value + more) = .error .panicked from if_neg (by omega)]
      rfl
    | wrapping =>
      simp only [fitU32_wrapping]
      change Except.ok ((value % 2 ^ 32 + more) % 2 ^ 32) = _
      rw [Nat.mod_add_mod]

theorem checkTerm_eq {code : ℕ} (h : code < 2 ^ 32) :
    checkTerm overflow position code = fitU32 overflow (castWeight position code) := by
  unfold checkTerm castWeight weight
  split_ifs
  · rw [Nat.mod_eq_of_lt (by decide), Nat.one_mul]
    exact (if_pos h).symm
  · rw [Nat.one_mul, Nat.mul_comm]

/-- The loop is right or goes wrong as the whole sum does. -/
theorem checkSum_eq (overflow : Overflow) (position sum : ℕ)
    (hcodes : ∀ code ∈ codes, code < 106) :
    (fitU32 overflow sum >>= fun sum => checkSum overflow position sum codes) =
      fitU32 overflow (sum + castFrom position codes) := by
  induction codes generalizing position sum with
  | nil =>
    rw [castFrom, Nat.add_zero]
    cases fitU32 overflow sum <;> rfl
  | cons code rest ih =>
    obtain ⟨hcode, hrest⟩ := List.forall_mem_cons.mp hcodes
    have hterm (sum : ℕ) : checkSum overflow position sum (code :: rest) =
        fitU32 overflow (sum + castFrom position (code :: rest)) := by
      rw [checkSum, checkTerm_eq (by omega), castFrom]
      simp only [ih _ _ hrest]
      simp only [Nat.add_assoc, Nat.add_left_comm sum]
      exact fitU32_add _ _
    simp only [hterm]
    exact fitU32_add _ _

/-- The encoder's sum is that over the integers up to a multiple of `2 ^ 32`. -/
theorem castFrom_spec (position : ℕ) (codes : List ℕ) :
    castFrom position codes % 2 ^ 32 = weightedFrom position codes % 2 ^ 32 ∧
      castFrom position codes ≤ weightedFrom position codes := by
  induction codes generalizing position with
  | nil => exact ⟨rfl, le_rfl⟩
  | cons code rest ih =>
    obtain ⟨hmod, hle⟩ := ih (position + 1)
    have hweight : weight position code = weight position 1 * code := by
      unfold weight
      split_ifs
      · rw [Nat.one_mul]
      · rw [Nat.one_mul, Nat.mul_comm]
    rw [castFrom, weightedFrom, castWeight, hweight]
    refine ⟨?_, Nat.add_le_add (Nat.mul_le_mul_right _ (Nat.mod_le _ _)) hle⟩
    rw [Nat.add_mod, hmod, Nat.mod_mul_mod, ← Nat.add_mod]

theorem castFrom_of_short (h : position + codes.length ≤ 2 ^ 32) :
    castFrom position codes = weightedFrom position codes := by
  induction codes generalizing position with
  | nil => rfl
  | cons code rest ih =>
    rw [List.length_cons] at h
    rw [castFrom, weightedFrom, ih (by omega)]
    congr 1
    unfold castWeight weight
    split_ifs
    · rw [Nat.mod_eq_of_lt (by decide), Nat.one_mul]
    · rw [Nat.one_mul, Nat.mod_eq_of_lt (by omega), Nat.mul_comm]

end Sum

section Reader

/-- The widths of a pattern. -/
def patternWidths (pattern : String) : List ℕ := pattern.toList.map fun width => width.toNat - 48

/-- The widths of a symbol. -/
def symbolWidths (code : ℕ) : List ℕ := (code128Patterns[code]?.map patternWidths).getD []

/-- The symbols of a list of widths: six widths a symbol, and seven for the stop symbol at the
end. -/
def scanSymbols : List ℕ → Option (List ℕ)
  | a :: b :: c :: d :: e :: f :: rest =>
    if rest.length = 1 then
      if a :: b :: c :: d :: e :: f :: rest = symbolWidths stop then some [] else none
    else do
      let code ← (code128Patterns.map patternWidths).idxOf? [a, b, c, d, e, f]
      let codes ← scanSymbols rest
      return code :: codes
  | _ => none

/-- The symbols before the check symbol, when that is right. -/
def checkedSymbols (symbols : List ℕ) : Option (List ℕ) := do
  let check ← symbols.getLast?
  if weightedSum symbols.dropLast % 103 = check then some symbols.dropLast else none

/-- The character of a symbol in code set B. -/
def characterB (code : ℕ) : Option Char :=
  if code < 96 then some (Char.ofNat (code + 32)) else none

/-- The characters of symbols in code set B. -/
def charactersB : List ℕ → Option (List Char)
  | [] => some []
  | code :: rest => do
    let character ← characterB code
    let characters ← charactersB rest
    return character :: characters

/-- The symbols of a barcode before the check symbol, when that is right. -/
def readSymbols (barcode : EncodedBarcode) : Option (List ℕ) := do
  let symbols ← scanSymbols (barcode.modules.map (·.width))
  checkedSymbols symbols

/-- The text of a barcode in code set B. -/
def readCode128B (barcode : EncodedBarcode) : Option String := do
  let symbols ← readSymbols barcode
  match symbols with
  | [] => none
  | start :: codes => if start = startB then (charactersB codes).map String.ofList else none

/-- Bars and spaces come in turn. -/
def Alternates : Bool → List Module → Prop
  | _, [] => True
  | black, module :: rest => module.black = black ∧ Alternates (!black) rest

theorem symbolWidths_spec : ∀ code < 106, (symbolWidths code).length = 6 ∧
      (code128Patterns.map patternWidths).idxOf? (symbolWidths code) = some code := by
  decide +kernel

theorem pattern_of_lt : ∀ code < 107, (code128Patterns[code]?).isSome = true := by
  decide +kernel

theorem appendPattern_widths (black : Bool) (pattern : List Char) :
    (appendPattern black pattern).map (·.width) =
      pattern.map fun width => width.toNat - 48 := by
  induction pattern generalizing black with
  | nil => rfl
  | cons width rest ih => rw [appendPattern, List.map_cons, List.map_cons, ih]

theorem appendPattern_alternates (black : Bool) (pattern : List Char) :
    Alternates black (appendPattern black pattern) := by
  induction pattern generalizing black with
  | nil => trivial
  | cons width rest ih => exact ⟨rfl, ih (!black)⟩

theorem alternates_append {modules others : List Module} (hlength : modules.length = 6)
    (h : Alternates true modules) (h' : Alternates true others) :
    Alternates true (modules ++ others) := by
  match modules, hlength with
  | [a, b, c, d, e, f], _ =>
    obtain ⟨ha, hb, hc, hd, he, hf, -⟩ := h
    exact ⟨ha, hb, hc, hd, he, hf, h'⟩

variable {code : ℕ}

theorem symbolModules_ok (h : code < 107) :
    ∃ modules, symbolModules code = .ok modules ∧
      modules.map (·.width) = symbolWidths code ∧ Alternates true modules := by
  obtain ⟨pattern, hpattern⟩ := Option.isSome_iff_exists.mp (pattern_of_lt code h)
  refine ⟨appendPattern true pattern.toList, ?_, ?_, appendPattern_alternates _ _⟩
  · rw [symbolModules, hpattern]
  · rw [appendPattern_widths, symbolWidths, hpattern]
    rfl

theorem scanSymbols_append (hcode : code < 106) {rest : List ℕ} (hrest : rest.length ≠ 1) :
    scanSymbols (symbolWidths code ++ rest) = (scanSymbols rest).map (code :: ·) := by
  obtain ⟨hlength, hfound⟩ := symbolWidths_spec code hcode
  match hwidths : symbolWidths code, hlength with
  | [a, b, c, d, e, f], _ =>
    rw [hwidths] at hfound
    change scanSymbols (a :: b :: c :: d :: e :: f :: rest) = _
    rw [scanSymbols, if_neg hrest, hfound]
    cases scanSymbols rest <;> rfl

/-- Drawn symbols are read back. -/
theorem code128Modules_stop (hcodes : ∀ code ∈ codes, code < 106) :
    ∃ modules, code128Modules (codes ++ [stop]) = .ok modules ∧ 7 ≤ modules.length ∧
      scanSymbols (modules.map (·.width)) = some codes ∧ Alternates true modules := by
  induction codes with
  | nil =>
    obtain ⟨modules, hmodules, hwidths, halternates⟩ :=
      symbolModules_ok (show stop < 107 by decide)
    have hlength : modules.length = (symbolWidths stop).length := by
      rw [← hwidths, List.length_map]
    refine ⟨modules, ?_, ?_, ?_, halternates⟩
    · change code128Modules [stop] = _
      rw [code128Modules, hmodules]
      exact congrArg Except.ok (List.append_nil modules)
    · rw [hlength]
      decide +kernel
    · rw [hwidths]
      decide +kernel
  | cons code rest ih =>
    rw [List.forall_mem_cons] at hcodes
    obtain ⟨others, hothers, _, hscan, hrest⟩ := ih hcodes.2
    obtain ⟨modules, hmodules, hwidths, halternates⟩ :=
      symbolModules_ok (show code < 107 by omega)
    have hlength : modules.length = 6 := by
      rw [← (symbolWidths_spec code hcodes.1).1, ← hwidths, List.length_map]
    refine ⟨modules ++ others, ?_, ?_, ?_, alternates_append hlength halternates hrest⟩
    · rw [List.cons_append, code128Modules, hmodules, hothers]
      rfl
    · rw [List.length_append]
      omega
    · rw [List.map_append, hwidths, scanSymbols_append hcodes.1, hscan]
      · rfl
      · rw [List.length_map]
        omega

/-- What a reader finds in a barcode: the symbols with the right check symbol, drawn with bars
and spaces in turn. -/
structure Carries (barcode : EncodedBarcode) (codes : List ℕ) : Prop where
  /-- A scanner reads the symbols back. -/
  scanned : scanSymbols (barcode.modules.map (·.width)) =
    some (codes ++ [weightedSum codes % 103])
  /-- The widths are those of bars and spaces. -/
  alternates : Alternates true barcode.modules

/-- The check symbol is the last one. -/
theorem checkedSymbols_concat (codes : List ℕ) (check : ℕ) :
    checkedSymbols (codes ++ [check]) =
      if weightedSum codes % 103 = check then some codes else none := by
  unfold checkedSymbols
  rw [List.getLast?_concat]
  change (if weightedSum (codes ++ _).dropLast % 103 = check then
    some (codes ++ _).dropLast else none) = _
  rw [List.dropLast_concat]

variable {barcode : EncodedBarcode}

theorem Carries.readSymbols (h : Carries barcode codes) : readSymbols barcode = some codes := by
  unfold Code128.readSymbols
  rw [h.scanned]
  exact (checkedSymbols_concat ..).trans (if_pos rfl)

section

variable (hcodes : ∀ code ∈ codes, code < 106)
include hcodes

theorem checkSum_zero : checkSum overflow 0 0 codes = fitU32 overflow (castSum codes) := by
  have hsum := checkSum_eq overflow 0 0 hcodes
  rw [Nat.zero_add] at hsum
  exact hsum

/-- The barcode of some symbols shows them and the check symbol of the computed sum. -/
theorem finishCode128_of_sum {sum : ℕ} (hsum : fitU32 overflow (castSum codes) = .ok sum) :
    ∃ barcode, finishCode128 overflow codes = .ok barcode ∧
      scanSymbols (barcode.modules.map (·.width)) = some (codes ++ [sum % 103]) ∧
      Alternates true barcode.modules := by
  have hcheck : sum % 103 < 106 := (Nat.mod_lt _ (by decide)).trans (by decide)
  have hall : ∀ code ∈ codes ++ [sum % 103], code < 106 := by
    intro code hcode
    rcases List.mem_append.mp hcode with hcode | hcode
    · exact hcodes code hcode
    · rw [List.mem_singleton.mp hcode]
      exact hcheck
  obtain ⟨modules, hmodules, -, hscan, halternates⟩ := code128Modules_stop hall
  refine ⟨⟨modules⟩, ?_, hscan, halternates⟩
  rw [List.append_assoc] at hmodules
  unfold finishCode128 appendCode128ChecksumAndStop
  rw [checkSum_zero hcodes, hsum]
  change (code128Modules (codes ++ ([sum % 103] ++ [stop])) >>= _) = _
  rw [hmodules]
  rfl

theorem finishCode128_of_error {fault : Fault}
    (hsum : fitU32 overflow (castSum codes) = .error fault) :
    finishCode128 overflow codes = .error fault := by
  rw [finishCode128, appendCode128ChecksumAndStop, checkSum_zero hcodes, hsum]
  rfl

/-- Whatever the sum is, the barcode of some symbols shows them before its check symbol. -/
theorem scanSymbols_finishCode128 (h : finishCode128 overflow codes = .ok barcode) :
    ∃ sum, fitU32 overflow (castSum codes) = .ok sum ∧
      scanSymbols (barcode.modules.map (·.width)) = some (codes ++ [sum % 103]) := by
  cases hsum : fitU32 overflow (castSum codes) with
  | error =>
    rw [finishCode128_of_error hcodes hsum] at h
    cases h
  | ok =>
    obtain ⟨shown, hshown, hscan, -⟩ := finishCode128_of_sum hcodes hsum
    rw [hshown] at h
    cases h
    exact ⟨_, rfl, hscan⟩

/-- The barcode of some symbols carries them exactly when the sum fits and has the right
remainder. -/
theorem finishCode128_carries_iff :
    (∃ barcode, finishCode128 overflow codes = .ok barcode ∧ Carries barcode codes) ↔
      ∃ sum, fitU32 overflow (castSum codes) = .ok sum ∧ sum % 103 = weightedSum codes % 103 := by
  constructor
  · rintro ⟨barcode, h, hcarries⟩
    obtain ⟨sum, hsum, hscan⟩ := scanSymbols_finishCode128 hcodes h
    refine ⟨sum, hsum, ?_⟩
    have hsame := Option.some.inj (hscan.symm.trans hcarries.scanned)
    exact List.singleton_inj.mp (List.append_cancel_left hsame)
  · rintro ⟨sum, hsum, hcheck⟩
    obtain ⟨barcode, hbarcode, hscan, halternates⟩ := finishCode128_of_sum hcodes hsum
    exact ⟨barcode, hbarcode, hcheck ▸ hscan, halternates⟩

end

end Reader

variable {characters : List Char}

section Texts

/-- The symbols of characters. -/
def codesOf (characters : List Char) : List ℕ :=
  characters.map fun character => character.toNat - 32

/-- The characters can be shown in code set B. -/
def Encodable (characters : List Char) : Prop :=
  ∀ character ∈ characters, 32 ≤ character.toNat ∧ character.toNat ≤ 127

section

variable (h : Encodable characters)
include h

theorem codesB_ok : codesB characters = .ok (codesOf characters) := by
  induction characters with
  | nil => rfl
  | cons character rest ih =>
    obtain ⟨hcharacter, hrest⟩ := List.forall_mem_cons.mp h
    rw [codesB, ih hrest, codeB, if_pos hcharacter]
    rfl

theorem charactersB_codesOf : charactersB (codesOf characters) = some characters := by
  induction characters with
  | nil => rfl
  | cons character rest ih =>
    obtain ⟨hcharacter, hrest⟩ := List.forall_mem_cons.mp h
    have hback : characterB (character.toNat - 32) = some character := by
      unfold characterB
      rw [if_pos (by omega), Nat.sub_add_cancel hcharacter.1, Char.ofNat_toNat]
    change (characterB (character.toNat - 32) >>= fun character =>
      charactersB (codesOf rest) >>= fun characters => some (character :: characters)) = _
    rw [hback, ih hrest]
    rfl

theorem codesOf_lt : ∀ code ∈ startB :: codesOf characters, code < 106 := by
  intro code hcode
  rcases List.mem_cons.mp hcode with rfl | hcode
  · decide
  · obtain ⟨character, hcharacter, rfl⟩ := List.mem_map.mp hcode
    have hbounds := h character hcharacter
    omega

end

/-- A barcode that carries the symbols of a text is read as the text. -/
theorem Carries.readCode128B
    (h : Carries barcode (startB :: codesOf characters)) (hencodable : Encodable characters) :
    readCode128B barcode = some (String.ofList characters) := by
  unfold Code128.readCode128B
  rw [h.readSymbols]
  change (if startB = startB then (charactersB (codesOf characters)).map String.ofList
    else none) = _
  rw [if_pos rfl, charactersB_codesOf hencodable]
  rfl

/-- A text that is not blank is shown by the symbols of its characters. -/
theorem encodeCode128B_eq {value : String}
    (h : (trim value).toList ≠ []) (hcodes : codesB (trim value).toList = .ok codes) :
    encodeCode128B overflow value = finishCode128 overflow (startB :: codes) := by
  unfold encodeCode128B
  rw [if_neg (by rwa [isEmpty, List.isEmpty_iff]), hcodes]
  rfl

/-- The sum of the symbols of a text over the integers. -/
def textSum (value : String) : ℕ := weightedSum (startB :: codesOf (trim value).toList)

/-- The sum that the encoder adds up for a text. -/
def castTextSum (value : String) : ℕ := castSum (startB :: codesOf (trim value).toList)

/-- The check symbol is that of the sum over the integers: with overflow checks the encoder's sum
fits and has the right remainder, without them what wraps is a multiple of 103. -/
def SumKept (value : String) : Overflow → Prop
  | .checked => castTextSum value < 2 ^ 32 ∧ castTextSum value % 103 = textSum value % 103
  | .wrapping => 103 ∣ textSum value / 2 ^ 32

theorem sumKept_iff {value : String} : SumKept value overflow ↔
    ∃ sum, fitU32 overflow (castTextSum value) = .ok sum ∧ sum % 103 = textSum value % 103 := by
  cases overflow with
  | checked =>
    unfold SumKept fitU32
    split_ifs with hfits
    · exact ⟨fun h => ⟨_, rfl, h.2⟩, fun ⟨_, hsum, hcheck⟩ => ⟨hfits, Except.ok.inj hsum ▸ hcheck⟩⟩
    · exact ⟨fun h => absurd h.1 hfits, fun ⟨_, hsum, _⟩ => nomatch hsum⟩
  | wrapping =>
    rw [fitU32_wrapping]
    have hmod : castTextSum value % 2 ^ 32 = textSum value % 2 ^ 32 := (castFrom_spec _ _).1
    have hremainder : textSum value % 2 ^ 32 % 103 = textSum value % 103 ↔
        103 ∣ textSum value / 2 ^ 32 := by
      omega
    rw [hmod, SumKept, ← hremainder]
    simp

/-- A text of fewer than `2 ^ 32` characters, or with a sum that fits, is added up as over the
integers. -/
theorem castTextSum_eq {value : String}
    (h : (trim value).toList.length < 2 ^ 32 ∨ textSum value < 2 ^ 32) :
    castTextSum value = textSum value := by
  rcases h with hshort | hfits
  · refine castFrom_of_short ?_
    rw [List.length_cons, codesOf, List.length_map]
    omega
  · obtain ⟨hmod, hle⟩ : castTextSum value % 2 ^ 32 = textSum value % 2 ^ 32 ∧
        castTextSum value ≤ textSum value := castFrom_spec _ _
    rwa [Nat.mod_eq_of_lt (by omega), Nat.mod_eq_of_lt hfits] at hmod

/-- Every printable text is either blank and refused, or shown by a barcode that carries the
trimmed text with the check symbol of the sum over the integers exactly when the sum is kept. With
overflow checks and fewer than `2 ^ 32` characters this says that the sum fits. -/
theorem code128_round_trip (overflow : Overflow) (value : String)
    (hprintable : ∀ character ∈ value.toList, 32 ≤ character.toNat ∧ character.toNat ≤ 126) :
    if (trim value).toList = [] then
      encodeCode128B overflow value = .error (.refused .empty)
    else
      ((∃ barcode, encodeCode128B overflow value = .ok barcode ∧
        scanSymbols (barcode.modules.map (·.width)) =
          some (startB :: codesOf (trim value).toList ++ [textSum value % 103]) ∧
        Alternates true barcode.modules ∧
        readCode128B barcode = some (trim value)) ↔ SumKept value overflow) ∧
      ((trim value).toList.length < 2 ^ 32 ∨ textSum value < 2 ^ 32 →
        castTextSum value = textSum value) := by
  have hencodable : Encodable (trim value).toList := by
    intro character hcharacter
    rw [trim, String.toList_ofList] at hcharacter
    have hbounds := hprintable character (mem_of_mem_trimChars hcharacter)
    omega
  split_ifs with hblank
  · unfold encodeCode128B
    rw [if_pos (by rw [isEmpty, hblank, List.isEmpty_nil])]
  · refine ⟨?_, castTextSum_eq⟩
    rw [encodeCode128B_eq hblank (codesB_ok hencodable)]
    refine Iff.trans ?_ ((finishCode128_carries_iff (codesOf_lt hencodable)).trans sumKept_iff.symm)
    refine exists_congr fun barcode => and_congr_right fun _ => ?_
    constructor
    · exact fun h => ⟨h.1, h.2.1⟩
    · intro hcarries
      refine ⟨hcarries.scanned, hcarries.alternates, ?_⟩
      rw [hcarries.readCode128B hencodable, String.ofList_toList]

/-- A padded text is shown without the padding, with the check symbol 102. -/
theorem short_text_is_read :
    ∃ barcode, encodeCode128B .checked " AB " = .ok barcode ∧
      scanSymbols (barcode.modules.map (·.width)) = some [104, 33, 34, 102] ∧
      readCode128B barcode = some "AB" := by
  have hsum : textSum " AB " = 205 := by decide +kernel
  have hprintable : ∀ character ∈ " AB ".toList,
      32 ≤ character.toNat ∧ character.toNat ≤ 126 := by
    simp
  have hread := code128_round_trip .checked " AB " hprintable
  rw [if_neg (by decide +kernel)] at hread
  obtain ⟨h, hcast⟩ := hread
  have hkept : SumKept " AB " .checked := by
    rw [SumKept, hcast (.inr (by rw [hsum]; decide)), hsum]
    decide
  obtain ⟨barcode, hbarcode, hscan, -, hread⟩ := h.mpr hkept
  refine ⟨barcode, hbarcode, ?_, ?_⟩
  · rw [hscan]
    decide +kernel
  · rw [hread]
    decide +kernel

theorem two_mul_weightedFrom_replicate (position count code : ℕ) :
    2 * weightedFrom (position + 1) (List.replicate count code) =
      code * count * (2 * position + count + 1) := by
  induction count generalizing position with
  | zero => rw [List.replicate_zero, weightedFrom, Nat.mul_zero, Nat.mul_zero, Nat.zero_mul]
  | succ count ih =>
    rw [List.replicate_succ, weightedFrom, Nat.mul_add, ih (position + 1), weight,
      if_neg (Nat.succ_ne_zero position)]
    ring

/-- A text of tildes. -/
def tildes (count : ℕ) : String := String.ofList (List.replicate count '~')

theorem trim_tildes (count : ℕ) : (trim (tildes count)).toList = List.replicate count '~' := by
  have hkept : (List.replicate count '~').dropWhile isWhitespace =
      List.replicate count '~' := by
    cases count with
    | zero => rfl
    | succ =>
      rw [List.replicate_succ, List.dropWhile_cons_of_neg]
      decide
  unfold trim tildes trimChars
  rw [String.toList_ofList, String.toList_ofList, hkept, List.reverse_replicate, hkept,
    List.reverse_replicate]

theorem encodable_tildes (count : ℕ) : Encodable (List.replicate count '~') := by
  intro character hcharacter
  rw [List.eq_of_mem_replicate hcharacter]
  decide

theorem codesOf_tildes (count : ℕ) : codesOf (List.replicate count '~') = List.replicate count 94 :=
  List.map_replicate

theorem weightedSum_tildes (count : ℕ) :
    2 * weightedSum (startB :: List.replicate count 94) = 208 + 94 * count * (count + 1) := by
  have htwice := two_mul_weightedFrom_replicate 0 count 94
  have hstart : weightedSum (startB :: List.replicate count 94) =
      104 + weightedFrom 1 (List.replicate count 94) := rfl
  rw [hstart, Nat.mul_add, htwice]
  ring

theorem encodeCode128B_tildes {count : ℕ} (h : 0 < count) :
    encodeCode128B overflow (tildes count) =
      finishCode128 overflow (startB :: List.replicate count 94) := by
  refine encodeCode128B_eq ?_ ?_
  · rw [trim_tildes, ne_eq, List.replicate_eq_nil_iff]
    exact h.ne'
  · rw [trim_tildes, codesB_ok (encodable_tildes count), codesOf_tildes]

/-- Without overflow checks a sum that wraps to another check symbol is not read. -/
theorem finishCode128_wrapping (hcodes : ∀ code ∈ codes, code < 106)
    (hsum : weightedSum codes % 103 ≠ castSum codes % 2 ^ 32 % 103) :
    ∃ barcode, finishCode128 .wrapping codes = .ok barcode ∧ readSymbols barcode = none := by
  obtain ⟨barcode, hbarcode, hscan, -⟩ := finishCode128_of_sum hcodes (fitU32_wrapping _)
  refine ⟨barcode, hbarcode, ?_⟩
  unfold readSymbols
  rw [hscan]
  exact (checkedSymbols_concat ..).trans (if_neg hsum)

/-- Ten thousand tildes have a sum beyond 32 bits: with overflow checks the encoder panics, and
without them it shows a check symbol that no reader accepts. -/
theorem long_text_overflows :
    encodeCode128B .checked (tildes 10000) = .error .panicked ∧
      ∃ barcode, encodeCode128B .wrapping (tildes 10000) = .ok barcode ∧
        readCode128B barcode = none := by
  have htwice := weightedSum_tildes 10000
  have hsum : weightedSum (startB :: List.replicate 10000 94) = 4700470104 := by omega
  have hsymbols : ∀ code ∈ startB :: List.replicate 10000 94, code < 106 := by
    have h := codesOf_lt (encodable_tildes 10000)
    rwa [codesOf_tildes] at h
  have hcast : castSum (startB :: List.replicate 10000 94) = 4700470104 := by
    refine (castFrom_of_short ?_).trans hsum
    rw [List.length_cons, List.length_replicate]
    decide
  rw [encodeCode128B_tildes (by decide), encodeCode128B_tildes (by decide)]
  constructor
  · refine finishCode128_of_error hsymbols ?_
    rw [hcast]
    rfl
  · obtain ⟨barcode, hbarcode, hread⟩ := finishCode128_wrapping hsymbols (by
      rw [hsum, hcast]
      decide)
    refine ⟨barcode, hbarcode, ?_⟩
    unfold readCode128B
    rw [hread]
    rfl

end Texts

end Wareboxes.Code128
