import Wareboxes.Code128
import Wareboxes.Separators
import Wareboxes.Transactions

/-!
# GS1-128 element strings

A GS1-128 barcode shows pairs of an application identifier and its data, one after another. A
person writes the identifiers in parentheses; the barcode has no parentheses, and a function
symbol ends data of variable length. A reader knows the same table of identifiers, takes data of
fixed length by their number of characters and other data up to the next function symbol.
-/

namespace Wareboxes.Gs1Elements

open RustText TrimmedTexts Code128 Separators Transactions List

/-- `Gs1Symbol`. -/
inductive Gs1Symbol where
  | char (character : Char)
  /-- The function symbol that ends data. -/
  | fnc1
  deriving DecidableEq

/-- `Gs1AiSpec`. -/
structure Gs1AiSpec where
  /-- The data have one length only. -/
  fixed : Bool
  /-- The length of the data, or the greatest one. -/
  len : ℕ

/-- `u8::is_ascii_whitespace`. -/
def isAsciiWhitespace (character : Char) : Bool :=
  [' ', '\t', '\n', '\x0c', '\r'].contains character

/-- `u8::is_ascii_digit`. -/
def isAsciiDigit (character : Char) : Bool := (digitValue character).isSome

/-- The identifiers of items. -/
def itemIdentifiers : List String := ["01", "02"]

/-- The identifiers of two digits with data of variable length. -/
def shortVariableIdentifiers : List String := ["10", "21", "22", "30", "37"]

/-- The identifiers of dates. -/
def dateIdentifiers : List String := ["11", "12", "13", "15", "16", "17"]

/-- The identifiers of three digits. -/
def longIdentifiers : List String := ["240", "241", "242", "243", "250", "251", "253", "254",
  "400", "401", "403", "420", "421", "422", "423", "424", "425", "426"]

/-- The first two digits of the identifiers of measures. -/
def measurePrefixes : List String := ["31", "32", "33", "34", "35", "36"]

/-- The greatest length of the data of a three-digit identifier. -/
def longIdentifierLength (ai : String) : ℕ :=
  if ai ∈ ["242", "422", "424", "425", "426"] then 6
  else if ai = "420" then 20
  else if ai = "421" then 12
  else if ai = "423" then 15
  else 30

/-- An identifier of a measure: four digits, the first two from a list. -/
def isMeasure (ai : String) : Bool :=
  decide (ai.toList.length = 4) && ai.toList.all isAsciiDigit &&
    decide (String.ofList (ai.toList.take 2) ∈ measurePrefixes)

/-- `gs1_ai_spec`. -/
def gs1AiSpec (ai : String) : Option Gs1AiSpec :=
  if ai = "00" then some ⟨true, 18⟩
  else if ai ∈ itemIdentifiers then some ⟨true, 14⟩
  else if ai ∈ shortVariableIdentifiers then
    some ⟨false, if ai = "30" ∨ ai = "37" then 8 else 20⟩
  else if ai ∈ dateIdentifiers then some ⟨true, 6⟩
  else if ai = "20" then some ⟨true, 2⟩
  else if ai ∈ longIdentifiers then some ⟨false, longIdentifierLength ai⟩
  else if isMeasure ai then some ⟨true, 6⟩
  else none

/-- `validate_gs1_char`. -/
def validateGs1Char (character : Char) : Except Fault Gs1Symbol :=
  if character = '\x1d' then .ok .fnc1
  else if 32 ≤ character.toNat ∧ character.toNat ≤ 126 then .ok (.char character)
  else .error (.refused (.unsupportedCharacter character))

/-- Validate characters in turn. -/
def validateGs1Chars : List Char → Except Fault (List Gs1Symbol)
  | [] => .ok []
  | character :: rest => do
    let symbol ← validateGs1Char character
    let symbols ← validateGs1Chars rest
    return symbol :: symbols

/-- What the loop reads in one round. -/
structure Element where
  ai : List Char
  /-- What the table says about it. -/
  spec : Gs1AiSpec
  data : List Char
  rest : List Char

/-- The error that names an identifier. -/
def invalidAi (text : List Char) : Fault := .refused (.invalidGs1Ai (String.ofList text))

/-- Read an identifier in parentheses and what stands before the next one. -/
def readElement : List Char → Except Fault Element
  | [] => .error (invalidAi [])
  | first :: text =>
    if first ≠ '(' then .error (invalidAi (first :: text))
    else if ')' ∉ text then .error (invalidAi text)
    else
      match gs1AiSpec (String.ofList (before ')' text)) with
      | none => .error (invalidAi (before ')' text))
      | some spec =>
        .ok {
          ai := before ')' text
          spec := spec
          data := trimChars isWhitespace (before '(' (onward ')' text).tail)
          rest := onward '(' (onward ')' text).tail }

/-- Data of this length fit the identifier. -/
def DataFits (spec : Gs1AiSpec) (length : ℕ) : Prop :=
  if spec.fixed then length = spec.len else 0 < length ∧ length ≤ spec.len

instance (spec : Gs1AiSpec) (length : ℕ) : Decidable (DataFits spec length) :=
  inferInstanceAs (Decidable
    (if spec.fixed then length = spec.len else 0 < length ∧ length ≤ spec.len))

/-- `validate_gs1_data_length`. -/
def validateGs1DataLength (ai data : List Char) (spec : Gs1AiSpec) : Except Fault Unit :=
  if DataFits spec data.length then .ok () else .error (invalidAi ai)

/-- The function symbol after data of variable length that something follows. -/
def separator (spec : Gs1AiSpec) (rest : List Char) : List Gs1Symbol :=
  if !spec.fixed && !rest.isEmpty then [.fnc1] else []

/-- The symbols of one round. -/
def elementSymbols (element : Element) : Except Fault (List Gs1Symbol) := do
  let ai ← validateGs1Chars element.ai
  validateGs1DataLength element.ai element.data element.spec
  let data ← validateGs1Chars element.data
  return ai ++ data ++ separator element.spec element.rest

/-- The loop of `normalize_parenthesized_gs1`. Every round reads a parenthesis, so a text has no
more rounds than characters. -/
def gs1Rounds : ℕ → List Char → Except Fault (List Gs1Symbol)
  | 0, _ => .error .panicked
  | rounds + 1, text =>
    if text.dropWhile isAsciiWhitespace = [] then .ok []
    else do
      let element ← readElement (text.dropWhile isAsciiWhitespace)
      let symbols ← elementSymbols element
      let others ← gs1Rounds rounds element.rest
      return symbols ++ others

/-- `normalize_parenthesized_gs1`. -/
def normalizeParenthesizedGs1 (text : List Char) : Except Fault (List Gs1Symbol) := do
  let symbols ← gs1Rounds (text.length + 1) text
  if symbols = [] then .error (.refused .empty) else .ok symbols

/-- The text has a parenthesis. -/
def parenthesized (text : List Char) : Bool := text.contains '(' || text.contains ')'

/-- `normalize_gs1_payload`. -/
def normalizeGs1Payload (value : String) : Except Fault (List Gs1Symbol) :=
  let value := trim value
  if isEmpty value then .error (.refused .empty)
  else if parenthesized value.toList then normalizeParenthesizedGs1 value.toList
  else validateGs1Chars value.toList

/-- The code of a symbol. -/
def symbolCode : Gs1Symbol → Except Fault ℕ
  | .char character => codeB character
  | .fnc1 => .ok Code128.fnc1

/-- The codes of symbols. -/
def symbolCodes : List Gs1Symbol → Except Fault (List ℕ)
  | [] => .ok []
  | symbol :: rest => do
    let code ← symbolCode symbol
    let codes ← symbolCodes rest
    return code :: codes

/-- `encode_gs1_128`. -/
def encodeGs1128 (overflow : Overflow) (value : String) : Except Fault EncodedBarcode := do
  let payload ← normalizeGs1Payload value
  let codes ← symbolCodes payload
  finishCode128 overflow (startB :: Code128.fnc1 :: codes)

/-- An identifier and its data. -/
abbrev Pair := List Char × List Char

variable {symbols : List Gs1Symbol} {spec : Gs1AiSpec} {text : List Char} {pairs : List Pair}
  {payload : List Gs1Symbol} {ai : List Char} {element : Element} {codes : List ℕ}

section Writing

/-- A text that writes pairs: an identifier in parentheses, then the data up to the next
parenthesis, with space around them. -/
inductive Writes : List Char → List Pair → Prop where
  | nil : Writes [] []
  /-- A pair is written before others. -/
  | cons {ai data rest : List Char} {pairs : List Pair} (hai : ')' ∉ ai) (hdata : '(' ∉ data)
      (hrest : Writes rest pairs) :
      Writes ('(' :: ai ++ ')' :: data ++ rest) ((ai, trimChars isWhitespace data) :: pairs)

/-- What the table and the characters admit. -/
structure Admissible (pair : Pair) (spec : Gs1AiSpec) : Prop where
  /-- The table has the identifier. -/
  known : gs1AiSpec (String.ofList pair.1) = some spec
  /-- The data has an admitted length. -/
  fits : DataFits spec pair.2.length

/-- The symbol of a character. -/
def symbolOf (character : Char) : Gs1Symbol :=
  if character = '\x1d' then .fnc1 else .char character

/-- The characters are shown. -/
def Shown (text : List Char) : Prop :=
  ∀ character ∈ text, character = '\x1d' ∨ 32 ≤ character.toNat ∧ character.toNat ≤ 126

/-- The symbols of pairs. -/
inductive ElementString : List Pair → List Gs1Symbol → Prop where
  /-- There is nothing to show. -/
  | nil : ElementString [] []
  /-- A pair is shown before others, with a function symbol when its length may vary. -/
  | cons {pair : Pair} {spec : Gs1AiSpec} {pairs : List Pair} {symbols : List Gs1Symbol}
      (hpair : Admissible pair spec) (hai : Shown pair.1) (hdata : Shown pair.2)
      (hrest : ElementString pairs symbols) :
      ElementString (pair :: pairs) (pair.1.map symbolOf ++ pair.2.map symbolOf ++
        (if !spec.fixed && !pairs.isEmpty then [.fnc1] else []) ++ symbols)

theorem validateGs1Chars_ok :
    validateGs1Chars text = .ok symbols ↔ Shown text ∧ symbols = text.map symbolOf := by
  induction text generalizing symbols with
  | nil =>
    constructor
    · intro h
      cases h
      exact ⟨forall_mem_nil _, rfl⟩
    · rintro ⟨-, rfl⟩
      rfl
  | cons character rest ih =>
    rw [validateGs1Chars, except_bind_ok, Shown, forall_mem_cons, map_cons]
    have hone : ∀ symbol, validateGs1Char character = .ok symbol ↔
        (character = '\x1d' ∨ 32 ≤ character.toNat ∧ character.toNat ≤ 126) ∧
          symbol = symbolOf character := by
      unfold validateGs1Char symbolOf
      split_ifs with hseparator hvisible
      · simp [hseparator, eq_comm]
      · simp [hvisible, eq_comm]
      · simp [hseparator, hvisible]
    constructor
    · rintro ⟨symbol, hsymbol, h⟩
      obtain ⟨others, hothers, h⟩ := except_bind_ok.mp h
      obtain ⟨hshown, rfl⟩ := (hone symbol).mp hsymbol
      obtain ⟨hrest, rfl⟩ := ih.mp hothers
      cases h
      exact ⟨⟨hshown, hrest⟩, rfl⟩
    · rintro ⟨⟨hshown, hrest⟩, rfl⟩
      refine ⟨_, (hone _).mpr ⟨hshown, rfl⟩, ?_⟩
      exact except_bind_ok.mpr ⟨_, ih.mpr ⟨hrest, rfl⟩, rfl⟩

theorem Writes.isEmpty_eq (h : Writes text pairs) : text.isEmpty = pairs.isEmpty := by
  cases h <;> rfl

theorem Writes.eq_nil_or (h : Writes text pairs) : text = [] ∨ ∃ rest, text = '(' :: rest := by
  cases h with
  | nil => exact .inl rfl
  | cons => exact .inr ⟨_, rfl⟩

/-- Data before what writes pairs end where that starts. -/
theorem data_inj {data data' rest rest' : List Char} {pairs pairs' : List Pair}
    (hdata : '(' ∉ data) (hdata' : '(' ∉ data') (hrest : Writes rest pairs)
    (hrest' : Writes rest' pairs') (h : data ++ rest = data' ++ rest') :
    data = data' ∧ rest = rest' := by
  have hfront : ∀ {front back : List Char}, '(' ∉ front →
      (back = [] ∨ ∃ tail, back = '(' :: tail) → before '(' (front ++ back) = front := by
    rintro front back hfront (rfl | ⟨tail, rfl⟩)
    · rw [append_nil, before_of_notMem hfront]
    · exact before_append_cons hfront
  have hsame : data = data' := by
    rw [← hfront hdata hrest.eq_nil_or, h, hfront hdata' hrest'.eq_nil_or]
  rw [hsame] at h
  exact ⟨hsame, append_cancel_left h⟩

theorem Writes.unique {pairs pairs' : List Pair} (h : Writes text pairs)
    (h' : Writes text pairs') : pairs' = pairs := by
  induction h generalizing pairs' with
  | nil =>
    cases h'
    rfl
  | @cons ai data rest pairs hai hdata hrest ih =>
    generalize htext : '(' :: ai ++ ')' :: data ++ rest = text at h'
    cases h' with
    | nil => cases htext
    | @cons ai' data' rest' pairs' hai' hdata' hrest' =>
      rw [cons_append, cons_append, cons_append, cons_append,
        append_assoc, append_assoc, cons_append, cons_append] at htext
      obtain ⟨rfl, htail⟩ := append_cons_inj hai hai' (tail_eq_of_cons_eq htext)
      obtain ⟨rfl, rfl⟩ := data_inj hdata hdata' hrest hrest' htail
      rw [ih hrest']

/-- One round reads what a pair writes. -/
theorem readElement_ok (h : readElement text = .ok element) :
    ∃ data, text = '(' :: element.ai ++ ')' :: data ++ element.rest ∧ ')' ∉ element.ai ∧
      '(' ∉ data ∧ element.data = trimChars isWhitespace data ∧
      gs1AiSpec (String.ofList element.ai) = some element.spec ∧
      element.rest.dropWhile isAsciiWhitespace = element.rest := by
  cases text with
  | nil => cases h
  | cons first text =>
    rw [readElement] at h
    split_ifs at h with hfirst hclosed
    · rw [not_not] at hfirst
      subst hfirst
      cases hspec : gs1AiSpec (String.ofList (before ')' text)) with
      | none =>
        rw [hspec] at h
        cases h
      | some =>
        rw [hspec] at h
        cases h
        obtain ⟨tail, honward, htext⟩ := eq_append_of_mem hclosed
        refine ⟨before '(' tail, ?_, notMem_before _ _, notMem_before _ _, ?_, hspec, ?_⟩
        · rw [honward, tail_cons, cons_append, cons_append, append_assoc,
            cons_append, before_append_onward]
          exact congrArg _ htext
        · rw [honward, tail_cons]
        · rw [honward, tail_cons]
          rcases onward_eq_nil_or '(' tail with hnil | ⟨rest, hrest⟩
          · rw [hnil]
            rfl
          · rw [hrest, dropWhile_cons_of_neg (by decide)]

/-- The symbols of a round are those of its pair. -/
theorem elementSymbols_ok (h : elementSymbols element = .ok symbols)
    (hknown : gs1AiSpec (String.ofList element.ai) = some element.spec) :
    Admissible (element.ai, element.data) element.spec ∧ Shown element.ai ∧
      Shown element.data ∧
      symbols = element.ai.map symbolOf ++ element.data.map symbolOf ++
        separator element.spec element.rest := by
  unfold elementSymbols at h
  obtain ⟨ai, hai, h⟩ := except_bind_ok.mp h
  obtain ⟨done, hlength, h⟩ := except_bind_ok.mp h
  obtain ⟨data, hdata, h⟩ := except_bind_ok.mp h
  obtain ⟨haiShown, rfl⟩ := validateGs1Chars_ok.mp hai
  obtain ⟨hdataShown, rfl⟩ := validateGs1Chars_ok.mp hdata
  unfold validateGs1DataLength at hlength
  split_ifs at hlength with hfits
  cases h
  exact ⟨⟨hknown, hfits⟩, haiShown, hdataShown, rfl⟩

/-- The loop shows the pairs that the text writes. -/
theorem gs1Rounds_ok {rounds : ℕ} (hstart : text.dropWhile isAsciiWhitespace = text)
    (h : gs1Rounds rounds text = .ok symbols) :
    ∃ pairs, Writes text pairs ∧ ElementString pairs symbols := by
  induction rounds generalizing text symbols with
  | zero => cases h
  | succ rounds ih =>
    rw [gs1Rounds, hstart] at h
    split_ifs at h with hempty
    · cases h
      exact ⟨[], hempty ▸ .nil, .nil⟩
    · obtain ⟨element, helement, h⟩ := except_bind_ok.mp h
      obtain ⟨shown, hshown, h⟩ := except_bind_ok.mp h
      obtain ⟨others, hothers, h⟩ := except_bind_ok.mp h
      cases h
      obtain ⟨data, htext, hai, hdata, htrim, hknown, hrest⟩ := readElement_ok helement
      obtain ⟨hadmissible, haiShown, hdataShown, rfl⟩ := elementSymbols_ok hshown hknown
      obtain ⟨pairs, hwrites, hstring⟩ := ih hrest hothers
      rw [htext]
      refine ⟨(element.ai, element.data) :: pairs, ?_, ?_⟩
      · rw [htrim]
        exact .cons hai hdata hwrites
      · rw [separator, hwrites.isEmpty_eq]
        exact .cons hadmissible haiShown hdataShown hstring

end Writing

section Table

/-- The identifiers of two digits. -/
def shortIdentifiers : List String :=
  "00" :: itemIdentifiers ++ shortVariableIdentifiers ++ dateIdentifiers ++ ["20"]

theorem known_iff {ai : String} : (∃ spec, gs1AiSpec ai = some spec) ↔
      ai ∈ shortIdentifiers ∨ ai ∈ longIdentifiers ∨ isMeasure ai = true := by
  unfold gs1AiSpec shortIdentifiers
  split_ifs with hsscc hitem hvariable hdate hvariant hlong hmeasure <;>
    simp [*]

theorem length_of_short : ∀ ai ∈ shortIdentifiers, ai.toList.length = 2 := by
  decide +kernel

/-- A long identifier has three digits, and its first two are no identifier. -/
theorem long_spec : ∀ ai ∈ longIdentifiers, ai.toList.length = 3 ∧
    gs1AiSpec (String.ofList (ai.toList.take 2)) = none ∧
    String.ofList (ai.toList.take 2) ∉ measurePrefixes := by
  decide +kernel

theorem measurePrefix_unknown : ∀ start ∈ measurePrefixes, gs1AiSpec start = none := by
  decide +kernel

theorem long_of_length {ai : String} (h : gs1AiSpec ai = some spec)
    (hlength : ai.toList.length = 3) : ai ∈ longIdentifiers := by
  rcases known_iff.mp ⟨spec, h⟩ with hshort | hlong | hmeasure
  · have htwo := length_of_short ai hshort
    omega
  · exact hlong
  · unfold isMeasure at hmeasure
    rw [Bool.and_eq_true, Bool.and_eq_true, decide_eq_true_eq] at hmeasure
    omega

/-- No identifier starts with another one. -/
theorem unknown_of_shorter {ai : String} (h : gs1AiSpec ai = some spec) :
    ai.toList.length ∈ [2, 3, 4] ∧ ∀ count ∈ [2, 3, 4], count < ai.toList.length →
      gs1AiSpec (String.ofList (ai.toList.take count)) = none := by
  rcases known_iff.mp ⟨spec, h⟩ with hshort | hlong | hmeasure
  · have hlength := length_of_short ai hshort
    rw [hlength]
    refine ⟨by decide, fun count hcount hlt => ?_⟩
    simp only [mem_cons, not_mem_nil, or_false] at hcount
    omega
  · obtain ⟨hlength, hunknown, -⟩ := long_spec ai hlong
    rw [hlength]
    refine ⟨by decide, fun count hcount hlt => ?_⟩
    simp only [mem_cons, not_mem_nil, or_false] at hcount
    have htwo : count = 2 := by omega
    rw [htwo]
    exact hunknown
  · unfold isMeasure at hmeasure
    rw [Bool.and_eq_true, Bool.and_eq_true, decide_eq_true_eq, decide_eq_true_eq] at hmeasure
    obtain ⟨⟨hlength, -⟩, hstart⟩ := hmeasure
    rw [hlength]
    refine ⟨by decide, fun count hcount hlt => ?_⟩
    simp only [mem_cons, not_mem_nil, or_false] at hcount
    rcases hcount with rfl | rfl | rfl
    · exact measurePrefix_unknown _ hstart
    · -- Three digits are known only as a long identifier, and none starts like a measure.
      refine Option.eq_none_iff_forall_ne_some.mpr fun spec hspec => ?_
      have hthree : (String.ofList (ai.toList.take 3)).toList.length = 3 := by
        rw [String.toList_ofList, length_take, hlength]
        decide
      obtain ⟨-, -, hother⟩ := long_spec _ (long_of_length hspec hthree)
      rw [String.toList_ofList, take_take] at hother
      exact hother hstart
    · exact absurd hlt (lt_irrefl _)

theorem digits_of_known {ai : String} (h : gs1AiSpec ai = some spec) :
    ∀ character ∈ ai.toList, isAsciiDigit character = true := by
  have hlisted : ∀ ai ∈ shortIdentifiers ++ longIdentifiers,
      ai.toList.all isAsciiDigit = true := by
    decide +kernel
  rcases known_iff.mp ⟨spec, h⟩ with hshort | hlong | hmeasure
  · exact List.all_eq_true.mp (hlisted ai (mem_append_left _ hshort))
  · exact List.all_eq_true.mp (hlisted ai (mem_append_right _ hlong))
  · unfold isMeasure at hmeasure
    rw [Bool.and_eq_true, Bool.and_eq_true] at hmeasure
    exact List.all_eq_true.mp hmeasure.1.2

end Table

section Reading

/-- The characters of symbols without a function symbol. -/
def charactersOf : List Gs1Symbol → Option (List Char)
  | [] => some []
  | .fnc1 :: _ => none
  | .char character :: rest => (charactersOf rest).map (character :: ·)

/-- The identifier at the start of symbols. -/
def findIdentifier (symbols : List Gs1Symbol) : Option (List Char × Gs1AiSpec) :=
  [2, 3, 4].findSome? fun count => do
    let ai ← charactersOf (symbols.take count)
    let spec ← gs1AiSpec (String.ofList ai)
    return (ai, spec)

/-- The data at the start of symbols, and what follows them: as many symbols as the identifier
says, or those up to the next function symbol. -/
def takeData (spec : Gs1AiSpec) (symbols : List Gs1Symbol) :
    Option (List Char × List Gs1Symbol) :=
  if spec.fixed then
    if symbols.length < spec.len then none
    else (charactersOf (symbols.take spec.len)).map fun data => (data, symbols.drop spec.len)
  else
    (charactersOf (before .fnc1 symbols)).map fun data => (data, (onward .fnc1 symbols).tail)

/-- The pairs of symbols. Every round reads an identifier, so there are no more rounds than
symbols. -/
def parseElements : ℕ → List Gs1Symbol → Option (List Pair)
  | rounds, symbols =>
    if symbols = [] then some []
    else match rounds with
      | 0 => none
      | rounds + 1 => do
        let (ai, spec) ← findIdentifier symbols
        let (data, rest) ← takeData spec (symbols.drop ai.length)
        let pairs ← parseElements rounds rest
        return (ai, data) :: pairs

/-- The symbol of a code. -/
def symbolOfCode (code : ℕ) : Option Gs1Symbol :=
  if code = Code128.fnc1 then some .fnc1 else (characterB code).map .char

/-- The symbols of codes. -/
def symbolsOfCodes : List ℕ → Option (List Gs1Symbol)
  | [] => some []
  | code :: rest => do
    let symbol ← symbolOfCode code
    let symbols ← symbolsOfCodes rest
    return symbol :: symbols

/-- The pairs of a scanned barcode: a start symbol, a function symbol, the symbols of the pairs
and the check symbol. -/
def readGs1128 (barcode : EncodedBarcode) : Option (List Pair) := do
  let scanned ← scanSymbols (barcode.modules.map (·.width))
  match scanned with
  | start :: first :: codes =>
    if start = startB ∧ first = Code128.fnc1 then do
      let symbols ← symbolsOfCodes codes.dropLast
      parseElements symbols.length symbols
    else none
  | _ => none

theorem map_symbolOf (h : '\x1d' ∉ text) : text.map symbolOf = text.map .char :=
  map_congr_left fun character hcharacter =>
    if_neg fun heq : character = '\x1d' => h (heq ▸ hcharacter)

theorem charactersOf_map (text : List Char) : charactersOf (text.map .char) = some text := by
  induction text with
  | nil => rfl
  | cons character rest ih => rw [map_cons, charactersOf, ih, Option.map_some]

theorem fnc1_notMem_map (text : List Char) : Gs1Symbol.fnc1 ∉ text.map Gs1Symbol.char := by
  intro h
  obtain ⟨character, -, hcharacter⟩ := List.mem_map.mp h
  cases hcharacter

theorem findIdentifier_append
    (h : gs1AiSpec (String.ofList ai) = some spec) (rest : List Gs1Symbol) :
    findIdentifier (ai.map .char ++ rest) = some (ai, spec) := by
  obtain ⟨hlength, hunknown⟩ := unknown_of_shorter h
  rw [String.toList_ofList] at hlength hunknown
  have hfound (count : ℕ) (hcount : count ≤ ai.length) :
      charactersOf ((ai.map Gs1Symbol.char ++ rest).take count) = some (ai.take count) := by
    rw [take_append_of_le_length (by rwa [length_map]), ← map_take,
      charactersOf_map]
  have hskip (count : ℕ) (hmem : count ∈ [2, 3, 4]) (hcount : count < ai.length) :
      (do
        let ai ← charactersOf ((ai.map Gs1Symbol.char ++ rest).take count)
        let spec ← gs1AiSpec (String.ofList ai)
        return (ai, spec) : Option (List Char × Gs1AiSpec)) = none := by
    rw [hfound count hcount.le]
    change (gs1AiSpec (String.ofList (ai.take count)) >>= _) = _
    rw [hunknown count hmem hcount]
    rfl
  have hhit : (do
        let ai ← charactersOf ((ai.map Gs1Symbol.char ++ rest).take ai.length)
        let spec ← gs1AiSpec (String.ofList ai)
        return (ai, spec) : Option (List Char × Gs1AiSpec)) = some (ai, spec) := by
    rw [hfound ai.length le_rfl, take_length]
    change (gs1AiSpec (String.ofList ai) >>= _) = _
    rw [h]
    rfl
  unfold findIdentifier
  simp only [mem_cons, not_mem_nil, or_false] at hlength
  rcases hlength with hlength | hlength | hlength
  · rw [findSome?_cons, ← hlength, hhit]
  · rw [findSome?_cons, hskip 2 (by decide) (by omega), findSome?_cons, ← hlength, hhit]
  · rw [findSome?_cons, hskip 2 (by decide) (by omega), findSome?_cons,
      hskip 3 (by decide) (by omega), findSome?_cons, ← hlength, hhit]

/-- Data are taken up to where the next pair starts. -/
theorem takeData_append {data : List Char} (hfits : DataFits spec data.length)
    (hempty : pairs = [] → symbols = []) :
    takeData spec (data.map .char ++
      ((if !spec.fixed && !pairs.isEmpty then [.fnc1] else []) ++ symbols)) =
      some (data, symbols) := by
  unfold takeData
  unfold DataFits at hfits
  by_cases hfixed : spec.fixed = true
  · rw [if_pos hfixed] at hfits
    have hlength : (data.map Gs1Symbol.char).length = spec.len := by
      rw [length_map, hfits]
    have hseparator : (if !spec.fixed && !pairs.isEmpty then [Gs1Symbol.fnc1] else []) = [] := by
      simp [hfixed]
    rw [if_pos hfixed, hseparator, nil_append, if_neg, ← hlength, take_left,
      drop_left, charactersOf_map]
    · rfl
    · rw [length_append]
      omega
  · rw [if_neg hfixed]
    cases pairs with
    | nil =>
      rw [hempty rfl, isEmpty_nil, Bool.not_true, Bool.and_false, if_neg Bool.false_ne_true,
        nil_append, append_nil, before_of_notMem (fnc1_notMem_map data),
        onward_of_notMem (fnc1_notMem_map data), charactersOf_map]
      rfl
    | cons pair pairs =>
      have hseparator : (if !spec.fixed && !(pair :: pairs).isEmpty then [Gs1Symbol.fnc1]
          else []) = [.fnc1] := by
        simp [hfixed]
      rw [hseparator, singleton_append, before_append_cons (fnc1_notMem_map data),
        onward_append_cons (fnc1_notMem_map data), charactersOf_map]
      rfl

/-- The data have no separator in them. -/
def Separable (pairs : List Pair) : Prop := ∀ pair ∈ pairs, '\x1d' ∉ pair.2

theorem separator_notMem_ai (h : gs1AiSpec (String.ofList ai) = some spec) : '\x1d' ∉ ai := by
  intro hmem
  have hdigit := digits_of_known h '\x1d' (by rwa [String.toList_ofList])
  exact absurd hdigit (by decide)

/-- The identifiers that are shown are digits. -/
theorem ElementString.digits (h : ElementString pairs symbols) :
    ∀ pair ∈ pairs, ∀ character ∈ pair.1, isAsciiDigit character = true := by
  induction h with
  | nil => exact forall_mem_nil _
  | cons hpair hai hdata hrest ih =>
    have hdigits := digits_of_known hpair.known
    rw [String.toList_ofList] at hdigits
    exact List.forall_mem_cons.mpr ⟨hdigits, ih⟩

theorem ElementString.eq_nil (h : ElementString [] symbols) : symbols = [] := by
  cases h
  rfl

theorem length_pos_of_known (h : gs1AiSpec (String.ofList ai) = some spec) : 0 < ai.length := by
  have hlength := (unknown_of_shorter h).1
  rw [String.toList_ofList] at hlength
  simp only [mem_cons, not_mem_nil, or_false] at hlength
  omega

theorem ElementString.length_le
    (h : ElementString pairs symbols) : pairs.length ≤ symbols.length := by
  induction h with
  | nil => exact le_rfl
  | cons hpair hai hdata hrest ih =>
    have hpos := length_pos_of_known hpair.known
    simp only [length_append, length_map, length_cons]
    omega

/-- The pairs are read from their symbols. -/
theorem parseElements_elementString
    (h : ElementString pairs symbols) (hseparable : Separable pairs) {rounds : ℕ}
    (hrounds : pairs.length ≤ rounds) : parseElements rounds symbols = some pairs := by
  induction h generalizing rounds with
  | nil =>
    unfold parseElements
    rfl
  | @cons pair spec pairs symbols hpair hai hdata hrest ih =>
    obtain ⟨hsplit, hothers⟩ := List.forall_mem_cons.mp hseparable
    obtain ⟨rounds, rfl⟩ : ∃ fewer, rounds = fewer + 1 := by
      refine ⟨rounds - 1, ?_⟩
      rw [length_cons] at hrounds
      omega
    have hempty : pairs = [] → symbols = [] := by
      rintro rfl
      exact hrest.eq_nil
    have hvisible : pair.1.map Gs1Symbol.char ++ (pair.2.map .char ++
        ((if !spec.fixed && !pairs.isEmpty then [.fnc1] else []) ++ symbols)) ≠ [] := by
      have hpos := length_pos_of_known hpair.known
      intro hnil
      have hlength := congrArg List.length hnil
      rw [length_append, length_map, length_nil] at hlength
      omega
    rw [map_symbolOf (separator_notMem_ai hpair.known), map_symbolOf hsplit, append_assoc,
      append_assoc]
    unfold parseElements
    rw [if_neg hvisible, findIdentifier_append hpair.known]
    change (takeData spec (List.drop pair.1.length _) >>= _) = _
    rw [drop_left' (length_map _), takeData_append hpair.fits hempty]
    change (parseElements rounds symbols >>= _) = _
    rw [ih hothers (Nat.le_of_succ_le_succ hrounds)]
    rfl

theorem mem_of_charactersOf (h : charactersOf symbols = some text) :
    ∀ character ∈ text, Gs1Symbol.char character ∈ symbols := by
  induction symbols generalizing text with
  | nil =>
    cases h
    exact forall_mem_nil _
  | cons symbol rest ih =>
    cases symbol with
    | fnc1 => cases h
    | char first =>
      obtain ⟨others, hothers, rfl⟩ := Option.map_eq_some_iff.mp h
      refine List.forall_mem_cons.mpr ⟨mem_cons_self, fun character hcharacter => ?_⟩
      exact mem_cons_of_mem _ (ih hothers character hcharacter)

/-- What is taken as data, and what is left, stands in the symbols. -/
theorem mem_of_takeData {data : List Char} {rest : List Gs1Symbol}
    (h : takeData spec symbols = some (data, rest)) :
    (∀ character ∈ data, Gs1Symbol.char character ∈ symbols) ∧ rest ⊆ symbols := by
  unfold takeData at h
  split_ifs at h
  · obtain ⟨text, htext, heq⟩ := Option.map_eq_some_iff.mp h
    cases heq
    exact ⟨fun character hcharacter =>
      mem_of_mem_take (mem_of_charactersOf htext character hcharacter), drop_subset _ _⟩
  · obtain ⟨text, htext, heq⟩ := Option.map_eq_some_iff.mp h
    cases heq
    refine ⟨fun character hcharacter => ?_, fun symbol hsymbol => ?_⟩
    · exact (takeWhile_sublist _).mem (mem_of_charactersOf htext character hcharacter)
    · exact (dropWhile_sublist _).mem (mem_of_mem_tail hsymbol)

/-- Every character of the data that are read stands in the symbols. -/
theorem mem_of_parseElements {rounds : ℕ} (h : parseElements rounds symbols = some pairs) :
    ∀ pair ∈ pairs, ∀ character ∈ pair.2, Gs1Symbol.char character ∈ symbols := by
  induction rounds generalizing symbols pairs with
  | zero =>
    unfold parseElements at h
    split_ifs at h
    cases h
    exact forall_mem_nil _
  | succ rounds ih =>
    unfold parseElements at h
    split_ifs at h
    · cases h
      exact forall_mem_nil _
    · obtain ⟨⟨ai, spec⟩, -, h⟩ := Option.bind_eq_some_iff.mp h
      obtain ⟨⟨data, rest⟩, hdata, h⟩ := Option.bind_eq_some_iff.mp h
      obtain ⟨others, hothers, h⟩ := Option.bind_eq_some_iff.mp h
      cases h
      obtain ⟨hmem, hrest⟩ := mem_of_takeData hdata
      refine List.forall_mem_cons.mpr ⟨fun character hcharacter => ?_,
        fun pair hpair character hcharacter => ?_⟩
      · exact mem_of_mem_drop (hmem character hcharacter)
      · exact mem_of_mem_drop (hrest (ih hothers pair hpair character hcharacter))

/-- The symbols have the characters of the pairs. A separator is shown as a function symbol, so no
symbol has it as its character. -/
theorem ElementString.mem_iff {character : Char} (h : ElementString pairs symbols) :
    Gs1Symbol.char character ∈ symbols ↔
      character ≠ '\x1d' ∧ ∃ pair ∈ pairs, character ∈ pair.1 ∨ character ∈ pair.2 := by
  have hmap (text : List Char) : Gs1Symbol.char character ∈ text.map symbolOf ↔
      character ≠ '\x1d' ∧ character ∈ text := by
    rw [List.mem_map]
    constructor
    · rintro ⟨other, hother, hsymbol⟩
      unfold symbolOf at hsymbol
      split_ifs at hsymbol with hseparator
      cases hsymbol
      exact ⟨hseparator, hother⟩
    · exact fun ⟨hseparator, hmem⟩ => ⟨character, hmem, if_neg hseparator⟩
  induction h with
  | nil => simp
  | @cons pair spec pairs symbols hpair hai hdata hrest ih =>
    have hmark : Gs1Symbol.char character ∉
        (if !spec.fixed && !pairs.isEmpty then [Gs1Symbol.fnc1] else []) := by
      split_ifs <;> simp
    simp only [mem_append, hmap, hmark, ih, or_false, mem_cons, exists_eq_or_imp, ← and_or_left]

theorem symbolCodes_ok (h : symbolCodes symbols = .ok codes) :
    symbolsOfCodes codes = some symbols ∧ ∀ code ∈ codes, code < 106 := by
  induction symbols generalizing codes with
  | nil =>
    cases h
    exact ⟨rfl, forall_mem_nil _⟩
  | cons symbol rest ih =>
    obtain ⟨code, hcode, h⟩ := except_bind_ok.mp h
    obtain ⟨others, hothers, h⟩ := except_bind_ok.mp h
    cases h
    obtain ⟨hback, hbounds⟩ := ih hothers
    have hsymbol : symbolOfCode code = some symbol ∧ code < 106 := by
      cases symbol with
      | fnc1 =>
        cases hcode
        exact ⟨rfl, by decide⟩
      | char character =>
        rw [symbolCode, codeB] at hcode
        split_ifs at hcode with hcharacter
        cases hcode
        refine ⟨?_, by omega⟩
        rw [symbolOfCode, if_neg (by unfold Code128.fnc1; omega), characterB,
          if_pos (by omega), Nat.sub_add_cancel hcharacter.1, Char.ofNat_toNat]
        rfl
    refine ⟨?_, List.forall_mem_cons.mpr ⟨hsymbol.2, hbounds⟩⟩
    rw [symbolsOfCodes, hsymbol.1, hback]
    rfl

/-- A barcode of a payload is read as the pairs of the payload. -/
theorem readGs1128_of_finish {overflow : Overflow}
    {barcode : EncodedBarcode} (hcodes : symbolCodes payload = .ok codes)
    (h : finishCode128 overflow (startB :: Code128.fnc1 :: codes) = .ok barcode) :
    readGs1128 barcode = parseElements payload.length payload := by
  obtain ⟨hback, hbounds⟩ := symbolCodes_ok hcodes
  have hall : ∀ code ∈ startB :: Code128.fnc1 :: codes, code < 106 :=
    List.forall_mem_cons.mpr ⟨by decide, List.forall_mem_cons.mpr ⟨by decide, hbounds⟩⟩
  obtain ⟨sum, -, hscan⟩ := scanSymbols_finishCode128 hall h
  unfold readGs1128
  rw [hscan]
  change (if startB = startB ∧ Code128.fnc1 = Code128.fnc1 then
    symbolsOfCodes (codes ++ [sum % 103]).dropLast >>= fun symbols =>
      parseElements symbols.length symbols else none) = _
  rw [if_pos ⟨rfl, rfl⟩, dropLast_concat, hback]
  rfl

/-- What is neither a parenthesis nor space stands in a text exactly when it stands in one of the
pairs. -/
theorem Writes.mem_iff {character : Char} (h : Writes text pairs)
    (hother : isWhitespace character = false ∧ character ≠ '(' ∧ character ≠ ')') :
    character ∈ text ↔ ∃ pair ∈ pairs, character ∈ pair.1 ∨ character ∈ pair.2 := by
  induction h with
  | nil => simp
  | cons hai hdata hrest ih =>
    simp only [mem_append, mem_cons, hother.2.1, hother.2.2, false_or, ih, exists_eq_or_imp,
      mem_trimChars_iff hother.1, or_assoc]

theorem isWhitespace_of_ascii {character : Char} (h : isAsciiWhitespace character = true) :
    isWhitespace character = true := by
  unfold isAsciiWhitespace at h
  rw [contains_iff_mem] at h
  simp only [mem_cons, not_mem_nil, or_false] at h
  rcases h with rfl | rfl | rfl | rfl | rfl <;> decide

theorem dropWhile_trim (value : String) :
    (trim value).toList.dropWhile isAsciiWhitespace = (trim value).toList := by
  rw [trim, String.toList_ofList]
  have hfirst := head?_trimChars isWhitespace value.toList
  cases htrim : trimChars isWhitespace value.toList with
  | nil => rfl
  | cons first =>
    rw [htrim] at hfirst
    refine dropWhile_cons_of_neg fun hascii => ?_
    have hspace := isWhitespace_of_ascii hascii
    rw [hfirst first rfl] at hspace
    cases hspace

/-- An accepted text with parentheses writes pairs, and its payload shows them. -/
theorem normalizeGs1Payload_writes {value : String} (h : normalizeGs1Payload value = .ok payload)
    (hform : parenthesized (trim value).toList = true) :
    ∃ pairs, Writes (trim value).toList pairs ∧ ElementString pairs payload := by
  unfold normalizeGs1Payload at h
  dsimp only at h
  split_ifs at h with hempty
  unfold normalizeParenthesizedGs1 at h
  obtain ⟨symbols, hsymbols, h⟩ := except_bind_ok.mp h
  split_ifs at h with hnone
  cases h
  exact gs1Rounds_ok (dropWhile_trim value) hsymbols

/-- Every accepted text with parentheses writes pairs, and a reader finds exactly these pairs in
the barcode when no separator stands in the text, and only then. -/
theorem element_strings_are_read (overflow : Overflow) (value : String)
    (barcode : EncodedBarcode) (h : encodeGs1128 overflow value = .ok barcode)
    (hform : parenthesized (trim value).toList = true) :
    ∃ pairs, Writes (trim value).toList pairs ∧
      (∀ other, Writes (trim value).toList other → other = pairs) ∧
      (readGs1128 barcode = some pairs ↔ '\x1d' ∉ value.toList) := by
  unfold encodeGs1128 at h
  obtain ⟨payload, hpayload, h⟩ := except_bind_ok.mp h
  obtain ⟨codes, hcodes, h⟩ := except_bind_ok.mp h
  obtain ⟨pairs, hwrites, hstring⟩ := normalizeGs1Payload_writes hpayload hform
  refine ⟨pairs, hwrites, fun other hother => hwrites.unique hother, ?_⟩
  have htrim : '\x1d' ∈ (trim value).toList ↔ '\x1d' ∈ value.toList := by
    rw [trim, String.toList_ofList]
    exact mem_trimChars_iff (by decide)
  rw [readGs1128_of_finish hcodes h, ← htrim, hwrites.mem_iff (by decide)]
  push Not
  constructor
  · exact fun hread pair hpair =>
      ⟨fun hmem => absurd (hstring.digits pair hpair _ hmem) (by decide), fun hmem =>
        (hstring.mem_iff.mp (mem_of_parseElements hread pair hpair _ hmem)).1 rfl⟩
  · exact fun hseparable => parseElements_elementString hstring
      (fun pair hpair => (hseparable pair hpair).2) hstring.length_le

/-- The text of the source's test: an item, a lot and a date. -/
def sampleText : String := "(01)09506000134352(10)ABC123(17)260101"

/-- The pairs of the test are read. -/
theorem sample_is_read :
    ∃ barcode, encodeGs1128 .checked sampleText = .ok barcode ∧
      (∀ pairs, Writes (trim sampleText).toList pairs → readGs1128 barcode = some pairs) ∧
      readGs1128 barcode = some [("01".toList, "09506000134352".toList),
        ("10".toList, "ABC123".toList), ("17".toList, "260101".toList)] := by
  have hread : (encodeGs1128 .checked sampleText).toOption.bind readGs1128 =
      some [("01".toList, "09506000134352".toList), ("10".toList, "ABC123".toList),
        ("17".toList, "260101".toList)] := by
    decide +kernel
  cases hencode : encodeGs1128 .checked sampleText with
  | error =>
    rw [hencode] at hread
    cases hread
  | ok barcode =>
    rw [hencode] at hread
    obtain ⟨pairs, -, hunique, hiff⟩ := element_strings_are_read .checked sampleText barcode
      hencode (by decide +kernel)
    refine ⟨barcode, rfl, fun other hother => ?_, hread⟩
    rw [hunique other hother]
    exact hiff.mpr (by decide +kernel)

/-- Data with a separator are accepted: a text that writes a lot with a separator in it is read
as a lot and a date. -/
theorem separator_in_data_is_misread :
    ∃ barcode, encodeGs1128 .checked "(10)A\x1d17260101" = .ok barcode ∧
      Writes (trim "(10)A\x1d17260101").toList [("10".toList, "A\x1d17260101".toList)] ∧
      readGs1128 barcode = some [("10".toList, "A".toList), ("17".toList, "260101".toList)] := by
  have hread : (encodeGs1128 .checked "(10)A\x1d17260101").toOption.bind readGs1128 =
      some [("10".toList, "A".toList), ("17".toList, "260101".toList)] := by
    decide +kernel
  have hwrites : Writes ('(' :: "10".toList ++ ')' :: "A\x1d17260101".toList ++ [])
      [("10".toList, trimChars isWhitespace "A\x1d17260101".toList)] :=
    .cons (by decide +kernel) (by decide +kernel) .nil
  have htext : '(' :: "10".toList ++ ')' :: "A\x1d17260101".toList ++ [] =
      (trim "(10)A\x1d17260101").toList := by
    decide +kernel
  have htrim : trimChars isWhitespace "A\x1d17260101".toList = "A\x1d17260101".toList := by
    decide +kernel
  rw [htext, htrim] at hwrites
  cases hencode : encodeGs1128 .checked "(10)A\x1d17260101" with
  | error =>
    rw [hencode] at hread
    cases hread
  | ok barcode =>
    rw [hencode] at hread
    exact ⟨barcode, rfl, hwrites, hread⟩

end Reading

end Wareboxes.Gs1Elements
