import Wareboxes.Gs1Elements
import Wareboxes.QrCodes
import Wareboxes.UpcA

/-!
# Barcode kinds and normalised values

The kind of a barcode is given as a text. A value is normalised to the text that its barcode
shows, and the normalised value should give the same barcode again. It does, unless a GS1 value
has a closing parenthesis in its data: then the normalised value is taken for one with
parentheses and refused.
-/

namespace Wareboxes.BarcodeKinds

open RustText TrimmedTexts Transactions Code128 Gs1Elements QrCodes UpcA

/-- `BarcodeKind`. -/
inductive BarcodeKind where
  | code128
  | gs1128
  | upcA
  | qr

/-- `BarcodeKind::parse`. -/
def BarcodeKind.parse (value : String) : Except Fault BarcodeKind :=
  let kind := String.ofList ((trim value).toList.map toAsciiLowercase)
  if kind ∈ ["code128", "code-128", "128"] then .ok .code128
  else if kind ∈ ["gs1-128", "gs1128", "gs1_128", "ucc128", "ucc-128"] then .ok .gs1128
  else if kind ∈ ["upc-a", "upca", "upc"] then .ok .upcA
  else if kind ∈ ["qr", "qrcode", "qr-code"] then .ok .qr
  else .error (.refused (.unsupportedKind kind))

/-- The character of a symbol. -/
def characterOf : Gs1Symbol → Char
  | .char character => character
  | .fnc1 => '\x1d'

/-- `gs1_symbols_to_string`. -/
def gs1SymbolsToString (symbols : List Gs1Symbol) : String :=
  String.ofList (symbols.map characterOf)

/-- The branches of `encode`. -/
def encodeAs (overflow : Overflow) (value : String) : BarcodeKind → Except Fault EncodedBarcode
  | .code128 => encodeCode128B overflow value
  | .gs1128 => encodeGs1128 overflow value
  | .upcA => encodeUpcA value
  | .qr => .error (.refused (.unsupportedKind "qr is a 2D barcode; use encode_qr"))

/-- The branches of `normalized_value`. -/
def normalizedAs (overflow : Overflow) (value : String) : BarcodeKind → Except Fault String
  | .code128 => (encodeCode128B overflow value).map fun _ => trim value
  | .gs1128 => (normalizeGs1Payload value).map gs1SymbolsToString
  | .upcA => upcADigits value
  | .qr => (encodeQr value).map fun _ => trim value

/-- `encode`. -/
def encode (overflow : Overflow) (kind value : String) : Except Fault EncodedBarcode :=
  BarcodeKind.parse kind >>= encodeAs overflow value

/-- `normalized_value`. -/
def normalizedValue (overflow : Overflow) (kind value : String) : Except Fault String :=
  BarcodeKind.parse kind >>= normalizedAs overflow value

section Plain

/-- Neither end of a text is space. -/
def Kept (text : List Char) : Prop :=
  (∀ first ∈ text.head?, isWhitespace first = false) ∧
    ∀ last ∈ text.getLast?, isWhitespace last = false

/-- A text that is shown as it is, without parentheses. -/
structure Plain (text : List Char) : Prop where
  /-- It can be printed. -/
  shown : Shown text
  /-- Trimming keeps it. -/
  kept : Kept text
  /-- It has no parenthesis. -/
  bare : '(' ∉ text ∧ ')' ∉ text

variable {text : List Char} {pairs : List Pair} {symbols : List Gs1Symbol}

theorem parenthesized_eq_false : parenthesized text = false ↔ '(' ∉ text ∧ ')' ∉ text := by
  simp [parenthesized]

theorem kept_of_forall (h : ∀ character ∈ text, isWhitespace character = false) : Kept text :=
  ⟨fun first hfirst => h first (List.mem_of_mem_head? hfirst),
    fun last hlast => h last (List.mem_of_mem_getLast? hlast)⟩

theorem Plain.append {text others : List Char} (h : Plain text) (hothers : Plain others) :
    Plain (text ++ others) := by
  refine ⟨List.forall_mem_append.mpr ⟨h.shown, hothers.shown⟩, ⟨?_, ?_⟩, ?_⟩
  · intro first hfirst
    rw [List.head?_append, Option.mem_def, Option.or_eq_some_iff] at hfirst
    exact hfirst.elim (h.kept.1 first) fun hfirst => hothers.kept.1 first hfirst.2
  · intro last hlast
    rw [List.getLast?_append, Option.mem_def, Option.or_eq_some_iff] at hlast
    exact hlast.elim (hothers.kept.2 last) fun hlast => h.kept.2 last hlast.2
  · rw [List.mem_append, List.mem_append, not_or, not_or]
    exact ⟨⟨h.bare.1, hothers.bare.1⟩, h.bare.2, hothers.bare.2⟩

@[simp] theorem characterOf_symbolOf (character : Char) :
    characterOf (symbolOf character) = character := by
  unfold symbolOf
  split_ifs with h
  · exact h.symm
  · rfl

theorem gs1SymbolsToString_map (text : List Char) :
    gs1SymbolsToString (text.map symbolOf) = String.ofList text := by
  rw [gs1SymbolsToString, List.map_map]
  exact congrArg String.ofList ((List.map_congr_left fun character _ =>
    characterOf_symbolOf character).trans (List.map_id _))

theorem normalizeGs1Payload_plain (h : Plain text) (hne : text ≠ []) :
    normalizeGs1Payload (String.ofList text) = .ok (text.map symbolOf) := by
  have htrim : (trim (String.ofList text)).toList = text := by
    rw [trim, String.toList_ofList, String.toList_ofList, trimChars_eq_self h.kept.1 h.kept.2]
  unfold normalizeGs1Payload
  dsimp only
  rw [isEmpty, htrim, if_neg (by rwa [List.isEmpty_iff]),
    parenthesized_eq_false.mpr h.bare, if_neg Bool.false_ne_true]
  exact validateGs1Chars_ok.mpr ⟨h.shown, rfl⟩

theorem plain_of_known {ai : List Char} {spec : Gs1AiSpec}
    (h : gs1AiSpec (String.ofList ai) = some spec) (hshown : Shown ai) : Plain ai := by
  have hdigits := digits_of_known h
  rw [String.toList_ofList] at hdigits
  refine ⟨hshown, kept_of_forall fun digit hdigit => (digit_kept (hdigits digit hdigit)).1, ?_⟩
  exact ⟨fun hmem => absurd (hdigits _ hmem) (by decide),
    fun hmem => absurd (hdigits _ hmem) (by decide)⟩

/-- Pairs without parentheses in their data are shown by a plain text. -/
theorem plain_of_elementString (h : ElementString pairs symbols)
    (hpairs : ∀ pair ∈ pairs, Kept pair.2 ∧ '(' ∉ pair.2 ∧ ')' ∉ pair.2) :
    ∃ text, Plain text ∧ symbols = text.map symbolOf := by
  induction h with
  | nil => exact ⟨[], ⟨List.forall_mem_nil _, kept_of_forall (List.forall_mem_nil _), by simp⟩, rfl⟩
  | @cons pair spec pairs symbols hpair hai hdata hrest ih =>
    obtain ⟨⟨hkept, hbare⟩, hothers⟩ := List.forall_mem_cons.mp hpairs
    obtain ⟨text, htext, rfl⟩ := ih hothers
    obtain ⟨mark, hmark, hsymbols⟩ : ∃ mark, Plain mark ∧
        (if !spec.fixed && !pairs.isEmpty then [Gs1Symbol.fnc1] else []) = mark.map symbolOf := by
      split_ifs
      · exact ⟨['\x1d'], ⟨by simp [Shown], kept_of_forall (List.forall_mem_singleton.mpr rfl),
          by decide⟩, rfl⟩
      · exact ⟨[], ⟨List.forall_mem_nil _, kept_of_forall (List.forall_mem_nil _), by simp⟩, rfl⟩
    refine ⟨pair.1 ++ pair.2 ++ mark ++ text, ?_, ?_⟩
    · exact (((plain_of_known hpair.known hai).append ⟨hdata, hkept, hbare⟩).append
        hmark).append htext
    · rw [hsymbols, List.map_append, List.map_append, List.map_append]

/-- A text that writes pairs has a closing parenthesis for each opening one, and others only
in the data. -/
theorem count_of_writes (h : Writes text pairs) (hpairs : ∀ pair ∈ pairs, '(' ∉ pair.1) :
    text.count '(' ≤ text.count ')' ∧
      (text.count ')' = text.count '(' ↔ ∀ pair ∈ pairs, ')' ∉ pair.2) := by
  induction h with
  | nil => simp
  | @cons ai data rest pairs hai hdata hrest ih =>
    obtain ⟨hopen, hothers⟩ := List.forall_mem_cons.mp hpairs
    obtain ⟨hle, hiff⟩ := ih hothers
    have hnone (mark : Char) (text : List Char) (hmark : mark ∉ text) : text.count mark = 0 :=
      List.count_eq_zero.mpr hmark
    rw [List.forall_mem_cons, mem_trimChars_iff (by decide), ← hiff, ← List.count_eq_zero]
    simp only [List.cons_append, List.count_cons, List.count_append, hnone _ _ hai,
      hnone _ _ hdata, hnone _ _ hopen]
    simp only [beq_self_eq_true, if_true, show (')' == '(') = false by decide,
      show ('(' == ')') = false by decide, Bool.false_eq_true, if_false]
    omega

theorem kept_of_writes (h : Writes text pairs) : ∀ pair ∈ pairs, Kept pair.2 ∧ '(' ∉ pair.2 := by
  induction h with
  | nil => exact List.forall_mem_nil _
  | cons hai hdata hrest ih =>
    exact List.forall_mem_cons.mpr ⟨⟨⟨head?_trimChars _ _, getLast?_trimChars _ _⟩,
      fun hmem => hdata (mem_of_mem_trimChars hmem)⟩, ih⟩

theorem bare_of_elementString (h : ElementString pairs symbols) :
    ∀ pair ∈ pairs, '(' ∉ pair.1 :=
  fun pair hpair hmem => absurd (h.digits pair hpair _ hmem) (by decide)

theorem normalizeGs1Payload_ne_nil {value : String} : normalizeGs1Payload value ≠ .ok [] := by
  intro h
  unfold normalizeGs1Payload at h
  dsimp only at h
  split_ifs at h with hempty hform
  · unfold normalizeParenthesizedGs1 at h
    obtain ⟨symbols, -, h⟩ := except_bind_ok.mp h
    split_ifs at h with hsymbols
    exact hsymbols (Except.ok.inj h)
  · obtain ⟨-, hnil⟩ := validateGs1Chars_ok.mp h
    rw [eq_comm, List.map_eq_nil_iff] at hnil
    rw [isEmpty, hnil] at hempty
    exact hempty rfl

/-- The payload of a value with balanced parentheses is that of a plain text. -/
theorem plain_of_normalize {value : String} {payload : List Gs1Symbol}
    (h : normalizeGs1Payload value = .ok payload)
    (hcount : (trim value).toList.count ')' = (trim value).toList.count '(') :
    ∃ text, Plain text ∧ payload = text.map symbolOf := by
  cases hform : parenthesized (trim value).toList with
  | true =>
    obtain ⟨pairs, hwrites, hstring⟩ := normalizeGs1Payload_writes h hform
    have hclosed := (count_of_writes hwrites (bare_of_elementString hstring)).2.mp hcount
    have hkept := kept_of_writes hwrites
    exact plain_of_elementString hstring fun pair hpair =>
      ⟨(hkept pair hpair).1, (hkept pair hpair).2, hclosed pair hpair⟩
  | false =>
    unfold normalizeGs1Payload at h
    dsimp only at h
    rw [hform, if_neg Bool.false_ne_true] at h
    split_ifs at h with hempty
    obtain ⟨hshown, rfl⟩ := validateGs1Chars_ok.mp h
    refine ⟨_, ⟨hshown, ?_, parenthesized_eq_false.mp hform⟩, rfl⟩
    rw [trim, String.toList_ofList]
    exact ⟨head?_trimChars _ _, getLast?_trimChars _ _⟩

theorem mem_gs1SymbolsToString {character : Char} (h : character ≠ '\x1d') :
    character ∈ (gs1SymbolsToString symbols).toList ↔ Gs1Symbol.char character ∈ symbols := by
  rw [gs1SymbolsToString, String.toList_ofList, List.mem_map]
  constructor
  · rintro ⟨symbol, hsymbol, rfl⟩
    cases symbol with
    | char => exact hsymbol
    | fnc1 => exact absurd rfl h
  · exact fun hsymbol => ⟨_, hsymbol, rfl⟩

/-- A normalised value that is accepted again comes from balanced parentheses. With a closing one
in some data it would be read as a value with parentheses, but it has no opening one. -/
theorem balanced_of_normalize_again {value : String} {payload again : List Gs1Symbol}
    (h : normalizeGs1Payload value = .ok payload)
    (hagain : normalizeGs1Payload (gs1SymbolsToString payload) = .ok again) :
    (trim value).toList.count ')' = (trim value).toList.count '(' := by
  cases hform : parenthesized (trim value).toList with
  | false =>
    obtain ⟨hopen, hclose⟩ := parenthesized_eq_false.mp hform
    rw [List.count_eq_zero.mpr hopen, List.count_eq_zero.mpr hclose]
  | true =>
    obtain ⟨pairs, hwrites, hstring⟩ := normalizeGs1Payload_writes h hform
    have hkept := kept_of_writes hwrites
    have hbare := bare_of_elementString hstring
    refine (count_of_writes hwrites hbare).2.mpr fun pair hpair hmem => ?_
    have hparenthesis {mark : Char} (hmark : mark ≠ '\x1d') (hspace : isWhitespace mark = false) :
        mark ∈ (trim (gs1SymbolsToString payload)).toList ↔
          ∃ pair ∈ pairs, mark ∈ pair.1 ∨ mark ∈ pair.2 := by
      rw [trim, String.toList_ofList, mem_trimChars_iff hspace, mem_gs1SymbolsToString hmark,
        hstring.mem_iff, and_iff_right hmark]
    have hclose := (hparenthesis (by decide) (by decide)).mpr ⟨pair, hpair, .inr hmem⟩
    have hopen : '(' ∉ (trim (gs1SymbolsToString payload)).toList := by
      rw [hparenthesis (by decide) (by decide)]
      rintro ⟨other, hother, hmem | hmem⟩
      · exact hbare other hother hmem
      · exact (hkept other hother).2 hmem
    obtain ⟨others, hothers, -⟩ := normalizeGs1Payload_writes hagain (by
      rw [parenthesized, List.contains_iff_mem.mpr hclose, Bool.or_true])
    rcases hothers.eq_nil_or with hnil | ⟨rest, hrest⟩
    · rw [hnil] at hclose
      cases hclose
    · exact hopen (hrest ▸ List.mem_cons_self)

end Plain

theorem encodeCode128B_trim (overflow : Overflow) (value : String) :
    encodeCode128B overflow (trim value) = encodeCode128B overflow value := by
  unfold encodeCode128B
  rw [trim_trim]

/-- A value that is encoded has a normalised value, and this is normalised to itself and gives the
same barcode, unless it is a GS1 value that has more closing than opening parentheses. -/
theorem normalization_is_stable (overflow : Overflow) (kind value : String)
    (barcode : EncodedBarcode) (h : encode overflow kind value = .ok barcode) :
    ∃ text, normalizedValue overflow kind value = .ok text ∧
      (normalizedValue overflow kind text = .ok text ∧ encode overflow kind text = .ok barcode ↔
        (BarcodeKind.parse kind = .ok .gs1128 →
          (trim value).toList.count ')' = (trim value).toList.count '(')) := by
  obtain ⟨parsed, hparsed, h⟩ := except_bind_ok.mp h
  suffices ∃ text, normalizedAs overflow value parsed = .ok text ∧
      (normalizedAs overflow text parsed = .ok text ∧ encodeAs overflow text parsed = .ok barcode ↔
        (parsed = .gs1128 → (trim value).toList.count ')' = (trim value).toList.count '(')) by
    unfold normalizedValue encode
    rw [hparsed, Except.ok.injEq]
    exact this
  cases parsed with
  | code128 =>
    have hagain := (encodeCode128B_trim overflow value).trans h
    refine ⟨trim value, ?_, iff_of_true ⟨?_, hagain⟩ nofun⟩
    · rw [normalizedAs, show encodeCode128B overflow value = _ from h]
      rfl
    · rw [normalizedAs, hagain]
      exact congrArg Except.ok (trim_trim value)
  | gs1128 =>
    obtain ⟨payload, hpayload, hcodes⟩ := except_bind_ok.mp h
    refine ⟨gs1SymbolsToString payload, ?_, ?_, fun hbalanced => ?_⟩
    · rw [normalizedAs, hpayload]
      rfl
    · rintro ⟨-, hencode⟩ -
      obtain ⟨again, hagain, -⟩ := except_bind_ok.mp hencode
      exact balanced_of_normalize_again hpayload hagain
    · obtain ⟨text, hplain, rfl⟩ := plain_of_normalize hpayload (hbalanced rfl)
      have hne : text ≠ [] := by
        rintro rfl
        exact normalizeGs1Payload_ne_nil hpayload
      have hagain := normalizeGs1Payload_plain hplain hne
      rw [gs1SymbolsToString_map]
      refine ⟨?_, except_bind_ok.mpr ⟨_, hagain, hcodes⟩⟩
      rw [normalizedAs, hagain]
      exact congrArg Except.ok (gs1SymbolsToString_map text)
  | upcA =>
    obtain ⟨digits, hdigits, hbits⟩ := except_bind_ok.mp h
    have hagain := upcADigits_of_isUpcA (isUpcA_of_upcADigits hdigits)
    exact ⟨digits, hdigits, iff_of_true ⟨hagain, except_bind_ok.mpr ⟨_, hagain, hbits⟩⟩ nofun⟩
  | qr => cases h

/-- The normalised value of an item, a lot and a date prints the same barcode. -/
theorem sample_is_stable :
    ∃ barcode text, encode .wrapping " GS1-128" sampleText = .ok barcode ∧
      normalizedValue .wrapping " GS1-128" text = .ok text ∧
      encode .wrapping " GS1-128" text = .ok barcode := by
  have hok : (encode .wrapping " GS1-128" sampleText).toOption.isSome = true := by decide +kernel
  cases hencode : encode .wrapping " GS1-128" sampleText with
  | error =>
    rw [hencode] at hok
    cases hok
  | ok barcode =>
    obtain ⟨text, -, hstable⟩ := normalization_is_stable .wrapping " GS1-128" sampleText barcode
      hencode
    exact ⟨barcode, text, rfl, hstable.mpr fun _ => by decide +kernel⟩

/-- A closing parenthesis in the data of a lot: the value has a barcode, but its normalised value
is refused. -/
theorem closing_parenthesis_is_unstable :
    (encode .wrapping "gs1-128" "(10)A)B").toOption.isSome = true ∧
      normalizedValue .wrapping "gs1-128" "(10)A)B" = .ok "10A)B" ∧
      normalizedValue .wrapping "gs1-128" "10A)B" =
        .error (.refused (.invalidGs1Ai "10A)B")) ∧
      encode .wrapping "gs1-128" "10A)B" = .error (.refused (.invalidGs1Ai "10A)B")) := by
  decide +kernel

end Wareboxes.BarcodeKinds
