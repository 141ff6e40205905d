import Wareboxes.QrCorrection

/-!
# Reading a QR code

A byte-mode reader, stated from the layout of the symbol and not from the code that draws it. It
reads the format information, goes through the modules outside the function patterns in pairs of
columns from the right, removes the mask, checks the codewords by their syndromes, takes the data
codewords and reads mode, length and bytes. It repairs nothing: format information that is not one
of the 32 words and codewords that do not check are refused. For every version the drawing goes
through the same modules in the same order, each once, so the reader finds the payload.
-/

namespace Wareboxes.QrReading

open RustText Bitmaps QrCodes QrCorrection List

section Reader

/-- The modules of the first copy of the format information, from the lowest bit. -/
def firstFormatCopy : List (ℕ × ℕ) :=
  (List.range 6).map (fun i => (8, i)) ++ [(8, 7), (8, 8), (7, 8)] ++
    (List.range 6).map fun i => (5 - i, 8)

/-- The modules of the second copy, from the lowest bit. -/
def secondFormatCopy (size : ℕ) : List (ℕ × ℕ) :=
  (List.range 8).map (fun i => (size - 1 - i, 8)) ++
    (List.range 7).map fun i => (8, size - 7 + i)

/-- The words of format information: for each level, in the order M, L, H, Q, those of the eight
masks. -/
def formatWords : List ℕ := [
  0x5412, 0x5125, 0x5E7C, 0x5B4B, 0x45F9, 0x40CE, 0x4F97, 0x4AA0,
  0x77C4, 0x72F3, 0x7DAA, 0x789D, 0x662F, 0x6318, 0x6C41, 0x6976,
  0x1689, 0x13BE, 0x1CE7, 0x19D0, 0x0762, 0x0255, 0x0D0C, 0x083B,
  0x355F, 0x3068, 0x3F31, 0x3A06, 0x24B4, 0x2183, 0x2EDA, 0x2BED]

/-- Error correction level and mask of a copy of the format information. Level L is 1. -/
def readFormat (qr : EncodedQr) (copy : List (ℕ × ℕ)) : Option (ℕ × ℕ) :=
  let word := ofBits (copy.map fun position => qr.module position.1 position.2).reverse
  (formatWords.idxOf? word).map fun index => (index / 8, index % 8)

/-- The mask patterns, with the column first. -/
def maskPattern (mask : ℕ) : ℕ × ℕ → Bool
  | (j, i) =>
    match mask with
    | 0 => (i + j) % 2 == 0
    | 1 => i % 2 == 0
    | 2 => j % 3 == 0
    | 3 => (i + j) % 3 == 0
    | 4 => (i / 2 + j / 3) % 2 == 0
    | 5 => i * j % 2 + i * j % 3 == 0
    | 6 => (i * j % 2 + i * j % 3) % 2 == 0
    | _ => ((i + j) % 2 + i * j % 3) % 2 == 0

/-- Finder patterns with their margins and the format information, timing lines, and from
version 2 on the alignment pattern. -/
def isFunctionModule (version size : ℕ) : ℕ × ℕ → Bool
  | (x, y) =>
    (x ≤ 8 && y ≤ 8) || (size - 8 ≤ x && y ≤ 8) || (x ≤ 8 && size - 8 ≤ y) || x == 6 || y == 6 ||
      (version != 1 && size - 9 ≤ x && x ≤ size - 5 && size - 9 ≤ y && y ≤ size - 5)

/-- The data modules in the order of their bits: pairs of columns from the right without the
timing column, alternately up and down. -/
def readingPath (version size : ℕ) : List (ℕ × ℕ) :=
  ((List.range (size / 2)).flatMap fun pair =>
    let column := if 6 < size - 1 - 2 * pair then size - 1 - 2 * pair else size - 2 - 2 * pair
    (List.range size).flatMap fun row =>
      let y := if pair % 2 == 0 then size - 1 - row else row
      [(column, y), (column - 1, y)]).filter fun position =>
        !isFunctionModule version size position

/-- The bytes of data bits in byte mode. -/
def readPayload (bits : List Bool) : Option (List ℕ) :=
  let count := ofBits ((bits.drop 4).take 8)
  if ofBits (bits.take 4) ≠ 4 ∨ bits.length < 12 + 8 * count then none
  else some (bytesOf ((bits.drop 12).take (8 * count)))

/-- The payload of a code with level L. -/
def readQr (qr : EncodedQr) : Option (List ℕ) := do
  let version := (qr.size - 17) / 4
  let info ← qrVersions.find? fun info => info.version = version
  let (level, mask) ← readFormat qr firstFormatCopy
  let bits := (readingPath version qr.size).map fun position =>
    (qr.module position.1 position.2).xor (maskPattern mask position)
  let codewords := bytesOf (bits.take (8 * (info.dataCodewords + info.eccCodewords)))
  if level = 1 ∧ Corrects info.eccCodewords codewords then
    readPayload (bitsOfBytes (codewords.take info.dataCodewords))
  else none

end Reader

section Codewords

variable {data : List ℕ} {capacity : ℕ}

theorem length_payloadBits (data : List ℕ) : (payloadBits data).length = 8 * data.length + 12 := by
  simp only [payloadBits, length_append, length_bitsOf, length_bitsOfBytes]
  omega

/-- What follows a payload that fits the version: a terminator of four bits. -/
theorem terminated_payloadBits (hfits : 8 * data.length + 12 ≤ 8 * capacity) :
    terminated (capacity * 8) (payloadBits data) =
      payloadBits data ++ List.replicate 4 false := by
  have hroom : min 4 (capacity * 8 - (8 * data.length + 12)) = 4 := by omega
  unfold terminated
  dsimp only
  rw [length_append, length_replicate, length_payloadBits, hroom,
    show (8 - (8 * data.length + 12 + 4) % 8) % 8 = 0 by omega, replicate_zero,
    append_nil]

variable {rest : List Bool}

/-- The data codewords are as many bytes as the version has, and start with the payload. -/
theorem qrDataCodewords_spec (hfits : 8 * data.length + 12 ≤ 8 * capacity) :
    (qrDataCodewords data capacity).length = capacity ∧
      (∀ byte ∈ qrDataCodewords data capacity, byte < 256) ∧
      ∃ rest, bitsOfBytes (qrDataCodewords data capacity) = payloadBits data ++ rest := by
  have hbits : (payloadBits data ++ List.replicate 4 false).length = 8 * (data.length + 2) := by
    rw [length_append, length_payloadBits, length_replicate]
    omega
  have hback := bitsOfBytes_bytesOf (show (payloadBits data ++ List.replicate 4 false).length % 8 =
    0 by omega)
  have hlength := congrArg List.length hback
  rw [length_bitsOfBytes, hbits] at hlength
  unfold qrDataCodewords
  dsimp only
  rw [terminated_payloadBits hfits]
  refine ⟨?_, ?_, ?_⟩
  · rw [length_append, padCodewords, length_map, length_range]
    omega
  · rw [forall_mem_append]
    refine ⟨bytesOf_lt _, fun byte hbyte => ?_⟩
    obtain ⟨index, -, rfl⟩ := List.mem_map.mp hbyte
    split_ifs <;> decide
  · rw [bitsOfBytes, flatMap_append]
    change ∃ rest, bitsOfBytes (bytesOf _) ++ _ = _
    rw [hback, append_assoc]
    exact ⟨_, rfl⟩

theorem readPayload_payloadBits (hbytes : ∀ byte ∈ data, byte < 256) (hlength : data.length < 256) :
    readPayload (payloadBits data ++ rest) = some data := by
  have hmode : (payloadBits data ++ rest).take 4 = bitsOf 4 4 := rfl
  have hcount : ofBits (((payloadBits data ++ rest).drop 4).take 8) = data.length := by
    change ofBits (bitsOf 8 data.length) = _
    exact (ofBits_bitsOf 8 data.length).trans (Nat.mod_eq_of_lt hlength)
  have hbody : ((payloadBits data ++ rest).drop 12).take (8 * data.length) =
      bitsOfBytes data := by
    change (bitsOfBytes data ++ rest).take (8 * data.length) = _
    rw [← length_bitsOfBytes, take_left]
  unfold readPayload
  dsimp only
  rw [hcount, hmode, hbody, bytesOf_bitsOfBytes hbytes, if_neg]
  rw [not_or, not_not, not_lt, length_append, length_payloadBits]
  exact ⟨by decide, by omega⟩

end Codewords

section Layout

/-- The size of a version. -/
def sizeOf (version : ℕ) : ℕ := 21 + (version - 1) * 4

/-- What the drawing and the reading of a version have in common. -/
structure Layout (version size codewords : ℕ) : Prop where
  /-- The size gives the version. -/
  known : (size - 17) / 4 = version
  /-- The reader goes through the modules that were drawn, in their order. -/
  path : dataPath version size = readingPath version size
  /-- No module is drawn twice. -/
  once : distinct 0 ((dataPath version size).map (idx size)) = true
  /-- A module is either reserved or drawn. -/
  covers : indexSet ((dataPath version size).map (idx size)) ^^^ reserved version size =
    2 ^ (size * size) - 1
  /-- There are modules for all bits. -/
  room : 8 * codewords ≤ (dataPath version size).length
  /-- The path stays in the symbol. -/
  inside : (dataPath version size).all (fun position => position.1 < size && position.2 < size) =
    true
  /-- The reader looks for the format information where it is drawn. -/
  format : (drawFormatBits size 0).map Prod.fst =
    firstFormatCopy ++ secondFormatCopy size ++ [(8, size - 8)]
  /-- No part of it is drawn twice. -/
  formatOnce : ((drawFormatBits size 0).map Prod.fst).Nodup
  /-- It is inside, on reserved modules. -/
  formatReserved : ((drawFormatBits size 0).map Prod.fst).all (fun position =>
    (reserved version size).testBit (idx size position) && position.1 < size &&
      position.2 < size) = true

theorem layout : ∀ info ∈ qrVersions,
    Layout info.version (sizeOf info.version) (info.dataCodewords + info.eccCodewords) := by
  have hchecks (version size codewords : ℕ) : Layout version size codewords ↔
      (size - 17) / 4 = version ∧ dataPath version size = readingPath version size ∧
      distinct 0 ((dataPath version size).map (idx size)) = true ∧
      indexSet ((dataPath version size).map (idx size)) ^^^ reserved version size =
        2 ^ (size * size) - 1 ∧
      8 * codewords ≤ (dataPath version size).length ∧
      (dataPath version size).all (fun position =>
        position.1 < size && position.2 < size) = true ∧
      (drawFormatBits size 0).map Prod.fst =
        firstFormatCopy ++ secondFormatCopy size ++ [(8, size - 8)] ∧
      ((drawFormatBits size 0).map Prod.fst).Nodup ∧
      ((drawFormatBits size 0).map Prod.fst).all (fun position =>
        (reserved version size).testBit (idx size position) && position.1 < size &&
          position.2 < size) = true :=
    ⟨fun ⟨a, b, c, d, e, f, g, h, i⟩ => ⟨a, b, c, d, e, f, g, h, i⟩,
      fun ⟨a, b, c, d, e, f, g, h, i⟩ => ⟨a, b, c, d, e, f, g, h, i⟩⟩
  simp only [hchecks]
  decide +kernel

variable {version size codewords : ℕ}

theorem Layout.nodup_dataPath (h : Layout version size codewords) : (dataPath version size).Nodup :=
  (nodup_of_distinct h.once).1.of_map

theorem Layout.lt_size (h : Layout version size codewords) {position : ℕ × ℕ}
    (hmem : position ∈ dataPath version size) : position.1 < size ∧ position.2 < size := by
  have hinside := List.all_eq_true.mp h.inside position hmem
  rwa [Bool.and_eq_true, decide_eq_true_eq, decide_eq_true_eq] at hinside

theorem idx_injective {first second : ℕ × ℕ} (hfirst : first.1 < size) (hsecond : second.1 < size)
    (h : idx size first = idx size second) : first = second := by
  have hpos : 0 < size := by omega
  have hrow (position : ℕ × ℕ) (hlt : position.1 < size) :
      idx size position / size = position.2 := by
    rw [idx, mul_comm, Nat.mul_add_div hpos, Nat.div_eq_of_lt hlt, add_zero]
  have hcolumn (position : ℕ × ℕ) (hlt : position.1 < size) :
      idx size position % size = position.1 := by
    rw [idx, mul_comm, Nat.mul_add_mod, Nat.mod_eq_of_lt hlt]
  refine Prod.ext ?_ ?_
  · rw [← hcolumn first hfirst, h, hcolumn second hsecond]
  · rw [← hrow first hfirst, h, hrow second hsecond]

theorem idx_lt {x y : ℕ} (hx : x < size) (hy : y < size) : idx size (x, y) < size * size :=
  calc y * size + x < y * size + size := by omega
    _ = (y + 1) * size := by ring
    _ ≤ size * size := Nat.mul_le_mul_right _ hy

/-- The drawing of the data goes to exactly the modules that are not reserved. -/
theorem Layout.mem_dataPath (h : Layout version size codewords) {x y : ℕ} (hx : x < size)
    (hy : y < size) : (x, y) ∈ dataPath version size ↔
      (reserved version size).testBit (idx size (x, y)) = false := by
  have hbit := congrArg (Nat.testBit · (idx size (x, y))) h.covers
  simp only [Nat.testBit_xor, Nat.testBit_two_pow_sub_one, decide_eq_true (idx_lt hx hy)] at hbit
  have hmem : (x, y) ∈ dataPath version size ↔
      idx size (x, y) ∈ (dataPath version size).map (idx size) := by
    refine ⟨mem_map_of_mem, fun hidx => ?_⟩
    obtain ⟨position, hposition, hsame⟩ := List.mem_map.mp hidx
    rwa [← idx_injective (h.lt_size hposition).1 hx hsame]
  rw [hmem, ← testBit_indexSet]
  cases hdrawn : (indexSet ((dataPath version size).map (idx size))).testBit (idx size (x, y)) <;>
    simp_all

end Layout

section Drawing

variable {info : QrVersionInfo} {codewords : List ℕ}

/-- The colours of the modules of a matrix. -/
def bitmapOf (version : ℕ) (codewords : List ℕ) : ℕ × ℕ → Bool :=
  paint (drawFormatBits (sizeOf version) 0)
    (paint (drawData (dataPath version (sizeOf version)) (bitsOfBytes codewords))
      (paint (functionPatterns version (sizeOf version)) fun _ => false))

theorem module_buildQrMatrix {version x y : ℕ} (hx : x < sizeOf version) (hy : y < sizeOf version) :
    (buildQrMatrix version codewords).module x y = bitmapOf version codewords (x, y) := by
  have hindex := idx_lt hx hy
  change ((List.range (sizeOf version * sizeOf version)).map fun index =>
    bitmapOf version codewords (index % sizeOf version, index / sizeOf version)).getD
      (idx (sizeOf version) (x, y)) false = _
  rw [getD_eq_getElem _ _ (by rwa [length_map, length_range]), getElem_map,
    getElem_range, idx, mul_comm, Nat.mul_add_mod, Nat.mod_eq_of_lt hx,
    Nat.mul_add_div (by omega), Nat.div_eq_of_lt hx, add_zero]

section

variable
  (hlayout : Layout info.version (sizeOf info.version) (info.dataCodewords + info.eccCodewords))
include hlayout

/-- The colours of the modules of the format information. -/
theorem map_format (codewords : List ℕ) : (firstFormatCopy.map fun position =>
        (buildQrMatrix info.version codewords).module position.1 position.2) =
      (List.range 15).map (formatBitsL 0).testBit ∧
    ((secondFormatCopy (sizeOf info.version)).map fun position =>
        (buildQrMatrix info.version codewords).module position.1 position.2) =
      (List.range 15).map (formatBitsL 0).testBit := by
  have hdrawn : ((drawFormatBits (sizeOf info.version) 0).map Prod.fst).map
      (fun position => (buildQrMatrix info.version codewords).module position.1 position.2) =
        (drawFormatBits (sizeOf info.version) 0).map Prod.snd := by
    rw [← map_paint _ hlayout.formatOnce]
    refine map_congr_left fun position hposition => ?_
    have hinside := List.all_eq_true.mp hlayout.formatReserved position hposition
    simp only [Bool.and_eq_true, decide_eq_true_eq] at hinside
    exact module_buildQrMatrix hinside.1.2 hinside.2
  have hbits : (drawFormatBits (sizeOf info.version) 0).map Prod.snd =
      (List.range 15).map (formatBitsL 0).testBit ++
        (List.range 15).map (formatBitsL 0).testBit ++ [true] := rfl
  rw [hlayout.format, hbits, map_append, map_append] at hdrawn
  have hcopies := (append_inj' hdrawn rfl).1
  exact append_inj hcopies rfl

/-- Both copies say level L and mask 0. -/
theorem readFormat_buildQrMatrix :
    readFormat (buildQrMatrix info.version codewords) firstFormatCopy = some (1, 0) ∧
      readFormat (buildQrMatrix info.version codewords)
        (secondFormatCopy (sizeOf info.version)) = some (1, 0) := by
  obtain ⟨hfirst, hsecond⟩ := map_format hlayout codewords
  unfold readFormat
  rw [hfirst, hsecond]
  decide +kernel

end

variable {path : List (ℕ × ℕ)} {bits : List Bool} {position : ℕ × ℕ} {bitmap : ℕ × ℕ → Bool}

/-- The bits along the path start with the bits that were drawn, when there is room for them. -/
theorem drawn_bits (hroom : bits.length ≤ path.length) :
    (path.zipIdx.map fun module => bits.getD module.2 false).take bits.length = bits := by
  refine ext_getElem (by simpa using hroom) fun index hleft hright => ?_
  simp [getElem?_eq_getElem hright]

theorem maskPattern_zero : maskPattern 0 position = qrMask0 position := by
  rw [maskPattern, qrMask0, add_comm]

/-- The mask of drawn data is removed by applying it again. -/
theorem unmask_drawData {colour : ℕ × ℕ → Bool}
    (h : path.map colour = (drawData path bits).map Prod.snd) :
    (path.map fun position => (colour position).xor (maskPattern 0 position)) =
      path.zipIdx.map fun module => bits.getD module.2 false := by
  refine ext_getElem (by simp) fun index hleft hright => ?_
  have hindex : index < path.length := by simpa using hleft
  have hsame := congrArg (fun colours => colours[index]?) h
  simp only [drawData, getElem?_map, getElem?_eq_getElem hindex, Option.map_some,
    getElem?_zipIdx, zero_add, Option.some.injEq] at hsame
  rw [getElem_map, getElem_map, getElem_zipIdx, hsame, zero_add, Bool.xor_assoc,
    maskPattern_zero, Bool.xor_self, Bool.xor_false]

/-- The modules of the data have the colours that were drawn for them. -/
theorem map_dataPath {version size count : ℕ} (hlayout : Layout version size count) :
    (dataPath version size).map (paint (drawFormatBits size 0)
        (paint (drawData (dataPath version size) bits) bitmap)) =
      (drawData (dataPath version size) bits).map Prod.snd := by
  have hpath : (drawData (dataPath version size) bits).map Prod.fst = dataPath version size := by
    simp [drawData, Function.comp_def]
  have hnodup := hlayout.nodup_dataPath
  rw [← hpath] at hnodup
  rw [← map_paint bitmap hnodup, hpath]
  refine map_congr_left fun position hposition => paint_of_notMem fun hformat => ?_
  -- The format information is on reserved modules.
  obtain ⟨hx, hy⟩ := hlayout.lt_size hposition
  have hreserved := List.all_eq_true.mp hlayout.formatReserved position hformat
  rw [Bool.and_eq_true, Bool.and_eq_true, (hlayout.mem_dataPath hx hy).mp hposition] at hreserved
  exact Bool.false_ne_true hreserved.1.1

/-- Without the mask, the modules along the path have the bits of the codewords. -/
theorem unmasked_dataPath (hlayout : Layout info.version (sizeOf info.version)
      (info.dataCodewords + info.eccCodewords)) :
    ((readingPath info.version (sizeOf info.version)).map fun position =>
      ((buildQrMatrix info.version codewords).module position.1 position.2).xor
        (maskPattern 0 position)) =
      (dataPath info.version (sizeOf info.version)).zipIdx.map fun module =>
        (bitsOfBytes codewords).getD module.2 false := by
  rw [← hlayout.path]
  refine unmask_drawData ?_
  rw [← map_dataPath hlayout]
  exact map_congr_left fun position hposition =>
    module_buildQrMatrix (hlayout.lt_size hposition).1 (hlayout.lt_size hposition).2

theorem readQr_encodeVersion {bytes : List ℕ} (hinfo : info ∈ qrVersions)
    (hbytes : ∀ byte ∈ bytes, byte < 256) (hfits : bytes.length ≤ info.byteCapacity) :
    readQr (encodeVersion info bytes) = some bytes := by
  have hlayout := layout info hinfo
  have hversions : ∀ info ∈ qrVersions,
      (qrVersions.find? fun other => other.version = info.version) = some info ∧
        8 * info.byteCapacity + 12 ≤ 8 * info.dataCodewords ∧ info.byteCapacity < 256 := by decide
  obtain ⟨hknown, _, _⟩ := hversions info hinfo
  have hdata : 8 * bytes.length + 12 ≤ 8 * info.dataCodewords := by omega
  obtain ⟨hlength, hdataBytes, rest, hrest⟩ := qrDataCodewords_spec hdata
  obtain ⟨heccLength, heccBytes, hcorrects⟩ :=
    reedSolomonRemainder_corrects (divides info hinfo) hdataBytes
  unfold readQr encodeVersion
  dsimp only
  set data := qrDataCodewords bytes info.dataCodewords
  have hbits : (bitsOfBytes (data ++ reedSolomonRemainder data info.eccCodewords)).length =
      8 * (info.dataCodewords + info.eccCodewords) := by
    rw [length_bitsOfBytes, length_append, hlength, heccLength]
  rw [show (buildQrMatrix info.version _).size = sizeOf info.version from rfl, hlayout.known,
    hknown, (readFormat_buildQrMatrix hlayout).1]
  change (if _ then _ else _) = _
  rw [unmasked_dataPath hlayout, ← hbits, drawn_bits (hbits.trans_le hlayout.room),
    bytesOf_bitsOfBytes (forall_mem_append.mpr ⟨hdataBytes, heccBytes⟩), if_pos ⟨rfl, hcorrects⟩,
    take_left' hlength, hrest]
  exact readPayload_payloadBits hbytes (by omega)

end Drawing

/-- Every payload that is not empty and not longer than 106 bytes is encoded, and a byte-mode
reader gets exactly its bytes from the code, whose two copies of the format information both say
level L and mask 0. Other payloads are refused. In every version the drawing of the data goes to
every module that is not reserved exactly once. -/
theorem qr_round_trip (value : String) :
    (if isEmpty (trim value) then encodeQr value = .error (.refused .empty)
      else if 106 < (payloadBytes value).length then
        encodeQr value = .error (.refused (.dataTooLong 106))
      else ∃ qr, encodeQr value = .ok qr ∧ readQr qr = some (payloadBytes value) ∧
        readFormat qr firstFormatCopy = some (1, 0) ∧
        readFormat qr (secondFormatCopy qr.size) = some (1, 0)) ∧
    ∀ info ∈ qrVersions, (dataPath info.version (sizeOf info.version)).Nodup ∧
      ∀ x y, x < sizeOf info.version → y < sizeOf info.version →
        ((x, y) ∈ dataPath info.version (sizeOf info.version) ↔
          (reserved info.version (sizeOf info.version)).testBit
            (idx (sizeOf info.version) (x, y)) = false) := by
  constructor
  · unfold encodeQr
    rcases em (isEmpty (trim value) = true) with hempty | hempty
    · rw [if_pos hempty, if_pos hempty]
    rw [if_neg hempty, if_neg hempty]
    rcases em (106 < (payloadBytes value).length) with hlong | hlong
    · rw [if_pos hlong]
      have hnone : (qrVersions.find? fun info =>
          decide ((payloadBytes value).length ≤ info.byteCapacity)) = none := by
        refine List.find?_eq_none.mpr fun info hinfo => ?_
        have hcapacity : ∀ info ∈ qrVersions, info.byteCapacity ≤ 106 := by decide
        have hle := hcapacity info hinfo
        rw [decide_eq_true_eq]
        omega
      rw [hnone]
      rfl
    · rw [if_neg hlong]
      have hbytes : ∀ byte ∈ payloadBytes value, byte < 256 := by
        intro byte hbyte
        obtain ⟨raw, -, rfl⟩ := List.mem_map.mp hbyte
        exact raw.toNat_lt
      cases hfound : qrVersions.find? fun info =>
          decide ((payloadBytes value).length ≤ info.byteCapacity) with
      | none =>
        have hlast := List.find?_eq_none.mp hfound ⟨5, 108, 26⟩ (by decide)
        rw [decide_eq_true_eq] at hlast
        exact absurd (not_lt.mp hlong) hlast
      | some info =>
        have hinfo := mem_of_find?_eq_some hfound
        have hfits : (payloadBytes value).length ≤ info.byteCapacity := by
          simpa using find?_some hfound
        exact ⟨_, rfl, readQr_encodeVersion hinfo hbytes hfits,
          readFormat_buildQrMatrix (layout info hinfo)⟩
  · intro info hinfo
    exact ⟨(layout info hinfo).nodup_dataPath, fun x y hx hy =>
      (layout info hinfo).mem_dataPath hx hy⟩

/-- Two letters are read again, and the corner opposite to the finder patterns is drawn. -/
theorem short_payload_is_read :
    (∃ qr, encodeQr " WB " = .ok qr ∧ readQr qr = some [0x57, 0x42]) ∧
      (20, 20) ∈ dataPath 1 (sizeOf 1) := by
  obtain ⟨hread, hdrawn⟩ := qr_round_trip " WB "
  have hbytes : payloadBytes " WB " = [0x57, 0x42] := by decide +kernel
  rw [if_neg (by decide +kernel), hbytes, if_neg (by decide)] at hread
  obtain ⟨qr, hqr, hpayload, -⟩ := hread
  refine ⟨⟨qr, hqr, hpayload⟩, ?_⟩
  exact ((hdrawn ⟨1, 19, 7⟩ (by decide)).2 20 20 (by decide) (by decide)).mpr (by decide +kernel)

end Wareboxes.QrReading
