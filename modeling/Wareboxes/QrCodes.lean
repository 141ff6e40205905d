import Wareboxes.Bitmaps
import Wareboxes.Code128

/-!
# QR codes

A QR code of version 1 to 5 in byte mode with error correction level L and mask 0. The payload is
packed into codewords and followed by the error correction codewords. The matrix is drawn as a
list of strokes: first the function patterns, then the bits of the codewords along a zigzag
through the modules that are left, then the format information. A set of indices says which
modules are reserved.
-/

namespace Wareboxes.QrCodes

open RustText Code128 Bitmaps

/-- `EncodedQr`. -/
structure EncodedQr where
  version : ℕ
  size : ℕ
  /-- The modules row by row. -/
  modules : List Bool

/-- `EncodedQr::module`. -/
def EncodedQr.module (qr : EncodedQr) (x y : ℕ) : Bool :=
  qr.modules.getD (y * qr.size + x) false

/-- `QrVersionInfo`. -/
structure QrVersionInfo where
  version : ℕ
  dataCodewords : ℕ
  eccCodewords : ℕ
  deriving DecidableEq

/-- `byte_capacity`: what is left after four bits for the mode and eight for the length. -/
def QrVersionInfo.byteCapacity (info : QrVersionInfo) : ℕ := (info.dataCodewords * 8 - 12) / 8

/-- `QR_VERSIONS`. -/
def qrVersions : List QrVersionInfo :=
  [⟨1, 19, 7⟩, ⟨2, 34, 10⟩, ⟨3, 55, 15⟩, ⟨4, 80, 20⟩, ⟨5, 108, 26⟩]

section Codewords

/-- The bits of mode, length and payload. -/
def payloadBits (data : List ℕ) : List Bool :=
  bitsOf 4 4 ++ bitsOf 8 data.length ++ bitsOfBytes data

/-- The bits with the terminator and up to a whole byte. -/
def terminated (capacity : ℕ) (bits : List Bool) : List Bool :=
  let ended := bits ++ List.replicate (min 4 (capacity - bits.length)) false
  ended ++ List.replicate ((8 - ended.length % 8) % 8) false

/-- The pad codewords in turn. -/
def padCodewords (count : ℕ) : List ℕ :=
  (List.range count).map fun index => if index % 2 = 0 then 0xEC else 0x11

/-- `qr_data_codewords`. -/
def qrDataCodewords (data : List ℕ) (dataCodewords : ℕ) : List ℕ :=
  let result := bytesOf (terminated (dataCodewords * 8) (payloadBits data))
  result ++ padCodewords (dataCodewords - result.length)

/-- The loop of `gf_multiply`. -/
def gfLoop : ℕ → ℕ → ℕ → ℕ → ℕ
  | 0, _, _, z => z
  | rounds + 1, x, y, z =>
    if y = 0 then z
    else gfLoop rounds (x * 2 % 256 ^^^ if x.testBit 7 then 0x1D else 0) (y / 2)
      (if y.testBit 0 then z ^^^ x else z)

/-- `gf_multiply`: a byte is used up after eight rounds. -/
def gfMultiply (x y : ℕ) : ℕ := gfLoop 8 x y 0

/-- One round of `reed_solomon_divisor`. -/
def divisorRound (root : ℕ) : List ℕ → List ℕ
  | [] => []
  | [last] => [gfMultiply last root]
  | coefficient :: next :: rest =>
    (gfMultiply coefficient root ^^^ next) :: divisorRound root (next :: rest)

/-- The rounds of `reed_solomon_divisor`. -/
def divisorRounds : ℕ → ℕ → List ℕ → List ℕ
  | 0, _, result => result
  | rounds + 1, root, result => divisorRounds rounds (gfMultiply root 2) (divisorRound root result)

/-- `reed_solomon_divisor`. -/
def reedSolomonDivisor (degree : ℕ) : List ℕ :=
  divisorRounds degree 1 (List.replicate (degree - 1) 0 ++ [1])

/-- `reed_solomon_remainder`. -/
def reedSolomonRemainder (data : List ℕ) (degree : ℕ) : List ℕ :=
  let divisor := reedSolomonDivisor degree
  data.foldl (fun result byte =>
    let factor := byte ^^^ result.headD 0
    List.zipWith (fun slot coefficient => slot ^^^ gfMultiply coefficient factor)
      (result.tail ++ [0]) divisor) (List.replicate degree 0)

end Codewords

section Matrix

/-- A module and its colour. -/
abbrev Stroke := (ℕ × ℕ) × Bool

/-- `draw_finder`, with a margin of one module. -/
def drawFinder (size x y : ℕ) : List Stroke :=
  (List.range 9).flatMap fun dy => (List.range 9).filterMap fun dx =>
    -- The offsets of the source are one less, so a module before the margin is skipped.
    if x + dx < 1 ∨ y + dy < 1 ∨ size < x + dx ∨ size < y + dy then none
    else
      let inFinder := 1 ≤ dx && dx ≤ 7 && 1 ≤ dy && dy ≤ 7
      let inCore := 3 ≤ dx && dx ≤ 5 && 3 ≤ dy && dy ≤ 5
      some ((x + dx - 1, y + dy - 1),
        inFinder && (dx == 1 || dx == 7 || dy == 1 || dy == 7 || inCore))

/-- `draw_timing`. -/
def drawTiming (size : ℕ) : List Stroke :=
  (List.range' 8 (size - 16)).flatMap fun i => [((i, 6), i % 2 == 0), ((6, i), i % 2 == 0)]

/-- `draw_alignment`. -/
def drawAlignment (version : ℕ) : List Stroke :=
  if version = 1 then []
  else
    let corner := 4 * version + 8
    (List.range 5).flatMap fun dy => (List.range 5).map fun dx =>
      ((corner + dx, corner + dy),
        dx == 0 || dx == 4 || dy == 0 || dy == 4 || (dx == 2 && dy == 2))

/-- `reserve_format_areas`. -/
def formatAreas (size : ℕ) : List (ℕ × ℕ) :=
  ((List.range 9).filter (· ≠ 6)).flatMap (fun i => [(8, i), (i, 8)]) ++
    (List.range 8).flatMap fun i => [(size - 1 - i, 8), (8, size - 1 - i)]

/-- The function patterns. -/
def functionPatterns (version size : ℕ) : List Stroke :=
  drawFinder size 0 0 ++ drawFinder size (size - 7) 0 ++ drawFinder size 0 (size - 7) ++
    drawTiming size ++ drawAlignment version ++ [((8, 4 * version + 9), true)]

/-- `idx`. -/
def idx (size : ℕ) (position : ℕ × ℕ) : ℕ := position.2 * size + position.1

/-- The reserved modules before the data are drawn. -/
def reserved (version size : ℕ) : ℕ :=
  indexSet (((functionPatterns version size).map Prod.fst ++ formatAreas size).map (idx size))

/-- The right columns of the pairs that `draw_data` goes through, and whether it goes up. -/
def dataColumns : ℕ → ℕ → Bool → List (ℕ × Bool)
  | 0, _, _ => []
  | rounds + 1, right, upward =>
    if right = 0 then []
    else
      let right := if right = 6 then 5 else right
      (right, upward) :: dataColumns rounds (right - 2) (!upward)

/-- The modules that `draw_data` looks at, in their order. -/
def zigzag (size : ℕ) : List (ℕ × ℕ) :=
  (dataColumns size (size - 1) true).flatMap fun column =>
    (List.range size).flatMap fun vert =>
      let y := if column.2 then size - 1 - vert else vert
      [(column.1, y), (column.1 - 1, y)]

/-- The modules that `draw_data` sets. -/
def dataPath (version size : ℕ) : List (ℕ × ℕ) :=
  (zigzag size).filter fun position => !(reserved version size).testBit (idx size position)

/-- `qr_mask_0`. -/
def qrMask0 (position : ℕ × ℕ) : Bool := (position.1 + position.2) % 2 == 0

/-- `draw_data`. Modules after the last bit are drawn as a zero. -/
def drawData (path : List (ℕ × ℕ)) (bits : List Bool) : List Stroke :=
  path.zipIdx.map fun module =>
    (module.1, (bits.getD module.2 false).xor (qrMask0 module.1))

/-- The rounds of `format_bits_l`. -/
def formatRemainder : ℕ → ℕ → ℕ
  | 0, rem => rem
  | rounds + 1, rem =>
    formatRemainder rounds ((rem * 2 % 2 ^ 16) ^^^ if rem.testBit 9 then 0x537 else 0)

/-- `format_bits_l`. -/
def formatBitsL (mask : ℕ) : ℕ :=
  let data := 1 * 2 ^ 3 ||| mask
  (data * 2 ^ 10 ||| formatRemainder 10 data &&& 0x3FF) ^^^ 0x5412

/-- `draw_format_bits`. -/
def drawFormatBits (size mask : ℕ) : List Stroke :=
  let bit := (formatBitsL mask).testBit
  (List.range 6).map (fun i => ((8, i), bit i)) ++
    [((8, 7), bit 6), ((8, 8), bit 7), ((7, 8), bit 8)] ++
    (List.range' 9 6).map (fun i => ((14 - i, 8), bit i)) ++
    (List.range 8).map (fun i => ((size - 1 - i, 8), bit i)) ++
    (List.range' 8 7).map (fun i => ((8, size - 15 + i), bit i)) ++ [((8, size - 8), true)]

/-- `build_qr_matrix`. -/
def buildQrMatrix (version : ℕ) (codewords : List ℕ) : EncodedQr :=
  let size := 21 + (version - 1) * 4
  let bitmap := paint (drawFormatBits size 0)
    (paint (drawData (dataPath version size) (bitsOfBytes codewords))
      (paint (functionPatterns version size) fun _ => false))
  { version := version
    size := size
    modules := (List.range (size * size)).map fun index => bitmap (index % size, index / size) }

end Matrix

/-- The payload as bytes. -/
def payloadBytes (value : String) : List ℕ :=
  (trim value).toUTF8.data.toList.map UInt8.toNat

/-- The code of a payload in a version. -/
def encodeVersion (info : QrVersionInfo) (bytes : List ℕ) : EncodedQr :=
  let data := qrDataCodewords bytes info.dataCodewords
  buildQrMatrix info.version (data ++ reedSolomonRemainder data info.eccCodewords)

/-- `encode_qr`. -/
def encodeQr (value : String) : Except Fault EncodedQr :=
  if isEmpty (trim value) then .error (.refused .empty)
  else
    match qrVersions.find? fun info => (payloadBytes value).length ≤ info.byteCapacity with
    | some info => .ok (encodeVersion info (payloadBytes value))
    | none => .error (.refused (.dataTooLong
        ((qrVersions.getLast?.map QrVersionInfo.byteCapacity).getD 0)))

end Wareboxes.QrCodes
