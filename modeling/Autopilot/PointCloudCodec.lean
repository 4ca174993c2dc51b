/-
Point clouds as they are stored (`types.ts`, `pack.ts`).

A cloud is a document whose coordinates, colours and sizes are base64 texts of bytes. The byte
decoder takes the texts that its encoder writes and no others, so each list of bytes has one text.
The global functions `atob` and `btoa` are those of the standard.
-/
import Autopilot.Js
import Autopilot.Lib.Base64
import Autopilot.Lib.Collected
import Autopilot.Lib.LittleEndian

set_option autoImplicit false

namespace Autopilot
namespace PointClouds

open Collected (refuseIf refuseIf_ok bind_ok bind_ok_iff)

/-! ## The documents -/

/-- `PointCloudDimensions`. -/
structure PointCloudDimensions where
  width : ℤ
  height : ℤ
  deriving DecidableEq

/-- `Vector3`. -/
structure Vector3 (K : Type) where
  x : K
  y : K
  z : K
  deriving DecidableEq

/-- `PointCloudBounds`. -/
structure PointCloudBounds (K : Type) where
  min : Vector3 K
  max : Vector3 K
  deriving DecidableEq

/-- `ColorHistogramBucket`. -/
structure ColorHistogramBucket (K : Type) where
  rgb : ℕ × ℕ × ℕ
  count : ℕ
  ratio : K
  deriving DecidableEq

/-- `ColorHistogramSummary`. -/
structure ColorHistogramSummary (K : Type) where
  bucketSize : ℕ
  bucketCount : ℕ
  top : List (ColorHistogramBucket K)
  deriving DecidableEq

/-- `PointCloudOptionsSummary`. -/
structure PointCloudOptionsSummary (K : Type) where
  sampleStep : ℤ
  alphaThreshold : K
  brightnessFloor : K
  depthAmp : K
  includeSizes : Bool
  basePointSize : ℤ
  histogramBuckets : ℤ
  regionCount : ℤ
  shapeCount : ℤ
  targetCount : Option ℤ
  deriving DecidableEq

/-- `PointCloudStats`. -/
structure PointCloudStats (K : Type) where
  pointCount : ℤ
  candidateCount : ℤ
  sampledPixelCount : ℤ
  maskedPixelCount : ℤ
  shapeExcludedCount : ℤ
  thinnedCount : ℤ
  weightThinnedCount : ℤ
  quotaSkippedCount : ℤ
  targetThinnedCount : ℤ
  maskedRatio : K
  thinnedRatio : K
  aspectRatio : K
  averageLuma : K
  seed : JsString
  optionsSummary : PointCloudOptionsSummary K
  bbox : PointCloudBounds K
  dims : PointCloudDimensions
  sampleStep : ℤ
  colorHistogram : ColorHistogramSummary K
  deriving DecidableEq

/-- The encodings of the payloads. -/
structure PointCloudEncoding where
  positions : JsString
  colors : JsString
  sizes : Option JsString
  facetPositions : Option JsString
  facetColors : Option JsString
  edges : Option JsString
  deriving DecidableEq

/-- `EncodedPointCloud`. -/
structure EncodedPointCloud (K : Type) where
  schemaVersion : ℤ
  encoding : PointCloudEncoding
  pointCount : ℤ
  dims : PointCloudDimensions
  sampleStep : ℤ
  positions : JsString
  colors : JsString
  sizes : Option JsString
  facetCount : Option ℤ
  facetPositions : Option JsString
  facetColors : Option JsString
  edgeCount : Option ℤ
  edges : Option JsString
  stats : PointCloudStats K
  deriving DecidableEq

/-- `DecodedPointCloud`. A coordinate is given by the bits of its float. -/
structure DecodedPointCloud (K : Type) where
  pointCount : ℤ
  dims : PointCloudDimensions
  positions : List UInt32
  colors : List UInt8
  sizes : Option (List UInt8)
  stats : PointCloudStats K
  deriving DecidableEq

/-! ## Base64 -/

def maxPointCloudPoints : ℕ := 10000000

/-- `MAX_DECODED_POINT_CLOUD_BYTES`. -/
def maxDecodedPointCloudBytes : ℕ := 256 * 1024 * 1024

/-- `Number.MAX_SAFE_INTEGER`. -/
def maxSafeInteger : ℕ := 2 ^ 53 - 1

def numberText (n : ℤ) : JsString := js (toString n)

/-- `[A-Za-z0-9+/]`. -/
def isBase64Letter (c : UInt16) : Bool := (Base64.standardValue c).isSome

/-- `getBase64PaddingLength`. -/
def getBase64PaddingLength (value : JsString) : ℕ :=
  if js "==" <:+ value then 2 else if js "=" <:+ value then 1 else 0

/-- `getDecodedBase64ByteLength`. -/
def getDecodedBase64ByteLength (value : JsString) : ℕ :=
  if value.length = 0 then 0 else value.length / 4 * 3 - getBase64PaddingLength value

/-- The text matches `/^[A-Za-z0-9+/]*={0,2}$/`. -/
def isBase64Text (value : JsString) : Bool :=
  let rest := value.dropWhile isBase64Letter
  rest = [] || rest = js "=" || rest = js "=="

/-- `assertCanonicalBase64Text`. -/
def assertCanonicalBase64Text (value label : JsString) : Except JsString Unit := do
  if value.length = 0 then
    return ()
  else
    refuseIf (value.length % 4 ≠ 0)
      (label ++ js " payload base64 length must be a multiple of 4")
    refuseIf (!isBase64Text value)
      (label ++ js " payload must be canonical base64 without whitespace or base64url characters")
    refuseIf (61 ∈ value && value.idxOf 61 < value.length - getBase64PaddingLength value)
      (label ++ js " payload base64 padding must appear only at the end")

/-- `atob`. -/
def atob (value : JsString) : Except JsString JsString :=
  match Base64.decodeStrict? value with
  | some bytes => .ok (bytes.map (·.toUInt16))
  | none => .error (js "The string to be decoded is not correctly encoded.")

/-- `btoa`, of a text whose units are bytes. -/
def btoa (binary : JsString) : JsString := Base64.encode (binary.map (·.toUInt8))

/-- The text of bytes, put together from chunks. -/
def binaryText : ℕ → List UInt8 → JsString
  | 0, _ => []
  | chunks + 1, bytes =>
    (bytes.take 0x8000).map (·.toUInt16) ++ binaryText chunks (bytes.drop 0x8000)

/-- `encodeBytesBase64`. -/
def encodeBytesBase64 (bytes : List UInt8) : JsString :=
  if bytes.length = 0 then [] else btoa (binaryText ((bytes.length + 0x7fff) / 0x8000) bytes)

/-- `decodeBase64String`. -/
def decodeBase64String (value label : JsString) : Except JsString JsString :=
  (atob value).mapError fun message => label ++ js " payload is invalid base64: " ++ message

/-- `decodeBase64ToBytes`. -/
def decodeBase64ToBytes (value label : JsString) (expectedByteLength : Option ℕ) :
    Except JsString (List UInt8) := do
  assertCanonicalBase64Text value label
  let decodedByteLength := getDecodedBase64ByteLength value
  refuseIf (expectedByteLength.any fun expected => decodedByteLength ≠ expected)
    (label ++ js " payload decodes to " ++ numberText decodedByteLength ++ js " bytes, expected " ++
      numberText (expectedByteLength.getD 0))
  refuseIf (decodedByteLength > maxDecodedPointCloudBytes)
    (label ++ js " payload decodes to " ++ numberText decodedByteLength ++
      js " bytes, exceeding limit " ++ numberText maxDecodedPointCloudBytes)
  let binary ← decodeBase64String value label
  refuseIf (binary.length ≠ decodedByteLength)
    (label ++ js " payload decoded length mismatch")
  let bytes := binary.map (·.toUInt8)
  refuseIf (encodeBytesBase64 bytes ≠ value) (label ++ js " payload must be canonical base64")
  return bytes

/-! ## Typed arrays -/

/-- `encodeUint8Base64`. -/
def encodeUint8Base64 (values : List UInt8) : JsString := encodeBytesBase64 values

/-- `encodeUint16Base64`. -/
def encodeUint16Base64 (values : List UInt16) : JsString :=
  encodeBytesBase64 (values.flatMap fun value => LittleEndian.word 2 value.toNat)

/-- `encodeFloat32Base64`, of the bits of the floats. -/
def encodeFloat32Base64 (values : List UInt32) : JsString :=
  encodeBytesBase64 (values.flatMap fun value => LittleEndian.word 4 value.toNat)

/-- `checkedValueCount`. -/
def checkedValueCount (label : JsString) (value : ℤ) : Except JsString ℕ := do
  refuseIf (value > maxSafeInteger || value < 0)
    (label ++ js " expected length must be a safe non-negative integer")
  return value.toNat

/-- `checkedByteLength`. -/
def checkedByteLength (label : JsString) (valueCount : ℤ) (bytesPerValue : ℕ) :
    Except JsString ℕ := do
  let checkedCount ← checkedValueCount label valueCount
  refuseIf (checkedCount > maxSafeInteger / bytesPerValue)
    (label ++ js " payload byte length exceeds safe integer bounds")
  return checkedCount * bytesPerValue

/-- `decodeFloat32Base64`. -/
def decodeFloat32Base64 (value : JsString) (expectedLength : Option ℤ) :
    Except JsString (List UInt32) := do
  let expectedByteLength ← expectedLength.mapM fun length =>
    checkedByteLength (js "positions") length 4
  let bytes ← decodeBase64ToBytes value (js "positions") expectedByteLength
  refuseIf (bytes.length % 4 ≠ 0) (js "positions payload length must be divisible by 4")
  let result := (LittleEndian.words 4 (bytes.length / 4) bytes).map (·.toUInt32)
  refuseIf (expectedLength.any fun length => (result.length : ℤ) ≠ length)
    (js "positions payload has " ++ numberText result.length ++ js " values, expected " ++
      numberText (expectedLength.getD 0))
  return result

/-- `decodeUint8Base64`. -/
def decodeUint8Base64 (value : JsString) (expectedLength : Option ℤ) (label : JsString) :
    Except JsString (List UInt8) := do
  let expectedByteLength ← expectedLength.mapM fun length => checkedValueCount label length
  let result ← decodeBase64ToBytes value label expectedByteLength
  refuseIf (expectedLength.any fun length => (result.length : ℤ) ≠ length)
    (label ++ js " payload has " ++ numberText result.length ++ js " values, expected " ++
      numberText (expectedLength.getD 0))
  return result

/-- `decodeUint16Base64`. -/
def decodeUint16Base64 (value label : JsString) : Except JsString (List UInt16) := do
  let bytes ← decodeBase64ToBytes value label none
  refuseIf (bytes.length % 2 ≠ 0) (label ++ js " payload length must be divisible by 2")
  return (LittleEndian.words 2 (bytes.length / 2) bytes).map (·.toUInt16)

/-! ## Decoding a cloud -/

section cloud

variable {K : Type}

/-- `validatePointCount`. -/
def validatePointCount (value : ℤ) : Except JsString ℤ := do
  refuseIf (value < -(maxSafeInteger : ℤ) || value > maxSafeInteger || value < 0 ||
      value > maxPointCloudPoints)
    (js "pointCount must be a safe non-negative integer <= " ++ numberText maxPointCloudPoints)
  return value

/-- `validateEncodedMetadata`. -/
def validateEncodedMetadata (encoded : EncodedPointCloud K) (pointCount : ℤ) :
    Except JsString Unit := do
  refuseIf (encoded.stats.pointCount ≠ pointCount)
    (js "stats.pointCount " ++ numberText encoded.stats.pointCount ++
      js " does not match pointCount " ++ numberText pointCount)
  refuseIf (encoded.stats.dims.width ≠ encoded.dims.width ||
      encoded.stats.dims.height ≠ encoded.dims.height)
    (js "stats.dims does not match encoded dims")
  refuseIf (encoded.stats.sampleStep ≠ encoded.sampleStep)
    (js "stats.sampleStep does not match encoded sampleStep")
  refuseIf (encoded.sizes.isSome ≠ encoded.encoding.sizes.isSome)
    (js "sizes payload and encoding metadata must be present together")
  refuseIf (encoded.sizes.isSome && encoded.encoding.sizes ≠ some (js "base64:u8"))
    (js "sizes payload exists without base64:u8 encoding")
  refuseIf (encoded.stats.optionsSummary.includeSizes ≠ encoded.sizes.isSome)
    (js "sizes payload does not match stats.optionsSummary.includeSizes")

/-- The bytes of the sizes, if there are any. -/
def expectedSizeBytes (hasSizesPayload : Bool) (pointCount : ℤ) : Except JsString ℕ :=
  if hasSizesPayload then checkedValueCount (js "sizes") pointCount else .ok 0

/-- `decodePointCloud`. -/
def decodePointCloud (encoded : EncodedPointCloud K) :
    Except JsString (DecodedPointCloud K) := do
  refuseIf (encoded.schemaVersion ≠ 1)
    (js "unsupported point cloud schemaVersion: " ++ numberText encoded.schemaVersion)
  refuseIf (encoded.encoding.positions ≠ js "base64:f32le" ||
      encoded.encoding.colors ≠ js "base64:u8") (js "unsupported point cloud encoding")
  let pointCount ← validatePointCount encoded.pointCount
  validateEncodedMetadata encoded pointCount
  let expectedPositionsLength ← checkedValueCount (js "positions") (pointCount * 3)
  let expectedColorsLength ← checkedValueCount (js "colors") (pointCount * 3)
  let positionBytes ← checkedByteLength (js "positions") expectedPositionsLength 4
  let colorBytes ← checkedValueCount (js "colors") expectedColorsLength
  let sizeBytes ← expectedSizeBytes encoded.sizes.isSome pointCount
  let totalExpectedBytes := positionBytes + colorBytes + sizeBytes
  refuseIf (totalExpectedBytes > maxDecodedPointCloudBytes)
    (js "point cloud payload would decode " ++ numberText totalExpectedBytes ++
      js " bytes, exceeding limit " ++ numberText maxDecodedPointCloudBytes)
  let positions ← decodeFloat32Base64 encoded.positions (some expectedPositionsLength)
  let colors ← decodeUint8Base64 encoded.colors (some expectedColorsLength) (js "colors")
  let sizes ← encoded.sizes.mapM fun sizes =>
    decodeUint8Base64 sizes (some pointCount) (js "sizes")
  return {
    pointCount
    dims := encoded.dims
    positions
    colors
    sizes
    stats := encoded.stats
  }

end cloud

/-! ## The texts that are taken -/

theorem binaryText_eq {chunks : ℕ} {bytes : List UInt8} (h : bytes.length ≤ chunks * 0x8000) :
    binaryText chunks bytes = bytes.map (·.toUInt16) := by
  induction chunks generalizing bytes with
  | zero =>
    rw [List.eq_nil_of_length_eq_zero (by omega : bytes.length = 0)]
    rfl
  | succ chunks ih =>
    have hrest : (bytes.drop 0x8000).length ≤ chunks * 0x8000 := by
      rw [List.length_drop]
      omega
    rw [binaryText, ih hrest, ← List.map_append, List.take_append_drop]

theorem map_toUInt8 (bytes : List UInt8) : (bytes.map (·.toUInt16)).map (·.toUInt8) = bytes := by
  rw [List.map_map]
  refine List.map_id'' (fun b => ?_) bytes
  exact UInt8.toNat.inj (by simp)

/-- The chunks make no difference to the text. -/
theorem encodeBytesBase64_eq (bytes : List UInt8) :
    encodeBytesBase64 bytes = Base64.encode bytes := by
  unfold encodeBytesBase64
  by_cases hempty : bytes.length = 0
  · rw [if_pos hempty, List.eq_nil_of_length_eq_zero hempty]
    rfl
  · rw [if_neg hempty, btoa, binaryText_eq (by omega), map_toUInt8]

theorem getBase64PaddingLength_encode (bytes : List UInt8) :
    getBase64PaddingLength (Base64.encode bytes) = Base64.padding bytes.length := by
  have hletters := Base64.letters_no_pad bytes
  have htwo : js "==" = [Base64.pad, Base64.pad] := by decide
  have hone : js "=" = [Base64.pad] := by decide
  have hle : Base64.padding bytes.length ≤ 2 := by
    unfold Base64.padding
    omega
  rw [getBase64PaddingLength, Base64.encode_eq, htwo, hone]
  simp only [Base64.two_pads_suffix hletters, Base64.pad_suffix hletters]
  split_ifs <;> omega

/-- The length of the text gives the count of the bytes. -/
theorem getDecodedBase64ByteLength_encode (bytes : List UInt8) :
    getDecodedBase64ByteLength (Base64.encode bytes) = bytes.length := by
  rw [getDecodedBase64ByteLength, getBase64PaddingLength_encode, Base64.length_encode,
    Base64.padding]
  split_ifs <;> omega

theorem isBase64Letter_letter {n : ℕ} (h : n < 64) : isBase64Letter (Base64.letter n) = true := by
  rw [isBase64Letter, Base64.standardValue_letter h]
  rfl

theorem isBase64Text_encode (bytes : List UInt8) : isBase64Text (Base64.encode bytes) = true := by
  have hletters : ∀ c ∈ (Base64.sextets bytes).map Base64.letter, isBase64Letter c = true := by
    intro c hc
    obtain ⟨n, hn, rfl⟩ := List.mem_map.1 hc
    exact isBase64Letter_letter (Base64.sextets_lt bytes n hn)
  have hle : Base64.padding bytes.length ≤ 2 := by
    unfold Base64.padding
    omega
  rw [isBase64Text, Base64.encode_eq, List.dropWhile_append_of_pos hletters]
  generalize Base64.padding bytes.length = k at hle
  interval_cases k <;> decide

/-- The first pad stands behind the letters. -/
theorem idxOf_pad_encode (bytes : List UInt8) :
    (Base64.encode bytes).length - getBase64PaddingLength (Base64.encode bytes) ≤
      (Base64.encode bytes).idxOf 61 := by
  have hletters : (61 : UInt16) ∉ (Base64.sextets bytes).map Base64.letter :=
    Base64.letters_no_pad bytes
  rw [getBase64PaddingLength_encode, Base64.encode_eq, List.idxOf_append_of_notMem hletters,
    List.length_append, List.length_replicate]
  omega

theorem assertCanonicalBase64Text_encode (bytes : List UInt8) (label : JsString) :
    assertCanonicalBase64Text (Base64.encode bytes) label = .ok () := by
  have hlength : (Base64.encode bytes).length % 4 = 0 := by
    rw [Base64.length_encode]
    omega
  unfold assertCanonicalBase64Text
  by_cases hempty : (Base64.encode bytes).length = 0
  · rw [if_pos hempty]
    rfl
  · rw [if_neg hempty, bind_ok_iff]
    refine ⟨(), refuseIf_ok.2 (by simp [hlength]), ?_⟩
    rw [bind_ok_iff]
    refine ⟨(), refuseIf_ok.2 (by rw [isBase64Text_encode]; rfl), refuseIf_ok.2 ?_⟩
    rw [Bool.and_eq_false_imp]
    intro _
    exact decide_eq_false (Nat.not_lt.2 (idxOf_pad_encode bytes))

/-- **The byte decoder takes the texts of bytes.** They are those that the encoder writes, with
as many bytes as expected, up to the limit. -/
theorem decodeBase64ToBytes_ok {value label : JsString} {expected : Option ℕ}
    {bytes : List UInt8} :
    decodeBase64ToBytes value label expected = .ok bytes ↔
      encodeBytesBase64 bytes = value ∧ (∀ count ∈ expected, bytes.length = count) ∧
        bytes.length ≤ maxDecodedPointCloudBytes := by
  constructor
  · intro h
    obtain ⟨-, -, h⟩ := bind_ok h
    obtain ⟨_, hexpected, h⟩ := bind_ok h
    obtain ⟨_, hlimit, h⟩ := bind_ok h
    obtain ⟨binary, -, h⟩ := bind_ok h
    obtain ⟨-, -, h⟩ := bind_ok h
    obtain ⟨_, hrefused, h⟩ := bind_ok h
    have hbytes := Except.ok.inj h
    rw [refuseIf_ok, hbytes] at hrefused
    have hsame := of_not_not (of_decide_eq_false hrefused)
    rw [← hsame, encodeBytesBase64_eq, getDecodedBase64ByteLength_encode, refuseIf_ok]
      at hexpected hlimit
    refine ⟨hsame, fun count hcount => ?_, Nat.not_lt.1 (of_decide_eq_false hlimit)⟩
    rw [hcount, Option.any_some] at hexpected
    exact of_not_not (of_decide_eq_false hexpected)
  · rintro ⟨rfl, hexpected, hlimit⟩
    have hbinary : decodeBase64String (encodeBytesBase64 bytes) label =
        .ok (bytes.map (·.toUInt16)) := by
      rw [decodeBase64String, atob, encodeBytesBase64_eq, Base64.decodeStrict_encode]
      rfl
    have hcount : (expected.any fun count => bytes.length ≠ count) = false := by
      cases expected with
      | none => rfl
      | some count => simpa using hexpected count rfl
    rw [encodeBytesBase64_eq] at hbinary ⊢
    have hlength := getDecodedBase64ByteLength_encode bytes
    refine bind_ok_iff.2 ⟨(), assertCanonicalBase64Text_encode bytes label, ?_⟩
    dsimp only
    rw [hlength, hbinary]
    refine bind_ok_iff.2 ⟨(), refuseIf_ok.2 hcount, ?_⟩
    refine bind_ok_iff.2 ⟨(), refuseIf_ok.2 (decide_eq_false (Nat.not_lt.2 hlimit)), ?_⟩
    refine bind_ok_iff.2 ⟨_, rfl, ?_⟩
    refine bind_ok_iff.2 ⟨(), refuseIf_ok.2 (by simp), ?_⟩
    rw [map_toUInt8, encodeBytesBase64_eq]
    exact bind_ok_iff.2 ⟨(), refuseIf_ok.2 (by simp), rfl⟩

/-! ## Typed arrays and their texts -/

theorem checkedValueCount_ok {label : JsString} {value : ℤ} {count : ℕ} :
    checkedValueCount label value = .ok count ↔ value = count ∧ count ≤ maxSafeInteger := by
  rw [checkedValueCount, bind_ok_iff]
  constructor
  · rintro ⟨_, hrefused, h⟩
    rw [refuseIf_ok, Bool.or_eq_false_iff] at hrefused
    have hhigh := of_decide_eq_false hrefused.1
    have hlow := of_decide_eq_false hrefused.2
    have hcount : value.toNat = count := Except.ok.inj h
    omega
  · rintro ⟨rfl, hlimit⟩
    refine ⟨(), refuseIf_ok.2 (Bool.or_eq_false_iff.2 ⟨?_, ?_⟩), rfl⟩
    · exact decide_eq_false (by omega)
    · exact decide_eq_false (by omega)

theorem checkedByteLength_ok {label : JsString} {value : ℤ} {width count : ℕ} (hwidth : 0 < width) :
    checkedByteLength label value width = .ok count ↔
      ∃ values : ℕ, value = values ∧ count = values * width ∧ count ≤ maxSafeInteger := by
  rw [checkedByteLength, bind_ok_iff]
  constructor
  · rintro ⟨values, hvalues, h⟩
    obtain ⟨_, hrefused, h⟩ := bind_ok h
    have hroom := Nat.not_lt.1 (of_decide_eq_false (refuseIf_ok.1 hrefused))
    obtain rfl : values * width = count := Except.ok.inj h
    rw [Nat.le_div_iff_mul_le hwidth] at hroom
    exact ⟨values, (checkedValueCount_ok.1 hvalues).1, rfl, hroom⟩
  · rintro ⟨values, rfl, rfl, hroom⟩
    have hvalues : values ≤ maxSafeInteger := (Nat.le_mul_of_pos_right _ hwidth).trans hroom
    refine ⟨values, checkedValueCount_ok.2 ⟨rfl, hvalues⟩, bind_ok_iff.2 ⟨(), ?_, rfl⟩⟩
    exact refuseIf_ok.2 (decide_eq_false (Nat.not_lt.2 ((Nat.le_div_iff_mul_le hwidth).2 hroom)))

/-- Bytes come back from their text, and no other text gives them. -/
theorem decodeUint8Base64_ok {value label : JsString} {expected : Option ℕ}
    {values : List UInt8} :
    decodeUint8Base64 value (expected.map (↑)) label = .ok values ↔
      encodeUint8Base64 values = value ∧ (∀ count ∈ expected, values.length = count) ∧
        values.length ≤ maxDecodedPointCloudBytes := by
  have hsafe : maxDecodedPointCloudBytes ≤ maxSafeInteger := by decide
  rw [decodeUint8Base64, bind_ok_iff]
  constructor
  · rintro ⟨count, -, h⟩
    obtain ⟨bytes, hbytes, h⟩ := bind_ok h
    obtain ⟨_, hrefused, h⟩ := bind_ok h
    obtain rfl : bytes = values := Except.ok.inj h
    obtain ⟨hvalue, -, hlimit⟩ := decodeBase64ToBytes_ok.1 hbytes
    refine ⟨hvalue, fun n hn => ?_, hlimit⟩
    rw [hn] at hrefused
    simpa using refuseIf_ok.1 hrefused
  · rintro ⟨hvalue, hexpected, hlimit⟩
    refine ⟨expected, ?_, bind_ok_iff.2 ⟨values, ?_, bind_ok_iff.2 ⟨(), ?_, rfl⟩⟩⟩
    · cases expected with
      | none => rfl
      | some count =>
        have hcount := hexpected count rfl
        have hok : checkedValueCount label (count : ℤ) = .ok count :=
          checkedValueCount_ok.2 ⟨rfl, by omega⟩
        show (some <$> checkedValueCount label (count : ℤ)) = .ok (some count)
        rw [hok]
        rfl
    · exact decodeBase64ToBytes_ok.2 ⟨hvalue, hexpected, hlimit⟩
    · refine refuseIf_ok.2 ?_
      cases expected with
      | none => rfl
      | some count => simpa using hexpected count rfl

/-- Floats come back from their text, bit by bit, and no other text gives them. -/
theorem decodeFloat32Base64_ok {value : JsString} {expected : Option ℕ}
    {values : List UInt32} :
    decodeFloat32Base64 value (expected.map (↑)) = .ok values ↔
      encodeFloat32Base64 values = value ∧ (∀ count ∈ expected, values.length = count) ∧
        values.length * 4 ≤ maxDecodedPointCloudBytes := by
  have hsafe : maxDecodedPointCloudBytes ≤ maxSafeInteger := by decide
  rw [decodeFloat32Base64, bind_ok_iff]
  constructor
  · rintro ⟨count, -, h⟩
    obtain ⟨bytes, hbytes, h⟩ := bind_ok h
    obtain ⟨_, hwhole, h⟩ := bind_ok h
    obtain ⟨_, hrefused, h⟩ := bind_ok h
    have hvalues := Except.ok.inj h
    obtain ⟨hvalue, -, hlimit⟩ := decodeBase64ToBytes_ok.1 hbytes
    have hfour : bytes.length % 4 = 0 := by simpa using refuseIf_ok.1 hwhole
    have hlength : bytes.length = bytes.length / 4 * 4 := by omega
    have hback : (values.flatMap fun value => LittleEndian.word 4 value.toNat) = bytes := by
      rw [← hvalues]
      exact LittleEndian.flatMap_typed (fun n hn => UInt32.toNat_ofNat_of_lt' hn) hlength
    have hcount : bytes.length = values.length * 4 := by
      rw [← hback]
      exact LittleEndian.length_typed values
    refine ⟨by rw [encodeFloat32Base64, hback, hvalue], fun n hn => ?_, by omega⟩
    rw [hn, hvalues] at hrefused
    simpa using refuseIf_ok.1 hrefused
  · rintro ⟨hvalue, hexpected, hlimit⟩
    have hlength : (values.flatMap fun value => LittleEndian.word 4 value.toNat).length =
        values.length * 4 := LittleEndian.length_typed values
    have hwords : (LittleEndian.words 4 values.length
        (values.flatMap fun value => LittleEndian.word 4 value.toNat)).map (·.toUInt32) = values :=
      LittleEndian.words_typed (fun value => value.toNat_lt) (fun value => UInt32.ofNat_toNat)
        values
    have hcount : (values.flatMap fun value => LittleEndian.word 4 value.toNat).length / 4 =
        values.length := by omega
    refine ⟨expected.map (· * 4), ?_, bind_ok_iff.2
      ⟨values.flatMap fun value => LittleEndian.word 4 value.toNat, ?_, bind_ok_iff.2
        ⟨(), refuseIf_ok.2 (by rw [hlength]; simp), ?_⟩⟩⟩
    · cases expected with
      | none => rfl
      | some count =>
        have hn := hexpected count rfl
        have hok : checkedByteLength (js "positions") (count : ℤ) 4 = .ok (count * 4) :=
          (checkedByteLength_ok (by decide)).2 ⟨count, rfl, rfl, by omega⟩
        show (some <$> checkedByteLength (js "positions") (count : ℤ) 4) = .ok (some (count * 4))
        rw [hok]
        rfl
    · refine decodeBase64ToBytes_ok.2 ⟨hvalue, fun n hn => ?_, by rwa [hlength]⟩
      obtain ⟨count, hexp, rfl⟩ := Option.mem_map.1 hn
      rw [hlength, hexpected count hexp]
    · dsimp only
      rw [hcount, hwords]
      refine bind_ok_iff.2 ⟨(), refuseIf_ok.2 ?_, rfl⟩
      cases expected with
      | none => rfl
      | some count => simpa using hexpected count rfl

theorem encodeBytesBase64_injective : Function.Injective encodeBytesBase64 := by
  intro a b h
  rw [encodeBytesBase64_eq, encodeBytesBase64_eq] at h
  have hdecoded := congrArg Base64.decodeStrict? h
  rw [Base64.decodeStrict_encode, Base64.decodeStrict_encode] at hdecoded
  exact Option.some.inj hdecoded

theorem encodeFloat32Base64_injective : Function.Injective encodeFloat32Base64 := by
  intro a b h
  have hbytes : (a.flatMap fun value => LittleEndian.word 4 value.toNat) =
      b.flatMap fun value => LittleEndian.word 4 value.toNat := encodeBytesBase64_injective h
  have hlength (values : List UInt32) :
      (values.flatMap fun value => LittleEndian.word 4 value.toNat).length = values.length * 4 :=
    LittleEndian.length_typed values
  have hwords (values : List UInt32) : (LittleEndian.words 4 values.length
      (values.flatMap fun value => LittleEndian.word 4 value.toNat)).map (·.toUInt32) = values :=
    LittleEndian.words_typed (fun value => value.toNat_lt) (fun value => UInt32.ofNat_toNat) values
  have hsame : a.length = b.length := by
    have hbytesLength := congrArg List.length hbytes
    rw [hlength, hlength] at hbytesLength
    omega
  rw [← hwords a, ← hwords b, hbytes, hsame]

/-- Short numbers come back from their text. -/
theorem decodeUint16Base64_ok {value label : JsString} {values : List UInt16} :
    decodeUint16Base64 value label = .ok values ↔
      encodeUint16Base64 values = value ∧ values.length * 2 ≤ maxDecodedPointCloudBytes := by
  rw [decodeUint16Base64, bind_ok_iff]
  constructor
  · rintro ⟨bytes, hbytes, h⟩
    obtain ⟨_, hwhole, h⟩ := bind_ok h
    have hvalues := Except.ok.inj h
    obtain ⟨hvalue, -, hlimit⟩ := decodeBase64ToBytes_ok.1 hbytes
    have htwo : bytes.length % 2 = 0 := by simpa using refuseIf_ok.1 hwhole
    have hlength : bytes.length = bytes.length / 2 * 2 := by omega
    have hback : (values.flatMap fun value => LittleEndian.word 2 value.toNat) = bytes := by
      rw [← hvalues]
      exact LittleEndian.flatMap_typed (fun n hn => UInt16.toNat_ofNat_of_lt' hn) hlength
    have hcount : bytes.length = values.length * 2 := by
      rw [← hback]
      exact LittleEndian.length_typed values
    exact ⟨by rw [encodeUint16Base64, hback, hvalue], by omega⟩
  · rintro ⟨hvalue, hlimit⟩
    have hlength : (values.flatMap fun value => LittleEndian.word 2 value.toNat).length =
        values.length * 2 := LittleEndian.length_typed values
    have hwords : (LittleEndian.words 2 values.length
        (values.flatMap fun value => LittleEndian.word 2 value.toNat)).map (·.toUInt16) = values :=
      LittleEndian.words_typed (fun value => value.toNat_lt) (fun value => UInt16.ofNat_toNat)
        values
    have hcount : (values.flatMap fun value => LittleEndian.word 2 value.toNat).length / 2 =
        values.length := by omega
    refine ⟨_, decodeBase64ToBytes_ok.2 ⟨hvalue, fun n hn => (nomatch hn), by rwa [hlength]⟩, ?_⟩
    refine bind_ok_iff.2 ⟨(), refuseIf_ok.2 (by rw [hlength]; simp), ?_⟩
    rw [hcount, hwords]
    rfl

/-- A cloud with consistent metadata is decoded to what its payloads were encoded from. -/
theorem decodePointCloud_of {K : Type} {encoded : EncodedPointCloud K} {n : ℕ}
    {positions : List UInt32} {colors : List UInt8} {sizes : Option (List UInt8)}
    (hversion : encoded.schemaVersion = 1)
    (hencoding : encoded.encoding.positions = js "base64:f32le" ∧
      encoded.encoding.colors = js "base64:u8")
    (hcount : encoded.pointCount = n) (hlimit : n ≤ maxPointCloudPoints)
    (hmetadata : validateEncodedMetadata encoded n = .ok ())
    (hpositions : encodeFloat32Base64 positions = encoded.positions ∧ positions.length = n * 3)
    (hcolors : encodeUint8Base64 colors = encoded.colors ∧ colors.length = n * 3)
    (hsizes : sizes.map encodeUint8Base64 = encoded.sizes ∧ ∀ s ∈ sizes, s.length = n) :
    decodePointCloud encoded = .ok
      { pointCount := n, dims := encoded.dims, positions, colors, sizes
        stats := encoded.stats } := by
  have hsafe : maxPointCloudPoints * 16 ≤ maxDecodedPointCloudBytes := by decide
  have hinteger : maxDecodedPointCloudBytes ≤ maxSafeInteger := by decide
  have hvalid : validatePointCount ((n : ℕ) : ℤ) = .ok (n : ℤ) := by
    refine bind_ok_iff.2 ⟨(), refuseIf_ok.2 ?_, rfl⟩
    simp only [Bool.or_eq_false_iff, decide_eq_false_iff_not]
    omega
  have htriple (label : JsString) : checkedValueCount label ((n : ℤ) * 3) = .ok (n * 3) :=
    checkedValueCount_ok.2 ⟨by push_cast; rfl, by omega⟩
  have hbytes (label : JsString) :
      checkedByteLength label ((n * 3 : ℕ) : ℤ) 4 = .ok (n * 3 * 4) :=
    (checkedByteLength_ok (by decide)).2 ⟨n * 3, rfl, rfl, by omega⟩
  have hvalues (label : JsString) : checkedValueCount label ((n * 3 : ℕ) : ℤ) = .ok (n * 3) :=
    checkedValueCount_ok.2 ⟨rfl, by omega⟩
  refine bind_ok_iff.2 ⟨(), refuseIf_ok.2 (decide_eq_false (fun h => h hversion)), ?_⟩
  refine bind_ok_iff.2 ⟨(), refuseIf_ok.2 (Bool.or_eq_false_iff.2
    ⟨decide_eq_false (fun h => h hencoding.1), decide_eq_false (fun h => h hencoding.2)⟩), ?_⟩
  refine bind_ok_iff.2 ⟨n, by rw [hcount, hvalid], bind_ok_iff.2 ⟨(), hmetadata, ?_⟩⟩
  refine bind_ok_iff.2 ⟨n * 3, htriple _, bind_ok_iff.2 ⟨n * 3, htriple _, ?_⟩⟩
  refine bind_ok_iff.2 ⟨n * 3 * 4, hbytes _, bind_ok_iff.2 ⟨n * 3, hvalues _, ?_⟩⟩
  obtain ⟨sizeBytes, hle, hsizeBytes⟩ : ∃ sizeBytes ≤ n,
      expectedSizeBytes encoded.sizes.isSome n = .ok sizeBytes := by
    unfold expectedSizeBytes
    split
    · exact ⟨n, le_refl n, checkedValueCount_ok.2 ⟨rfl, by omega⟩⟩
    · exact ⟨0, Nat.zero_le n, rfl⟩
  refine bind_ok_iff.2 ⟨sizeBytes, hsizeBytes, ?_⟩
  refine bind_ok_iff.2 ⟨(), refuseIf_ok.2 (decide_eq_false (by omega)), ?_⟩
  refine bind_ok_iff.2 ⟨positions, ?_, ?_⟩
  · exact (@decodeFloat32Base64_ok _ (some (n * 3)) _).2
      ⟨hpositions.1, fun count h => Option.some.inj h ▸ hpositions.2, by omega⟩
  refine bind_ok_iff.2 ⟨colors, ?_, ?_⟩
  · exact (@decodeUint8Base64_ok _ _ (some (n * 3)) _).2
      ⟨hcolors.1, fun count h => Option.some.inj h ▸ hcolors.2, by omega⟩
  refine bind_ok_iff.2 ⟨sizes, ?_, rfl⟩
  rw [← hsizes.1]
  cases sizes with
  | none => rfl
  | some sizes =>
    have hlength := hsizes.2 sizes rfl
    have hdecoded : decodeUint8Base64 (encodeUint8Base64 sizes) (some (n : ℤ)) (js "sizes") =
        .ok sizes := (@decodeUint8Base64_ok _ _ (some n) _).2
      ⟨rfl, fun count h => Option.some.inj h ▸ hlength, by omega⟩
    show (some <$> decodeUint8Base64 (encodeUint8Base64 sizes) (some (n : ℤ)) (js "sizes")) = _
    rw [hdecoded]
    rfl

end PointClouds
end Autopilot
