import LoRaNode.Lib.Delimited
import LoRaNode.Lib.Memory
import Mathlib.Data.Rat.Defs

open delimited

namespace loranode.gps

/-- The arrays of `tNmeaGpsData`. -/
inductive Field where
  | NmeaDataType
  | NmeaUtcTime
  | NmeaDataStatus
  | NmeaLatitude
  | NmeaLatitudePole
  | NmeaLongitude
  | NmeaLongitudePole
  | NmeaFixQuality
  | NmeaSatelliteTracked
  | NmeaHorizontalDilution
  | NmeaAltitude
  | NmeaAltitudeUnit
  | NmeaHeightGeoid
  | NmeaHeightGeoidUnit
  | NmeaSpeed
  | NmeaDetectionAngle
  | NmeaDate
  deriving DecidableEq, Repr

namespace Field

/-- The length that each array is declared with. -/
def length : Field → Nat
  | NmeaDataType => 6
  | NmeaUtcTime => 11
  | NmeaDataStatus => 2
  | NmeaLatitude => 10
  | NmeaLatitudePole => 2
  | NmeaLongitude => 11
  | NmeaLongitudePole => 2
  | NmeaFixQuality => 2
  | NmeaSatelliteTracked => 3
  | NmeaHorizontalDilution => 6
  | NmeaAltitude => 8
  | NmeaAltitudeUnit => 2
  | NmeaHeightGeoid => 8
  | NmeaHeightGeoidUnit => 2
  | NmeaSpeed => 8
  | NmeaDetectionAngle => 8
  | NmeaDate => 8

/-- The arrays in the order of their declaration. -/
def all : List Field :=
  [NmeaDataType, NmeaUtcTime, NmeaDataStatus, NmeaLatitude, NmeaLatitudePole, NmeaLongitude,
    NmeaLongitudePole, NmeaFixQuality, NmeaSatelliteTracked, NmeaHorizontalDilution, NmeaAltitude,
    NmeaAltitudeUnit, NmeaHeightGeoid, NmeaHeightGeoidUnit, NmeaSpeed, NmeaDetectionAngle, NmeaDate]

/-- Where an array starts in the structure. Arrays of `char` follow each other without a gap. -/
def offset (f : Field) : Nat := (all.takeWhile (· ≠ f)).foldl (fun sum g => sum + g.length) 0

end Field

/-- `sizeof( tNmeaGpsData )`. -/
def sizeofNmeaGpsData : Nat := Field.all.foldl (fun sum f => sum + f.length) 0

inductive PpsTrigger_t where
  | PpsTriggerIsRising
  | PpsTriggerIsFalling
  deriving DecidableEq, Repr

/-- The return values of the parser. -/
inductive Status where
  | SUCCESS
  | FAIL
  deriving DecidableEq, Repr

/-- The variables of the driver. `NmeaGpsData` is the memory from the start of the structure on, so
that a store behind the end of an array shows in the next one. Kept for the proofs only are the
accesses of a call of the parser: the indices in `rxBuffer` that it has read, and the indices in
the arrays that it has stored to. -/
structure Gps where
  NmeaGpsData : Mem
  Latitude : Rat
  Longitude : Rat
  LatitudeBinary : Int
  LongitudeBinary : Int
  PpsTrigger : PpsTrigger_t
  reads : List Nat
  stores : List (Field × Nat)

def Gps.initial : Gps := ⟨fun _ => 0, 0, 0, 0, 0, .PpsTriggerIsFalling, [], []⟩

/-- The bytes of a buffer, and zeros behind it. -/
def bufferOf (text : List UInt8) : Mem := fun i => text.getD i 0

/-- `NmeaGpsData.f[j]`. -/
def Gps.at (s : Gps) (f : Field) (j : Nat) : UInt8 := s.NmeaGpsData (f.offset + j)

def COMMA : UInt8 := 0x2C
def STAR : UInt8 := 0x2A
def DOLLAR : UInt8 := 0x24

def NmeaDataTypeGPGGA : List UInt8 := [0x47, 0x50, 0x47, 0x47, 0x41]
def NmeaDataTypeGPRMC : List UInt8 := [0x47, 0x50, 0x52, 0x4D, 0x43]

/-- `strncmp` of the data type with one of the names, which have no zero in their 5 characters. -/
def Gps.isType (s : Gps) (type : List UInt8) : Bool :=
  s.NmeaGpsData.read Field.NmeaDataType.offset 5 = type

/-- A plain `char` has no sign here. -/
def GpsHasFix (s : Gps) : Bool :=
  if s.isType NmeaDataTypeGPGGA = true then s.at .NmeaFixQuality 0 > 0x30
  else if s.isType NmeaDataTypeGPRMC = true then s.at .NmeaDataStatus 0 = 0x41
  else false

def GpsMcuInvertPpsTrigger (s : Gps) : Gps :=
  { s with PpsTrigger := match s.PpsTrigger with
      | .PpsTriggerIsRising => .PpsTriggerIsFalling
      | .PpsTriggerIsFalling => .PpsTriggerIsRising }

def Nibble2HexChar (a : UInt8) : UInt8 :=
  if a < 10 then 0x30 + a else if a < 16 then 0x41 + (a - 10) else 0x3F

/-- The loop of `GpsNmeaChecksum` from `i` on, with the indices that were read. -/
def xorUntilStar (nmeaStr : Mem) (nmeaStrSize : Int) :
    (fuel i : Nat) → (checkNum : UInt8) → (reads : List Nat) → Option (Nat × UInt8) × List Nat
  | 0, _, _, reads => (none, reads)
  | fuel + 1, i, checkNum, reads =>
    if nmeaStr i = STAR then (some (i, checkNum), reads ++ [i])
    else if (i + 1 : Int) ≥ nmeaStrSize then (none, reads ++ [i])
    else xorUntilStar nmeaStr nmeaStrSize fuel (i + 1) (checkNum ^^^ nmeaStr i) (reads ++ [i])

/-- The index behind the star and the two characters of the checksum, with the indices that were
read. -/
def GpsNmeaChecksum (nmeaStr : Mem) (nmeaStrSize : Int) :
    Option (Nat × UInt8 × UInt8) × List Nat :=
  if nmeaStrSize ≤ 1 then (none, [])
  else
    let i := if nmeaStr 0 = DOLLAR then 1 else 0
    let (found, reads) := xorUntilStar nmeaStr nmeaStrSize nmeaStrSize.toNat i 0 [0]
    (found.map fun (i, checkNum) =>
      (i + 1, Nibble2HexChar (checkNum / 16), Nibble2HexChar (checkNum % 16)), reads)

/-- `GpsNmeaValidateChecksum`, with the indices that were read. -/
def validateChecksum (serialBuff : Mem) (buffSize : Int) : Bool × List Nat :=
  match GpsNmeaChecksum serialBuff buffSize with
  | (none, reads) => (false, reads)
  | (some (checksumIndex, upper, lower), reads) =>
    if (checksumIndex : Int) ≥ buffSize - 2 then (false, reads)
    else if serialBuff checksumIndex = upper then
      (serialBuff (checksumIndex + 1) = lower, reads ++ [checksumIndex, checksumIndex + 1])
    else (false, reads ++ [checksumIndex])

def GpsNmeaValidateChecksum (serialBuff : Mem) (buffSize : Int) : Bool :=
  (validateChecksum serialBuff buffSize).1

/-- The loop that copies a field, with the comma at its end. -/
def copyField (rxBuffer : Mem) (f : Field) (i fieldSize : Nat) (s : Gps) : Gps :=
  { s with
    NmeaGpsData := s.NmeaGpsData.write f.offset (rxBuffer.read i fieldSize)
    reads := s.reads ++ List.range' i fieldSize
    stores := s.stores ++ (List.range fieldSize).map (f, ·) }

/-- One of the copies of scan-then-copy: the field at `i` goes into the array `f`, unless there is
no comma in the first `limit + 1` characters. It returns the place behind the comma. -/
def parseField (rxBuffer : Mem) (f : Field) (limit i : Nat) (s : Gps) : Option Nat × Gps :=
  match scan COMMA rxBuffer i limit 0 with
  | none => (none, { s with reads := s.reads ++ List.range' i (limit + 1) })
  | some fieldSize => (some (i + fieldSize), copyField rxBuffer f i fieldSize s)

/-- Fields that follow each other. The `uint8_t` that counts the characters stays below 100. -/
def parseFields (rxBuffer : Mem) : List (Field × Nat) → Nat → Gps → Option Nat × Gps
  | [], i, s => (some i, s)
  | (f, limit) :: fields, i, s =>
    match parseField rxBuffer f limit i s with
    | (none, s) => (none, s)
    | (some i, s) => parseFields rxBuffer fields i s

/-- The fields of a GPGGA sentence, with the limit that the code has for each of them. -/
def gpggaFields : List (Field × Nat) :=
  [(.NmeaUtcTime, 11), (.NmeaLatitude, 10), (.NmeaLatitudePole, 2), (.NmeaLongitude, 11),
    (.NmeaLongitudePole, 2), (.NmeaFixQuality, 2), (.NmeaSatelliteTracked, 3),
    (.NmeaHorizontalDilution, 6), (.NmeaAltitude, 8), (.NmeaAltitudeUnit, 2), (.NmeaHeightGeoid, 8),
    (.NmeaHeightGeoidUnit, 2)]

/-- The fields of a GPRMC sentence. -/
def gprmcFields : List (Field × Nat) :=
  [(.NmeaUtcTime, 11), (.NmeaDataStatus, 2), (.NmeaLatitude, 10), (.NmeaLatitudePole, 2),
    (.NmeaLongitude, 11), (.NmeaLongitudePole, 2), (.NmeaSpeed, 8), (.NmeaDetectionAngle, 8),
    (.NmeaDate, 8)]

def digit (s : Gps) (f : Field) (j : Nat) : Rat := (s.at f j).toNat

/-- The loop that makes numbers of the first ten characters of an array. -/
def maskDigits (f : Field) (s : Gps) : Gps :=
  { s with
    NmeaGpsData := s.NmeaGpsData.write f.offset ((s.NmeaGpsData.read f.offset 10).map (· &&& 0xF))
    stores := s.stores ++ (List.range 10).map (f, ·) }

/-- The numbers are taken exactly, where the code has them as `double`. -/
def GpsConvertPositionFromStringToNumerical (s : Gps) : Gps :=
  let s := maskDigits .NmeaLatitude s
  let lat := digit s .NmeaLatitude
  let valueTmp1 := lat 0 * 10 + lat 1
  let valueTmp2 := lat 2 * 10 + lat 3
  let valueTmp3 := lat 5 * 1000 + lat 6 * 100 + lat 7 * 10 + lat 8
  let Latitude := valueTmp1 + (valueTmp2 + valueTmp3 / 10000) / 60
  let s := { s with Latitude := if s.at .NmeaLatitudePole 0 = 0x53 then -Latitude else Latitude }
  let s := maskDigits .NmeaLongitude s
  let lon := digit s .NmeaLongitude
  let valueTmp1 := lon 0 * 100 + lon 1 * 10 + lon 2
  let valueTmp2 := lon 3 * 10 + lon 4
  let valueTmp3 := lon 6 * 1000 + lon 7 * 100
  let valueTmp4 := lon 8 * 10 + lon 9
  let Longitude := valueTmp1 + valueTmp2 / 60 + (valueTmp3 + valueTmp4) / 10000 / 60
  { s with Longitude := if s.at .NmeaLongitudePole 0 = 0x57 then -Longitude else Longitude }

def MaxNorthPosition : Rat := 8388607
def MaxSouthPosition : Rat := 8388608
def MaxEastPosition : Rat := 8388607
def MaxWestPosition : Rat := 8388608

/-- The conversion of a `double` to `int32_t`. -/
def truncate (x : Rat) : Int := x.num.tdiv x.den

def GpsConvertPositionIntoBinary (s : Gps) : Gps :=
  { s with
    LatitudeBinary :=
      if s.Latitude ≥ 0 then truncate (s.Latitude * MaxNorthPosition / 90)
      else truncate (s.Latitude * MaxSouthPosition / 90)
    LongitudeBinary :=
      if s.Longitude ≥ 0 then truncate (s.Longitude * MaxEastPosition / 180)
      else truncate (s.Longitude * MaxWestPosition / 180) }

def GpsFormatGpsData (s : Gps) : Gps :=
  GpsConvertPositionIntoBinary (GpsConvertPositionFromStringToNumerical s)

/-- The part of the parser for one kind of sentence. -/
def parseSentence (rxBuffer : Mem) (fields : List (Field × Nat)) (i : Nat) (s : Gps) :
    Status × Gps :=
  match parseFields rxBuffer fields i s with
  | (none, s) => (.FAIL, s)
  | (some _, s) => (.SUCCESS, GpsFormatGpsData s)

def GpsParseGpsData (rxBuffer : Mem) (rxBufferSize : Int) (s : Gps) : Status × Gps :=
  let s := { s with reads := [0], stores := [] }
  if rxBuffer 0 ≠ DOLLAR then (.FAIL, GpsMcuInvertPpsTrigger s)
  else
    let (valid, reads) := validateChecksum rxBuffer rxBufferSize
    let s := { s with reads := s.reads ++ reads }
    if valid = false then (.FAIL, s)
    else match parseField rxBuffer .NmeaDataType 6 1 s with
      | (none, s) => (.FAIL, s)
      | (some i, s) =>
        if s.isType NmeaDataTypeGPGGA = true then parseSentence rxBuffer gpggaFields i s
        else if s.isType NmeaDataTypeGPRMC = true then parseSentence rxBuffer gprmcFields i s
        else (.FAIL, s)

/-- What a scan-then-copy does: it takes a field that is short enough, and otherwise it gives up
behind the last character that it may look at. -/
theorem parseField_cases (rxBuffer : Mem) (f : Field) (limit i : Nat) :
    (∃ n, FieldAt COMMA rxBuffer i n ∧ n ≤ limit ∧ ∀ s, parseField rxBuffer f limit i s =
        (some (i + n + 1), copyField rxBuffer f i (n + 1) s)) ∨
      (∀ k ≤ limit, rxBuffer (i + k) ≠ COMMA) ∧ ∀ s, parseField rxBuffer f limit i s =
        (none, { s with reads := s.reads ++ List.range' i (limit + 1) }) := by
  obtain ⟨n, hfield, hn, hscan⟩ | ⟨hnone, hscan⟩ := scan_start_cases COMMA rxBuffer i limit
  · refine .inl ⟨n, hfield, hn, fun s => ?_⟩
    unfold parseField
    rw [hscan]
    rfl
  · refine .inr ⟨hnone, fun s => ?_⟩
    unfold parseField
    rw [hscan]

/-- A name of five characters and no comma. -/
structure TypeName (type : List UInt8) : Prop where
  length : type.length = 5
  comma : COMMA ∉ type

theorem typeName_GPGGA : TypeName NmeaDataTypeGPGGA := ⟨rfl, by decide⟩

theorem typeName_GPRMC : TypeName NmeaDataTypeGPRMC := ⟨rfl, by decide⟩

/-- The data type that is compared is the one of the sentence: a shorter one brings a comma, which
is in no name, so that nothing of the last sentence gets into the comparison. -/
theorem isType_copyField {rxBuffer : Mem} {n : Nat} (hfield : FieldAt COMMA rxBuffer 1 n) (s : Gps)
    {type : List UInt8} (htype : TypeName type) :
    (copyField rxBuffer .NmeaDataType 1 (n + 1) s).isType type = true ↔
      rxBuffer.read 1 5 = type := by
  have hread (k : Nat) (hk : k ≤ n + 1) :
      (copyField rxBuffer .NmeaDataType 1 (n + 1) s).NmeaGpsData.read 0 k = rxBuffer.read 1 k := by
    have hall := s.NmeaGpsData.read_write_self 0 (rxBuffer.read 1 (n + 1))
    rw [Mem.length_read] at hall
    rw [← Mem.take_read _ 0 hk, ← Mem.take_read rxBuffer 1 hk]
    exact congrArg (List.take k) hall
  have hcomma (m : Mem) (hm : m.read 0 (n + 1) = rxBuffer.read 1 (n + 1)) (hn : n < 5) :
      m.read 0 5 ≠ type := by
    rintro rfl
    refine htype.comma (List.mem_map.mpr ⟨n, List.mem_range.mpr hn, ?_⟩)
    rw [Mem.read_eq_read_iff.mp hm n (Nat.lt_succ_self n)]
    exact hfield.ends
  unfold Gps.isType
  rw [decide_eq_true_iff]
  change (copyField rxBuffer .NmeaDataType 1 (n + 1) s).NmeaGpsData.read 0 5 = type ↔ _
  by_cases hn : n < 5
  · refine iff_of_false (hcomma _ (hread _ (Nat.le_refl _)) hn) ?_
    have hdrop : rxBuffer.read 1 5 = (rxBuffer.drop 1).read 0 5 := (rxBuffer.read_drop 1 0 5).symm
    rw [hdrop]
    exact hcomma _ (rxBuffer.read_drop 1 0 (n + 1)) hn
  · rw [hread 5 (by omega)]

/-- The arrays that a sentence fills, with their limits: first the data type, and then what this
calls for. -/
def sentenceFields (rxBuffer : Mem) : List (Field × Nat) :=
  (.NmeaDataType, 6) ::
    if rxBuffer.read 1 5 = NmeaDataTypeGPGGA then gpggaFields
    else if rxBuffer.read 1 5 = NmeaDataTypeGPRMC then gprmcFields
    else []

/-- The sentence is of a kind that tells the position. -/
def TellsPosition (rxBuffer : Mem) : Prop :=
  rxBuffer.read 1 5 = NmeaDataTypeGPGGA ∨ rxBuffer.read 1 5 = NmeaDataTypeGPRMC

instance (rxBuffer : Mem) : Decidable (TellsPosition rxBuffer) :=
  inferInstanceAs (Decidable (_ ∨ _))

/-- What the parser starts with when the checksum is right. -/
def Gps.checked (s : Gps) (rxBuffer : Mem) (rxBufferSize : Int) : Gps :=
  { s with reads := 0 :: (validateChecksum rxBuffer rxBufferSize).2, stores := [] }

/-- The parser of a sentence with the right checksum takes one field after the other. -/
theorem GpsParseGpsData_eq {rxBuffer : Mem} {rxBufferSize : Int} (s : Gps)
    (hdollar : rxBuffer 0 = DOLLAR) (hvalid : GpsNmeaValidateChecksum rxBuffer rxBufferSize = true) :
    GpsParseGpsData rxBuffer rxBufferSize s =
      match parseFields rxBuffer (sentenceFields rxBuffer) 1 (s.checked rxBuffer rxBufferSize) with
      | (none, s) => (.FAIL, s)
      | (some _, s) =>
        if TellsPosition rxBuffer then (.SUCCESS, GpsFormatGpsData s) else (.FAIL, s) := by
  have hpair : validateChecksum rxBuffer rxBufferSize =
      (true, (validateChecksum rxBuffer rxBufferSize).2) := Prod.ext hvalid rfl
  have hstart : GpsParseGpsData rxBuffer rxBufferSize s =
      match parseField rxBuffer .NmeaDataType 6 1 (s.checked rxBuffer rxBufferSize) with
      | (none, s) => (.FAIL, s)
      | (some i, s) =>
        if s.isType NmeaDataTypeGPGGA = true then parseSentence rxBuffer gpggaFields i s
        else if s.isType NmeaDataTypeGPRMC = true then parseSentence rxBuffer gprmcFields i s
        else (.FAIL, s) := by
    unfold GpsParseGpsData
    rw [hpair]
    simp [hdollar, Gps.checked]
  rw [hstart]
  unfold sentenceFields parseFields
  obtain ⟨n, hfield, -, hparse⟩ | ⟨-, hparse⟩ := parseField_cases rxBuffer .NmeaDataType 6 1
  · simp only [hparse, isType_copyField hfield _ typeName_GPGGA,
      isType_copyField hfield _ typeName_GPRMC]
    unfold TellsPosition
    split
    · next hgga => simp [parseSentence, hgga]
    · next hgga =>
      split
      · next hrmc => simp [parseSentence, hrmc]
      · next hrmc => simp [parseFields, hgga, hrmc]
  · simp only [hparse]

end loranode.gps
