import LoRaNode.Gps.Parse
import Mathlib.Data.List.Nodup

open delimited

namespace loranode.gps

/-- The characters of `NmeaGpsData` that `GpsConvertPositionFromStringToNumerical` uses. -/
def positionIndices : List (Field × Nat) :=
  [0, 1, 2, 3, 5, 6, 7, 8].map (Field.NmeaLatitude, ·) ++ [(.NmeaLatitudePole, 0)] ++
    [0, 1, 2, 3, 4, 6, 7, 8, 9].map (Field.NmeaLongitude, ·) ++ [(.NmeaLongitudePole, 0)]

/-- What the position is made of: the digits and the two poles. -/
def positionText (s : Gps) : List UInt8 := positionIndices.map fun p => s.at p.1 p.2

/-- The position comes from one sentence only: nothing of it depends on what was there before a
sentence was taken, and a sentence that is not taken leaves all as it was. -/
structure OneSentence (rxBuffer : Mem) (rxBufferSize : Int) : Prop where
  success : ∀ s s', (GpsParseGpsData rxBuffer rxBufferSize s).1 = .SUCCESS →
    positionText (GpsParseGpsData rxBuffer rxBufferSize s).2 =
        positionText (GpsParseGpsData rxBuffer rxBufferSize s').2 ∧
      GpsHasFix (GpsParseGpsData rxBuffer rxBufferSize s).2 =
        GpsHasFix (GpsParseGpsData rxBuffer rxBufferSize s').2
  fail : ∀ s, (GpsParseGpsData rxBuffer rxBufferSize s).1 = .FAIL → ∀ a < sizeofNmeaGpsData,
    (GpsParseGpsData rxBuffer rxBufferSize s).2.NmeaGpsData a = s.NmeaGpsData a

/-- The text from `i` on has fields for the arrays, none longer than its limit: a table of how many
characters each of them has. -/
inductive Table (rxBuffer : Mem) : Nat → List (Field × Nat) → List (Field × Nat) → Prop where
  | nil {i : Nat} : Table rxBuffer i [] []
  | cons {i n limit : Nat} {f : Field} {fields table : List (Field × Nat)}
      (hfield : FieldAt COMMA rxBuffer i n) (hlimit : n ≤ limit)
      (rest : Table rxBuffer (i + n + 1) fields table) :
      Table rxBuffer i ((f, limit) :: fields) ((f, n) :: table)

/-- How many characters an array must get for all of its digits to be new. -/
def Field.needed : Field → Nat
  | NmeaLatitude => 8
  | NmeaLongitude => 9
  | _ => 0

/-- Either nothing is copied, because the buffer holds no sentence, or the sentence tells the
position with all the digits that are used. -/
def AllOrNothing (rxBuffer : Mem) (rxBufferSize : Int) : Prop :=
  rxBuffer 0 ≠ DOLLAR ∨ GpsNmeaValidateChecksum rxBuffer rxBufferSize = false ∨
    (∀ k ≤ 6, rxBuffer (1 + k) ≠ COMMA) ∨
    TellsPosition rxBuffer ∧ ∃ table, Table rxBuffer 1 (sentenceFields rxBuffer) table ∧
      ∀ p ∈ table, p.1.needed ≤ p.2

/-- A field reaches an address of the structure with its characters or its comma. -/
def Reaches (p : Field × Nat) (a : Nat) : Prop := p.1.offset ≤ a ∧ a ≤ p.1.offset + p.2

instance (p : Field × Nat) (a : Nat) : Decidable (Reaches p a) :=
  inferInstanceAs (Decidable (_ ∧ _))

section

variable {rxBuffer : Mem} {i : Nat} {fields table : List (Field × Nat)}

theorem copyField_of_reaches {f : Field} {n a : Nat} (h : Reaches (f, n) a) (s : Gps) :
    (copyField rxBuffer f i (n + 1) s).NmeaGpsData a = rxBuffer (i + (a - f.offset)) := by
  obtain ⟨k, rfl⟩ := Nat.exists_eq_add_of_le h.1
  have hk : k < n + 1 := Nat.lt_succ_of_le (Nat.le_of_add_le_add_left h.2)
  change s.NmeaGpsData.write f.offset (rxBuffer.read i (n + 1)) (f.offset + k) = _
  rw [Mem.write_of_mem (by simpa using hk), Mem.getD_read _ _ _ _ hk, Nat.add_sub_cancel_left]

theorem copyField_of_not_reaches {f : Field} {n a : Nat} (h : ¬Reaches (f, n) a) (s : Gps) :
    (copyField rxBuffer f i (n + 1) s).NmeaGpsData a = s.NmeaGpsData a := by
  change s.NmeaGpsData.write f.offset (rxBuffer.read i (n + 1)) a = _
  rcases Nat.lt_or_ge a f.offset with hlt | hge
  · exact Mem.write_of_lt hlt
  · refine Mem.write_of_ge ?_
    have hnot : ¬a ≤ f.offset + n := fun hle => h ⟨hge, hle⟩
    simp
    omega

namespace Table

theorem parseFields_eq (h : Table rxBuffer i fields table) :
    ∃ j, ∀ s, (parseFields rxBuffer fields i s).1 = some j := by
  induction h with
  | nil => exact ⟨_, fun s => rfl⟩
  | @cons i n limit f fields table hfield hlimit rest ih =>
    obtain ⟨j, hj⟩ := ih
    refine ⟨j, fun s => ?_⟩
    unfold parseFields parseField
    rw [hfield.scan_eq hlimit]
    exact hj _

/-- Two runs agree where they agreed before, and wherever a field reaches. -/
theorem agree (h : Table rxBuffer i fields table) {s s' : Gps} {a : Nat}
    (ha : s.NmeaGpsData a = s'.NmeaGpsData a ∨ ∃ p ∈ table, Reaches p a) :
    (parseFields rxBuffer fields i s).2.NmeaGpsData a =
      (parseFields rxBuffer fields i s').2.NmeaGpsData a := by
  induction h generalizing s s' with
  | nil =>
    obtain hsame | ⟨p, hp, -⟩ := ha
    · exact hsame
    · cases hp
  | @cons i n limit f fields table hfield hlimit rest ih =>
    unfold parseFields parseField
    rw [hfield.scan_eq hlimit]
    refine ih ?_
    by_cases hreach : Reaches (f, n) a
    · exact .inl (by rw [copyField_of_reaches hreach, copyField_of_reaches hreach])
    · rw [copyField_of_not_reaches hreach, copyField_of_not_reaches hreach]
      obtain hsame | ⟨p, hp, hpa⟩ := ha
      · exact .inl hsame
      · obtain rfl | hp := List.mem_cons.mp hp
        · exact absurd hpa hreach
        · exact .inr ⟨p, hp, hpa⟩

/-- Where no field reaches, all is as it was. -/
theorem untouched (h : Table rxBuffer i fields table) {a : Nat} (ha : ∀ p ∈ table, ¬Reaches p a)
    (s : Gps) : (parseFields rxBuffer fields i s).2.NmeaGpsData a = s.NmeaGpsData a := by
  induction h generalizing s with
  | nil => rfl
  | @cons i n limit f fields table hfield hlimit rest ih =>
    obtain ⟨hfirst, hrest⟩ := List.forall_mem_cons.mp ha
    unfold parseFields parseField
    rw [hfield.scan_eq hlimit]
    exact (ih hrest _).trans (copyField_of_not_reaches hfirst s)

theorem map_fst (h : Table rxBuffer i fields table) : table.map Prod.fst = fields.map Prod.fst := by
  induction h with
  | nil => rfl
  | cons hfield hlimit rest ih => rw [List.map_cons, List.map_cons, ih]

theorem le_limit (h : Table rxBuffer i fields table) :
    ∀ p ∈ table, ∃ limit, (p.1, limit) ∈ fields ∧ p.2 ≤ limit := by
  induction h with
  | nil => simp
  | cons hfield hlimit rest ih =>
    refine List.forall_mem_cons.mpr ⟨⟨_, List.mem_cons_self, hlimit⟩, fun p hp => ?_⟩
    obtain ⟨limit, hmem, hle⟩ := ih p hp
    exact ⟨limit, List.mem_cons_of_mem _ hmem, hle⟩

/-- Each array has its entry. -/
theorem exists_mem (h : Table rxBuffer i fields table) {f : Field}
    (hf : f ∈ fields.map Prod.fst) : ∃ n, (f, n) ∈ table := by
  rw [← h.map_fst] at hf
  obtain ⟨p, hp, rfl⟩ := List.mem_map.mp hf
  exact ⟨p.2, hp⟩

end Table

/-- Without such a table the parser gives up. -/
theorem parseFields_none (h : ¬∃ table, Table rxBuffer i fields table) (s : Gps) :
    (parseFields rxBuffer fields i s).1 = none := by
  induction fields generalizing i s with
  | nil => exact absurd ⟨[], .nil⟩ h
  | cons p fields ih =>
    obtain ⟨f, limit⟩ := p
    unfold parseFields
    obtain ⟨n, hfield, hn, hparse⟩ | ⟨-, hparse⟩ := parseField_cases rxBuffer f limit i
    · rw [hparse]
      refine ih ?_ _
      rintro ⟨table, htable⟩
      exact h ⟨_, .cons hfield hn htable⟩
    · rw [hparse]

/-- The arrays in front of those that are filled keep what they have. -/
theorem parseFields_below {a : Nat} (ha : ∀ p ∈ fields, a < p.1.offset) (s : Gps) :
    (parseFields rxBuffer fields i s).2.NmeaGpsData a = s.NmeaGpsData a := by
  induction fields generalizing i s with
  | nil => rfl
  | cons p fields ih =>
    obtain ⟨f, limit⟩ := p
    obtain ⟨hfirst, hrest⟩ := List.forall_mem_cons.mp ha
    unfold parseFields
    obtain ⟨n, -, -, hparse⟩ | ⟨-, hparse⟩ := parseField_cases rxBuffer f limit i
    · have hnot : ¬Reaches (f, n) a := fun h => Nat.not_le_of_lt hfirst h.1
      rw [hparse]
      exact (ih hrest _).trans (copyField_of_not_reaches hnot s)
    · rw [hparse]

end

theorem NmeaGpsData_maskDigits (f : Field) (s : Gps) (a : Nat) :
    (maskDigits f s).NmeaGpsData a =
      if f.offset ≤ a ∧ a < f.offset + 10 then s.NmeaGpsData a &&& 0xF else s.NmeaGpsData a := by
  change s.NmeaGpsData.write f.offset ((s.NmeaGpsData.read f.offset 10).map (· &&& 0xF)) a = _
  split
  · next h =>
    obtain ⟨k, rfl⟩ := Nat.exists_eq_add_of_le h.1
    have hk : k < 10 := Nat.lt_of_add_lt_add_left h.2
    rw [Mem.write_of_mem (by simpa using hk), List.getD_eq_getElem _ _ (by simpa using hk),
      List.getElem_map, Mem.getElem_read]
  · next h =>
    rcases Nat.lt_or_ge a f.offset with hlt | hge
    · exact Mem.write_of_lt hlt
    · exact Mem.write_of_ge (by simp; omega)

theorem NmeaGpsData_GpsFormatGpsData (s : Gps) : (GpsFormatGpsData s).NmeaGpsData =
    (maskDigits .NmeaLongitude (maskDigits .NmeaLatitude s)).NmeaGpsData := rfl

theorem GpsFormatGpsData_agree {s s' : Gps} {a : Nat} (h : s.NmeaGpsData a = s'.NmeaGpsData a) :
    (GpsFormatGpsData s).NmeaGpsData a = (GpsFormatGpsData s').NmeaGpsData a := by
  simp only [NmeaGpsData_GpsFormatGpsData, NmeaGpsData_maskDigits, h]

/-- A number stays the number that it is. -/
theorem GpsFormatGpsData_number {s : Gps} {a : Nat} {b : UInt8} (h : s.NmeaGpsData a = b)
    (hb : b &&& 0xF = b) : (GpsFormatGpsData s).NmeaGpsData a = b := by
  simp only [NmeaGpsData_GpsFormatGpsData, NmeaGpsData_maskDigits, h, hb, ite_self]

/-- The data type is not made a number. -/
theorem GpsFormatGpsData_type {a : Nat} (ha : a < 6) (s : Gps) :
    (GpsFormatGpsData s).NmeaGpsData a = s.NmeaGpsData a := by
  have hlatitude : Field.NmeaLatitude.offset = 19 := rfl
  have hlongitude : Field.NmeaLongitude.offset = 31 := rfl
  rw [NmeaGpsData_GpsFormatGpsData, NmeaGpsData_maskDigits, if_neg (by omega),
    NmeaGpsData_maskDigits, if_neg (by omega)]

theorem isType_congr {s t : Gps} (h : ∀ a < 6, s.NmeaGpsData a = t.NmeaGpsData a)
    (type : List UInt8) : s.isType type = t.isType type := by
  have hread : s.NmeaGpsData.read 0 5 = t.NmeaGpsData.read 0 5 := by
    refine Mem.read_eq_read_iff.mpr fun a ha => h (0 + a) ?_
    omega
  unfold Gps.isType
  change decide (s.NmeaGpsData.read 0 5 = type) = decide (t.NmeaGpsData.read 0 5 = type)
  rw [hread]

section

variable {rxBuffer : Mem} {rxBufferSize : Int} {n : Nat}

/-- The data type stays as the first field gives it. -/
theorem parseFields_type (hfield : FieldAt COMMA rxBuffer 1 n) (hn : n ≤ 6) (s : Gps) {a : Nat}
    (ha : a < 6) : (parseFields rxBuffer (sentenceFields rxBuffer) 1 s).2.NmeaGpsData a =
      (copyField rxBuffer .NmeaDataType 1 (n + 1) s).NmeaGpsData a := by
  have hgga : ∀ p ∈ gpggaFields, 6 ≤ p.1.offset := by decide
  have hrmc : ∀ p ∈ gprmcFields, 6 ≤ p.1.offset := by decide
  unfold sentenceFields parseFields parseField
  rw [hfield.scan_eq hn]
  refine parseFields_below ?_ _
  intro p hp
  split at hp
  · exact ha.trans_le (hgga p hp)
  · split at hp
    · exact ha.trans_le (hrmc p hp)
    · cases hp

theorem sentenceFields_gpgga (h : rxBuffer.read 1 5 = NmeaDataTypeGPGGA) :
    sentenceFields rxBuffer = (.NmeaDataType, 6) :: gpggaFields := by
  rw [sentenceFields, if_pos h]

theorem sentenceFields_gprmc (h : rxBuffer.read 1 5 = NmeaDataTypeGPRMC) :
    sentenceFields rxBuffer = (.NmeaDataType, 6) :: gprmcFields := by
  have hother : rxBuffer.read 1 5 ≠ NmeaDataTypeGPGGA := by
    rw [h]
    decide
  rw [sentenceFields, if_neg hother, if_pos h]

/-- A sentence that is taken. -/
theorem GpsParseGpsData_success (hdollar : rxBuffer 0 = DOLLAR)
    (hvalid : GpsNmeaValidateChecksum rxBuffer rxBufferSize = true)
    (hposition : TellsPosition rxBuffer) {table : List (Field × Nat)}
    (htable : Table rxBuffer 1 (sentenceFields rxBuffer) table) (s : Gps) :
    GpsParseGpsData rxBuffer rxBufferSize s = (.SUCCESS, GpsFormatGpsData
      (parseFields rxBuffer (sentenceFields rxBuffer) 1 (s.checked rxBuffer rxBufferSize)).2) := by
  obtain ⟨j, hj⟩ := htable.parseFields_eq
  rw [GpsParseGpsData_eq s hdollar hvalid]
  split
  · next hparse =>
    have hnone := hj (s.checked rxBuffer rxBufferSize)
    rw [hparse] at hnone
    cases hnone
  · next hparse => rw [if_pos hposition, hparse]

/-- A sentence that is given up. -/
theorem GpsParseGpsData_fail (hdollar : rxBuffer 0 = DOLLAR)
    (hvalid : GpsNmeaValidateChecksum rxBuffer rxBufferSize = true)
    (hnot : ¬(TellsPosition rxBuffer ∧ ∃ table, Table rxBuffer 1 (sentenceFields rxBuffer) table))
    (s : Gps) : GpsParseGpsData rxBuffer rxBufferSize s =
      (.FAIL, (parseFields rxBuffer (sentenceFields rxBuffer) 1
        (s.checked rxBuffer rxBufferSize)).2) := by
  rw [GpsParseGpsData_eq s hdollar hvalid]
  split
  · next hparse => rw [hparse]
  · next hparse =>
    by_cases hposition : TellsPosition rxBuffer
    · have hnone := parseFields_none (fun h => hnot ⟨hposition, h⟩)
        (s.checked rxBuffer rxBufferSize)
      rw [hparse] at hnone
      cases hnone
    · rw [if_neg hposition, hparse]

/-- The data type of a sentence that was taken. -/
theorem isType_taken (hfield : FieldAt COMMA rxBuffer 1 n) (hn : n ≤ 6) (s : Gps)
    {type : List UInt8} (htype : TypeName type) :
    (GpsFormatGpsData (parseFields rxBuffer (sentenceFields rxBuffer) 1 s).2).isType type = true ↔
      rxBuffer.read 1 5 = type := by
  rw [← isType_copyField hfield s htype]
  rw [isType_congr fun a ha => (GpsFormatGpsData_type ha _).trans (parseFields_type hfield hn s ha)]

/-- Every character that is used was copied. -/
theorem agree_taken {table : List (Field × Nat)}
    (htable : Table rxBuffer 1 (sentenceFields rxBuffer) table)
    (hfull : ∀ p ∈ table, p.1.needed ≤ p.2) (s s' : Gps) {f : Field} {j : Nat}
    (hf : f ∈ (sentenceFields rxBuffer).map Prod.fst) (hj : j ≤ f.needed) :
    (GpsFormatGpsData (parseFields rxBuffer (sentenceFields rxBuffer) 1 s).2).at f j =
      (GpsFormatGpsData (parseFields rxBuffer (sentenceFields rxBuffer) 1 s').2).at f j := by
  obtain ⟨n, hmem⟩ := htable.exists_mem hf
  have hreach : Reaches (f, n) (f.offset + j) :=
    ⟨Nat.le_add_right _ _, Nat.add_le_add_left (hj.trans (hfull _ hmem)) _⟩
  exact GpsFormatGpsData_agree (htable.agree (.inr ⟨_, hmem, hreach⟩))

theorem positionText_taken {table : List (Field × Nat)} (hposition : TellsPosition rxBuffer)
    (htable : Table rxBuffer 1 (sentenceFields rxBuffer) table)
    (hfull : ∀ p ∈ table, p.1.needed ≤ p.2) (s s' : Gps) :
    positionText (GpsFormatGpsData (parseFields rxBuffer (sentenceFields rxBuffer) 1 s).2) =
      positionText (GpsFormatGpsData (parseFields rxBuffer (sentenceFields rxBuffer) 1 s').2) := by
  have hindices : ∀ p ∈ positionIndices, p.1 ∈ (sentenceFields rxBuffer).map Prod.fst := by
    obtain hgga | hrmc := hposition
    · rw [sentenceFields_gpgga hgga]
      decide
    · rw [sentenceFields_gprmc hrmc]
      decide
  have hneeded : ∀ p ∈ positionIndices, p.2 ≤ p.1.needed := by decide
  exact List.map_congr_left fun p hp =>
    agree_taken htable hfull s s' (hindices p hp) (hneeded p hp)

theorem GpsHasFix_taken {table : List (Field × Nat)} (hposition : TellsPosition rxBuffer)
    (hfield : FieldAt COMMA rxBuffer 1 n) (hn : n ≤ 6)
    (htable : Table rxBuffer 1 (sentenceFields rxBuffer) table)
    (hfull : ∀ p ∈ table, p.1.needed ≤ p.2) (s s' : Gps) :
    GpsHasFix (GpsFormatGpsData (parseFields rxBuffer (sentenceFields rxBuffer) 1 s).2) =
      GpsHasFix (GpsFormatGpsData (parseFields rxBuffer (sentenceFields rxBuffer) 1 s').2) := by
  unfold GpsHasFix
  simp only [isType_taken hfield hn _ typeName_GPGGA, isType_taken hfield hn _ typeName_GPRMC]
  obtain hgga | hrmc := hposition
  · rw [if_pos hgga, if_pos hgga, agree_taken htable hfull s s' _ (Nat.zero_le _)]
    rw [sentenceFields_gpgga hgga]
    decide
  · have hother : rxBuffer.read 1 5 ≠ NmeaDataTypeGPGGA := by
      rw [hrmc]
      decide
    rw [if_neg hother, if_neg hother, if_pos hrmc, if_pos hrmc,
      agree_taken htable hfull s s' _ (Nat.zero_le _)]
    rw [sentenceFields_gprmc hrmc]
    decide

/-- The last digit of an array that was not filled: no other field reaches it, even with a comma
that is stored behind the end of its array. -/
theorem not_reaches_needed {table : List (Field × Nat)} (hposition : TellsPosition rxBuffer)
    (htable : Table rxBuffer 1 (sentenceFields rxBuffer) table) {p : Field × Nat} (hp : p ∈ table)
    (hshort : p.2 < p.1.needed) : ∀ q ∈ table, ¬Reaches q (p.1.offset + p.1.needed) := by
  have hdigits : p.1 ∈ [Field.NmeaLatitude, Field.NmeaLongitude] := by
    revert hshort
    cases p.1 <;> simp [Field.needed]
  obtain ⟨hnodup, hother⟩ : ((sentenceFields rxBuffer).map Prod.fst).Nodup ∧
      ∀ f ∈ [Field.NmeaLatitude, Field.NmeaLongitude], ∀ q ∈ sentenceFields rxBuffer,
        q.1 ≠ f → ¬Reaches q (f.offset + f.needed) := by
    obtain hgga | hrmc := hposition
    · rw [sentenceFields_gpgga hgga]
      decide
    · rw [sentenceFields_gprmc hrmc]
      decide
  intro q hq hreach
  by_cases hsame : q.1 = p.1
  · rw [← htable.map_fst] at hnodup
    obtain rfl := List.inj_on_of_nodup_map hnodup hq hp hsame
    have hle : q.1.offset + q.1.needed ≤ q.1.offset + q.2 := hreach.2
    omega
  · obtain ⟨limit, hmem, hle⟩ := htable.le_limit q hq
    exact hother p.1 hdigits _ hmem hsame ⟨hreach.1, hreach.2.trans (Nat.add_le_add_left hle _)⟩

/-- With a digit missing, the digit of the last sentence stays. -/
theorem not_oneSentence_of_short (hdollar : rxBuffer 0 = DOLLAR)
    (hvalid : GpsNmeaValidateChecksum rxBuffer rxBufferSize = true) {table : List (Field × Nat)}
    (hposition : TellsPosition rxBuffer)
    (htable : Table rxBuffer 1 (sentenceFields rxBuffer) table) {p : Field × Nat} (hp : p ∈ table)
    (hshort : p.2 < p.1.needed) : ¬OneSentence rxBuffer rxBufferSize := by
  intro hone
  have hindex : (p.1, p.1.needed) ∈ positionIndices := by
    revert hshort
    cases p.1 <;> simp [Field.needed, positionIndices]
  have hkept (b : UInt8) (hb : b &&& 0xF = b) :
      (GpsParseGpsData rxBuffer rxBufferSize { Gps.initial with NmeaGpsData := fun _ => b }).2.at
        p.1 p.1.needed = b := by
    rw [GpsParseGpsData_success hdollar hvalid hposition htable]
    exact GpsFormatGpsData_number
      (htable.untouched (not_reaches_needed hposition htable hp hshort) _) hb
  have hsuccess := congrArg Prod.fst (GpsParseGpsData_success hdollar hvalid hposition htable
    { Gps.initial with NmeaGpsData := fun _ => 0 })
  obtain ⟨htext, -⟩ := hone.success _ { Gps.initial with NmeaGpsData := fun _ => 1 } hsuccess
  have hdigit := List.map_inj_left.mp htext _ hindex
  rw [hkept 0 rfl, hkept 1 rfl] at hdigit
  cases hdigit

/-- A sentence that is given up has changed the data type. -/
theorem not_oneSentence_of_fail (hdollar : rxBuffer 0 = DOLLAR)
    (hvalid : GpsNmeaValidateChecksum rxBuffer rxBufferSize = true)
    (hfield : FieldAt COMMA rxBuffer 1 n) (hn : n ≤ 6)
    (hnot : ¬(TellsPosition rxBuffer ∧
      ∃ table, Table rxBuffer 1 (sentenceFields rxBuffer) table)) :
    ¬OneSentence rxBuffer rxBufferSize := by
  intro hone
  obtain ⟨b, hb⟩ : ∃ b, rxBuffer 1 ≠ b := by
    by_cases hzero : rxBuffer 1 = 0
    · exact ⟨1, by rw [hzero]; decide⟩
    · exact ⟨0, hzero⟩
  have hparse := GpsParseGpsData_fail hdollar hvalid hnot
    { Gps.initial with NmeaGpsData := fun _ => b }
  have hunchanged := hone.fail _ (congrArg Prod.fst hparse) 0 (by decide)
  have hreach : Reaches (.NmeaDataType, n) 0 := ⟨Nat.le_refl 0, Nat.zero_le _⟩
  rw [hparse, parseFields_type hfield hn _ (by decide), copyField_of_reaches hreach] at hunchanged
  exact hb hunchanged

/-- A buffer of which nothing is copied. -/
theorem oneSentence_of_untouched
    (h : ∀ s, (GpsParseGpsData rxBuffer rxBufferSize s).1 = .FAIL ∧
      (GpsParseGpsData rxBuffer rxBufferSize s).2.NmeaGpsData = s.NmeaGpsData) :
    OneSentence rxBuffer rxBufferSize := by
  refine ⟨fun s s' hsuccess => ?_, fun s _ a _ => congrFun (h s).2 a⟩
  rw [(h s).1] at hsuccess
  cases hsuccess

end

/-- The position comes from one sentence exactly if all of it is copied, or nothing. Whatever an
earlier sentence has left, the digits of the latitude and of the longitude, their poles and the fix
are those of the new one only if no field that is parsed is too long, and both numbers have the
digits that are later read. -/
theorem oneSentence_iff (rxBuffer : Mem) (rxBufferSize : Int) :
    OneSentence rxBuffer rxBufferSize ↔ AllOrNothing rxBuffer rxBufferSize := by
  by_cases hdollar : rxBuffer 0 = DOLLAR
  swap
  · refine iff_of_true (oneSentence_of_untouched fun s => ?_) (.inl hdollar)
    unfold GpsParseGpsData
    rw [if_pos hdollar]
    exact ⟨rfl, rfl⟩
  cases hvalid : GpsNmeaValidateChecksum rxBuffer rxBufferSize with
  | false =>
    refine iff_of_true (oneSentence_of_untouched fun s => ?_) (.inr (.inl hvalid))
    have hpair : validateChecksum rxBuffer rxBufferSize =
        (false, (validateChecksum rxBuffer rxBufferSize).2) := Prod.ext hvalid rfl
    unfold GpsParseGpsData
    rw [hpair]
    simp [hdollar]
  | true =>
    obtain ⟨n, hfield, hn, -⟩ | ⟨hnone, hparse⟩ := parseField_cases rxBuffer .NmeaDataType 6 1
    swap
    · refine iff_of_true (oneSentence_of_untouched fun s => ?_) (.inr (.inr (.inl hnone)))
      rw [GpsParseGpsData_eq s hdollar hvalid]
      unfold sentenceFields parseFields
      rw [hparse]
      exact ⟨rfl, rfl⟩
    have hcopied : AllOrNothing rxBuffer rxBufferSize ↔ TellsPosition rxBuffer ∧
        ∃ table, Table rxBuffer 1 (sentenceFields rxBuffer) table ∧
          ∀ p ∈ table, p.1.needed ≤ p.2 := by
      refine ⟨?_, fun h => .inr (.inr (.inr h))⟩
      rintro (hno | hno | hno | h)
      · exact absurd hdollar hno
      · rw [hvalid] at hno
        cases hno
      · exact absurd hfield.ends (hno n hn)
      · exact h
    rw [hcopied]
    constructor
    · intro hone
      by_contra hnot
      by_cases htaken : TellsPosition rxBuffer ∧
          ∃ table, Table rxBuffer 1 (sentenceFields rxBuffer) table
      · obtain ⟨hposition, table, htable⟩ := htaken
        refine hnot ⟨hposition, table, htable, fun p hp => ?_⟩
        by_contra hshort
        exact not_oneSentence_of_short hdollar hvalid hposition htable hp (Nat.not_le.mp hshort)
          hone
      · exact not_oneSentence_of_fail hdollar hvalid hfield hn htaken hone
    · rintro ⟨hposition, table, htable, hfull⟩
      have hparse := GpsParseGpsData_success hdollar hvalid hposition htable
      refine ⟨fun s s' _ => ?_, fun s hfail => ?_⟩
      · rw [hparse s, hparse s']
        exact ⟨positionText_taken hposition htable hfull _ _,
          GpsHasFix_taken hposition hfield hn htable hfull _ _⟩
      · rw [hparse s] at hfail
        cases hfail

/-- A sentence of a receiver that tells the position to a hundredth of a minute:
`$GPGGA,092725.00,4717.11,N,00833.91,E,1,08,1.0,499,M,48,M,,*63`. -/
def coarseSentence : List UInt8 :=
  [0x24, 0x47, 0x50, 0x47, 0x47, 0x41, 0x2C, 0x30, 0x39, 0x32, 0x37, 0x32, 0x35, 0x2E, 0x30,
    0x30, 0x2C, 0x34, 0x37, 0x31, 0x37, 0x2E, 0x31, 0x31, 0x2C, 0x4E, 0x2C, 0x30, 0x30, 0x38,
    0x33, 0x33, 0x2E, 0x39, 0x31, 0x2C, 0x45, 0x2C, 0x31, 0x2C, 0x30, 0x38, 0x2C, 0x31, 0x2E,
    0x30, 0x2C, 0x34, 0x39, 0x39, 0x2C, 0x4D, 0x2C, 0x34, 0x38, 0x2C, 0x4D, 0x2C, 0x2C, 0x2A,
    0x36, 0x33, 0x0D, 0x0A]

/-- It is taken and tells of a fix, but the last digits of the position are those that stood in
`NmeaGpsData` before. -/
theorem not_oneSentence_coarseSentence :
    (GpsParseGpsData (bufferOf coarseSentence) coarseSentence.length .initial).1 = .SUCCESS ∧
      GpsHasFix (GpsParseGpsData (bufferOf coarseSentence) coarseSentence.length .initial).2 =
        true ∧
      ¬OneSentence (bufferOf coarseSentence) coarseSentence.length := by
  have hsuccess : (GpsParseGpsData (bufferOf coarseSentence) coarseSentence.length .initial).1 =
      .SUCCESS := by decide +kernel
  refine ⟨hsuccess, by decide +kernel, fun hone => ?_⟩
  obtain ⟨htext, -⟩ := hone.success _ { Gps.initial with NmeaGpsData := fun _ => 1 } hsuccess
  revert htext
  decide +kernel

end loranode.gps
