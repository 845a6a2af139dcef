import LoRaNode.Gps.Parse

open delimited

namespace loranode.gps

variable {rxBuffer : Mem} {rxBufferSize : Int}

/-- Every store has gone into the array that it names, and every byte was read from the buffer. -/
structure Gps.InBounds (s : Gps) (rxBufferSize : Int) : Prop where
  stores : ∀ p ∈ s.stores, p.2 < p.1.length
  reads : ∀ i ∈ s.reads, (i : Int) < rxBufferSize

/-- The sentence fits, from `i` on: each field is shorter than its array and ends in the buffer,
up to one that is too long to be copied, and of which as much lies in the buffer as the parser
looks at. -/
def Fits (rxBuffer : Mem) (rxBufferSize : Int) : List (Field × Nat) → Nat → Prop
  | [], _ => True
  | (f, limit) :: fields, i =>
    (∃ n ≤ limit, FieldAt COMMA rxBuffer i n ∧ n < f.length ∧ (i + n : Int) < rxBufferSize ∧
        Fits rxBuffer rxBufferSize fields (i + n + 1)) ∨
      (∀ k ≤ limit, rxBuffer (i + k) ≠ COMMA) ∧ (i + limit : Int) < rxBufferSize

instance decidableFits (rxBuffer : Mem) (rxBufferSize : Int) :
    (fields : List (Field × Nat)) → (i : Nat) → Decidable (Fits rxBuffer rxBufferSize fields i)
  | [], _ => isTrue trivial
  | (_, _) :: fields, _ =>
    have := decidableFits rxBuffer rxBufferSize fields
    inferInstanceAs (Decidable (_ ∨ _))

theorem forall_range'_lt {i n : Nat} :
    (∀ j ∈ List.range' i (n + 1), (j : Int) < rxBufferSize) ↔ (i + n : Int) < rxBufferSize := by
  constructor
  · intro h
    have := h (i + n) (by simp)
    omega
  · intro h j hj
    rw [List.mem_range'_1] at hj
    omega

theorem inBounds_reads {s : Gps} {i n : Nat} :
    ({ s with reads := s.reads ++ List.range' i (n + 1) } : Gps).InBounds rxBufferSize ↔
      s.InBounds rxBufferSize ∧ (i + n : Int) < rxBufferSize := by
  constructor
  · rintro ⟨hstores, hreads⟩
    rw [List.forall_mem_append] at hreads
    exact ⟨⟨hstores, hreads.1⟩, forall_range'_lt.mp hreads.2⟩
  · rintro ⟨⟨hstores, hreads⟩, hlast⟩
    exact ⟨hstores, List.forall_mem_append.mpr ⟨hreads, forall_range'_lt.mpr hlast⟩⟩

/-- The last byte of a field decides. -/
theorem inBounds_copyField {s : Gps} {f : Field} {i n : Nat} :
    (copyField rxBuffer f i (n + 1) s).InBounds rxBufferSize ↔
      s.InBounds rxBufferSize ∧ n < f.length ∧ (i + n : Int) < rxBufferSize := by
  have hstores : (∀ p ∈ (List.range (n + 1)).map (f, ·), p.2 < p.1.length) ↔ n < f.length := by
    simp only [List.forall_mem_map, List.mem_range]
    exact ⟨fun h => h n (Nat.lt_succ_self n), fun h j hj => by omega⟩
  constructor
  · rintro ⟨hs, hr⟩
    obtain ⟨hs, hlast⟩ := List.forall_mem_append.mp hs
    obtain ⟨hr, hend⟩ := List.forall_mem_append.mp hr
    exact ⟨⟨hs, hr⟩, hstores.mp hlast, forall_range'_lt.mp hend⟩
  · rintro ⟨⟨hs, hr⟩, hlast, hend⟩
    exact ⟨List.forall_mem_append.mpr ⟨hs, hstores.mpr hlast⟩,
      List.forall_mem_append.mpr ⟨hr, forall_range'_lt.mpr hend⟩⟩

/-- The accesses of a whole row of fields. -/
theorem inBounds_parseFields (fields : List (Field × Nat)) (i : Nat) (s : Gps) :
    (parseFields rxBuffer fields i s).2.InBounds rxBufferSize ↔
      s.InBounds rxBufferSize ∧ Fits rxBuffer rxBufferSize fields i := by
  induction fields generalizing i s with
  | nil => exact (and_iff_left trivial).symm
  | cons p fields ih =>
    obtain ⟨f, limit⟩ := p
    unfold parseFields Fits
    obtain ⟨n, hfield, hn, hparse⟩ | ⟨hnone, hparse⟩ := parseField_cases rxBuffer f limit i
    · rw [hparse]
      dsimp only
      rw [ih, inBounds_copyField, and_assoc, and_assoc]
      have hfits : (n < f.length ∧ (i + n : Int) < rxBufferSize ∧
            Fits rxBuffer rxBufferSize fields (i + n + 1)) ↔
          (∃ n ≤ limit, FieldAt COMMA rxBuffer i n ∧ n < f.length ∧ (i + n : Int) < rxBufferSize ∧
              Fits rxBuffer rxBufferSize fields (i + n + 1)) ∨
            (∀ k ≤ limit, rxBuffer (i + k) ≠ COMMA) ∧ (i + limit : Int) < rxBufferSize := by
        constructor
        · intro h
          exact .inl ⟨n, hn, hfield, h⟩
        · rintro (⟨n', -, hfield', h⟩ | ⟨hnone, -⟩)
          · rw [hfield.unique hfield']
            exact h
          · exact absurd hfield.ends (hnone n hn)
      rw [hfits]
    · rw [hparse]
      dsimp only
      rw [inBounds_reads]
      refine and_congr_right fun _ => ⟨fun h => .inr ⟨hnone, h⟩, ?_⟩
      rintro (⟨n, hn, hfield, -⟩ | ⟨-, h⟩)
      · exact absurd hfield.ends (hnone n hn)
      · exact h

theorem reads_xorUntilStar (fuel : Nat) {i : Nat} (checkNum : UInt8) {reads : List Nat}
    (hi : (i : Int) < rxBufferSize) (hreads : ∀ j ∈ reads, (j : Int) < rxBufferSize) :
    ∀ j ∈ (xorUntilStar rxBuffer rxBufferSize fuel i checkNum reads).2,
      (j : Int) < rxBufferSize := by
  induction fuel generalizing i checkNum reads with
  | zero => exact hreads
  | succ fuel ih =>
    have hnext : ∀ j ∈ reads ++ [i], (j : Int) < rxBufferSize :=
      List.forall_mem_append.mpr ⟨hreads, by simpa using hi⟩
    unfold xorUntilStar
    split
    · exact hnext
    · split
      · exact hnext
      · next hend => exact ih _ (by push_cast; omega) hnext

/-- The checksum is looked for inside the buffer. -/
theorem reads_validateChecksum (rxBuffer : Mem) (rxBufferSize : Int) :
    ∀ j ∈ (validateChecksum rxBuffer rxBufferSize).2, (j : Int) < rxBufferSize := by
  have hchecksum : ∀ j ∈ (GpsNmeaChecksum rxBuffer rxBufferSize).2, (j : Int) < rxBufferSize := by
    unfold GpsNmeaChecksum
    split
    · simp
    · next hsize =>
      exact reads_xorUntilStar _ _ (by split <;> omega) (by simp; omega)
  unfold validateChecksum
  split
  · next hfound => rwa [hfound] at hchecksum
  · next checksumIndex upper lower reads hfound =>
    rw [hfound] at hchecksum
    split
    · exact hchecksum
    · next hroom =>
      split
      · refine List.forall_mem_append.mpr ⟨hchecksum, ?_⟩
        simp
        omega
      · refine List.forall_mem_append.mpr ⟨hchecksum, ?_⟩
        simp
        omega

theorem size_of_valid (hvalid : GpsNmeaValidateChecksum rxBuffer rxBufferSize = true) :
    1 < rxBufferSize := by
  by_contra hsize
  have hnone : GpsNmeaChecksum rxBuffer rxBufferSize = (none, []) := if_pos (by omega)
  unfold GpsNmeaValidateChecksum validateChecksum at hvalid
  rw [hnone] at hvalid
  cases hvalid

/-- The conversion of the position stays in the two arrays. -/
theorem inBounds_GpsFormatGpsData {s : Gps} :
    (GpsFormatGpsData s).InBounds rxBufferSize ↔ s.InBounds rxBufferSize := by
  have hstores : (GpsFormatGpsData s).stores = s.stores ++
      (List.range 10).map (Field.NmeaLatitude, ·) ++
        (List.range 10).map (Field.NmeaLongitude, ·) := rfl
  have hown : ∀ p ∈ (List.range 10).map (Field.NmeaLatitude, ·) ++
      (List.range 10).map (Field.NmeaLongitude, ·), p.2 < p.1.length := by decide
  constructor
  · rintro ⟨hs, hr⟩
    rw [hstores, List.append_assoc, List.forall_mem_append] at hs
    exact ⟨hs.1, hr⟩
  · rintro ⟨hs, hr⟩
    refine ⟨?_, hr⟩
    rw [hstores, List.append_assoc, List.forall_mem_append]
    exact ⟨hs, hown⟩

/-- The parser keeps to its arrays and to the buffer exactly if the sentence fits. A field whose
characters just fill the array does not: its comma, which is counted and copied with it, is stored
behind the end. -/
theorem inBounds_iff (s : Gps) (hvalid : GpsNmeaValidateChecksum rxBuffer rxBufferSize = true) :
    (GpsParseGpsData rxBuffer rxBufferSize s).2.InBounds rxBufferSize ↔
      (rxBuffer 0 = DOLLAR → Fits rxBuffer rxBufferSize (sentenceFields rxBuffer) 1) := by
  have hsize := size_of_valid hvalid
  by_cases hdollar : rxBuffer 0 = DOLLAR
  · have hstart : (s.checked rxBuffer rxBufferSize).InBounds rxBufferSize := by
      refine ⟨by simp [Gps.checked], List.forall_mem_cons.mpr ⟨by omega, ?_⟩⟩
      exact reads_validateChecksum rxBuffer rxBufferSize
    have hfields : (parseFields rxBuffer (sentenceFields rxBuffer) 1
          (s.checked rxBuffer rxBufferSize)).2.InBounds rxBufferSize ↔
        Fits rxBuffer rxBufferSize (sentenceFields rxBuffer) 1 :=
      (inBounds_parseFields _ 1 _).trans (and_iff_right hstart)
    rw [GpsParseGpsData_eq s hdollar hvalid, ← hfields]
    refine Iff.trans ?_ (forall_prop_of_true hdollar).symm
    split
    · next hparse => rw [hparse]
    · next hparse =>
      rw [hparse]
      split
      · exact inBounds_GpsFormatGpsData
      · rfl
  · refine iff_of_true ?_ (fun h => absurd h hdollar)
    unfold GpsParseGpsData
    rw [if_pos hdollar]
    exact ⟨by simp [GpsMcuInvertPpsTrigger], by simp [GpsMcuInvertPpsTrigger]; omega⟩

/-- A sentence of a receiver that tells the position to a hundred-thousandth of a minute:
`$GPGGA,092725.00,4717.11399,N,00833.91590,E,1,08,1.01,499.6,M,48.0,M,,*5B`. -/
def preciseSentence : List UInt8 :=
  [0x24, 0x47, 0x50, 0x47, 0x47, 0x41, 0x2C, 0x30, 0x39, 0x32, 0x37, 0x32, 0x35, 0x2E, 0x30,
    0x30, 0x2C, 0x34, 0x37, 0x31, 0x37, 0x2E, 0x31, 0x31, 0x33, 0x39, 0x39, 0x2C, 0x4E, 0x2C,
    0x30, 0x30, 0x38, 0x33, 0x33, 0x2E, 0x39, 0x31, 0x35, 0x39, 0x30, 0x2C, 0x45, 0x2C, 0x31,
    0x2C, 0x30, 0x38, 0x2C, 0x31, 0x2E, 0x30, 0x31, 0x2C, 0x34, 0x39, 0x39, 0x2E, 0x36, 0x2C,
    0x4D, 0x2C, 0x34, 0x38, 0x2E, 0x30, 0x2C, 0x4D, 0x2C, 0x2C, 0x2A, 0x35, 0x42, 0x0D, 0x0A]

/-- The latitude has ten characters, as many as its array, and the comma behind it is stored to
`NmeaLatitude[10]`. -/
theorem not_inBounds_preciseSentence :
    GpsNmeaValidateChecksum (bufferOf preciseSentence) preciseSentence.length = true ∧
      ¬(GpsParseGpsData (bufferOf preciseSentence) preciseSentence.length .initial).2.InBounds
        preciseSentence.length := by
  refine ⟨by decide +kernel, fun hin => ?_⟩
  have hstored : (Field.NmeaLatitude, 10) ∈
      (GpsParseGpsData (bufferOf preciseSentence) preciseSentence.length .initial).2.stores := by
    decide +kernel
  exact absurd (hin.stores _ hstored) (by decide)

/-- The same position to a ten-thousandth:
`$GPGGA,092725.00,4717.1139,N,00833.9159,E,1,08,1.0,499,M,48,M,,*65`. -/
def shortSentence : List UInt8 :=
  [0x24, 0x47, 0x50, 0x47, 0x47, 0x41, 0x2C, 0x30, 0x39, 0x32, 0x37, 0x32, 0x35, 0x2E, 0x30,
    0x30, 0x2C, 0x34, 0x37, 0x31, 0x37, 0x2E, 0x31, 0x31, 0x33, 0x39, 0x2C, 0x4E, 0x2C, 0x30,
    0x30, 0x38, 0x33, 0x33, 0x2E, 0x39, 0x31, 0x35, 0x39, 0x2C, 0x45, 0x2C, 0x31, 0x2C, 0x30,
    0x38, 0x2C, 0x31, 0x2E, 0x30, 0x2C, 0x34, 0x39, 0x39, 0x2C, 0x4D, 0x2C, 0x34, 0x38, 0x2C,
    0x4D, 0x2C, 0x2C, 0x2A, 0x36, 0x35, 0x0D, 0x0A]

theorem inBounds_iff_shortSentence :
    GpsNmeaValidateChecksum (bufferOf shortSentence) shortSentence.length = true ∧
      (GpsParseGpsData (bufferOf shortSentence) shortSentence.length .initial).2.InBounds
        shortSentence.length := by
  have hvalid : GpsNmeaValidateChecksum (bufferOf shortSentence) shortSentence.length = true := by
    decide +kernel
  exact ⟨hvalid, (inBounds_iff .initial hvalid).mpr (by decide +kernel)⟩

end loranode.gps
