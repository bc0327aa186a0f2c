import Mathlib
import PeerBook.Proofs.PeerFileRoundTrip

/-!
# The grammar of peer files

A peer file is a run of records, each a length field, that many address bytes, a port field
and eight bytes each of services and last-seen time. `Chunk` is one such record with the
conditions the reader puts on it: the length field reads 4 or 16, and the port field at most
65535. `Chunk.Spells` says which record a chunk stands for, and `Refusal` says, check by check
in the reader's order, how bytes that do not start with a record are refused.

Main statements: reading succeeds exactly on runs of chunks and gives the records they spell
(`decodeFrom_eq_ok_iff`); it fails exactly on a run of chunks followed by refused bytes, and the
refusal carries the number of the chunks before it and, but for a port out of range, the number
of their bytes (`decodeFrom_eq_error_iff`). Both rest on one split of any byte string into
chunks and what follows them (`exists_chunks_append`), which the reader then meets chunk by
chunk.
-/

namespace PeerBook.PeerFile

/-- A record as a peer file lays it out, field by field: a two-byte length field that reads as
the number of address bytes, four or sixteen of them, a four-byte port field that reads at most
65535, and eight bytes each of services and last-seen time. -/
structure Chunk where
  lengthField : List UInt8
  address : List UInt8
  portField : List UInt8
  servicesField : List UInt8
  timeField : List UInt8
  lengthField_length : lengthField.length = 2
  ofLittleEndian_lengthField : ofLittleEndian lengthField = address.length
  address_length : address.length = 4 ∨ address.length = 16
  portField_length : portField.length = 4
  port_le : ofLittleEndian portField ≤ 65535
  servicesField_length : servicesField.length = 8
  timeField_length : timeField.length = 8

namespace Chunk

def bytes (chunk : Chunk) : List UInt8 :=
  chunk.lengthField ++ (chunk.address ++ (chunk.portField ++ (chunk.servicesField ++
    chunk.timeField)))

/-- The record the reader makes of a chunk. -/
def record (chunk : Chunk) : PeerRecord where
  addr := ((IpAddr.ofBytes? chunk.address).getD .absent).unmap
  port := (ofLittleEndian chunk.portField).toUInt16
  services := ServiceMask.ofNat (ofLittleEndian chunk.servicesField)
  lastSeen := (ofLittleEndian chunk.timeField).toUInt64.toInt64

/-- `record` is what `chunk` spells: the address its address bytes form, unmapped; the port and
the services its fields read; and the time its field reads as a signed 64-bit number in two's
complement. -/
structure Spells (chunk : Chunk) (record : PeerRecord) : Prop where
  addr : (IpAddr.ofBytes? chunk.address).map IpAddr.unmap = some record.addr
  port : record.port.toNat = ofLittleEndian chunk.portField
  services : record.services.bits.toNat = ofLittleEndian chunk.servicesField
  lastSeen : record.lastSeen.toInt =
    if ofLittleEndian chunk.timeField < 2 ^ 63 then (ofLittleEndian chunk.timeField : Int)
    else ofLittleEndian chunk.timeField - 2 ^ 64

theorem length_bytes (chunk : Chunk) : chunk.bytes.length = fixedSize + chunk.address.length := by
  have := chunk.lengthField_length
  have := chunk.portField_length
  have := chunk.servicesField_length
  have := chunk.timeField_length
  simp only [bytes, List.length_append, fixedSize]
  omega

end Chunk

theorem ofLittleEndian_lt (bytes : List UInt8) : ofLittleEndian bytes < 256 ^ bytes.length := by
  induction bytes with
  | nil => simp [ofLittleEndian]
  | cons byte bytes induction =>
      have low := byte.toNat_lt
      simp only [ofLittleEndian, List.foldr_cons, List.length_cons] at induction ⊢
      rw [Nat.pow_succ']
      omega

/-- A number below `2 ^ 64` read as a signed 64-bit number: itself below `2 ^ 63`, and
`2 ^ 64` less above. -/
theorem toInt_toInt64_toUInt64 {value : Nat} (fits : value < 2 ^ 64) :
    value.toUInt64.toInt64.toInt =
      if value < 2 ^ 63 then (value : Int) else value - 2 ^ 64 := by
  have read : value.toUInt64.toBitVec.toNat = value := by
    rw [← UInt64.toNat, Nat.toUInt64_eq]
    simp only [UInt64.toNat_ofNat']
    omega
  simp only [Int64.toInt, BitVec.toInt_eq_toNat_cond, UInt64.toBitVec_toInt64, read]
  split_ifs <;> omega

theorem IpAddr.exists_ofBytes?_eq_some {address : List UInt8}
    (allowed : address.length = 4 ∨ address.length = 16) :
    ∃ built, IpAddr.ofBytes? address = some built := by
  rcases allowed with four | sixteen
  · match address, four with
    | [a, b, c, d], _ => exact ⟨_, rfl⟩
  · match address, sixteen with
    | [a0, a1, b0, b1, c0, c1, d0, d1, e0, e1, f0, f1, g0, g1, h0, h1], _ => exact ⟨_, rfl⟩

namespace Chunk

theorem spells_record (chunk : Chunk) : chunk.Spells chunk.record := by
  obtain ⟨built, formed⟩ := IpAddr.exists_ofBytes?_eq_some chunk.address_length
  have servicesFit : ofLittleEndian chunk.servicesField < 2 ^ 64 := by
    have := ofLittleEndian_lt chunk.servicesField
    rw [chunk.servicesField_length] at this
    simpa using this
  have timeFits : ofLittleEndian chunk.timeField < 2 ^ 64 := by
    have := ofLittleEndian_lt chunk.timeField
    rw [chunk.timeField_length] at this
    simpa using this
  refine ⟨?_, ?_, ?_, ?_⟩
  · simp [record, formed]
  · have := chunk.port_le
    simp only [record, UInt16.toNat_ofNat']
    omega
  · simp only [record, ServiceMask.ofNat, UInt64.toNat_ofNat']
    omega
  · exact toInt_toInt64_toUInt64 timeFits

/-- What a chunk spells is one record. -/
theorem Spells.eq_record {chunk : Chunk} {record : PeerRecord} (spells : chunk.Spells record) :
    record = chunk.record := by
  have own := chunk.spells_record
  have sameAddr : record.addr = chunk.record.addr :=
    Option.some.inj (spells.addr.symm.trans own.addr)
  have samePort : record.port = chunk.record.port :=
    UInt16.toNat_inj.mp (spells.port.trans own.port.symm)
  have sameServices : record.services = chunk.record.services := by
    have sameBits := UInt64.toNat_inj.mp (spells.services.trans own.services.symm)
    rw [show record.services = ⟨record.services.bits⟩ from rfl, sameBits]
  have sameLastSeen : record.lastSeen = chunk.record.lastSeen :=
    Int64.toInt_inj.mp (spells.lastSeen.trans own.lastSeen.symm)
  cases record
  simp_all


theorem forall₂_spells_iff {chunks : List Chunk} {records : List PeerRecord} :
    List.Forall₂ Spells chunks records ↔ records = chunks.map record := by
  constructor
  · intro spells
    induction spells with
    | nil => rfl
    | cons head _ tail => rw [head.eq_record, tail, List.map_cons]
  · rintro rfl
    induction chunks with
    | nil => exact .nil
    | cons chunk chunks tail => exact .cons chunk.spells_record tail

end Chunk

theorem decodeFrom_chunk_append (chunk : Chunk) (index offset : Nat) (rest : List UInt8) :
    decodeFrom index offset (chunk.bytes ++ rest) =
      (decodeFrom (index + 1) (offset + chunk.bytes.length) rest).map (chunk.record :: ·) := by
  rw [chunk.length_bytes, ← Nat.add_assoc]
  simp only [Chunk.bytes, List.append_assoc]
  exact decodeFrom_fields chunk.lengthField_length chunk.ofLittleEndian_lengthField
    chunk.address_length chunk.portField_length chunk.port_le chunk.servicesField_length
    chunk.timeField_length index offset rest

theorem decodeFrom_flatMap_append (chunks : List Chunk) (index offset : Nat) (rest : List UInt8) :
    decodeFrom index offset (chunks.flatMap Chunk.bytes ++ rest) =
      (decodeFrom (index + chunks.length) (offset + (chunks.flatMap Chunk.bytes).length)
        rest).map (chunks.map Chunk.record ++ ·) := by
  induction chunks generalizing index offset with
  | nil =>
      simp only [List.flatMap_nil, List.nil_append, List.length_nil, Nat.add_zero, List.map_nil]
      cases decodeFrom index offset rest <;> rfl
  | cons chunk chunks induction =>
      have sameIndex : index + 1 + chunks.length = index + (chunks.length + 1) := by omega
      have sameOffset : offset + chunk.bytes.length + (chunks.flatMap Chunk.bytes).length =
          offset + (chunk.bytes ++ chunks.flatMap Chunk.bytes).length := by
        rw [List.length_append]
        omega
      rw [List.flatMap_cons, List.append_assoc, decodeFrom_chunk_append, induction, sameIndex,
        sameOffset, List.length_cons]
      cases decodeFrom (index + (chunks.length + 1))
        (offset + (chunk.bytes ++ chunks.flatMap Chunk.bytes).length) rest <;> rfl

/-- How the reader refuses bytes that do not start with a record, by the first of its checks
that fails: a single byte left; a length field that reads neither 4 nor 16; fewer bytes left
than the record needs; a port field that reads above 65535. -/
inductive Refusal (index offset : Nat) : List UInt8 → DecodeError → Prop where
  | truncatedLength (byte : UInt8) : Refusal index offset [byte] (.truncatedLength index offset)
  | addressLength {lengthField rest : List UInt8} (lengthField_length : lengthField.length = 2)
      (unknown : ofLittleEndian lengthField ≠ 4 ∧ ofLittleEndian lengthField ≠ 16) :
      Refusal index offset (lengthField ++ rest)
        (.addressLength index offset (ofLittleEndian lengthField))
  | truncatedRecord {lengthField rest : List UInt8} (lengthField_length : lengthField.length = 2)
      (known : ofLittleEndian lengthField = 4 ∨ ofLittleEndian lengthField = 16)
      (short : (lengthField ++ rest).length < fixedSize + ofLittleEndian lengthField) :
      Refusal index offset (lengthField ++ rest)
        (.truncatedRecord index offset (fixedSize + ofLittleEndian lengthField)
          (lengthField ++ rest).length)
  | portOutOfRange {lengthField address portField rest : List UInt8}
      (lengthField_length : lengthField.length = 2)
      (ofLittleEndian_lengthField : ofLittleEndian lengthField = address.length)
      (address_length : address.length = 4 ∨ address.length = 16)
      (portField_length : portField.length = 4) (tooLarge : 65535 < ofLittleEndian portField)
      (whole : 16 ≤ rest.length) :
      Refusal index offset (lengthField ++ (address ++ (portField ++ rest)))
        (.portOutOfRange index (ofLittleEndian portField))

/-- What the reader sees first of bytes that start with a length field: they are not empty,
not too short for the field, the field is their first two bytes, and the rest follows it. -/
private theorem lengthField_append {lengthField rest : List UInt8}
    (size : lengthField.length = 2) :
    (lengthField ++ rest).isEmpty = false ∧ ¬(lengthField ++ rest).length < 2 ∧
      (lengthField ++ rest).take 2 = lengthField ∧ (lengthField ++ rest).drop 2 = rest := by
  refine ⟨?_, ?_, List.take_left' size, List.drop_left' size⟩
  · cases lengthField with
    | nil => simp at size
    | cons => rfl
  · rw [List.length_append, size]
    omega

theorem decodeFrom_of_refusal {index offset : Nat} {bytes : List UInt8} {error : DecodeError}
    (refused : Refusal index offset bytes error) : decodeFrom index offset bytes = .error error := by
  cases refused with
  | truncatedLength byte =>
      rw [decodeFrom]
      rfl
  | @addressLength lengthField rest size unknown =>
      obtain ⟨notEmpty, notShort, lengthTake, -⟩ := @lengthField_append lengthField rest size
      rw [decodeFrom]
      simp only [notEmpty, notShort, lengthTake, Bool.false_eq_true, if_false]
      rw [if_pos unknown]
  | @truncatedRecord lengthField rest size known short =>
      obtain ⟨notEmpty, notShort, lengthTake, -⟩ := @lengthField_append lengthField rest size
      have lengthKnown : ¬(ofLittleEndian lengthField ≠ 4 ∧ ofLittleEndian lengthField ≠ 16) := by
        omega
      rw [decodeFrom]
      simp only [notEmpty, notShort, lengthTake, lengthKnown, short, Bool.false_eq_true, if_false]
      rfl
  | @portOutOfRange lengthField address portField rest size lengthRead addressLength portSize
      tooLarge whole =>
      obtain ⟨notEmpty, notShort, lengthTake, bodyDrop⟩ :=
        @lengthField_append lengthField (address ++ (portField ++ rest)) size
      have lengthKnown : ¬(address.length ≠ 4 ∧ address.length ≠ 16) := by omega
      -- The port check comes after the size check, which the sixteen bytes after the port pass.
      have notTruncated : ¬(lengthField ++ (address ++ (portField ++ rest))).length <
          fixedSize + address.length := by
        simp only [List.length_append, size, portSize, fixedSize]
        omega
      have portTake : ((address ++ (portField ++ rest)).drop address.length).take 4 = portField := by
        rw [List.drop_left, List.take_left' portSize]
      rw [decodeFrom]
      simp only [notEmpty, notShort, lengthTake, lengthRead, lengthKnown, notTruncated, bodyDrop,
        portTake, tooLarge, Bool.false_eq_true, if_false, if_true]

/-- Bytes that are not empty start with a record or are refused there. -/
theorem chunk_or_refusal (index offset : Nat) {bytes : List UInt8} (nonempty : bytes ≠ []) :
    (∃ (chunk : Chunk) (rest : List UInt8), bytes = chunk.bytes ++ rest) ∨
      ∃ error, Refusal index offset bytes error := by
  match bytes, nonempty with
  | [byte], _ => exact .inr ⟨_, .truncatedLength byte⟩
  | low :: high :: more, _ =>
      have split : low :: high :: more = [low, high] ++ more := rfl
      rw [split]
      by_cases unknown : ofLittleEndian [low, high] ≠ 4 ∧ ofLittleEndian [low, high] ≠ 16
      · exact .inr ⟨_, .addressLength rfl unknown⟩
      have known : ofLittleEndian [low, high] = 4 ∨ ofLittleEndian [low, high] = 16 := by omega
      by_cases short : ([low, high] ++ more).length < fixedSize + ofLittleEndian [low, high]
      · exact .inr ⟨_, .truncatedRecord rfl known short⟩
      -- The whole record is there: its address, its port field and sixteen bytes more.
      have whole : fixedSize + ofLittleEndian [low, high] ≤ more.length + 2 := by
        simp only [List.length_append, List.length_cons, List.length_nil] at short
        omega
      set length := ofLittleEndian [low, high]
      have addressSize : (more.take length).length = length := by
        simp only [List.length_take, fixedSize] at whole ⊢
        omega
      have portSize : ((more.drop length).take 4).length = 4 := by
        simp only [List.length_take, List.length_drop, fixedSize] at whole ⊢
        omega
      have restSize : 16 ≤ ((more.drop length).drop 4).length := by
        simp only [List.length_drop, fixedSize] at whole ⊢
        omega
      have fields : more = more.take length ++ ((more.drop length).take 4 ++
          (more.drop length).drop 4) := by
        simp
      rw [fields]
      have addressLength : (more.take length).length = 4 ∨ (more.take length).length = 16 := by
        rw [addressSize]
        exact known
      by_cases tooLarge : 65535 < ofLittleEndian ((more.drop length).take 4)
      · exact .inr ⟨_, .portOutOfRange rfl addressSize.symm addressLength portSize tooLarge
          restSize⟩
      · left
        set afterPort := (more.drop length).drop 4
        refine ⟨⟨[low, high], more.take length, (more.drop length).take 4, afterPort.take 8,
          (afterPort.drop 8).take 8, rfl, addressSize.symm, addressLength, portSize,
          by omega, ?_, ?_⟩, (afterPort.drop 8).drop 8, ?_⟩
        · simp only [List.length_take]
          omega
        · simp only [List.length_take, List.length_drop]
          omega
        · simp only [Chunk.bytes, List.append_assoc, List.take_append_drop]

/-- Every byte string is a run of records followed by nothing, or by bytes the reader refuses
there. -/
theorem exists_chunks_append (index offset : Nat) (bytes : List UInt8) :
    ∃ (chunks : List Chunk) (rest : List UInt8), bytes = chunks.flatMap Chunk.bytes ++ rest ∧
      (rest = [] ∨ ∃ error, Refusal (index + chunks.length)
        (offset + (chunks.flatMap Chunk.bytes).length) rest error) := by
  by_cases empty : bytes = []
  · exact ⟨[], [], by simp [empty], .inl rfl⟩
  rcases chunk_or_refusal index offset empty with ⟨chunk, rest, first⟩ | ⟨error, refused⟩
  · have shorter : rest.length < bytes.length := by
      rw [first, List.length_append, chunk.length_bytes]
      simp only [fixedSize]
      omega
    obtain ⟨chunks, tail, split, ending⟩ :=
      exists_chunks_append (index + 1) (offset + chunk.bytes.length) rest
    refine ⟨chunk :: chunks, tail, by rw [first, split, List.flatMap_cons, List.append_assoc], ?_⟩
    rcases ending with done | ⟨error, refused⟩
    · exact .inl done
    · have sameIndex : index + 1 + chunks.length = index + (chunk :: chunks).length := by
        simp only [List.length_cons]
        omega
      have sameOffset : offset + chunk.bytes.length + (chunks.flatMap Chunk.bytes).length =
          offset + ((chunk :: chunks).flatMap Chunk.bytes).length := by
        simp only [List.flatMap_cons, List.length_append]
        omega
      rw [sameIndex, sameOffset] at refused
      exact .inr ⟨error, refused⟩
  · exact ⟨[], bytes, by simp, .inr ⟨error, by simpa using refused⟩⟩
termination_by bytes.length
decreasing_by exact shorter

theorem decodeFrom_flatMap (chunks : List Chunk) (index offset : Nat) :
    decodeFrom index offset (chunks.flatMap Chunk.bytes) = .ok (chunks.map Chunk.record) := by
  have read := decodeFrom_flatMap_append chunks index offset []
  rw [List.append_nil, decodeFrom_nil] at read
  rw [read]
  simp [Except.map]

theorem decodeFrom_flatMap_append_of_refusal (chunks : List Chunk) {index offset : Nat}
    {rest : List UInt8} {error : DecodeError}
    (refused : Refusal (index + chunks.length) (offset + (chunks.flatMap Chunk.bytes).length)
      rest error) :
    decodeFrom index offset (chunks.flatMap Chunk.bytes ++ rest) = .error error := by
  rw [decodeFrom_flatMap_append, decodeFrom_of_refusal refused]
  rfl

/-- The reader succeeds exactly on runs of records, and reads the records they spell. -/
theorem decodeFrom_eq_ok_iff {index offset : Nat} {bytes : List UInt8}
    {records : List PeerRecord} :
    decodeFrom index offset bytes = .ok records ↔
      ∃ chunks : List Chunk, bytes = chunks.flatMap Chunk.bytes ∧
        List.Forall₂ Chunk.Spells chunks records := by
  simp only [Chunk.forall₂_spells_iff]
  constructor
  · intro read
    obtain ⟨chunks, rest, rfl, ending⟩ := exists_chunks_append index offset bytes
    rcases ending with rfl | ⟨error, refused⟩
    · rw [List.append_nil, decodeFrom_flatMap, Except.ok.injEq] at read
      exact ⟨chunks, by rw [List.append_nil], read.symm⟩
    · rw [decodeFrom_flatMap_append_of_refusal chunks refused] at read
      cases read
  · rintro ⟨chunks, rfl, rfl⟩
    exact decodeFrom_flatMap chunks index offset

/-- The reader fails exactly on a run of records followed by bytes it refuses, and reports the
refusal of those bytes, numbered after the records before them and placed where they end. -/
theorem decodeFrom_eq_error_iff {index offset : Nat} {bytes : List UInt8}
    {error : DecodeError} :
    decodeFrom index offset bytes = .error error ↔
      ∃ (chunks : List Chunk) (rest : List UInt8), bytes = chunks.flatMap Chunk.bytes ++ rest ∧
        Refusal (index + chunks.length) (offset + (chunks.flatMap Chunk.bytes).length) rest
          error := by
  constructor
  · intro read
    obtain ⟨chunks, rest, rfl, ending⟩ := exists_chunks_append index offset bytes
    rcases ending with rfl | ⟨reported, refused⟩
    · rw [List.append_nil, decodeFrom_flatMap] at read
      cases read
    · rw [decodeFrom_flatMap_append_of_refusal chunks refused, Except.error.injEq] at read
      exact ⟨chunks, rest, rfl, read ▸ refused⟩
  · rintro ⟨chunks, rest, rfl, refused⟩
    exact decodeFrom_flatMap_append_of_refusal chunks refused

/-- Every refusal reads as corrupt peer address data, then what went wrong. -/
theorem DecodeError.message_eq_corruptText_append (error : DecodeError) :
    ∃ detail, error.message = corruptText ++ ": " ++ detail := by
  cases error with
  | truncatedLength index offset =>
      refine ⟨"record " ++ toString index ++ " at offset " ++ toString offset ++
        ": truncated length field", ?_⟩
      simp only [DecodeError.message, String.append_assoc]
      rfl
  | addressLength index offset length =>
      refine ⟨"record " ++ toString index ++ " at offset " ++ toString offset ++
        ": address length " ++ toString length, ?_⟩
      simp only [DecodeError.message, String.append_assoc]
      rfl
  | truncatedRecord index offset needed available =>
      refine ⟨"record " ++ toString index ++ " at offset " ++ toString offset ++ ": need " ++
        toString needed ++ " bytes, have " ++ toString available, ?_⟩
      simp only [DecodeError.message, String.append_assoc]
      rfl
  | portOutOfRange index port =>
      refine ⟨"record " ++ toString index ++ ": port " ++ toString port ++ " out of range", ?_⟩
      simp only [DecodeError.message, String.append_assoc]
      rfl

/-- Reading a peer file succeeds exactly when its bytes are a run of records, each a length
field reading 4 or 16, that many address bytes, a port field reading at most 65535, and eight
bytes each of services and time; it then gives the records they spell, in order. Otherwise it
fails with a refusal reported as corrupt peer address data, at the first chunk that is not a
record: numbered by the records before it, placed where they end, and refused by the first of
the reader's checks that fails. -/
theorem decode_accepts_exactly_records (data : List UInt8) :
    (∀ records, decode data = .ok records ↔
      ∃ chunks : List Chunk, data = chunks.flatMap Chunk.bytes ∧
        List.Forall₂ Chunk.Spells chunks records) ∧
    (∀ error, decode data = .error error ↔
      ∃ (chunks : List Chunk) (rest : List UInt8), data = chunks.flatMap Chunk.bytes ++ rest ∧
        Refusal chunks.length (chunks.flatMap Chunk.bytes).length rest error) ∧
    ∀ error : DecodeError, ∃ detail, error.message = corruptText ++ ": " ++ detail := by
  refine ⟨fun records => decodeFrom_eq_ok_iff, fun error => ?_,
    DecodeError.message_eq_corruptText_append⟩
  rw [decode, decodeFrom_eq_error_iff]
  simp only [Nat.zero_add]

end PeerBook.PeerFile
