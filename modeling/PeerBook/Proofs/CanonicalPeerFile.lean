import Mathlib
import PeerBook.Proofs.PeerFileGrammar
import PeerBook.Proofs.NormalForm

/-!
# Writing undoes reading on canonical peer files

Reading a peer file and writing its records again gives back the same bytes when the file is
already in the form the writer leaves: at most 200 records, all admissible, newest first, and
no address field of sixteen bytes that holds an IPv4-mapped address (the reader unmaps such an
address, and the writer would then write it in four bytes). Every file the writer produces is
of that form.

A record's fields are written back from what was read because a little-endian field is
determined by its value and width, and the address bytes by the address they form. The
condition on address fields is stated over every way of cutting the bytes into records; there
is at most one such way, since each record's length field fixes where the next one starts.
-/

namespace PeerBook

namespace IpAddr

theorem groupOctets_groupOf (high low : UInt8) : groupOctets (groupOf high low) = [high, low] := by
  have highBound := high.toNat_lt
  have lowBound := low.toNat_lt
  have value : (groupOf high low).toNat = high.toNat * 256 + low.toNat := by
    simp [groupOf, UInt16.toNat_add, UInt16.toNat_mul]
    omega
  simp only [groupOctets, List.cons.injEq, and_true]
  constructor
  · apply UInt8.toNat_inj.mp
    simp [UInt16.toNat_shiftRight, Nat.shiftRight_eq_div_pow, value]
    omega
  · apply UInt8.toNat_inj.mp
    simp [value]

/-- An address read from bytes has those bytes. -/
theorem toBytes_of_ofBytes?_eq_some {bytes : List UInt8} {address : IpAddr}
    (read : ofBytes? bytes = some address) : address.toBytes = bytes := by
  unfold ofBytes? at read
  split at read
  · cases read
    rfl
  · cases read
    simp [toBytes, groupOctets_groupOf]
  · cases read

end IpAddr

namespace PeerFile

/-- A little-endian field is written back from its value. -/
theorem littleEndian_ofLittleEndian (bytes : List UInt8) :
    littleEndian bytes.length (ofLittleEndian bytes) = bytes := by
  induction bytes with
  | nil => rfl
  | cons byte bytes induction =>
      have bound := byte.toNat_lt
      have low : ofLittleEndian (byte :: bytes) % 256 = byte.toNat := by
        simp only [ofLittleEndian, List.foldr_cons]
        omega
      have high : ofLittleEndian (byte :: bytes) / 256 = ofLittleEndian bytes := by
        simp only [ofLittleEndian, List.foldr_cons]
        omega
      rw [List.length_cons, littleEndian_succ, low, high, induction]
      simp

theorem littleEndian_ofLittleEndian_of_length {bytes : List UInt8} {width : Nat}
    (size : bytes.length = width) : littleEndian width (ofLittleEndian bytes) = bytes := by
  rw [← size]
  exact littleEndian_ofLittleEndian bytes

namespace Chunk

/-- Whether the address field of a chunk holds an IPv4-mapped IPv6 address. -/
def holdsMapped (chunk : Chunk) : Bool :=
  ((IpAddr.ofBytes? chunk.address).getD .absent).isMapped

theorem toBytes_unmap_addr_record {chunk : Chunk} (notMapped : chunk.holdsMapped = false) :
    chunk.record.addr.unmap.toBytes = chunk.address := by
  obtain ⟨built, formed⟩ := IpAddr.exists_ofBytes?_eq_some chunk.address_length
  have builtNotMapped : built.isMapped = false := by
    simpa [holdsMapped, formed] using notMapped
  simp only [record, formed, Option.getD_some, IpAddr.unmap_eq_self builtNotMapped]
  exact IpAddr.toBytes_of_ofBytes?_eq_some formed

/-- The writer writes the record of a chunk whose address is not mapped as the chunk itself. -/
theorem encodeRecord_record {chunk : Chunk} (notMapped : chunk.holdsMapped = false) :
    encodeRecord chunk.record = chunk.bytes := by
  have spells := chunk.spells_record
  have timeFits : ofLittleEndian chunk.timeField < 2 ^ 64 := by
    have := ofLittleEndian_lt chunk.timeField
    rw [chunk.timeField_length] at this
    simpa using this
  have time : chunk.record.lastSeen.toUInt64.toNat = ofLittleEndian chunk.timeField := by
    simp only [record, UInt64.toUInt64_toInt64, UInt64.toNat_ofNat']
    omega
  rw [encodeRecord_eq, toBytes_unmap_addr_record notMapped, spells.port, spells.services, time,
    ← chunk.ofLittleEndian_lengthField,
    littleEndian_ofLittleEndian_of_length chunk.lengthField_length,
    littleEndian_ofLittleEndian_of_length chunk.portField_length,
    littleEndian_ofLittleEndian_of_length chunk.servicesField_length,
    littleEndian_ofLittleEndian_of_length chunk.timeField_length]
  rfl

/-- The bytes of an admissible record form a chunk whose address is not mapped. -/
theorem exists_of_admissible {record : PeerRecord} (admissible : record.isAdmissible = true) :
    ∃ chunk : Chunk, chunk.bytes = encodeRecord record ∧ chunk.holdsMapped = false := by
  have valid : record.addr.unmap.isValid = true := by
    simp only [PeerRecord.isAdmissible, Bool.and_eq_true] at admissible
    exact admissible.1
  have addressLength := IpAddr.length_toBytes_of_isValid valid
  have portFits : ofLittleEndian (littleEndian 4 record.port.toNat) ≤ 65535 := by
    have := record.port.toNat_lt
    rw [ofLittleEndian_littleEndian_of_lt (by omega)]
    omega
  refine ⟨⟨littleEndian 2 record.addr.unmap.toBytes.length, record.addr.unmap.toBytes,
    littleEndian 4 record.port.toNat, littleEndian 8 record.services.bits.toNat,
    littleEndian 8 record.lastSeen.toUInt64.toNat, length_littleEndian 2 _,
    ofLittleEndian_littleEndian_of_lt (by omega), addressLength, length_littleEndian 4 _,
    portFits, length_littleEndian 8 _, length_littleEndian 8 _⟩, ?_, ?_⟩
  · rw [encodeRecord_eq]
    rfl
  · simp [holdsMapped, IpAddr.ofBytes?_toBytes valid]

/-- Two chunks that start the same bytes are the same chunk: the length field fixes how long
the chunk is, and the fields follow one another at fixed widths. -/
theorem eq_of_bytes_append_eq {first second : Chunk} {firstRest secondRest : List UInt8}
    (same : first.bytes ++ firstRest = second.bytes ++ secondRest) :
    first = second ∧ firstRest = secondRest := by
  have sameLengthField : first.lengthField = second.lengthField := by
    have taken := congrArg (List.take 2) same
    simp only [bytes, List.append_assoc] at taken
    rwa [List.take_left' first.lengthField_length, List.take_left' second.lengthField_length]
      at taken
  have sameAddressLength : first.address.length = second.address.length := by
    rw [← first.ofLittleEndian_lengthField, ← second.ofLittleEndian_lengthField,
      sameLengthField]
  have sameSize : first.bytes.length = second.bytes.length := by
    rw [first.length_bytes, second.length_bytes, sameAddressLength]
  obtain ⟨sameBytes, sameRest⟩ := List.append_inj same sameSize
  refine ⟨?_, sameRest⟩
  -- Peel the fields off one by one, each of a width both chunks agree on.
  obtain ⟨-, afterLength⟩ := List.append_inj sameBytes
    (by rw [first.lengthField_length, second.lengthField_length])
  obtain ⟨sameAddress, afterAddress⟩ := List.append_inj afterLength sameAddressLength
  obtain ⟨samePort, afterPort⟩ := List.append_inj afterAddress
    (by rw [first.portField_length, second.portField_length])
  obtain ⟨sameServices, sameTime⟩ := List.append_inj afterPort
    (by rw [first.servicesField_length, second.servicesField_length])
  cases first
  cases second
  simp only [Chunk.mk.injEq]
  exact ⟨sameLengthField, sameAddress, samePort, sameServices, sameTime⟩

theorem length_bytes_pos (chunk : Chunk) : 0 < chunk.bytes.length := by
  rw [chunk.length_bytes, fixedSize]
  omega

/-- Bytes cut into records in at most one way. -/
theorem flatMap_bytes_injective {first second : List Chunk}
    (same : first.flatMap bytes = second.flatMap bytes) : first = second := by
  induction first generalizing second with
  | nil =>
      cases second with
      | nil => rfl
      | cons chunk chunks =>
          have empty := congrArg List.length same
          simp only [List.flatMap_nil, List.flatMap_cons, List.length_nil, List.length_append]
            at empty
          have := chunk.length_bytes_pos
          omega
  | cons chunk chunks induction =>
      cases second with
      | nil =>
          have empty := congrArg List.length same
          simp only [List.flatMap_nil, List.flatMap_cons, List.length_nil, List.length_append]
            at empty
          have := chunk.length_bytes_pos
          omega
      | cons other others =>
          simp only [List.flatMap_cons] at same
          obtain ⟨sameHead, sameTail⟩ := eq_of_bytes_append_eq same
          rw [sameHead, induction sameTail]

end Chunk

/-- No address field of sixteen bytes in `data` holds an IPv4-mapped address, however `data`
is cut into records. -/
def NoMappedField (data : List UInt8) : Prop :=
  ∀ chunks : List Chunk, chunks.flatMap Chunk.bytes = data →
    ∀ chunk ∈ chunks, chunk.holdsMapped = false

theorem noMappedField_flatMap {chunks : List Chunk}
    (notMapped : ∀ chunk ∈ chunks, chunk.holdsMapped = false) :
    NoMappedField (chunks.flatMap Chunk.bytes) := by
  intro other same
  rw [Chunk.flatMap_bytes_injective same]
  exact notMapped

/-- Records as the writer leaves them: at most `maxRecords`, all admissible, and last-seen
times that never increase from one record to the next. -/
structure Canonical (records : List PeerRecord) : Prop where
  length_le : records.length ≤ maxRecords
  admissible : ∀ record ∈ records, record.isAdmissible = true
  descending : records.IsChain fun newer older => older.lastSeen ≤ newer.lastSeen

instance : Trans (fun newer older : PeerRecord => older.lastSeen ≤ newer.lastSeen)
    (fun newer older : PeerRecord => older.lastSeen ≤ newer.lastSeen)
    (fun newer older : PeerRecord => older.lastSeen ≤ newer.lastSeen) where
  trans newer newest := Int64.le_trans newest newer

theorem Canonical.pairwise {records : List PeerRecord} (canonical : Canonical records) :
    records.Pairwise fun newer older => older.lastSeen ≤ newer.lastSeen :=
  List.isChain_iff_pairwise.mp canonical.descending

/-- Records already newest first are left in place by the writer's sort. -/
theorem newestFirst_of_pairwise {records : List PeerRecord}
    (descending : records.Pairwise fun newer older => older.lastSeen ≤ newer.lastSeen) :
    newestFirst records = records :=
  (newestFirst_spec records).unique ⟨descending, fun _ => rfl⟩

/-- The writer keeps every record of a canonical list, in its order. -/
theorem encode_of_canonical {records : List PeerRecord} (canonical : Canonical records) :
    encode records = records.flatMap encodeRecord := by
  rw [encode, newestFirst_of_pairwise canonical.pairwise,
    List.filter_eq_self.mpr canonical.admissible, List.take_of_length_le canonical.length_le]

/-- Writing the records read from canonical bytes gives the bytes back. -/
theorem encode_eq_of_decode_eq_ok {data : List UInt8} {records : List PeerRecord}
    (read : decode data = .ok records) (canonical : Canonical records)
    (unmapped : NoMappedField data) : encode records = data := by
  obtain ⟨chunks, rfl, spelled⟩ := decodeFrom_eq_ok_iff.mp read
  rw [Chunk.forall₂_spells_iff] at spelled
  subst spelled
  have notMapped := unmapped chunks rfl
  rw [encode_of_canonical canonical, List.flatMap_map]
  exact List.flatMap_congr fun chunk member => Chunk.encodeRecord_record (notMapped chunk member)

theorem isAdmissible_normalize {record : PeerRecord} (admissible : record.isAdmissible = true) :
    record.normalize.isAdmissible = true := by
  simp only [PeerRecord.isAdmissible, Bool.and_eq_true] at admissible ⊢
  simpa using admissible

/-- What the reader gives back from written bytes is canonical. -/
theorem canonical_decode_encode (records : List PeerRecord) :
    Canonical ((((newestFirst records).filter PeerRecord.isAdmissible).take maxRecords).map
      PeerRecord.normalize) := by
  set kept := ((newestFirst records).filter PeerRecord.isAdmissible).take maxRecords
  have keptSublist : kept.Sublist (newestFirst records) :=
    (List.take_sublist _ _).trans List.filter_sublist
  have keptDescending : kept.Pairwise fun newer older => older.lastSeen ≤ newer.lastSeen :=
    (newestFirst_spec records).descending.sublist keptSublist
  refine ⟨?_, ?_, ?_⟩
  · simp only [List.length_map, kept, List.length_take]
    omega
  · intro record member
    obtain ⟨original, kept, rfl⟩ := List.mem_map.mp member
    exact isAdmissible_normalize (List.mem_filter.mp (List.mem_of_mem_take kept)).2
  · apply List.isChain_iff_pairwise.mpr
    simpa [List.pairwise_map] using keptDescending

/-- Admissible records are written as chunks whose addresses are not mapped. -/
theorem exists_chunks_of_admissible {records : List PeerRecord}
    (admissible : ∀ record ∈ records, record.isAdmissible = true) :
    ∃ chunks : List Chunk, chunks.flatMap Chunk.bytes = records.flatMap encodeRecord ∧
      ∀ chunk ∈ chunks, chunk.holdsMapped = false := by
  induction records with
  | nil => exact ⟨[], rfl, by simp⟩
  | cons record records induction =>
      obtain ⟨chunk, written, notMapped⟩ :=
        Chunk.exists_of_admissible (admissible record List.mem_cons_self)
      obtain ⟨chunks, rest, restNotMapped⟩ :=
        induction fun other member => admissible other (List.mem_cons_of_mem _ member)
      refine ⟨chunk :: chunks, by rw [List.flatMap_cons, List.flatMap_cons, written, rest], ?_⟩
      intro other member
      rcases List.mem_cons.mp member with rfl | later
      · exact notMapped
      · exact restNotMapped other later

theorem noMappedField_encode (records : List PeerRecord) : NoMappedField (encode records) := by
  have admissible : ∀ record ∈ ((newestFirst records).filter PeerRecord.isAdmissible).take
      maxRecords, record.isAdmissible = true :=
    fun record member => (List.mem_filter.mp (List.mem_of_mem_take member)).2
  obtain ⟨chunks, written, notMapped⟩ := exists_chunks_of_admissible admissible
  rw [encode, ← written]
  exact noMappedField_flatMap notMapped

/-- Writing undoes reading on canonical files: when bytes read as records that are few enough,
admissible and newest first, and no address field holds a mapped address, writing the records
gives the bytes back. Every file the writer produces reads back in that form. -/
theorem encode_inverts_decode_of_canonical :
    (∀ {data : List UInt8} {records : List PeerRecord}, decode data = .ok records →
      Canonical records → NoMappedField data → encode records = data) ∧
    ∀ records : List PeerRecord, ∃ read, decode (encode records) = .ok read ∧
      Canonical read ∧ NoMappedField (encode records) := by
  refine ⟨encode_eq_of_decode_eq_ok, fun records => ?_⟩
  exact ⟨_, decode_encode_newestFirst records, canonical_decode_encode records,
    noMappedField_encode records⟩

/-- A file of one IPv6 record, `2001:db8::1` port 8333, seen at time -1. -/
theorem encode_inverts_decode_of_documentation_record :
    let chunk : Chunk := ⟨[16, 0], [0x20, 0x01, 0x0d, 0xb8, 0, 0, 0, 0, 0, 0, 0, 0, 0, 0, 0, 1],
      [0x8d, 0x20, 0, 0], [9, 4, 0, 0, 0, 0, 0, 0], [255, 255, 255, 255, 255, 255, 255, 255],
      rfl, by decide, by decide, rfl, by decide, rfl, rfl⟩
    decode chunk.bytes = .ok [chunk.record] ∧ Canonical [chunk.record] ∧
      NoMappedField chunk.bytes ∧ encode [chunk.record] = chunk.bytes := by
  intro chunk
  have read : decode chunk.bytes = .ok [chunk.record] := by
    simpa [decode] using decodeFrom_flatMap [chunk] 0 0
  have canonical : Canonical [chunk.record] := by
    refine ⟨by decide, ?_, List.isChain_singleton _⟩
    simp only [List.mem_singleton, forall_eq]
    decide
  have unmapped : NoMappedField chunk.bytes := by
    have notMapped : ∀ other ∈ [chunk], other.holdsMapped = false := by
      simp only [List.mem_singleton, forall_eq]
      decide
    simpa using noMappedField_flatMap notMapped
  exact ⟨read, canonical, unmapped, encode_inverts_decode_of_canonical.1 read canonical unmapped⟩

end PeerFile

end PeerBook
