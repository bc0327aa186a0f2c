import Mathlib
import PeerBook.PeerFile
import PeerBook.Proofs.NormalForm

/-!
# Reading a written peer file gives back what was kept

Writing a book's records keeps the admissible ones, newest first with records seen at the same
time in their order, at most 200 of them; reading the bytes back succeeds and gives exactly
those records, each with its address normalized and every other field as it was. Records
that are not admissible use no slot.

The proof reads one record at a time. A little-endian field of `w` bytes reads back as its
value modulo `256 ^ w`, an address of four or sixteen bytes reads back as itself without its
zone, and so the reader meets, at each record, the length, the address, the port, the
services and the time that the writer put there, and goes on at the next record.

Which records are kept is stated without the writer's sort: `NewestFirst records sorted`
says that `sorted` is the stable sort of `records` by last-seen time, newest first. Such a
list is unique, and the writer's merge sort is one.
-/

namespace PeerBook

namespace IpAddr

theorem groupOf_groupOctets (group : UInt16) :
    groupOf (group >>> 8).toUInt8 group.toUInt8 = group := by
  unfold groupOf
  apply UInt16.toNat_inj.mp
  have bound := group.toNat_lt
  simp [UInt16.toNat_add, UInt16.toNat_mul, UInt16.toNat_shiftRight, Nat.shiftRight_eq_div_pow]
  omega

theorem length_toBytes_of_isValid {address : IpAddr} (valid : address.isValid = true) :
    address.toBytes.length = 4 ∨ address.toBytes.length = 16 := by
  cases address with
  | absent => simp [isValid] at valid
  | v4 octets => simp [toBytes]
  | v6 groups zone => simp [toBytes, groupOctets]

/-- The bytes of a present address read back as the address without its zone. -/
theorem ofBytes?_toBytes {address : IpAddr} (valid : address.isValid = true) :
    ofBytes? address.toBytes = some address.withoutZone := by
  cases address with
  | absent => simp [isValid] at valid
  | v4 octets =>
      obtain ⟨⟨items⟩, size⟩ := octets
      match items, size with
      | [a, b, c, d], _ => rfl
  | v6 groups zone =>
      obtain ⟨⟨items⟩, size⟩ := groups
      match items, size with
      | [a, b, c, d, e, f, g, h], _ =>
          simp [toBytes, groupOctets, ofBytes?, withoutZone, groupOf_groupOctets]

end IpAddr

namespace PeerFile

theorem length_littleEndian (width value : Nat) : (littleEndian width value).length = width := by
  simp [littleEndian]

theorem littleEndian_succ (width value : Nat) :
    littleEndian (width + 1) value =
      (value % 256).toUInt8 :: littleEndian width (value / 256) := by
  simp only [littleEndian, List.range_succ_eq_map, List.map_cons, List.map_map]
  congr 1
  · simp
  · apply List.map_congr_left
    intro position _
    simp [Function.comp, Nat.pow_succ, Nat.div_div_eq_div_mul, Nat.mul_comm]

/-- A little-endian field reads back as its value modulo the field's range. -/
theorem ofLittleEndian_littleEndian (width value : Nat) :
    ofLittleEndian (littleEndian width value) = value % 256 ^ width := by
  induction width generalizing value with
  | zero => simp [littleEndian, ofLittleEndian, Nat.mod_one]
  | succ width induction =>
      rw [littleEndian_succ]
      simp only [ofLittleEndian, List.foldr_cons] at induction ⊢
      rw [induction, Nat.pow_succ', Nat.mod_mul]
      simp

theorem ofLittleEndian_littleEndian_of_lt {width value : Nat} (fits : value < 256 ^ width) :
    ofLittleEndian (littleEndian width value) = value := by
  rw [ofLittleEndian_littleEndian, Nat.mod_eq_of_lt fits]

theorem encodeRecord_eq (record : PeerRecord) :
    encodeRecord record =
      littleEndian 2 record.addr.unmap.toBytes.length ++ (record.addr.unmap.toBytes ++
        (littleEndian 4 record.port.toNat ++ (littleEndian 8 record.services.bits.toNat ++
          littleEndian 8 record.lastSeen.toUInt64.toNat))) := by
  simp [encodeRecord]

theorem decodeFrom_nil (index offset : Nat) : decodeFrom index offset [] = .ok [] := by
  rw [decodeFrom]
  rfl

/-- The reader on one well-formed record: a length field that reads four or sixteen, that many
address bytes, a port field below 65536, the services and the time. It reads the record they
spell and goes on after it. -/
theorem decodeFrom_fields {lengthField address portField servicesField timeField : List UInt8}
    (lengthFieldSize : lengthField.length = 2)
    (addressSize : ofLittleEndian lengthField = address.length)
    (addressLength : address.length = 4 ∨ address.length = 16)
    (portFieldSize : portField.length = 4) (portFits : ofLittleEndian portField ≤ 65535)
    (servicesFieldSize : servicesField.length = 8) (timeFieldSize : timeField.length = 8)
    (index offset : Nat) (rest : List UInt8) :
    decodeFrom index offset
        (lengthField ++ (address ++ (portField ++ (servicesField ++ (timeField ++ rest))))) =
      (decodeFrom (index + 1) (offset + fixedSize + address.length) rest).map
        ({ addr := ((IpAddr.ofBytes? address).getD .absent).unmap
           port := (ofLittleEndian portField).toUInt16
           services := ServiceMask.ofNat (ofLittleEndian servicesField)
           lastSeen := (ofLittleEndian timeField).toUInt64.toInt64 } :: ·) := by
  set afterTime := timeField ++ rest
  set afterServices := servicesField ++ afterTime
  set afterPort := portField ++ afterServices
  set body := address ++ afterPort
  have bodyDrop : (lengthField ++ body).drop 2 = body := List.drop_left' lengthFieldSize
  have servicesDrop : body.drop (address.length + 4) = afterServices := by
    rw [← List.drop_drop, List.drop_left, List.drop_left' portFieldSize]
  have timeDrop : body.drop (address.length + 12) = afterTime := by
    rw [show address.length + 12 = address.length + 4 + 8 by omega, ← List.drop_drop,
      servicesDrop, List.drop_left' servicesFieldSize]
  have restDrop : (lengthField ++ body).drop (fixedSize + address.length) = rest := by
    rw [show fixedSize + address.length = 2 + (address.length + 12 + 8) by
        simp only [fixedSize]; omega, ← List.drop_drop, bodyDrop, ← List.drop_drop, timeDrop,
      List.drop_left' timeFieldSize]
  have total : (lengthField ++ body).length = fixedSize + address.length + rest.length := by
    simp only [body, afterPort, afterServices, afterTime, List.length_append, lengthFieldSize,
      portFieldSize, servicesFieldSize, timeFieldSize, fixedSize]
    omega
  have notEmpty : (lengthField ++ body).isEmpty = false := by
    cases lengthField with
    | nil => simp at lengthFieldSize
    | cons byte more => rfl
  have notShort : ¬(lengthField ++ body).length < 2 := by
    rw [total]
    simp only [fixedSize]
    omega
  have lengthRead : ofLittleEndian ((lengthField ++ body).take 2) = address.length := by
    rw [List.take_left' lengthFieldSize, addressSize]
  have lengthKnown : ¬(address.length ≠ 4 ∧ address.length ≠ 16) := by omega
  have notTruncated : ¬(lengthField ++ body).length < fixedSize + address.length := by
    rw [total]
    omega
  have addressTake : body.take address.length = address := List.take_left
  have portTake : (body.drop address.length).take 4 = portField := by
    rw [List.drop_left, List.take_left' portFieldSize]
  have servicesTake : (body.drop (address.length + 4)).take 8 = servicesField := by
    rw [servicesDrop, List.take_left' servicesFieldSize]
  have timeTake : (body.drop (address.length + 12)).take 8 = timeField := by
    rw [timeDrop, List.take_left' timeFieldSize]
  have portInRange : ¬65535 < ofLittleEndian portField := by omega
  rw [decodeFrom]
  simp only [notEmpty, notShort, lengthRead, lengthKnown, notTruncated, bodyDrop, addressTake,
    portTake, portInRange, servicesTake, timeTake, restDrop, Bool.false_eq_true, if_false]
  cases decodeFrom (index + 1) (offset + fixedSize + address.length) rest <;> rfl

/-- What the reader makes of an admissible record's bytes is the record normalized. -/
private theorem readBack_encodeRecord {record : PeerRecord}
    (valid : record.addr.unmap.isValid = true) :
    ({ addr := ((IpAddr.ofBytes? record.addr.unmap.toBytes).getD .absent).unmap
       port := (ofLittleEndian (littleEndian 4 record.port.toNat)).toUInt16
       services := ServiceMask.ofNat (ofLittleEndian (littleEndian 8 record.services.bits.toNat))
       lastSeen :=
        (ofLittleEndian (littleEndian 8 record.lastSeen.toUInt64.toNat)).toUInt64.toInt64 } :
        PeerRecord) = record.normalize := by
  have portFits : record.port.toNat < 256 ^ 4 := by
    have := record.port.toNat_lt
    omega
  have servicesFits : record.services.bits.toNat < 256 ^ 8 := record.services.bits.toNat_lt
  have timeFits : record.lastSeen.toUInt64.toNat < 256 ^ 8 := record.lastSeen.toUInt64.toNat_lt
  rw [IpAddr.ofBytes?_toBytes valid, ofLittleEndian_littleEndian_of_lt portFits,
    ofLittleEndian_littleEndian_of_lt servicesFits, ofLittleEndian_littleEndian_of_lt timeFits]
  simp [PeerRecord.normalize, IpAddr.normalize, ServiceMask.ofNat]

/-- Reading the bytes of an admissible record, followed by anything, reads the record with its
address normalized, and goes on after it. -/
theorem decodeFrom_encodeRecord_append {record : PeerRecord}
    (admissible : record.isAdmissible = true) (index offset : Nat) (rest : List UInt8) :
    decodeFrom index offset (encodeRecord record ++ rest) =
      (decodeFrom (index + 1) (offset + fixedSize + record.addr.unmap.toBytes.length) rest).map
        (record.normalize :: ·) := by
  have valid : record.addr.unmap.isValid = true := by
    simp only [PeerRecord.isAdmissible, Bool.and_eq_true] at admissible
    exact admissible.1
  have addressLength := IpAddr.length_toBytes_of_isValid valid
  have lengthFits : record.addr.unmap.toBytes.length < 256 ^ 2 := by omega
  have portFits : ofLittleEndian (littleEndian 4 record.port.toNat) ≤ 65535 := by
    have := record.port.toNat_lt
    rw [ofLittleEndian_littleEndian_of_lt (by omega)]
    omega
  rw [encodeRecord_eq]
  simp only [List.append_assoc]
  rw [decodeFrom_fields (length_littleEndian 2 _) (ofLittleEndian_littleEndian_of_lt lengthFits)
    addressLength (length_littleEndian 4 _) portFits (length_littleEndian 8 _)
    (length_littleEndian 8 _), readBack_encodeRecord valid]

/-- Reading the bytes of admissible records gives them back, normalized, in order. -/
theorem decodeFrom_flatMap_encodeRecord (kept : List PeerRecord)
    (admissible : ∀ record ∈ kept, record.isAdmissible = true) (index offset : Nat) :
    decodeFrom index offset (kept.flatMap encodeRecord) = .ok (kept.map PeerRecord.normalize) := by
  induction kept generalizing index offset with
  | nil => exact decodeFrom_nil index offset
  | cons record kept induction =>
      have tail := induction (fun other member => admissible other (List.mem_cons_of_mem _ member))
      rw [List.flatMap_cons, decodeFrom_encodeRecord_append (admissible record List.mem_cons_self),
        tail]
      rfl

/-- Reading what was written gives the kept records: the admissible ones of the writer's
order, at most `maxRecords`, normalized. -/
theorem decode_encode_newestFirst (records : List PeerRecord) :
    decode (encode records) =
      .ok ((((newestFirst records).filter PeerRecord.isAdmissible).take maxRecords).map
        PeerRecord.normalize) := by
  apply decodeFrom_flatMap_encodeRecord
  intro record kept
  exact (List.mem_filter.mp (List.mem_of_mem_take kept)).2

/-- Whether a record was last seen at `time`. -/
def seenAt (time : Int64) (record : PeerRecord) : Bool := record.lastSeen == time

/-- `sorted` is `records` sorted newest first, stably: last-seen times never increase along
it, and the records seen at any one time come in the order they had in `records`. -/
structure NewestFirst (records sorted : List PeerRecord) : Prop where
  descending : sorted.Pairwise fun first second => second.lastSeen ≤ first.lastSeen
  stable : ∀ time, sorted.filter (seenAt time) = records.filter (seenAt time)

theorem mem_filter_seenAt_self {record : PeerRecord} {records : List PeerRecord} :
    record ∈ records.filter (seenAt record.lastSeen) ↔ record ∈ records := by
  simp [List.mem_filter, seenAt]

/-- A stable sort keeps every record as often as it was there. -/
theorem NewestFirst.perm {records sorted : List PeerRecord} (ordered : NewestFirst records sorted) :
    sorted.Perm records := by
  rw [List.perm_iff_count]
  intro record
  have sameTime := congrArg (List.count record) (ordered.stable record.lastSeen)
  rwa [List.count_filter (by simp [seenAt]), List.count_filter (by simp [seenAt])] at sameTime

/-- The writer's merge sort is the stable sort newest first. -/
theorem newestFirst_spec (records : List PeerRecord) :
    NewestFirst records (newestFirst records) := by
  have trans : ∀ first second third : PeerRecord,
      decide (second.lastSeen ≤ first.lastSeen) = true →
        decide (third.lastSeen ≤ second.lastSeen) = true →
          decide (third.lastSeen ≤ first.lastSeen) = true := by
    intro first second third newer newest
    simp only [decide_eq_true_eq] at newer newest ⊢
    exact Int64.le_trans newest newer
  have total : ∀ first second : PeerRecord,
      (decide (second.lastSeen ≤ first.lastSeen) ||
        decide (first.lastSeen ≤ second.lastSeen)) = true := by
    intro first second
    simp only [Bool.or_eq_true, decide_eq_true_eq]
    exact Int64.le_total _ _
  constructor
  · have sorted := List.pairwise_mergeSort trans total records
    simpa only [newestFirst, decide_eq_true_eq] using sorted
  · intro time
    -- The records seen at `time` are sorted already, so the merge sort keeps them in order;
    -- being as many as those seen at `time` after the sort, they are exactly those.
    have tied : (records.filter (seenAt time)).Pairwise
        fun first second => decide (second.lastSeen ≤ first.lastSeen) = true := by
      apply List.pairwise_of_forall_mem_list
      intro first firstSeen second secondSeen
      simp only [List.mem_filter, seenAt, beq_iff_eq] at firstSeen secondSeen
      simp [firstSeen.2, secondSeen.2]
    have kept := (List.sublist_mergeSort trans total tied List.filter_sublist).filter
      (seenAt time)
    simp only [List.filter_filter, Bool.and_self] at kept
    unfold newestFirst
    have sameLength := ((List.mergeSort_perm records
      fun first second => decide (second.lastSeen ≤ first.lastSeen)).filter (seenAt time)).length_eq
    exact (kept.eq_of_length sameLength.symm).symm

/-- Two lists sorted newest first that hold the same records at every time, in the same
order, are equal. -/
theorem eq_of_descending_of_seenAt {first second : List PeerRecord}
    (firstDescending : first.Pairwise fun newer older => older.lastSeen ≤ newer.lastSeen)
    (secondDescending : second.Pairwise fun newer older => older.lastSeen ≤ newer.lastSeen)
    (sameTimes : ∀ time, first.filter (seenAt time) = second.filter (seenAt time)) :
    first = second := by
  induction first generalizing second with
  | nil =>
      cases second with
      | nil => rfl
      | cons record second =>
          have missing := sameTimes record.lastSeen
          simp [seenAt] at missing
  | cons newest first induction =>
      cases second with
      | nil =>
          have missing := sameTimes newest.lastSeen
          simp [seenAt] at missing
      | cons other second =>
          -- Each head is in the other list, so neither is older than the other.
          have newestThere : newest ∈ other :: second := by
            rw [← mem_filter_seenAt_self, ← sameTimes, mem_filter_seenAt_self]
            exact List.mem_cons_self
          have otherHere : other ∈ newest :: first := by
            rw [← mem_filter_seenAt_self, sameTimes, mem_filter_seenAt_self]
            exact List.mem_cons_self
          have sameTime : newest.lastSeen = other.lastSeen := by
            apply Int64.le_antisymm
            · rcases List.mem_cons.mp newestThere with same | later
              · rw [same]
                exact Int64.le_refl _
              · exact List.rel_of_pairwise_cons secondDescending later
            · rcases List.mem_cons.mp otherHere with same | later
              · rw [same]
                exact Int64.le_refl _
              · exact List.rel_of_pairwise_cons firstDescending later
          have heads := sameTimes newest.lastSeen
          simp only [List.filter_cons, seenAt, sameTime, beq_self_eq_true, if_true,
            List.cons.injEq] at heads
          rw [heads.1]
          congr 1
          apply induction firstDescending.of_cons secondDescending.of_cons
          intro time
          by_cases seen : seenAt time newest = true
          · have tails := sameTimes time
            have otherSeen : seenAt time other = true := by
              simpa [seenAt, sameTime] using seen
            simp only [List.filter_cons, seen, otherSeen, if_true, List.cons.injEq] at tails
            exact tails.2
          · have tails := sameTimes time
            have otherSeen : seenAt time other = false := by
              simpa [seenAt, sameTime] using seen
            simp only [List.filter_cons, seen, otherSeen, Bool.false_eq_true, if_false] at tails
            exact tails

/-- A list has one stable sort newest first. -/
theorem NewestFirst.unique {records first second : List PeerRecord}
    (firstOrdered : NewestFirst records first) (secondOrdered : NewestFirst records second) :
    first = second := by
  apply eq_of_descending_of_seenAt firstOrdered.descending secondOrdered.descending
  intro time
  rw [firstOrdered.stable, secondOrdered.stable]

/-- Writing records and reading the bytes back succeeds and gives the admissible records of
their stable sort newest first, at most `maxRecords` of them, each normalized. -/
theorem decode_encode_keeps_newest (records sorted : List PeerRecord)
    (ordered : NewestFirst records sorted) :
    decode (encode records) =
      .ok (((sorted.filter PeerRecord.isAdmissible).take maxRecords).map
        PeerRecord.normalize) := by
  rw [decode_encode_newestFirst, (newestFirst_spec records).unique ordered]

/-- Three records, two of them seen at one negative time: the newer one goes first and the
tied ones keep their order. -/
theorem decode_encode_keeps_newest_of_tie :
    let first : PeerRecord :=
      { addr := .v4 (IpAddr.octets 10 0 0 1), port := 8333, services := ⟨1⟩, lastSeen := -5 }
    let second : PeerRecord :=
      { addr := .v4 (IpAddr.octets 10 0 0 2), port := 8333, services := ⟨9⟩, lastSeen := 7 }
    let third : PeerRecord :=
      { addr := .v4 (IpAddr.octets 10 0 0 3), port := 1, services := ⟨0⟩, lastSeen := -5 }
    NewestFirst [first, second, third] [second, first, third] ∧
      decode (encode [first, second, third]) =
        .ok ((([second, first, third].filter PeerRecord.isAdmissible).take maxRecords).map
          PeerRecord.normalize) := by
  intro first second third
  have ordered : NewestFirst [first, second, third] [second, first, third] := by
    constructor
    · decide
    · intro time
      by_cases newer : (7 : Int64) = time
      · subst newer
        decide
      · by_cases older : (-5 : Int64) = time
        · subst older
          decide
        · simp [first, second, third, seenAt, newer, older]
  exact ⟨ordered, decode_encode_keeps_newest _ _ ordered⟩

end PeerFile

end PeerBook
