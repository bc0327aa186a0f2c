import PeerBook.PeerRecord

/-!
# Peer file

The saved book is a run of records with no header. Each record is, little endian: the address
length as 16 bits (4 or 16), the address bytes, the port as 32 bits, the services as 64 bits and
the last-seen time as 64 bits, so it takes 26 or 38 bytes.

Writing puts the newest records first (records seen at the same time keep their order), leaves
out records that are not admissible, and writes at most 200 of the others; it writes unmapped
addresses and drops zones. Reading takes records until the bytes run out and refuses the whole
file at the first record that is cut short, has an address length other than 4 or 16, or a port
of 65536 or more. It reads 16-byte mapped addresses as IPv4 addresses.
-/

namespace PeerBook.PeerFile

/-- At most this many records are written. -/
def maxRecords : Nat := 200

/-- The bytes of a record besides its address. -/
def fixedSize : Nat := 22

/-- The `width` bytes of a number, least significant first. -/
def littleEndian (width value : Nat) : List UInt8 :=
  (List.range width).map fun position => (value / Nat.pow 256 position % 256).toUInt8

/-- The number that bytes stand for, least significant first. -/
def ofLittleEndian (bytes : List UInt8) : Nat :=
  bytes.foldr (fun byte value => byte.toNat + 256 * value) 0

/-- The bytes of one record. -/
def encodeRecord (record : PeerRecord) : List UInt8 :=
  let address := record.addr.unmap.toBytes
  littleEndian 2 address.length ++ address ++ littleEndian 4 record.port.toNat ++
    littleEndian 8 record.services.bits.toNat ++ littleEndian 8 record.lastSeen.toUInt64.toNat

/-- Records newest first; records seen at the same time keep their order. -/
def newestFirst (records : List PeerRecord) : List PeerRecord :=
  records.mergeSort fun first second => second.lastSeen ≤ first.lastSeen

/-- The bytes of a book: its admissible records, newest first, at most `maxRecords`. -/
def encode (records : List PeerRecord) : List UInt8 :=
  (((newestFirst records).filter PeerRecord.isAdmissible).take maxRecords).flatMap encodeRecord

/-- The text every refusal starts with. -/
def corruptText : String := "corrupt peer address data"

/-- Why a file was refused, with the number of the record and where it starts. -/
inductive DecodeError where
  /-- Fewer than two bytes left for the address length. -/
  | truncatedLength (index offset : Nat)
  /-- An address length other than 4 or 16. -/
  | addressLength (index offset length : Nat)
  /-- Fewer bytes left than the record needs. -/
  | truncatedRecord (index offset needed available : Nat)
  /-- A port of 65536 or more. -/
  | portOutOfRange (index port : Nat)
  deriving DecidableEq, Repr

/-- The report of a refused file. -/
def DecodeError.message : DecodeError → String
  | .truncatedLength index offset =>
    s!"{corruptText}: record {index} at offset {offset}: truncated length field"
  | .addressLength index offset length =>
    s!"{corruptText}: record {index} at offset {offset}: address length {length}"
  | .truncatedRecord index offset needed available =>
    s!"{corruptText}: record {index} at offset {offset}: need {needed} bytes, have {available}"
  | .portOutOfRange index port => s!"{corruptText}: record {index}: port {port} out of range"

/-- Reads the records in `bytes`, the first of which is record `index` at `offset`. -/
def decodeFrom (index offset : Nat) (bytes : List UInt8) : Except DecodeError (List PeerRecord) :=
  if bytes.isEmpty then .ok []
  else if bytes.length < 2 then .error (.truncatedLength index offset)
  else
    let length := ofLittleEndian (bytes.take 2)
    if length ≠ 4 ∧ length ≠ 16 then .error (.addressLength index offset length)
    else if bytes.length < fixedSize + length then
      .error (.truncatedRecord index offset (fixedSize + length) bytes.length)
    else
      let body := bytes.drop 2
      let port := ofLittleEndian ((body.drop length).take 4)
      if 65535 < port then .error (.portOutOfRange index port)
      else
        let record : PeerRecord := {
          addr := ((IpAddr.ofBytes? (body.take length)).getD .absent).unmap
          port := port.toUInt16
          services := ServiceMask.ofNat (ofLittleEndian ((body.drop (length + 4)).take 8))
          lastSeen := (ofLittleEndian ((body.drop (length + 12)).take 8)).toUInt64.toInt64 }
        match decodeFrom (index + 1) (offset + fixedSize + length) (bytes.drop (fixedSize + length)) with
        | .ok rest => .ok (record :: rest)
        | .error error => .error error
termination_by bytes.length
decreasing_by
  simp only [List.length_drop]
  have : 0 < bytes.length := by
    cases bytes with
    | nil => simp at *
    | cons => simp
  omega

/-- Reads the records of a file. -/
def decode (bytes : List UInt8) : Except DecodeError (List PeerRecord) :=
  decodeFrom 0 0 bytes

end PeerBook.PeerFile
