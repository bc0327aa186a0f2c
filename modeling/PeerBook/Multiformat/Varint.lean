/-!
# Unsigned varints

An unsigned varint writes a number seven bits to a byte, lowest bits first, every byte but the
last with its high bit set. The strict reader accepts at most nine bytes, so at most 63 bits,
and refuses a varint whose last byte is a zero after other bytes, since a shorter form says the
same. The wide reader accepts any form of a number below 2^64.
-/

namespace PeerBook.Varint

/-- Why bytes do not start with a varint. -/
inductive VarintError where
  /-- More than nine bytes, or a ninth byte that is not the last. -/
  | overflow
  /-- The bytes end inside the varint. -/
  | underflow
  /-- A needless final zero byte. -/
  | notMinimal
  deriving DecidableEq, Repr

/-- The message of bytes that do not start with a varint. -/
def VarintError.message : VarintError → String
  | .overflow => "varints larger than uint63 not supported"
  | .underflow => "varints malformed, could not reach the end"
  | .notMinimal => "varint not minimally encoded"

/-- Reads a varint whose bytes so far, `index` of them, gave `value`. -/
def readFrom (index value : Nat) : List UInt8 → Except VarintError (Nat × List UInt8)
  | [] => .error .underflow
  | byte :: rest =>
    if (index == 8 && 0x80 ≤ byte.toNat) || 9 ≤ index then .error .overflow
    else if byte.toNat < 0x80 then
      if byte == 0 && 0 < index then .error .notMinimal
      else .ok (value + byte.toNat * Nat.pow 2 (7 * index), rest)
    else readFrom (index + 1) (value + (byte.toNat - 0x80) * Nat.pow 2 (7 * index)) rest

/-- The varint at the start of bytes, and the bytes after it. -/
def read (bytes : List UInt8) : Except VarintError (Nat × List UInt8) := readFrom 0 0 bytes

/-- Why bytes do not start with a wide varint. -/
inductive WideVarintError where
  /-- The bytes end inside the varint. -/
  | bufferTooSmall
  /-- The number passes 64 bits. -/
  | tooBig
  deriving DecidableEq, Repr

/-- The message of bytes that do not start with a wide varint. -/
def WideVarintError.message : WideVarintError → String
  | .bufferTooSmall => "reading varint: buffer too small"
  | .tooBig => "reading varint: varint bigger than 64bits and overflowed"

/-- Reads a wide varint whose bytes so far, `index` of them, gave `value`. -/
def readWideFrom (index value : Nat) : List UInt8 → Except WideVarintError (Nat × List UInt8)
  | [] => .error .bufferTooSmall
  | byte :: rest =>
    if index == 10 then .error .tooBig
    else if byte.toNat < 0x80 then
      if index == 9 && 1 < byte.toNat then .error .tooBig
      else .ok (value + byte.toNat * Nat.pow 2 (7 * index), rest)
    else readWideFrom (index + 1) (value + (byte.toNat - 0x80) * Nat.pow 2 (7 * index)) rest

/-- The wide varint at the start of bytes, and the bytes after it. -/
def readWide (bytes : List UInt8) : Except WideVarintError (Nat × List UInt8) :=
  readWideFrom 0 0 bytes

end PeerBook.Varint
