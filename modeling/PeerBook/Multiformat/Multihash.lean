import PeerBook.Multiformat.Varint
import PeerBook.Multiformat.BaseN

/-!
# Multihashes, multibase text and content identifiers

A multihash is a hash function's code and a digest length, both varints, then the digest; its
bytes must end with the digest. Multibase text names its base by its first character: `f` for
hexadecimal, `b`, `c`, `v`, `t` for base32 (raw or padded, standard or hex alphabet, either
case), `z` and `Z` for base58, `m`, `M`, `u`, `U` for base64 (raw or padded, standard or URL
alphabet), `k` for base36, and a zero byte for the bytes themselves.

A content identifier of version 0 is a bare SHA-256 multihash; one of version 1 holds its
version, the code of its content type and a multihash. A peer identity is a base58 multihash,
or a content identifier of a public key; its hash must be SHA-256 or the identity.
-/

namespace PeerBook.Multihash

/-- Why bytes are not a multihash. -/
inductive MultihashError where
  | tooShort
  | varint (error : Varint.VarintError)
  | digestTooLong
  | lengthPastEnd
  | inconsistent (digestLength found : Nat)
  deriving DecidableEq, Repr

/-- The message of bytes that are not a multihash. -/
def MultihashError.message : MultihashError → String
  | .tooShort => "multihash too short. must be >= 2 bytes"
  | .varint error => error.message
  | .digestTooLong => "digest too long, supporting only <= 2^31-1"
  | .lengthPastEnd => "length greater than remaining number of bytes in buffer"
  | .inconsistent digestLength found =>
    "multihash length inconsistent: expected " ++ toString digestLength ++ "; got " ++ toString found

/-- The hash code of a multihash at the start of bytes, its digest length and how many bytes
it takes. -/
def readPrefix (bytes : List UInt8) : Except MultihashError (Nat × Nat × Nat) := do
  if bytes.length < 2 then throw .tooShort
  let (code, afterCode) ← (Varint.read bytes).mapError .varint
  let (length, afterLength) ← (Varint.read afterCode).mapError .varint
  if Nat.pow 2 31 - 1 < length then throw .digestTooLong
  if afterLength.length < length then throw .lengthPastEnd
  return (code, length, bytes.length - afterLength.length + length)

/-- The hash code of bytes that are exactly one multihash. -/
def decode (bytes : List UInt8) : Except MultihashError Nat := do
  let (code, length, taken) ← readPrefix bytes
  if taken != bytes.length then throw (.inconsistent length taken)
  return code

def sha256 : Nat := 0x12
def identity : Nat := 0

end Multihash

namespace Multibase

open BaseN

/-- Why a text is not multibase. -/
inductive MultibaseError where
  | empty
  | unsupported
  | base58 (error : Base58Error)
  | corrupt (error : CorruptInput)
  | hex (error : HexError)
  | base36 (error : Base58Error)
  deriving DecidableEq, Repr

/-- The message of a text that is not multibase. -/
def MultibaseError.message : MultibaseError → String
  | .empty => "cannot decode multibase for zero length string"
  | .unsupported => "selected encoding not supported"
  | .base58 error => error.message
  | .corrupt error => error.message
  | .hex error => error.message
  | .base36 .empty => "can not decode zero-length string"
  | .base36 (.invalidDigit c) => "invalid base36 character (" ++ Text.quoteChar c ++ ")"
  | .base36 .highBit => "invalid base36 character"

/-- The base36 digits, in the case the text uses. -/
def base36Alphabet (upper : Bool) : String :=
  if upper then "0123456789ABCDEFGHIJKLMNOPQRSTUVWXYZ" else "0123456789abcdefghijklmnopqrstuvwxyz"

/-- Reads base36 text: a number whose leading zero digits stand for zero bytes. -/
def decode36 (upper : Bool) (text : String) : Except Base58Error (List UInt8) := do
  let chars := text.toList
  if chars.isEmpty then throw .empty
  let digits := (base36Alphabet upper).toList
  let value ← chars.foldlM (fun value c => do
    match digits.idxOf? c with
    | some digit => pure (value * 36 + digit)
    | none => throw (.invalidDigit c)) 0
  return (chars.takeWhile (· == '0')).map (fun _ => 0) ++ bigEndian value

/-- The bytes of multibase text. -/
def decode (text : String) : Except MultibaseError (List UInt8) :=
  match text.toList with
  | [] => .error .empty
  | first :: rest =>
    let body := String.ofList rest
    let raw (alphabet : Alphabet) : Alphabet := { alphabet with padded := false }
    let anyCase (alphabet : Alphabet) : Alphabet := { alphabet with anyCase := true }
    match first with
    | '\x00' => .ok body.toUTF8.toList
    | 'f' | 'F' => (decode16 body).mapError .hex
    | 'b' | 'B' => (decode32 (raw (anyCase base32Lower)) body).mapError .corrupt
    | 'c' | 'C' => (decode32 (anyCase base32Lower) body).mapError .corrupt
    | 'v' | 'V' => (decode32 (raw (anyCase base32Hex)) body).mapError .corrupt
    | 't' | 'T' => (decode32 (anyCase base32Hex) body).mapError .corrupt
    | 'k' => (decode36 false body).mapError .base36
    | 'K' => (decode36 true body).mapError .base36
    | 'z' => (decode58 bitcoinAlphabet body).mapError .base58
    | 'Z' => (decode58 flickrAlphabet body).mapError .base58
    | 'm' => (decode64 (raw base64Standard) body).mapError .corrupt
    | 'M' => (decode64 base64Standard body).mapError .corrupt
    | 'u' => (decode64 (raw base64Url) body).mapError .corrupt
    | 'U' => (decode64 base64Url body).mapError .corrupt
    | _ => .error .unsupported

end Multibase

namespace Cid

/-- Why a text is not a content identifier. -/
inductive CidError where
  | tooShort
  | multihash (error : Multihash.MultihashError)
  | invalidBase58Multihash
  | multibase (error : Multibase.MultibaseError)
  | notEnoughForVersion0
  | varint (error : Varint.WideVarintError)
  | unexpectedVersion (found : Nat)
  | trailingBytes
  deriving DecidableEq, Repr

/-- The message of a text that is not a content identifier. -/
def CidError.message : CidError → String
  | .tooShort => "cid too short"
  | .multihash error => error.message
  | .invalidBase58Multihash => "input isn't valid multihash"
  | .multibase error => error.message
  | .notEnoughForVersion0 => "not enough bytes for cid v0"
  | .varint error => error.message
  | .unexpectedVersion found => "expected 1 as the cid version number, got: " ++ toString found
  | .trailingBytes => "trailing bytes in data buffer passed to cid Cast"

/-- The content type of a version 0 identifier. -/
def dagProtobuf : Nat := 0x70

/-- The content type of a public key. -/
def libp2pKey : Nat := 0x72

/-- The multihash written in base58. -/
def ofBase58Multihash (text : String) : Except CidError (List UInt8) := do
  let bytes ← (BaseN.decode58 BaseN.bitcoinAlphabet text).mapError fun _ => .invalidBase58Multihash
  let _ ← (Multihash.decode bytes).mapError .multihash
  return bytes

/-- The content type and multihash of an identifier's bytes. -/
def ofBytes (bytes : List UInt8) : Except CidError (Nat × List UInt8) := do
  match bytes with
  | 0x12 :: 32 :: _ :: _ =>
    if bytes.length < 34 then throw .notEnoughForVersion0
    let hash := bytes.take 34
    let _ ← (Multihash.decode hash).mapError .multihash
    if bytes.length != 34 then throw .trailingBytes
    return (dagProtobuf, hash)
  | _ =>
    let (version, afterVersion) ← (Varint.readWide bytes).mapError .varint
    if version != 1 then throw (.unexpectedVersion version)
    let (codec, afterCodec) ← (Varint.readWide afterVersion).mapError .varint
    let (_, _, taken) ← (Multihash.readPrefix afterCodec).mapError .multihash
    if taken != afterCodec.length then throw .trailingBytes
    return (codec, afterCodec)

/-- The content type and multihash of an identifier's text. -/
def decode (text : String) : Except CidError (Nat × List UInt8) := do
  if text.utf8ByteSize < 2 then throw .tooShort
  if text.utf8ByteSize == 46 && text.startsWith "Qm" then
    return (dagProtobuf, ← ofBase58Multihash text)
  ofBytes (← (Multibase.decode text).mapError .multibase)

end Cid

namespace PeerId

/-- Checks that a multihash names a peer: its hash is SHA-256 or the identity. -/
def checkHash (bytes : List UInt8) : Except String Unit :=
  match Multihash.decode bytes with
  | .error error => .error ("invalid multihash: " ++ error.message)
  | .ok code =>
    if code == Multihash.sha256 || code == Multihash.identity then .ok ()
    else .error ("invalid multihash code " ++ toString code ++ " expected one of " ++
      toString Multihash.sha256 ++ " or " ++ toString Multihash.identity)

/-- The multihash of a peer identity's text. -/
def read (text : String) : Except String (List UInt8) := do
  let failed (why : String) : String := "failed to parse p2p addr: " ++ text ++ " " ++ why
  if text.startsWith "Qm" || text.startsWith "1" then
    let bytes ← (Cid.ofBase58Multihash text).mapError (failed ·.message)
    checkHash bytes
    return bytes
  let (codec, hash) ← (Cid.decode text).mapError (failed ·.message)
  if codec != Cid.libp2pKey then
    throw ("failed to parse p2p addr: " ++ text ++ " has the invalid codec " ++ toString codec)
  checkHash hash
  return hash

end PeerId

end PeerBook
