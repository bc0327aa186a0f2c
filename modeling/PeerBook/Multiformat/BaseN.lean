import PeerBook.Text.Quoted

/-!
# Reading base-N text

Decoders from text to bytes in the alphabets of RFC 4648 and of base58.

* Base58 reads a big number in an alphabet of 58 digits; each leading zero digit stands for a
  zero byte. Any character past ASCII or outside the alphabet is refused.
* Base32 and base64 read groups of 8 and 4 characters into 5 and 3 bytes. With padding, a group
  may end early in padding characters, only as many as RFC 4648 allows; without, the last group
  may simply be short. Line breaks are skipped. A refused text names the offset of its first bad
  character.
* Base16 reads pairs of hexadecimal digits in either case.
-/

namespace PeerBook.BaseN

/-- Why a text is not base58. -/
inductive Base58Error where
  | empty
  | highBit
  | invalidDigit (c : Char)
  deriving DecidableEq, Repr

/-- The message of a text that is not base58. -/
def Base58Error.message : Base58Error → String
  | .empty => "zero length string"
  | .highBit => "high-bit set on invalid digit"
  | .invalidDigit c => "invalid base58 digit (" ++ Text.quoteChar c ++ ")"

/-- The base58 alphabet of Bitcoin. -/
def bitcoinAlphabet : String := "123456789ABCDEFGHJKLMNPQRSTUVWXYZabcdefghijkmnopqrstuvwxyz"

/-- The base58 alphabet of Flickr. -/
def flickrAlphabet : String := "123456789abcdefghijkmnopqrstuvwxyzABCDEFGHJKLMNPQRSTUVWXYZ"

/-- The big-endian bytes of a number, none for zero. -/
def bigEndian (value : Nat) : List UInt8 :=
  if value = 0 then [] else bigEndian (value / 256) ++ [(value % 256).toUInt8]
termination_by value
decreasing_by omega

/-- Reads base58 text in an alphabet. -/
def decode58 (alphabet : String) (text : String) : Except Base58Error (List UInt8) := do
  let chars := text.toList
  if chars.isEmpty then throw .empty
  let digits := alphabet.toList
  let value ← chars.foldlM (fun value c => do
    if 127 < c.toNat then throw .highBit
    match digits.idxOf? c with
    | some digit => pure (value * 58 + digit)
    | none => throw (.invalidDigit c)) 0
  let zeros := chars.takeWhile (· == digits.headD '1')
  return zeros.map (fun _ => 0) ++ bigEndian value

/-- A text refused at an offset, by the decoder of this name. -/
structure CorruptInput where
  encoding : String
  offset : Nat
  deriving DecidableEq, Repr

/-- The message of a refused text. -/
def CorruptInput.message (error : CorruptInput) : String :=
  "illegal " ++ error.encoding ++ " data at input byte " ++ toString error.offset

/-- An alphabet of RFC 4648, with or without padding. -/
structure Alphabet where
  /-- The name decoders report. -/
  name : String
  digits : String
  /-- Whether letters count in either case. -/
  anyCase : Bool := false
  padded : Bool
  deriving DecidableEq, Repr

/-- The value of a byte in an alphabet. -/
def Alphabet.value? (alphabet : Alphabet) (byte : UInt8) : Option Nat :=
  let c := Char.ofNat byte.toNat
  let c := if alphabet.anyCase then c.toLower else c
  let digits := if alphabet.anyCase then alphabet.digits.toLower else alphabet.digits
  if 127 < byte.toNat then none else digits.toList.idxOf? c

/-- The bytes of a group of digit values, `bits` each, keeping the whole bytes they fill. -/
def packGroup (bits : Nat) (values : List Nat) : List UInt8 :=
  let total := values.length * bits
  let number := values.foldl (fun number value => number * Nat.pow 2 bits + value) 0
  let count := total / 8
  (List.range count).map fun index => (number / Nat.pow 2 (total - 8 * (index + 1)) % 256).toUInt8

/-- Whether a byte is a line break. -/
def isLineBreak (byte : UInt8) : Bool := byte == 10 || byte == 13

/-- Reads base32: groups of eight digits; `consumed` counts the bytes read before `rest`. -/
def decode32From (alphabet : Alphabet) (fuel consumed : Nat) (rest : List UInt8) :
    Except CorruptInput (List UInt8) := do
  let corrupt (offset : Nat) : CorruptInput := ⟨alphabet.name, offset⟩
  match fuel with
  | 0 => return []
  | fuel + 1 =>
    if rest.isEmpty then return []
    -- read one group
    let mut values : List Nat := []
    let mut rest := rest
    let mut consumed := consumed
    let mut ended := false
    while values.length < 8 && !ended do
      match rest with
      | [] =>
        if alphabet.padded then throw (corrupt (consumed - values.length))
        ended := true
      | byte :: tail =>
        rest := tail
        consumed := consumed + 1
        if byte == 61 && alphabet.padded && 2 ≤ values.length && tail.length < 8 then
          let j := values.length
          if tail.length + j < 7 then throw (corrupt (consumed + tail.length))
          for k in List.range (7 - j) do
            if let some other := tail[k]? then
              if other != 61 then throw (corrupt (consumed + k - 1))
          if j == 1 || j == 3 || j == 6 then throw (corrupt (consumed - 1))
          rest := []
          ended := true
        else
          match alphabet.value? byte with
          | some value => values := values ++ [value]
          | none => throw (corrupt (consumed - 1))
    let bytes := match values.length with
      | 8 | 7 | 5 | 4 | 2 => packGroup 5 values
      | _ => []
    if ended then return bytes
    return bytes ++ (← decode32From alphabet fuel consumed rest)

/-- Reads base32 text. -/
def decode32 (alphabet : Alphabet) (text : String) : Except CorruptInput (List UInt8) :=
  let bytes := text.toUTF8.toList.filter (!isLineBreak ·)
  decode32From alphabet (bytes.length + 1) 0 bytes

/-- Reads base64: groups of four digits; `consumed` counts the bytes read before `rest`. -/
def decode64From (alphabet : Alphabet) (fuel consumed : Nat) (rest : List UInt8) :
    Except CorruptInput (List UInt8) := do
  let corrupt (offset : Nat) : CorruptInput := ⟨alphabet.name, offset⟩
  match fuel with
  | 0 => return []
  | fuel + 1 =>
    let mut values : List Nat := []
    let mut rest := rest
    let mut consumed := consumed
    let mut ended := false
    let mut trailing : Option Nat := none
    while values.length < 4 && !ended do
      match rest with
      | [] =>
        if values.isEmpty then return []
        if values.length == 1 || alphabet.padded then throw (corrupt (consumed - values.length))
        ended := true
      | byte :: tail =>
        rest := tail
        consumed := consumed + 1
        match alphabet.value? byte with
        | some value => values := values ++ [value]
        | none =>
          if isLineBreak byte then pure ()
          else if byte != 61 || !alphabet.padded then throw (corrupt (consumed - 1))
          else
            if values.length < 2 then throw (corrupt (consumed - 1))
            if values.length == 2 then
              let afterBreaks := rest.dropWhile isLineBreak
              consumed := consumed + (rest.length - afterBreaks.length)
              rest := afterBreaks
              match rest with
              | [] => throw (corrupt consumed)
              | next :: tail =>
                if next != 61 then throw (corrupt (consumed - 1))
                rest := tail
                consumed := consumed + 1
            let afterBreaks := rest.dropWhile isLineBreak
            consumed := consumed + (rest.length - afterBreaks.length)
            rest := afterBreaks
            if !rest.isEmpty then trailing := some consumed
            ended := true
    let bytes := packGroup 6 values
    if let some offset := trailing then throw (corrupt offset)
    if ended then return bytes
    return bytes ++ (← decode64From alphabet fuel consumed rest)

/-- Reads base64 text. -/
def decode64 (alphabet : Alphabet) (text : String) : Except CorruptInput (List UInt8) :=
  let bytes := text.toUTF8.toList
  decode64From alphabet (bytes.length + 1) 0 bytes

def base32Upper : Alphabet := ⟨"base32", "ABCDEFGHIJKLMNOPQRSTUVWXYZ234567", false, true⟩
def base32Lower : Alphabet := ⟨"base32", "abcdefghijklmnopqrstuvwxyz234567", false, true⟩
def base32Hex : Alphabet := ⟨"base32", "0123456789abcdefghijklmnopqrstuv", false, true⟩
def base64Standard : Alphabet :=
  ⟨"base64", "ABCDEFGHIJKLMNOPQRSTUVWXYZabcdefghijklmnopqrstuvwxyz0123456789+/", false, true⟩
def base64Url : Alphabet :=
  ⟨"base64", "ABCDEFGHIJKLMNOPQRSTUVWXYZabcdefghijklmnopqrstuvwxyz0123456789-_", false, true⟩

/-- Why a text is not hexadecimal. -/
inductive HexError where
  | invalidByte (byte : UInt8)
  | oddLength
  deriving DecidableEq, Repr

/-- The message of a text that is not hexadecimal: a bad byte as a code point and character. -/
def HexError.message : HexError → String
  | .invalidByte byte =>
    let c := Char.ofNat byte.toNat
    "encoding/hex: invalid byte: U+" ++ (Text.hexDigits 4 byte.toNat).toUpper ++
      (if Text.isPrintable c then " " ++ Text.quoteChar c else "")
  | .oddLength => "encoding/hex: odd length hex string"

/-- The value of a hexadecimal digit byte. -/
def hexValue? (byte : UInt8) : Option Nat :=
  let n := byte.toNat
  if 48 ≤ n && n ≤ 57 then some (n - 48)
  else if 97 ≤ n && n ≤ 102 then some (n - 87)
  else if 65 ≤ n && n ≤ 70 then some (n - 55)
  else none

/-- Reads hexadecimal bytes; in a text of odd length a bad last digit is reported first. -/
def decode16Bytes : List UInt8 → Except HexError (List UInt8)
  | [] => .ok []
  | [last] => match hexValue? last with
    | some _ => .error .oddLength
    | none => .error (.invalidByte last)
  | high :: low :: rest =>
    match hexValue? high, hexValue? low with
    | none, _ => .error (.invalidByte high)
    | _, none => .error (.invalidByte low)
    | some h, some l => ((h * 16 + l).toUInt8 :: ·) <$> decode16Bytes rest

/-- Reads hexadecimal text. -/
def decode16 (text : String) : Except HexError (List UInt8) := decode16Bytes text.toUTF8.toList

end PeerBook.BaseN
