import PeerBook.Numeral
import PeerBook.Text.Blank
import PeerBook.Text.CaseMap

/-!
# Service masks

What a peer offers is a 64-bit mask. Three bits have names: NETWORK (bit 0), GETUTXOS (bit 1)
and BLOOM (bit 2). A mask is written as the names of its named bits in that order, then each
other set bit, lowest first, as `0x` and the bit's value in hexadecimal, all joined by `|`; the
empty mask is `NONE`.

Reading is forgiving. Blanks around the text are dropped and a blank text is the empty mask. A
text that is one unsigned numeral (with a base prefix if it likes) is the mask it denotes.
Otherwise the text is cut at every `|` and `,`, each piece is trimmed and put in upper case, and
the pieces are joined: empty pieces and `NONE` add nothing, a name adds its bit, a numeral adds
its bits, and any other piece refuses the whole text.
-/

namespace PeerBook

/-- A set of capabilities, one bit each. -/
structure ServiceMask where
  bits : UInt64
  deriving DecidableEq, Repr, Inhabited

/-- The capabilities that have names, listed in the order masks are written. -/
inductive ServiceFlag where
  | network
  | getUtxos
  | bloom
  deriving DecidableEq, Repr

namespace ServiceFlag

/-- The named capabilities in writing order. -/
def all : List ServiceFlag := [.network, .getUtxos, .bloom]

/-- The bit a capability occupies. -/
def position : ServiceFlag → Nat
  | .network => 0
  | .getUtxos => 1
  | .bloom => 2

/-- The name a capability is written with. -/
def name : ServiceFlag → String
  | .network => "NETWORK"
  | .getUtxos => "GETUTXOS"
  | .bloom => "BLOOM"

/-- The capability with this exact name. -/
def ofName? (text : String) : Option ServiceFlag :=
  all.find? (·.name == text)

end ServiceFlag

namespace ServiceMask

/-- The mask with no capability. -/
def empty : ServiceMask := ⟨0⟩

/-- The mask of a number, reduced to 64 bits. -/
def ofNat (value : Nat) : ServiceMask := ⟨value.toUInt64⟩

/-- The mask with the one bit at `position`. -/
def single (position : Nat) : ServiceMask := ofNat (Nat.pow 2 position)

/-- The capabilities of both masks. -/
def union (first second : ServiceMask) : ServiceMask := ⟨first.bits ||| second.bits⟩

/-- Whether the bit at `position` is set. -/
def has (mask : ServiceMask) (position : Nat) : Bool :=
  mask.bits.toNat.testBit position

/-- Whether a mask offers every capability of `required`. -/
def covers (mask required : ServiceMask) : Bool :=
  mask.bits &&& required.bits == required.bits

/-- The number of zero bits below the lowest set bit of a word; 64 when no bit is set. -/
def trailingZeros (bits : UInt64) : UInt64 := UInt64.ofBitVec bits.toBitVec.ctz

/-- The lowest set bit of a word, alone. -/
def lowestBit (bits : UInt64) : UInt64 := 1 <<< trailingZeros bits

theorem toBitVec_ne_zero {bits : UInt64} (nonZero : bits ≠ 0) : bits.toBitVec ≠ 0#64 := by
  simpa [← UInt64.toBitVec_inj] using nonZero

theorem toNat_trailingZeros (bits : UInt64) :
    (trailingZeros bits).toNat = bits.toBitVec.ctz.toNat := rfl

theorem toNat_trailingZeros_lt {bits : UInt64} (nonZero : bits ≠ 0) :
    (trailingZeros bits).toNat < 64 := by
  have := (@BitVec.ctz_lt_iff_ne_zero 64 bits.toBitVec).mpr (toBitVec_ne_zero nonZero)
  simpa [trailingZeros, BitVec.lt_def] using this

theorem getLsbD_lowestBit {bits : UInt64} (nonZero : bits ≠ 0) (j : Nat) :
    (lowestBit bits).toBitVec.getLsbD j = decide (j = (trailingZeros bits).toNat) := by
  have small := toNat_trailingZeros_lt nonZero
  simp only [lowestBit, UInt64.toBitVec_shiftLeft]
  simp [Nat.mod_eq_of_lt small]
  by_cases same : j = (trailingZeros bits).toNat <;> simp [same] <;> omega

/-- Clearing the lowest set bit keeps every other bit. -/
theorem getLsbD_clearLowest {bits : UInt64} (nonZero : bits ≠ 0) (j : Nat) :
    (bits &&& ~~~lowestBit bits).toBitVec.getLsbD j =
      (bits.toBitVec.getLsbD j && decide (j ≠ (trailingZeros bits).toNat)) := by
  simp only [UInt64.toBitVec_and, UInt64.toBitVec_not, BitVec.getLsbD_and, BitVec.getLsbD_not,
    getLsbD_lowestBit nonZero]
  by_cases small : j < 64
  · simp [small]
  · simp [small, BitVec.getLsbD_of_ge _ _ (Nat.le_of_not_lt small)]

/-- Clearing the lowest set bit of a word that has one makes it smaller. -/
theorem clearLowest_lt {bits : UInt64} (nonZero : bits ≠ 0) :
    (bits &&& ~~~lowestBit bits).toNat < bits.toNat := by
  apply Nat.lt_of_le_of_ne
  · rw [UInt64.toNat_and]
    exact Nat.and_le_left
  · intro same
    have set := BitVec.getLsbD_true_ctz_of_ne_zero (toBitVec_ne_zero nonZero)
    have sameBits : (bits &&& ~~~lowestBit bits).toBitVec = bits.toBitVec :=
      BitVec.eq_of_toNat_eq same
    have lowest := congrArg (BitVec.getLsbD · (trailingZeros bits).toNat) sameBits
    rw [getLsbD_clearLowest nonZero] at lowest
    simp [toNat_trailingZeros, set] at lowest

/-- The names of a mask's named capabilities in table order, and the mask with their bits
cleared. -/
def nameFlags (mask : ServiceMask) : List String × UInt64 :=
  ServiceFlag.all.foldl (fun (named, rest) flag =>
    if mask.has flag.position then (named ++ [flag.name], rest &&& ~~~(single flag.position).bits)
    else (named, rest)) ([], mask.bits)

/-- The words of the set bits of `rest`, lowest first: each round writes the lowest set bit as
`0x` and its value in hexadecimal, then clears it. -/
def hexWords (rest : UInt64) : List String :=
  if rest = 0 then []
  else
    let bit := lowestBit rest
    ("0x" ++ String.ofList (Nat.toDigits 16 bit.toNat)) :: hexWords (rest &&& ~~~bit)
termination_by rest.toNat
decreasing_by exact clearLowest_lt (by assumption)

/-- The words a mask is written with: its named capabilities in order, then each other set bit,
lowest first. -/
def words (mask : ServiceMask) : List String :=
  let (named, rest) := nameFlags mask
  named ++ hexWords rest

/-- The text of a mask: its words joined by `|`, or `NONE` for the empty mask. -/
def format (mask : ServiceMask) : String :=
  if mask.bits = 0 then "NONE" else "|".intercalate mask.words

/-- Why a text is not a mask. -/
inductive ParseError where
  /-- A piece that is neither a name nor a numeral, in upper case. -/
  | unknownFlag (token : String)
  deriving DecidableEq, Repr

/-- The message of a refused text. -/
def ParseError.message : ParseError → String
  | .unknownFlag token => "unknown service flag " ++ Text.quote token

/-- Cuts a text at every `|` and `,`, keeping the pieces between, empty ones included; the
characters of the piece being read are kept in reverse in `current`. -/
def piecesFrom (current : List Char) : List Char → List (List Char)
  | [] => [current.reverse]
  | c :: rest =>
    if c == '|' || c == ',' then current.reverse :: piecesFrom [] rest
    else piecesFrom (c :: current) rest

/-- The mask one upper-cased piece adds: its capability, or the value of its numeral. -/
def ofToken (token : String) : Except ParseError ServiceMask :=
  match ServiceFlag.ofName? token with
  | some flag => .ok (single flag.position)
  | none =>
    match Numeral.readNat .prefixed 64 token with
    | .ok value => .ok (ofNat value)
    | .error _ => .error (.unknownFlag token)

/-- Adds what one piece of a text stands for: nothing for an empty piece or `NONE`, else the
mask of the piece, trimmed and in upper case, as a name or a numeral. -/
def addPiece (mask : ServiceMask) (piece : List Char) : Except ParseError ServiceMask :=
  let token := Text.upperCase (Text.trimBlank (String.ofList piece))
  if token.isEmpty || token == "NONE" then .ok mask
  else (ofToken token).map mask.union

/-- Reads a mask from its text, by name or by number. -/
def parse (text : String) : Except ParseError ServiceMask :=
  let trimmed := Text.trimBlank text
  if trimmed.isEmpty then .ok empty
  else
    match Numeral.readNat .prefixed 64 trimmed with
    | .ok value => .ok (ofNat value)
    | .error _ => List.foldlM addPiece empty (piecesFrom [] trimmed.toList)

end ServiceMask

end PeerBook
