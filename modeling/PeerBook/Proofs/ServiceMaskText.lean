import Mathlib
import PeerBook.Services
import PeerBook.Text.Quoted
import PeerBook.Proofs.NumeralReading
import PeerBook.Proofs.ServiceMaskWords

/-!
# Reading and writing service masks

A mask's text, trimmed, is cut at every `|` and `,`; each piece, trimmed and in upper case, is a
token. A token stands for a mask (`Means`): `NONE` for none, a capability's name for its bit,
and a numeral for the mask of its value. Reading accepts exactly the texts whose non-empty
tokens all stand for something and gives the union of what they stand for; otherwise it
refuses the first token that stands for nothing (`parse_accepts_exactly_tokens`).

Reading first tries the whole text as one numeral. That shortcut cannot be seen from outside:
a numeral holds no separator and no blank, and upper case does not change how it reads, so the
text is then a single token that reads as the same numeral (`parse_eq_foldlM`).

Writing a mask and reading the text back gives the mask (`parse_format_eq_ok`): every word of
the text stands for one set bit, and together the words name them all.
-/

namespace PeerBook

namespace Text

theorem isBlank_eq_false {c : Char} (visible : 33 ≤ c.toNat ∧ c.toNat ≤ 126) :
    isBlank c = false := by
  unfold isBlank
  -- Every listed blank lies outside the range; the rest are judged by the last comparison.
  split <;> simp_all
  omega

theorem dropWhile_isBlank_eq_self {chars : List Char} (solid : ∀ c ∈ chars, isBlank c = false) :
    chars.dropWhile isBlank = chars := by
  cases chars with
  | nil => rfl
  | cons c rest => simp [solid c List.mem_cons_self]

/-- Trimming keeps a text without blanks. -/
theorem trimBlank_eq_self {text : String} (solid : ∀ c ∈ text.toList, isBlank c = false) :
    trimBlank text = text := by
  have reversed : ∀ c ∈ text.toList.reverse, isBlank c = false := by simpa using solid
  simp only [trimBlank, trimBlankList, dropWhile_isBlank_eq_self solid,
    dropWhile_isBlank_eq_self reversed, List.reverse_reverse, String.ofList_toList]

/-- Upper case keeps a text of ASCII characters that has no lower-case letter. -/
theorem upperCase_eq_self {text : String}
    (noLower : ∀ c ∈ text.toList, c.toNat < 128 ∧ ¬(97 ≤ c.toNat ∧ c.toNat ≤ 122)) :
    upperCase text = text := by
  have same : text.toList.map upperChar = text.toList := by
    rw [List.map_congr_left fun c member => upperChar_eq_self (noLower c member).1
      (noLower c member).2, List.map_id']
  rw [upperCase, same, String.ofList_toList]

end Text

namespace ServiceMask

/-! ## Pieces and tokens -/

/-- The characters that cut a mask's text into pieces. -/
def isSeparator (c : Char) : Bool := c == '|' || c == ','

theorem piecesFrom_eq (current chars : List Char) :
    piecesFrom current chars = chars.splitOnPPrepend isSeparator current := by
  induction chars generalizing current with
  | nil => rfl
  | cons c rest induction =>
      rw [List.splitOnPPrepend_cons_eq_if, piecesFrom, induction, induction,
        List.splitOnPPrepend_nil_right]
      rfl

theorem piecesFrom_nil (chars : List Char) :
    piecesFrom [] chars = chars.splitOnP isSeparator := piecesFrom_eq [] chars

/-- The token a piece of text stands as: trimmed and in upper case. -/
def token (piece : List Char) : String :=
  Text.upperCase (Text.trimBlank (String.ofList piece))

/-- The tokens of a text that are not empty, in order. -/
def tokens (text : String) : List String :=
  (((Text.trimBlank text).toList.splitOnP isSeparator).map token).filter
    fun token => !token.isEmpty

/-- What a token stands for: `NONE` for no capability, a capability's name for its bit, and
a numeral, read with its base prefix, for the mask of its value. -/
inductive Means : String → ServiceMask → Prop
  | none : Means "NONE" empty
  | flag (flag : ServiceFlag) : Means flag.name (single flag.position)
  | numeral {token : String} {value : Nat} (read : Numeral.readNat .prefixed 64 token = .ok value) :
      Means token (ofNat value)

/-! ## One token -/

theorem readNat_none : Numeral.readNat .prefixed 64 "NONE" = .error .malformed := by decide

theorem readNat_name (flag : ServiceFlag) :
    Numeral.readNat .prefixed 64 flag.name = .error .malformed := by
  cases flag <;> decide

theorem name_ne_none (flag : ServiceFlag) : flag.name ≠ "NONE" := by
  cases flag <;> decide

theorem ofName?_name (flag : ServiceFlag) : ServiceFlag.ofName? flag.name = some flag := by
  cases flag <;> rfl

theorem eq_name_of_ofName? {text : String} {flag : ServiceFlag}
    (named : ServiceFlag.ofName? text = some flag) : text = flag.name := by
  have found := List.find?_some named
  simp only [beq_iff_eq] at found
  exact found.symm

theorem ofToken_name (flag : ServiceFlag) : ofToken flag.name = .ok (single flag.position) := by
  simp [ofToken, ofName?_name]

/-- Apart from `NONE`, a token stands for what the reader makes of it. -/
theorem means_iff_ofToken {token : String} {value : ServiceMask} (notNone : token ≠ "NONE") :
    Means token value ↔ ofToken token = .ok value := by
  constructor
  · intro means
    cases means with
    | none => exact absurd rfl notNone
    | flag flag => exact ofToken_name flag
    | @numeral token number read =>
        -- A numeral is no name: names do not read as numerals.
        have unnamed : ServiceFlag.ofName? token = none := by
          cases named : ServiceFlag.ofName? token with
          | none => rfl
          | some flag =>
              rw [eq_name_of_ofName? named, readNat_name] at read
              cases read
        simp [ofToken, unnamed, read]
  · intro read
    unfold ofToken at read
    split at read
    · rename_i flag named
      cases read
      rw [eq_name_of_ofName? named]
      exact .flag flag
    · split at read
      · rename_i number numeral
        cases read
        exact .numeral numeral
      · cases read

theorem means_none_iff {value : ServiceMask} : Means "NONE" value ↔ value = empty := by
  constructor
  · intro means
    generalize known : "NONE" = text at means
    cases means with
    | none => rfl
    | flag flag => exact absurd known.symm (name_ne_none flag)
    | numeral read =>
        rw [← known, readNat_none] at read
        cases read
  · rintro rfl
    exact .none

/-- A token stands for at most one mask. -/
theorem Means.unique {token : String} {first second : ServiceMask} (firstMeans : Means token first)
    (secondMeans : Means token second) : first = second := by
  by_cases isNone : token = "NONE"
  · subst isNone
    rw [means_none_iff.mp firstMeans, means_none_iff.mp secondMeans]
  · have firstRead := (means_iff_ofToken isNone).mp firstMeans
    rw [(means_iff_ofToken isNone).mp secondMeans] at firstRead
    cases firstRead
    rfl

theorem ofToken_eq_error {token : String} {error : ParseError}
    (refused : ofToken token = .error error) : error = .unknownFlag token := by
  unfold ofToken at refused
  split at refused
  · cases refused
  · split at refused
    · cases refused
    · cases refused
      rfl

@[simp]
theorem union_empty (mask : ServiceMask) : mask.union empty = mask := by
  simp [union, empty]

@[simp]
theorem empty_union (mask : ServiceMask) : empty.union mask = mask := by
  simp [union, empty]

theorem addPiece_eq (mask : ServiceMask) (piece : List Char) :
    addPiece mask piece =
      if (token piece).isEmpty || token piece == "NONE" then .ok mask
      else (ofToken (token piece)).map mask.union := rfl

theorem addPiece_of_isEmpty {mask : ServiceMask} {piece : List Char}
    (blank : (token piece).isEmpty = true) : addPiece mask piece = .ok mask := by
  rw [addPiece_eq, blank, Bool.true_or, if_pos rfl]

/-- A piece whose token is not empty either stands for a mask, which reading adds, or for
nothing, and reading refuses it by its token. -/
theorem addPiece_cases (mask : ServiceMask) {piece : List Char}
    (nonEmpty : (token piece).isEmpty = false) :
    (∃ value, Means (token piece) value ∧ addPiece mask piece = .ok (mask.union value)) ∨
      ((∀ value, ¬Means (token piece) value) ∧
        addPiece mask piece = .error (.unknownFlag (token piece))) := by
  by_cases isNone : token piece = "NONE"
  · left
    refine ⟨empty, isNone ▸ Means.none, ?_⟩
    rw [addPiece_eq, isNone, union_empty]
    simp
  have step : addPiece mask piece = (ofToken (token piece)).map mask.union := by
    rw [addPiece_eq, nonEmpty, Bool.false_or, if_neg (by simpa using isNone)]
  cases read : ofToken (token piece) with
  | ok value =>
      left
      refine ⟨value, (means_iff_ofToken isNone).mpr read, ?_⟩
      rw [step, read]
      rfl
  | error error =>
      right
      refine ⟨fun value means => ?_, ?_⟩
      · rw [(means_iff_ofToken isNone).mp means] at read
        cases read
      · rw [step, read, ofToken_eq_error read]
        rfl

/-! ## A run of pieces -/

/-- The non-empty tokens of some pieces. -/
def pieceTokens (pieces : List (List Char)) : List String :=
  (pieces.map token).filter fun token => !token.isEmpty

theorem pieceTokens_cons_of_isEmpty {piece : List Char} (rest : List (List Char))
    (blank : (token piece).isEmpty = true) : pieceTokens (piece :: rest) = pieceTokens rest := by
  simp [pieceTokens, blank]

theorem pieceTokens_cons {piece : List Char} (rest : List (List Char))
    (nonEmpty : (token piece).isEmpty = false) :
    pieceTokens (piece :: rest) = token piece :: pieceTokens rest := by
  simp [pieceTokens, nonEmpty]

/-- Reading pieces succeeds exactly when every non-empty token stands for a mask, and adds
what they stand for. -/
theorem foldlM_addPiece_eq_ok_iff (pieces : List (List Char)) (mask result : ServiceMask) :
    pieces.foldlM addPiece mask = .ok result ↔
      ∃ values, List.Forall₂ Means (pieceTokens pieces) values ∧
        result = values.foldl union mask := by
  induction pieces generalizing mask with
  | nil =>
      simp only [List.foldlM_nil, pieceTokens, List.map_nil, List.filter_nil, List.forall₂_nil_left_iff]
      constructor
      · intro read
        cases read
        exact ⟨[], rfl, rfl⟩
      · rintro ⟨values, rfl, rfl⟩
        rfl
  | cons piece rest induction =>
      rw [List.foldlM_cons]
      cases blank : (token piece).isEmpty with
      | true =>
          rw [addPiece_of_isEmpty blank, pieceTokens_cons_of_isEmpty rest blank]
          exact induction mask
      | false =>
          rw [pieceTokens_cons rest blank]
          rcases addPiece_cases mask blank with ⟨value, means, step⟩ | ⟨nothing, step⟩
          · simp only [step, bind, Except.bind]
            refine (induction (mask.union value)).trans ⟨?_, ?_⟩
            · rintro ⟨values, meanings, rfl⟩
              exact ⟨value :: values, .cons means meanings, rfl⟩
            · rintro ⟨_ | ⟨other, values⟩, meanings, rfl⟩
              · exact absurd meanings.length_eq (by simp)
              · obtain ⟨otherMeans, meanings⟩ := List.forall₂_cons.mp meanings
                rw [← means.unique otherMeans]
                exact ⟨values, meanings, rfl⟩
          · simp only [step, bind, Except.bind]
            constructor
            · intro read
              cases read
            · rintro ⟨_ | ⟨other, values⟩, meanings, rfl⟩
              · exact absurd meanings.length_eq (by simp)
              · exact absurd (List.forall₂_cons.mp meanings).1 (nothing other)

/-- Reading pieces fails exactly at the first non-empty token that stands for nothing, and
names that token. -/
theorem foldlM_addPiece_eq_error_iff (pieces : List (List Char)) (mask : ServiceMask)
    (error : ParseError) :
    pieces.foldlM addPiece mask = .error error ↔
      ∃ before bad after, pieceTokens pieces = before ++ bad :: after ∧
        (∀ token ∈ before, ∃ value, Means token value) ∧ (∀ value, ¬Means bad value) ∧
        error = .unknownFlag bad := by
  induction pieces generalizing mask with
  | nil =>
      simp only [List.foldlM_nil, pieceTokens, List.map_nil, List.filter_nil]
      constructor
      · intro read
        cases read
      · rintro ⟨before, bad, after, split, -⟩
        simp at split
  | cons piece rest induction =>
      rw [List.foldlM_cons]
      cases blank : (token piece).isEmpty with
      | true =>
          rw [addPiece_of_isEmpty blank, pieceTokens_cons_of_isEmpty rest blank]
          exact induction mask
      | false =>
          rw [pieceTokens_cons rest blank]
          rcases addPiece_cases mask blank with ⟨value, means, step⟩ | ⟨nothing, step⟩
          · -- The token stands for a mask, so the refused one comes later.
            simp only [step, bind, Except.bind]
            refine (induction (mask.union value)).trans ⟨?_, ?_⟩
            · rintro ⟨before, bad, after, split, good, refused, rfl⟩
              refine ⟨token piece :: before, bad, after, by rw [split]; rfl, ?_, refused, rfl⟩
              intro other member
              rcases List.mem_cons.mp member with rfl | later
              · exact ⟨value, means⟩
              · exact good other later
            · rintro ⟨_ | ⟨first, before⟩, bad, after, split, good, refused, rfl⟩
              · have same := (List.cons.inj split).1
                subst same
                exact absurd means (refused value)
              · obtain ⟨-, split⟩ := List.cons.inj split
                exact ⟨before, bad, after, split, fun other member =>
                  good other (List.mem_cons_of_mem _ member), refused, rfl⟩
          · -- The token stands for nothing, so it is the refused one.
            simp only [step, bind, Except.bind]
            constructor
            · intro read
              have same := Except.error.inj read
              subst same
              exact ⟨[], token piece, pieceTokens rest, rfl, by simp, nothing, rfl⟩
            · rintro ⟨_ | ⟨first, before⟩, bad, after, split, good, refused, rfl⟩
              · have same := (List.cons.inj split).1
                subst same
                rfl
              · have same := (List.cons.inj split).1
                subst same
                obtain ⟨value, means⟩ := good (token piece) List.mem_cons_self
                exact absurd means (nothing value)

/-! ## The whole text -/

/-- A numeral holds no separator. -/
theorem isSeparator_of_digitValue {c : Char} (digit : (Numeral.digitValue c).isSome ∨ c = '_') :
    isSeparator c = false := by
  have bounds : 48 ≤ c.toNat ∧ c.toNat ≤ 122 := by
    rcases digit with digit | rfl
    · exact Numeral.toNat_of_digitValue_isSome digit
    · decide
  simp only [isSeparator, Bool.or_eq_false_iff, beq_eq_false_iff_ne, ne_eq, ← Char.toNat_inj]
  constructor <;> simp <;> omega

/-- When the whole text reads as one numeral, it is one token that reads as that numeral. -/
theorem foldlM_addPiece_of_readNat {text : String} {value : Nat}
    (read : Numeral.readNat .prefixed 64 text = .ok value) :
    (text.toList.splitOnP isSeparator).foldlM addPiece empty = .ok (ofNat value) := by
  have digits := Numeral.readNat_ok_chars read
  have ascii : ∀ c ∈ text.toList, c.toNat < 128 := by
    intro c member
    rcases digits c member with digit | rfl
    · have := Numeral.toNat_of_digitValue_isSome digit
      omega
    · decide
  have solid : ∀ c ∈ text.toList, Text.isBlank c = false := by
    intro c member
    apply Text.isBlank_eq_false
    rcases digits c member with digit | rfl
    · have := Numeral.toNat_of_digitValue_isSome digit
      omega
    · decide
  have single : text.toList.splitOnP isSeparator = [text.toList] :=
    List.splitOnP_eq_singleton fun c member => isSeparator_of_digitValue (digits c member)
  have upperRead : Numeral.readNat .prefixed 64 (token text.toList) = .ok value := by
    rw [token, String.ofList_toList, Text.trimBlank_eq_self solid,
      Numeral.readNat_upperCase .prefixed 64 ascii, read]
  have notNone : token text.toList ≠ "NONE" := by
    intro same
    rw [same, readNat_none] at upperRead
    cases upperRead
  have nonEmpty : (token text.toList).isEmpty = false := by
    cases blank : (token text.toList).isEmpty with
    | false => rfl
    | true =>
        rw [String.isEmpty_iff.mp blank] at upperRead
        cases upperRead
  rw [single, List.foldlM_cons]
  rcases addPiece_cases empty nonEmpty with ⟨mask, means, step⟩ | ⟨nothing, -⟩
  · rw [step, ← means.unique (.numeral upperRead)]
    simp
  · exact absurd (.numeral upperRead) (nothing (ofNat value))

/-- Reading a mask is reading its tokens: trying the whole text as a numeral first gives the
same answer. -/
theorem parse_eq_foldlM (text : String) :
    parse text = ((Text.trimBlank text).toList.splitOnP isSeparator).foldlM addPiece empty := by
  unfold parse
  simp only
  split
  · rename_i blank
    rw [String.isEmpty_iff.mp blank]
    rfl
  · split
    · rename_i value read
      rw [foldlM_addPiece_of_readNat read]
    · rw [piecesFrom_nil]

/-- Reading a mask's text accepts exactly its grammar. A blank text is the empty mask.
Otherwise the text reads when every non-empty token (a piece between separators, trimmed and
in upper case) stands for a mask (`NONE`, a name or a numeral), and reads as the union of
those masks; it is refused at the first token that stands for nothing, with a message quoting
that token. -/
theorem parse_accepts_exactly_tokens (text : String) :
    ((Text.trimBlank text).isEmpty = true → parse text = .ok empty) ∧
    (∀ mask, parse text = .ok mask ↔
      ∃ values, List.Forall₂ Means (tokens text) values ∧ mask = values.foldl union empty) ∧
    ∀ error, parse text = .error error ↔
      ∃ before bad after, tokens text = before ++ bad :: after ∧
        (∀ token ∈ before, ∃ value, Means token value) ∧ (∀ value, ¬Means bad value) ∧
        error = .unknownFlag bad ∧
        error.message = "unknown service flag " ++ Text.quote bad := by
  refine ⟨fun blank => ?_, fun mask => ?_, fun error => ?_⟩
  · simp [parse, blank]
  · rw [parse_eq_foldlM]
    exact foldlM_addPiece_eq_ok_iff _ empty mask
  · rw [parse_eq_foldlM, foldlM_addPiece_eq_error_iff]
    constructor
    · rintro ⟨before, bad, after, split, good, refused, rfl⟩
      exact ⟨before, bad, after, split, good, refused, rfl, rfl⟩
    · rintro ⟨before, bad, after, split, good, refused, rfl, -⟩
      exact ⟨before, bad, after, split, good, refused, rfl⟩

/-! ## Writing and reading back -/

/-- Cutting a joined list at the separator that joins it gives the pieces back, when no piece
holds a separator. -/
theorem splitOnP_intercalate {p : Char → Bool} {separator : Char} (cut : p separator = true)
    {pieces : List (List Char)} (solid : ∀ piece ∈ pieces, ∀ c ∈ piece, p c = false)
    (nonEmpty : pieces ≠ []) : ([separator].intercalate pieces).splitOnP p = pieces := by
  induction pieces with
  | nil => exact absurd rfl nonEmpty
  | cons piece rest induction =>
      cases rest with
      | nil => simpa using List.splitOnP_eq_singleton (solid piece List.mem_cons_self)
      | cons next more =>
          rw [List.intercalate_cons_cons, List.append_assoc, List.singleton_append,
            List.splitOnP_append_cons_of_forall_mem (solid piece List.mem_cons_self) _ cut,
            induction (fun other member => solid other (List.mem_cons_of_mem _ member))
              (List.cons_ne_nil _ _)]

/-- The positions of a mask's set bits, in the order its words name them: the named ones,
then the others from bit 3 up. -/
def wordPositions (mask : ServiceMask) : List Nat :=
  (ServiceFlag.all.filter fun flag => mask.has flag.position).map ServiceFlag.position ++
    ((List.range 61).map (· + 3)).filter mask.has

theorem mem_wordPositions {mask : ServiceMask} {position : Nat} :
    position ∈ mask.wordPositions ↔ position < 64 ∧ mask.has position := by
  constructor
  · intro member
    rcases List.mem_append.mp member with named | other
    · obtain ⟨flag, kept, rfl⟩ := List.mem_map.mp named
      have set := (List.mem_filter.mp kept).2
      cases flag <;> exact ⟨by decide, set⟩
    · obtain ⟨inRange, set⟩ := List.mem_filter.mp other
      obtain ⟨offset, below, rfl⟩ := List.mem_map.mp inRange
      exact ⟨by simp at below; omega, set⟩
  · rintro ⟨small, set⟩
    apply List.mem_append.mpr
    by_cases named : position < 3
    · left
      have flagged : ∃ flag ∈ ServiceFlag.all, flag.position = position := by
        refine ⟨[ServiceFlag.network, .getUtxos, .bloom].getD position .network, ?_, ?_⟩ <;>
          interval_cases position <;> decide
      obtain ⟨flag, listed, rfl⟩ := flagged
      exact List.mem_map.mpr ⟨flag, List.mem_filter.mpr ⟨listed, set⟩, rfl⟩
    · right
      refine List.mem_filter.mpr ⟨List.mem_map.mpr ⟨position - 3, ?_, by omega⟩, set⟩
      simp only [List.mem_range]
      omega

theorem testBit_foldl_union (values : List ServiceMask) (start : ServiceMask) (bit : Nat) :
    (values.foldl union start).bits.toNat.testBit bit =
      (start.bits.toNat.testBit bit || values.any fun value => value.bits.toNat.testBit bit) := by
  induction values generalizing start with
  | nil => simp
  | cons value values induction =>
      simp only [List.foldl_cons, induction, union, UInt64.toNat_or, Nat.testBit_or,
        List.any_cons, Bool.or_assoc]

theorem testBit_eq_false_of_le {mask : ServiceMask} {bit : Nat} (large : 64 ≤ bit) :
    mask.bits.toNat.testBit bit = false :=
  Nat.testBit_eq_false_of_lt (lt_of_lt_of_le mask.bits.toNat_lt (Nat.pow_le_pow_right (by omega) large))

/-- The bits at a mask's word positions make up the mask. -/
theorem foldl_union_wordPositions (mask : ServiceMask) :
    (mask.wordPositions.map single).foldl union empty = mask := by
  have every : ∀ bit, ((mask.wordPositions.map single).foldl union empty).bits.toNat.testBit bit =
      mask.bits.toNat.testBit bit := by
    intro bit
    rw [testBit_foldl_union]
    -- A word stands for the bit at its own position and for nothing else.
    have words : (List.any (mask.wordPositions.map single) fun value =>
        value.bits.toNat.testBit bit) = (decide (bit < 64) && mask.has bit) := by
      rw [Bool.eq_iff_iff, List.any_eq_true]
      constructor
      · rintro ⟨value, member, set⟩
        obtain ⟨position, listed, rfl⟩ := List.mem_map.mp member
        obtain ⟨small, positionSet⟩ := mem_wordPositions.mp listed
        rw [testBit_single small, decide_eq_true_iff] at set
        subst set
        simp [small, positionSet]
      · intro set
        simp only [Bool.and_eq_true, decide_eq_true_eq] at set
        exact ⟨single bit, List.mem_map.mpr ⟨bit, mem_wordPositions.mpr set, rfl⟩,
          by simp [testBit_single set.1]⟩
    by_cases small : bit < 64
    · simp [words, small, has, empty]
    · simp [empty, testBit_eq_false_of_le (Nat.le_of_not_lt small)]
  have sameBits := UInt64.toNat_inj.mp (Nat.eq_of_testBit_eq every)
  generalize (mask.wordPositions.map single).foldl union empty = result at sameBits
  cases result
  cases mask
  simp only at sameBits
  rw [sameBits]

/-- A number written in hexadecimal after `0x` is written in digits and the `x`. -/
theorem hexWord_chars (value : Nat) :
    ∀ c ∈ ("0x" ++ String.ofList (Nat.toDigits 16 value)).toList, 48 ≤ c.toNat ∧ c.toNat ≤ 122 := by
  intro c member
  simp only [String.toList_append, String.toList_ofList, List.mem_append] at member
  rcases member with prefixChar | digit
  · revert c
    simp
  · exact Numeral.toNat_of_digitValue_isSome
      (Numeral.digitValue_isSome_of_mem_toDigits (by omega) digit)

/-- The word of a bit at position 3 or above. -/
theorem hexWord_means {position : Nat} (small : position < 64) :
    Means (Text.upperCase ("0x" ++ String.ofList (Nat.toDigits 16 (Nat.pow 2 position))))
      (single position) := by
  have fits : Nat.pow 2 position < Nat.pow 2 64 := by
    rw [Nat.pow_eq, Nat.pow_eq]
    exact Nat.pow_lt_pow_right (by omega) small
  have ascii : ∀ c ∈ ("0x" ++ String.ofList (Nat.toDigits 16 (Nat.pow 2 position))).toList,
      c.toNat < 128 := by
    intro c member
    have := hexWord_chars _ c member
    omega
  exact .numeral (by rw [Numeral.readNat_upperCase .prefixed 64 ascii, Numeral.readNat_hex fits])

theorem name_chars (flag : ServiceFlag) :
    ∀ c ∈ flag.name.toList, 65 ≤ c.toNat ∧ c.toNat ≤ 90 := by
  cases flag <;> simp [ServiceFlag.name]

theorem upperCase_name (flag : ServiceFlag) : Text.upperCase flag.name = flag.name := by
  apply Text.upperCase_eq_self
  intro c member
  have := name_chars flag c member
  omega

/-- Every word of a mask is written in digits, capitals and the `x` of `0x`. -/
theorem word_chars {mask : ServiceMask} {word : String} (member : word ∈ mask.words) :
    word.toList ≠ [] ∧ ∀ c ∈ word.toList, 48 ≤ c.toNat ∧ c.toNat ≤ 122 := by
  simp only [words_eq_filter, List.mem_append, List.mem_map] at member
  rcases member with ⟨flag, -, rfl⟩ | ⟨position, -, rfl⟩
  · refine ⟨by cases flag <;> simp [ServiceFlag.name], fun c member => ?_⟩
    have := name_chars flag c member
    omega
  · exact ⟨by simp, hexWord_chars _⟩

/-- The words of a mask stand for its set bits, one each. -/
theorem forall₂_means_words (mask : ServiceMask) :
    List.Forall₂ Means (mask.words.map Text.upperCase) (mask.wordPositions.map single) := by
  simp only [words_eq_filter, wordPositions, List.map_append, List.map_map]
  apply List.rel_append
  · rw [List.forall₂_map_left_iff, List.forall₂_map_right_iff, List.forall₂_same]
    intro flag _
    simp only [Function.comp, upperCase_name]
    exact .flag flag
  · rw [List.forall₂_map_left_iff, List.forall₂_map_right_iff, List.forall₂_same]
    intro position member
    obtain ⟨offset, below, rfl⟩ := List.mem_map.mp (List.mem_filter.mp member).1
    simp only [List.mem_range] at below
    exact hexWord_means (by omega)

theorem has_of_ne_zero {mask : ServiceMask} (nonZero : mask.bits ≠ 0) :
    ∃ position, position < 64 ∧ mask.has position := by
  have positive : mask.bits.toNat ≠ 0 := fun zero => nonZero (UInt64.toNat_inj.mp zero)
  obtain ⟨position, set⟩ := Nat.exists_testBit_of_ne_zero positive
  refine ⟨position, ?_, set⟩
  by_contra large
  rw [testBit_eq_false_of_le (Nat.le_of_not_lt large)] at set
  cases set

theorem words_ne_nil {mask : ServiceMask} (nonZero : mask.bits ≠ 0) : mask.words ≠ [] := by
  obtain ⟨position, small, set⟩ := has_of_ne_zero nonZero
  have listed : position ∈ mask.wordPositions := mem_wordPositions.mpr ⟨small, set⟩
  have sameLength : mask.words.length = mask.wordPositions.length := by
    simp [words_eq_filter, wordPositions]
  intro noWords
  rw [noWords] at sameLength
  exact List.ne_nil_of_mem listed (List.eq_nil_of_length_eq_zero sameLength.symm)

theorem token_word {mask : ServiceMask} {word : String} (member : word ∈ mask.words) :
    token word.toList = Text.upperCase word := by
  rw [token, String.ofList_toList, Text.trimBlank_eq_self]
  intro c inWord
  have := (word_chars member).2 c inWord
  exact Text.isBlank_eq_false (by omega)

/-- The text of a mask that is not empty cuts into its words. -/
theorem splitOnP_format {mask : ServiceMask} (nonZero : mask.bits ≠ 0) :
    (Text.trimBlank (format mask)).toList.splitOnP isSeparator = mask.words.map String.toList := by
  have joined : (format mask).toList = ['|'].intercalate (mask.words.map String.toList) := by
    simp [format, nonZero, String.toList_intercalate]
  -- Every character is a word character or the bar, so none is blank.
  have visible : ∀ c ∈ (format mask).toList, 33 ≤ c.toNat ∧ c.toNat ≤ 126 := by
    rw [joined]
    refine Text.forall_mem_intercalate (by simp) ?_
    intro piece member c inPiece
    obtain ⟨word, listed, rfl⟩ := List.mem_map.mp member
    have := (word_chars listed).2 c inPiece
    omega
  rw [Text.trimBlank_eq_self fun c member => Text.isBlank_eq_false (visible c member), joined]
  apply splitOnP_intercalate rfl
  · intro piece member c inPiece
    obtain ⟨word, listed, rfl⟩ := List.mem_map.mp member
    have := (word_chars listed).2 c inPiece
    simp only [isSeparator, Bool.or_eq_false_iff, beq_eq_false_iff_ne, ne_eq, ← Char.toNat_inj]
    constructor <;> simp <;> omega
  · simpa using words_ne_nil nonZero

theorem pieceTokens_words (mask : ServiceMask) :
    pieceTokens (mask.words.map String.toList) = mask.words.map Text.upperCase := by
  have same : mask.words.map (token ∘ String.toList) = mask.words.map Text.upperCase :=
    List.map_congr_left fun word member => token_word member
  rw [pieceTokens, List.map_map, same, List.filter_eq_self]
  intro upper member
  obtain ⟨word, listed, rfl⟩ := List.mem_map.mp member
  simp [Text.upperCase, (word_chars listed).1]

/-- Writing a mask and reading its text back gives the mask. -/
theorem parse_format_eq_ok (mask : ServiceMask) : parse (format mask) = .ok mask := by
  by_cases zero : mask.bits = 0
  · have isEmpty : mask = empty := by
      obtain ⟨bits⟩ := mask
      simp only at zero
      rw [zero]
      rfl
    rw [format, if_pos zero, isEmpty]
    decide
  · rw [parse_eq_foldlM, splitOnP_format zero, (foldlM_addPiece_eq_ok_iff _ _ _).mpr
      ⟨_, (pieceTokens_words mask).symm ▸ forall₂_means_words mask, rfl⟩,
      foldl_union_wordPositions]

end ServiceMask

end PeerBook
