import Mathlib
import PeerBook.Numeral
import PeerBook.Text.CaseMap

/-!
# Reading numerals

Three facts about the numeral reader that the texts of service masks, ports and addresses rest
on.

* Upper-casing a text of ASCII characters does not change how it reads: digits, prefixes and
  the underscore check all treat a letter and its capital alike, and upper case moves no other
  ASCII character (`readNat_upperCase`).
* A numeral that reads holds nothing but digits of some base and underscores
  (`readNat_ok_chars`), so no blank, separator or non-ASCII character.
* The digits of a number, in decimal or after a `0x` prefix, read back as the number when it
  fits the width (`readNat_toString`, `readNat_hex`).

Character facts are stated on code points: upper case moves `a`–`z` down by 32 and keeps the
rest of ASCII, and the digit value of a character is read off its code point.
-/

namespace PeerBook

namespace Text

theorem find?_upperRuns_tail {code : Nat} (ascii : code < 128) :
    upperRuns.tail.find? (·.covers code) = none := by
  -- Past the run of `a`–`z`, every run starts above ASCII.
  have above : upperRuns.tail.all (fun run => decide (0xB5 ≤ run.first)) = true := by
    decide +kernel
  apply List.find?_eq_none.mpr
  intro run member
  have := of_decide_eq_true (List.all_eq_true.mp above run member)
  simp only [CaseRun.covers, Bool.and_eq_true, decide_eq_true_eq, beq_iff_eq, not_and]
  omega

/-- Upper case on ASCII moves `a`–`z` to `A`–`Z` and keeps every other character. -/
theorem toNat_upperChar {c : Char} (ascii : c.toNat < 128) :
    (upperChar c).toNat = if 97 ≤ c.toNat ∧ c.toNat ≤ 122 then c.toNat - 32 else c.toNat := by
  have runs : upperRuns = ⟨0x61, 0x7A, 1, -32⟩ :: upperRuns.tail := rfl
  unfold upperChar CaseRun.mapChar
  rw [runs, List.find?_cons, find?_upperRuns_tail ascii]
  by_cases lower : 97 ≤ c.toNat ∧ c.toNat ≤ 122
  · have covered : CaseRun.covers ⟨0x61, 0x7A, 1, -32⟩ c.toNat = true := by
      simp only [CaseRun.covers]
      simp
      omega
    simp only [covered, if_pos lower]
    rw [Char.toNat_ofNat, if_pos]
    · omega
    · simp [Nat.isValidChar]
      omega
  · have uncovered : CaseRun.covers ⟨0x61, 0x7A, 1, -32⟩ c.toNat = false := by
      simp only [CaseRun.covers]
      simp
      omega
    simp [uncovered, if_neg lower]

theorem upperChar_eq_self {c : Char} (ascii : c.toNat < 128)
    (notLower : ¬(97 ≤ c.toNat ∧ c.toNat ≤ 122)) : upperChar c = c := by
  apply Char.toNat_inj.mp
  rw [toNat_upperChar ascii, if_neg notLower]

/-- Upper case keeps a character that is no letter, and makes none. -/
theorem upperChar_eq_iff (d : Char) {c : Char} (ascii : c.toNat < 128)
    (notLetter : ¬(65 ≤ d.toNat ∧ d.toNat ≤ 90) ∧ ¬(97 ≤ d.toNat ∧ d.toNat ≤ 122)) :
    upperChar c = d ↔ c = d := by
  rw [← Char.toNat_inj, ← Char.toNat_inj, toNat_upperChar ascii]
  split_ifs <;> omega

/-- Every character of a joined list comes from a piece or from the separator. -/
theorem forall_mem_intercalate {α : Type} {p : α → Prop} {separator : List α}
    {pieces : List (List α)} (cut : ∀ c ∈ separator, p c)
    (solid : ∀ piece ∈ pieces, ∀ c ∈ piece, p c) : ∀ c ∈ separator.intercalate pieces, p c := by
  induction pieces with
  | nil => simp
  | cons piece rest induction =>
      cases rest with
      | nil => simpa using solid piece List.mem_cons_self
      | cons next more =>
          rw [List.intercalate_cons_cons]
          intro c member
          simp only [List.mem_append] at member
          rcases member with (inPiece | inSeparator) | inRest
          · exact solid piece List.mem_cons_self c inPiece
          · exact cut c inSeparator
          · exact induction (fun other member => solid other (List.mem_cons_of_mem _ member)) c inRest

end Text

namespace Numeral

open Text

theorem digitValue_eq (c : Char) : digitValue c =
    if 48 ≤ c.toNat ∧ c.toNat ≤ 57 then some (c.toNat - 48)
    else if 97 ≤ c.toNat ∧ c.toNat ≤ 122 then some (c.toNat - 87)
    else if 65 ≤ c.toNat ∧ c.toNat ≤ 90 then some (c.toNat - 55) else none := by
  simp only [digitValue, Char.le_def, UInt32.le_iff_toNat_le]
  rfl

theorem prefixBase_eq (c : Char) : prefixBase c =
    if c.toNat = 98 ∨ c.toNat = 66 then some 2
    else if c.toNat = 111 ∨ c.toNat = 79 then some 8
    else if c.toNat = 120 ∨ c.toNat = 88 then some 16 else none := by
  simp only [prefixBase, ← Char.toNat_inj]
  rfl

/-- A character that is a digit of some base is a printable ASCII character. -/
theorem toNat_of_digitValue_isSome {c : Char} (digit : (digitValue c).isSome) :
    48 ≤ c.toNat ∧ c.toNat ≤ 122 := by
  rw [digitValue_eq] at digit
  split_ifs at digit <;> simp_all <;> omega

theorem digitValue_upperChar {c : Char} (ascii : c.toNat < 128) :
    digitValue (upperChar c) = digitValue c := by
  rw [digitValue_eq, digitValue_eq, toNat_upperChar ascii]
  split_ifs <;> simp_all <;> omega

theorem prefixBase_upperChar {c : Char} (ascii : c.toNat < 128) :
    prefixBase (upperChar c) = prefixBase c := by
  rw [prefixBase_eq, prefixBase_eq, toNat_upperChar ascii]
  split_ifs <;> simp_all <;> omega

theorem digitValue_isSome_of_prefixBase {marker : Char} {base : Nat}
    (announced : prefixBase marker = some base) : (digitValue marker).isSome := by
  rw [prefixBase_eq] at announced
  rw [digitValue_eq]
  split_ifs at announced ⊢ <;> simp_all <;> omega

section Splitting

/-- A numeral is its base prefix, whose characters are digits of some base, followed by the
characters that hold its digits. -/
theorem exists_prefix_splitRadix (radix : Radix) (chars : List Char) :
    ∃ front, chars = front ++ (splitRadix radix chars).2 ∧ ∀ c ∈ front, (digitValue c).isSome := by
  have zeroDigit : (digitValue '0').isSome := by decide
  cases radix with
  | fixed base => exact ⟨[], rfl, by simp⟩
  | prefixed =>
      rcases chars with _ | ⟨first, rest⟩
      · exact ⟨[], rfl, by simp⟩
      by_cases isZero : first = '0'
      · subst isZero
        rcases rest with _ | ⟨marker, _ | ⟨next, rest⟩⟩
        · exact ⟨['0'], by simp [splitRadix], by simpa using zeroDigit⟩
        · exact ⟨['0'], by simp [splitRadix], by simpa using zeroDigit⟩
        · cases announced : prefixBase marker with
          | none => exact ⟨['0'], by simp [splitRadix, announced], by simpa using zeroDigit⟩
          | some base =>
              refine ⟨['0', marker], by simp [splitRadix, announced], ?_⟩
              simpa [zeroDigit] using digitValue_isSome_of_prefixBase announced
      · exact ⟨[], by simp [splitRadix, isZero], by simp⟩

theorem mem_of_mem_splitRadix {radix : Radix} {chars : List Char} {c : Char}
    (member : c ∈ (splitRadix radix chars).2) : c ∈ chars := by
  obtain ⟨front, whole, -⟩ := exists_prefix_splitRadix radix chars
  rw [whole]
  exact List.mem_append_right front member

theorem splitRadix_map_upperChar (radix : Radix) {chars : List Char}
    (ascii : ∀ c ∈ chars, c.toNat < 128) :
    splitRadix radix (chars.map upperChar) =
      ((splitRadix radix chars).1, (splitRadix radix chars).2.map upperChar) := by
  cases radix with
  | fixed base => rfl
  | prefixed =>
    rcases chars with _ | ⟨first, rest⟩
    · rfl
    have zero := upperChar_eq_iff '0' (ascii first List.mem_cons_self) (by decide)
    by_cases isZero : first = '0'
    · subst isZero
      have upper : upperChar '0' = '0' := upperChar_eq_self (by decide) (by decide)
      rcases rest with _ | ⟨marker, _ | ⟨next, rest⟩⟩
      · simp [splitRadix, upper]
      · simp [splitRadix, upper]
      · have markerAscii := ascii marker (by simp)
        simp only [List.map_cons, upper, splitRadix, prefixBase_upperChar markerAscii]
        cases prefixBase marker <;> rfl
    · have upper : upperChar first ≠ '0' := fun same => isZero (zero.mp same)
      simp [splitRadix, isZero, upper]

end Splitting

section Digits

theorem accumulate_map_upperChar (base bound : Nat) (separators : Bool) (value : Nat)
    {chars : List Char} (ascii : ∀ c ∈ chars, c.toNat < 128) :
    accumulate base bound separators value (chars.map upperChar) =
      accumulate base bound separators value chars := by
  induction chars generalizing value with
  | nil => rfl
  | cons c rest induction =>
      have cAscii := ascii c List.mem_cons_self
      have underscore : (upperChar c == '_') = (c == '_') := by
        rw [Bool.eq_iff_iff, beq_iff_eq, beq_iff_eq]
        exact upperChar_eq_iff '_' cAscii (by decide)
      have tail := fun value =>
        induction value fun d member => ascii d (List.mem_cons_of_mem _ member)
      simp only [List.map_cons, accumulate, underscore, digitValue_upperChar cAscii, tail]

/-- Digits that read hold nothing but digits and underscores. -/
theorem accumulate_ok_chars {base bound : Nat} {separators : Bool} {value result : Nat}
    {digits : List Char} (read : accumulate base bound separators value digits = .ok result) :
    ∀ c ∈ digits, (digitValue c).isSome ∨ c = '_' := by
  induction digits generalizing value with
  | nil => simp
  | cons c rest induction =>
      unfold accumulate at read
      intro d member
      rcases List.mem_cons.mp member with rfl | later
      · split at read
        · right
          simp_all
        · split at read
          · left
            simp_all
          · cases read
      · split at read
        · exact induction read d later
        · split at read
          · split_ifs at read
            exact induction read d later
          · cases read

theorem accumulate_append (base bound : Nat) (separators : Bool) (value : Nat)
    (front back : List Char) :
    accumulate base bound separators value (front ++ back) =
      (accumulate base bound separators value front).bind
        (accumulate base bound separators · back) := by
  induction front generalizing value with
  | nil => rfl
  | cons c rest induction =>
      simp only [List.cons_append, accumulate]
      split
      · exact induction value
      · split
        · split
          · split
            · rfl
            · exact induction _
          · rfl
        · rfl

theorem digitValue_digitChar {digit : Nat} (small : digit < 16) :
    digitValue (Nat.digitChar digit) = some digit := by
  have every : ∀ d : Fin 16, digitValue (Nat.digitChar d) = some d := by decide
  exact every ⟨digit, small⟩

theorem digitChar_ne_underscore {digit : Nat} (small : digit < 16) :
    Nat.digitChar digit ≠ '_' := by
  intro same
  have read := digitValue_digitChar small
  rw [same] at read
  cases read

/-- The digits of a number in a base up to sixteen are digits of that base. -/
theorem digitValue_isSome_of_mem_toDigits {base : Nat} (baseRange : 2 ≤ base ∧ base ≤ 16)
    {value : Nat} {c : Char} (member : c ∈ Nat.toDigits base value) :
    (digitValue c).isSome := by
  induction value using Nat.strong_induction_on with
  | _ value induction =>
      rw [Nat.toDigits_eq_if (by omega)] at member
      split_ifs at member with small
      · rw [List.mem_singleton.mp member, digitValue_digitChar (by omega)]
        rfl
      · rcases List.mem_append.mp member with leading | last
        · exact induction (value / base) (Nat.div_lt_self (by omega) (by omega)) leading
        · have remainder := Nat.mod_lt value (by omega : 0 < base)
          rw [List.mem_singleton.mp last, digitValue_digitChar (by omega)]
          rfl

theorem underscore_not_mem_toDigits {base : Nat} (baseRange : 2 ≤ base ∧ base ≤ 16)
    (value : Nat) : '_' ∉ Nat.toDigits base value := by
  intro member
  have digit := digitValue_isSome_of_mem_toDigits baseRange member
  revert digit
  decide

/-- The digits of a number, read back in its base, give the number, as long as it is within
the bound. -/
theorem accumulate_toDigits (separators : Bool) {base bound : Nat}
    (baseRange : 2 ≤ base ∧ base ≤ 16) {value : Nat} (fits : value ≤ bound) :
    accumulate base bound separators 0 (Nat.toDigits base value) = .ok value := by
  induction value using Nat.strong_induction_on with
  | _ value induction =>
      rw [Nat.toDigits_eq_if (by omega)]
      split_ifs with small
      · have notSeparator : (separators && Nat.digitChar value == '_') = false := by
          simp [digitChar_ne_underscore (by omega : value < 16)]
        simp [accumulate, notSeparator, digitValue_digitChar (by omega : value < 16), small,
          Nat.not_lt.mpr fits]
      · -- The leading digits read as the quotient, and the last digit adds the remainder.
        have last : value % base < base := Nat.mod_lt _ (by omega)
        have notSeparator : (separators && Nat.digitChar (value % base) == '_') = false := by
          simp [digitChar_ne_underscore (by omega : value % base < 16)]
        have whole : value / base * base + value % base = value := Nat.div_add_mod' value base
        rw [accumulate_append, induction (value / base) (Nat.div_lt_self (by omega) (by omega))
          (by have := Nat.div_le_self value base; omega)]
        simp [Except.bind, accumulate, notSeparator,
          digitValue_digitChar (by omega : value % base < 16), last, whole, Nat.not_lt.mpr fits]

end Digits

section Separators

/-- A numeral without the sign in front of it, if any. -/
def unsigned (chars : List Char) : List Char :=
  match chars with
  | '+' :: rest => rest
  | '-' :: rest => rest
  | rest => rest

/-- Where the underscore check starts: whether the digits are hexadecimal, the state it starts
in (a base prefix counts as a digit), and the characters it reads. -/
def separatorStart (unsigned : List Char) : Bool × SeparatorState × List Char :=
  match unsigned with
  | '0' :: marker :: rest =>
    if (prefixBase marker).isSome then (marker == 'x' || marker == 'X', SeparatorState.digit, rest)
    else (false, SeparatorState.start, unsigned)
  | _ => (false, SeparatorState.start, unsigned)

/-- The verdict of the underscore check from where it starts. -/
def separatorVerdict : Bool × SeparatorState × List Char → Bool
  | (hexadecimal, state, body) =>
    match body.foldlM (separatorStep hexadecimal) state with
    | some .underscore => false
    | some _ => true
    | none => false

/-- The underscore check in three layers: drop the sign, find where to start, run the check. -/
theorem separatorsWellPlaced_eq (chars : List Char) :
    separatorsWellPlaced chars = separatorVerdict (separatorStart (unsigned chars)) := rfl

theorem separatorStep_upperChar (hexadecimal : Bool) (state : SeparatorState) {c : Char}
    (ascii : c.toNat < 128) :
    separatorStep hexadecimal state (upperChar c) = separatorStep hexadecimal state c := by
  have upper := toNat_upperChar ascii
  have digitLike : ((upperChar c).isDigit || (hexadecimal &&
      (('a' ≤ upperChar c && upperChar c ≤ 'f') || ('A' ≤ upperChar c && upperChar c ≤ 'F')))) =
      (c.isDigit || (hexadecimal && (('a' ≤ c && c ≤ 'f') || ('A' ≤ c && c ≤ 'F')))) := by
    rw [Bool.eq_iff_iff]
    cases hexadecimal <;>
      simp only [Char.isDigit, Char.le_def, UInt32.le_iff_toNat_le, Char.toNat_val, upper,
        Bool.or_eq_true, Bool.and_eq_true, decide_eq_true_eq, Bool.false_and,
        Bool.true_and, Bool.false_eq_true, or_false, Char.reduceToNat] <;>
      split_ifs <;> omega
  simp only [separatorStep, digitLike, upperChar_eq_iff '_' ascii (by decide)]

theorem unsigned_map_upperChar {chars : List Char} (ascii : ∀ c ∈ chars, c.toNat < 128) :
    unsigned (chars.map upperChar) = (unsigned chars).map upperChar := by
  rcases chars with _ | ⟨sign, rest⟩
  · rfl
  have signAscii := ascii sign List.mem_cons_self
  have plus := upperChar_eq_iff '+' signAscii (by decide)
  have minus := upperChar_eq_iff '-' signAscii (by decide)
  by_cases isPlus : sign = '+'
  · subst isPlus
    have upper : upperChar '+' = '+' := upperChar_eq_self (by decide) (by decide)
    simp [unsigned, upper]
  by_cases isMinus : sign = '-'
  · subst isMinus
    have upper : upperChar '-' = '-' := upperChar_eq_self (by decide) (by decide)
    simp [unsigned, upper]
  have notPlus : upperChar sign ≠ '+' := fun same => isPlus (plus.mp same)
  have notMinus : upperChar sign ≠ '-' := fun same => isMinus (minus.mp same)
  simp [unsigned, isPlus, isMinus, notPlus, notMinus]

theorem hexMarker_upperChar {marker : Char} (ascii : marker.toNat < 128) :
    (upperChar marker == 'x' || upperChar marker == 'X') = (marker == 'x' || marker == 'X') := by
  have upper := toNat_upperChar ascii
  rw [Bool.eq_iff_iff]
  simp only [Bool.or_eq_true, beq_iff_eq, ← Char.toNat_inj, upper, Char.reduceToNat]
  split_ifs <;> omega

theorem separatorStart_map_upperChar {unsigned : List Char}
    (ascii : ∀ c ∈ unsigned, c.toNat < 128) :
    separatorStart (unsigned.map upperChar) =
      ((separatorStart unsigned).1, (separatorStart unsigned).2.1,
        (separatorStart unsigned).2.2.map upperChar) := by
  rcases unsigned with _ | ⟨first, _ | ⟨marker, rest⟩⟩
  · rfl
  · have zero := upperChar_eq_iff '0' (ascii first List.mem_cons_self) (by decide)
    by_cases isZero : first = '0'
    · subst isZero
      have upper : upperChar '0' = '0' := upperChar_eq_self (by decide) (by decide)
      simp [separatorStart, upper]
    · have notZero : upperChar first ≠ '0' := fun same => isZero (zero.mp same)
      simp [separatorStart, notZero]
  · have zero := upperChar_eq_iff '0' (ascii first List.mem_cons_self) (by decide)
    have markerAscii := ascii marker (by simp)
    by_cases isZero : first = '0'
    · subst isZero
      have upper : upperChar '0' = '0' := upperChar_eq_self (by decide) (by decide)
      simp only [List.map_cons, separatorStart, upper, prefixBase_upperChar markerAscii,
        hexMarker_upperChar markerAscii]
      split_ifs <;> rfl
    · have notZero : upperChar first ≠ '0' := fun same => isZero (zero.mp same)
      simp [separatorStart, isZero, notZero]

theorem foldlM_separatorStep_map_upperChar (hexadecimal : Bool) (state : SeparatorState)
    {body : List Char} (ascii : ∀ c ∈ body, c.toNat < 128) :
    (body.map upperChar).foldlM (separatorStep hexadecimal) state =
      body.foldlM (separatorStep hexadecimal) state := by
  induction body generalizing state with
  | nil => rfl
  | cons c rest induction =>
      have restAscii : ∀ d ∈ rest, d.toNat < 128 :=
        fun d member => ascii d (List.mem_cons_of_mem _ member)
      simp only [List.map_cons, List.foldlM_cons,
        separatorStep_upperChar hexadecimal state (ascii c List.mem_cons_self)]
      cases separatorStep hexadecimal state c with
      | none => rfl
      | some next => exact induction next restAscii

theorem separatorsWellPlaced_map_upperChar {chars : List Char}
    (ascii : ∀ c ∈ chars, c.toNat < 128) :
    separatorsWellPlaced (chars.map upperChar) = separatorsWellPlaced chars := by
  have unsignedAscii : ∀ c ∈ unsigned chars, c.toNat < 128 := by
    intro c member
    apply ascii
    rcases chars with _ | ⟨sign, rest⟩
    · exact member
    · unfold unsigned at member
      split at member <;> simp_all
  have bodyAscii : ∀ c ∈ (separatorStart (unsigned chars)).2.2, c.toNat < 128 := by
    intro c member
    apply unsignedAscii
    unfold separatorStart at member
    split at member
    · split_ifs at member <;> simp_all
    · exact member
  rw [separatorsWellPlaced_eq, separatorsWellPlaced_eq, unsigned_map_upperChar ascii,
    separatorStart_map_upperChar unsignedAscii]
  generalize separatorStart (unsigned chars) = start at bodyAscii ⊢
  obtain ⟨hexadecimal, state, body⟩ := start
  simp only [separatorVerdict, foldlM_separatorStep_map_upperChar hexadecimal state bodyAscii]

end Separators

theorem contains_underscore_map_upperChar {chars : List Char}
    (ascii : ∀ c ∈ chars, c.toNat < 128) :
    (chars.map upperChar).contains '_' = chars.contains '_' := by
  rw [Bool.eq_iff_iff, List.contains_iff_mem, List.contains_iff_mem, List.mem_map]
  constructor
  · rintro ⟨c, member, upper⟩
    rwa [← (upperChar_eq_iff '_' (ascii c member) (by decide)).mp upper]
  · intro member
    exact ⟨'_', member, upperChar_eq_self (by decide) (by decide)⟩

/-- Reading a numeral does not see the case of its letters. -/
theorem readNat_upperCase (radix : Radix) (width : Nat) {text : String}
    (ascii : ∀ c ∈ text.toList, c.toNat < 128) :
    readNat radix width (upperCase text) = readNat radix width text := by
  have digitsAscii : ∀ c ∈ (splitRadix radix text.toList).2, c.toNat < 128 :=
    fun c member => ascii c (mem_of_mem_splitRadix member)
  unfold readNat upperCase
  simp only [String.toList_ofList, List.isEmpty_map, splitRadix_map_upperChar radix ascii,
    accumulate_map_upperChar _ _ _ _ digitsAscii, contains_underscore_map_upperChar digitsAscii,
    separatorsWellPlaced_map_upperChar ascii]

/-- A numeral that reads holds only digits of some base and underscores. -/
theorem readNat_ok_chars {radix : Radix} {width value : Nat} {text : String}
    (read : readNat radix width text = .ok value) :
    ∀ c ∈ text.toList, (digitValue c).isSome ∨ c = '_' := by
  intro c member
  obtain ⟨front, whole, frontDigits⟩ := exists_prefix_splitRadix radix text.toList
  unfold readNat at read
  simp only at read
  split at read
  · cases read
  generalize splitRadix radix text.toList = parts at read whole
  obtain ⟨base, digits⟩ := parts
  simp only at read whole
  split at read
  · cases read
  rename_i accumulated
  rw [whole] at member
  rcases List.mem_append.mp member with inFront | inDigits
  · exact .inl (frontDigits c inFront)
  · exact accumulate_ok_chars accumulated c inDigits

/-- A number written in decimal reads back as itself when it fits the width. -/
theorem readNat_toString {width value : Nat} (fits : value < Nat.pow 2 width) :
    readNat (.fixed 10) width (toString value) = .ok value := by
  have read := accumulate_toDigits false (by omega : 2 ≤ 10 ∧ 10 ≤ 16)
    (by rw [Nat.pow_eq] at fits; omega : value ≤ 2 ^ width - 1)
  have fixed : (Radix.fixed 10 == Radix.prefixed) = false := rfl
  simp [readNat, splitRadix, fixed, read]

/-- A number written in hexadecimal after `0x` reads back as itself when it fits the width. -/
theorem readNat_hex {width value : Nat} (fits : value < Nat.pow 2 width) :
    readNat .prefixed width ("0x" ++ String.ofList (Nat.toDigits 16 value)) = .ok value := by
  have read := accumulate_toDigits true (by omega : 2 ≤ 16 ∧ 16 ≤ 16)
    (by rw [Nat.pow_eq] at fits; omega : value ≤ 2 ^ width - 1)
  have noUnderscore := underscore_not_mem_toDigits (by omega : 2 ≤ 16 ∧ 16 ≤ 16) value
  obtain ⟨next, rest, digits⟩ := List.exists_cons_of_ne_nil (@Nat.toDigits_ne_nil value 16)
  rw [digits] at read noUnderscore
  simp [readNat, splitRadix, prefixBase, digits, read, noUnderscore]

end Numeral

end PeerBook
