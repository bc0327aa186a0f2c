import Mathlib
import PeerBook.Services

/-!
# How a service mask is written

A mask's text is its words joined by `|`, or `NONE` for the empty mask. The words come from two
loops. The first walks the named capabilities in table order, writes the name of each one the
mask has and clears that bit from a copy of the mask; what it leaves is the mask without bits 0
to 2 (`nameFlags_eq`). The second writes the lowest bit left, as `0x` and the bit's value in
hexadecimal, and clears it, until no bit is left: it writes each remaining bit once, lowest
first (`hexWords_eq`), so it runs once per bit (`length_hexWords`).

Together (`format_eq_names_then_bits`): the text of a mask that is not empty joins the names of
its named capabilities in table order, then the word of each set bit from 3 up, in increasing
order, and the second loop runs as many times as the mask has bits outside the named three.
-/

namespace PeerBook

namespace ServiceMask

/-- The word of the bit at `position`: `0x` and the bit's value in lower-case hexadecimal. -/
def hexWord (position : Nat) : String :=
  "0x" ++ String.ofList (Nat.toDigits 16 (Nat.pow 2 position))

/-- The positions of a word's set bits, in increasing order. -/
def setPositions (bits : UInt64) : List Nat :=
  (List.range 64).filter bits.toBitVec.getLsbD

/-! ## The loop over the other bits -/

theorem toNat_lowestBit {rest : UInt64} (nonZero : rest ≠ 0) :
    (lowestBit rest).toNat = Nat.pow 2 (trailingZeros rest).toNat := by
  have small := toNat_trailingZeros_lt nonZero
  have fits : 2 ^ (trailingZeros rest).toNat < 2 ^ 64 := Nat.pow_lt_pow_right (by omega) small
  simp only [lowestBit, UInt64.toNat_shiftLeft, UInt64.toNat_one, Nat.mod_eq_of_lt small,
    Nat.one_shiftLeft]
  rw [Nat.pow_eq]
  exact Nat.mod_eq_of_lt fits

theorem setPositions_zero : setPositions 0 = [] := by
  simp [setPositions]

/-- The set positions of a word that has one: its lowest, then those of the word with that bit
cleared. -/
theorem setPositions_eq_cons {rest : UInt64} (nonZero : rest ≠ 0) :
    setPositions rest =
      (trailingZeros rest).toNat :: setPositions (rest &&& ~~~lowestBit rest) := by
  set lowest := (trailingZeros rest).toNat with lowestDef
  have small : lowest < 64 := toNat_trailingZeros_lt nonZero
  have below : ∀ j < lowest, rest.toBitVec.getLsbD j = false := fun j before =>
    BitVec.getLsbD_false_of_lt_ctz (by rwa [lowestDef, toNat_trailingZeros] at before)
  have set : rest.toBitVec.getLsbD lowest = true :=
    BitVec.getLsbD_true_ctz_of_ne_zero (toBitVec_ne_zero nonZero)
  have split : List.range 64 =
      List.range' 0 lowest ++ lowest :: List.range' (lowest + 1) (63 - lowest) := by
    have count : 64 = lowest + ((63 - lowest) + 1) := by omega
    rw [List.range_eq_range', count, ← List.range'_append_1, List.range'_succ]
    simp
  -- Below the lowest bit neither word has a bit; above it the two agree.
  have cleared : ∀ j, (rest &&& ~~~lowestBit rest).toBitVec.getLsbD j =
      (rest.toBitVec.getLsbD j && decide (j ≠ lowest)) := getLsbD_clearLowest nonZero
  have before : ∀ bits : UInt64, (∀ j < lowest, bits.toBitVec.getLsbD j = false) →
      (List.range' 0 lowest).filter bits.toBitVec.getLsbD = [] := by
    intro bits clear
    refine List.filter_eq_nil_iff.mpr fun j member => ?_
    rw [List.mem_range'_1] at member
    simp [clear j (by omega)]
  have after : (List.range' (lowest + 1) (63 - lowest)).filter rest.toBitVec.getLsbD =
      (List.range' (lowest + 1) (63 - lowest)).filter
        (rest &&& ~~~lowestBit rest).toBitVec.getLsbD := by
    refine List.filter_congr fun j member => ?_
    rw [List.mem_range'_1] at member
    have other : j ≠ lowest := by omega
    rw [cleared]
    simp [other]
  have clearedBelow : ∀ j < lowest, (rest &&& ~~~lowestBit rest).toBitVec.getLsbD j = false :=
    fun j early => by rw [cleared, below j early, Bool.false_and]
  have clearedLowest : (rest &&& ~~~lowestBit rest).toBitVec.getLsbD lowest = false := by
    rw [cleared]
    simp
  rw [setPositions, setPositions, split, List.filter_append, List.filter_append,
    before rest below, before _ clearedBelow, List.filter_cons_of_pos set,
    List.filter_cons_of_neg (by rw [clearedLowest]; decide), after]
  rfl

/-- The loop writes the word of each set bit, lowest first. -/
theorem hexWords_eq (rest : UInt64) : hexWords rest = (setPositions rest).map hexWord := by
  fun_induction hexWords rest with
  | case1 => simp [setPositions_zero]
  | case2 rest nonZero bit induction =>
      rw [setPositions_eq_cons nonZero, List.map_cons, ← induction, hexWord,
        toNat_lowestBit nonZero]

theorem cpopNatRec_eq_length (bits : BitVec 64) (n : Nat) :
    bits.cpopNatRec n 0 = ((List.range n).filter bits.getLsbD).length := by
  induction n with
  | zero => rfl
  | succ n induction =>
      rw [BitVec.cpopNatRec_succ, BitVec.cpopNatRec_eq, induction, List.range_succ,
        List.filter_append, List.length_append]
      cases set : bits.getLsbD n <;> simp [set]

theorem length_setPositions (bits : UInt64) :
    (setPositions bits).length = bits.toBitVec.cpop.toNat := by
  have atMost : bits.toBitVec.cpopNatRec 64 0 ≤ 64 := BitVec.cpopNatRec_zero_le _ 64
  rw [BitVec.cpop, BitVec.toNat_ofNat, Nat.mod_eq_of_lt (by omega), cpopNatRec_eq_length]
  rfl

/-- The loop runs once per set bit: one word a round. -/
theorem length_hexWords (rest : UInt64) : (hexWords rest).length = rest.toBitVec.cpop.toNat := by
  rw [hexWords_eq, List.length_map, length_setPositions]

/-! ## The loop over the named capabilities -/

/-- One round of the loop over the named capabilities: a capability the mask has gets its name
written and its bit cleared from what is left. -/
def nameStep (mask : ServiceMask) (state : List String × UInt64) (flag : ServiceFlag) :
    List String × UInt64 :=
  if mask.has flag.position then (state.1 ++ [flag.name], state.2 &&& ~~~(single flag.position).bits)
  else state

theorem nameFlags_eq_foldl (mask : ServiceMask) :
    nameFlags mask = ServiceFlag.all.foldl (nameStep mask) ([], mask.bits) := rfl

theorem position_lt (flag : ServiceFlag) : flag.position < 64 := by
  cases flag <;> decide

theorem testBit_single {position : Nat} (small : position < 64) (bit : Nat) :
    (single position).bits.toNat.testBit bit = decide (position = bit) := by
  have fits : 2 ^ position < 2 ^ 64 := Nat.pow_lt_pow_right (by omega) small
  simp only [single, ofNat, UInt64.toNat_ofNat', Nat.pow_eq, Nat.mod_eq_of_lt fits,
    Nat.testBit_two_pow]

/-- A round writes the names of the capabilities the mask has and clears exactly their bits. -/
theorem foldl_nameStep (mask : ServiceMask) (flags : List ServiceFlag)
    (start : List String × UInt64) :
    (flags.foldl (nameStep mask) start).1 =
        start.1 ++ (flags.filter fun flag => mask.has flag.position).map ServiceFlag.name ∧
      ∀ j, (flags.foldl (nameStep mask) start).2.toBitVec.getLsbD j =
        (start.2.toBitVec.getLsbD j &&
          !flags.any fun flag => mask.has flag.position && decide (j = flag.position)) := by
  induction flags generalizing start with
  | nil => simp
  | cons flag flags induction =>
      obtain ⟨named, rest⟩ := induction (nameStep mask start flag)
      refine ⟨?_, fun j => ?_⟩
      · rw [List.foldl_cons, named, nameStep]
        split <;> simp_all
      · rw [List.foldl_cons, rest, nameStep]
        split
        · next set =>
          have single : (single flag.position).bits.toBitVec.getLsbD j =
              decide (flag.position = j) := testBit_single (position_lt flag) j
          by_cases small : j < 64
          · simp only [UInt64.toBitVec_and, UInt64.toBitVec_not, BitVec.getLsbD_and,
              BitVec.getLsbD_not, single, List.any_cons, set, small, decide_true, Bool.true_and,
              Bool.not_or, Bool.and_assoc, eq_comm]
          · simp [BitVec.getLsbD_of_ge _ _ (Nat.le_of_not_lt small)]
        · simp_all

theorem has_eq_getLsbD (mask : ServiceMask) (position : Nat) :
    mask.has position = mask.bits.toBitVec.getLsbD position := rfl

theorem getLsbD_seven (j : Nat) : (7 : UInt64).toBitVec.getLsbD j = decide (j < 3) := by
  rw [UInt64.toBitVec_ofNat, BitVec.getLsbD_ofNat]
  rcases (by omega : j = 0 ∨ j = 1 ∨ j = 2 ∨ 3 ≤ j) with rfl | rfl | rfl | large
  · decide
  · decide
  · decide
  have above : 7 < 2 ^ j := lt_of_lt_of_le (by norm_num) (Nat.pow_le_pow_right (by omega) large)
  simp [Nat.testBit_lt_two_pow above, show ¬j < 3 by omega]

/-- The loop over the named capabilities writes the names of those the mask has, in table
order, and leaves the mask without bits 0 to 2. -/
theorem nameFlags_eq (mask : ServiceMask) :
    nameFlags mask =
      ((ServiceFlag.all.filter fun flag => mask.has flag.position).map ServiceFlag.name,
        mask.bits &&& ~~~7) := by
  obtain ⟨named, rest⟩ := foldl_nameStep mask ServiceFlag.all ([], mask.bits)
  rw [nameFlags_eq_foldl]
  refine Prod.ext (by simpa using named) (UInt64.toBitVec_inj.mp ?_)
  apply BitVec.eq_of_getLsbD_eq
  intro j small
  rw [rest j, UInt64.toBitVec_and, UInt64.toBitVec_not, BitVec.getLsbD_and, BitVec.getLsbD_not,
    getLsbD_seven]
  -- Each of bits 0 to 2 is cleared by its own round when set; the bits above are untouched.
  simp only [ServiceFlag.all, ServiceFlag.position, has_eq_getLsbD, List.any_cons, List.any_nil]
  rcases (by omega : j = 0 ∨ j = 1 ∨ j = 2 ∨ 3 ≤ j) with rfl | rfl | rfl | large
  · cases mask.bits.toBitVec.getLsbD 0 <;> simp
  · cases mask.bits.toBitVec.getLsbD 1 <;> simp
  · cases mask.bits.toBitVec.getLsbD 2 <;> simp
  · simp [show j ≠ 0 by omega, show j ≠ 1 by omega, show j ≠ 2 by omega, show ¬j < 3 by omega,
      small]

/-- The bits the second loop starts from are the mask's bits from 3 up. -/
theorem setPositions_above_named (mask : ServiceMask) :
    setPositions (mask.bits &&& ~~~7) =
      (List.range 64).filter fun position => decide (3 ≤ position) && mask.has position := by
  refine List.filter_congr fun j member => ?_
  have small : j < 64 := List.mem_range.mp member
  rw [UInt64.toBitVec_and, UInt64.toBitVec_not, BitVec.getLsbD_and, BitVec.getLsbD_not,
    getLsbD_seven, has_eq_getLsbD]
  by_cases named : j < 3 <;> simp [named, small]
  omega

/-! ## The text -/

/-- The words of a mask: the names of its named capabilities in table order, then the word of
each set bit from 3 up, in increasing order. -/
theorem words_eq (mask : ServiceMask) :
    mask.words =
      (ServiceFlag.all.filter fun flag => mask.has flag.position).map ServiceFlag.name ++
        ((List.range 64).filter fun position => decide (3 ≤ position) && mask.has position).map
          hexWord := by
  simp only [words, nameFlags_eq, hexWords_eq, setPositions_above_named]

theorem words_eq_filter (mask : ServiceMask) :
    mask.words =
      (ServiceFlag.all.filter fun flag => mask.has flag.position).map ServiceFlag.name ++
        (((List.range 61).map (· + 3)).filter mask.has).map fun position =>
          "0x" ++ String.ofList (Nat.toDigits 16 (Nat.pow 2 position)) := by
  have offsets : (List.range 64).filter (fun position => decide (3 ≤ position) && mask.has position) =
      ((List.range 61).map (· + 3)).filter mask.has := by
    have shifted : ((List.range 61).map (· + 3)) = (List.range 61).map (3 + ·) :=
      List.map_congr_left fun offset _ => Nat.add_comm offset 3
    have named : (List.range 3).filter
        (fun position => decide (3 ≤ position) && mask.has position) = [] :=
      List.filter_eq_nil_iff.mpr fun position member => by
        simp only [List.mem_range] at member
        simp [show ¬3 ≤ position by omega]
    rw [shifted, show 64 = 3 + 61 from rfl, List.range_add, List.filter_append, named,
      List.nil_append]
    refine List.filter_congr fun position member => ?_
    obtain ⟨offset, -, rfl⟩ := List.mem_map.mp member
    simp
  rw [words_eq, offsets]
  rfl

/-- The text of a mask: `NONE` for the empty mask, else the names of its named capabilities in
table order, then `0x` and the lower-case hexadecimal value of each set bit from 3 up, in
increasing order, joined by `|`. The loop that writes the bits from 3 up runs once per such
bit: as many times as the population count of the mask without its three named bits. -/
theorem format_eq_names_then_bits (mask : ServiceMask) :
    format mask =
        (if mask.bits = 0 then "NONE"
        else "|".intercalate
          ((ServiceFlag.all.filter fun flag => mask.has flag.position).map ServiceFlag.name ++
            ((List.range 64).filter fun position =>
              decide (3 ≤ position) && mask.has position).map hexWord)) ∧
      (hexWords (nameFlags mask).2).length = (mask.bits &&& ~~~7).toBitVec.cpop.toNat := by
  refine ⟨by rw [format, words_eq], ?_⟩
  rw [nameFlags_eq, length_hexWords]

end ServiceMask

end PeerBook
