import Mathlib
import PeerBook.Net.IpAddr.Text
import PeerBook.Proofs.NumeralReading

/-!
# Reading back the text of an address

The text an address is written in reads back as that address. An IPv4 address is written as
four decimal fields, none with a leading zero, joined by dots; the reader takes them back one by
one. An IPv6 address is written as its groups in hexadecimal joined by colons, the first longest
run of two or more zero groups written as `::`; the reader finds that `::`, reads the groups on
either side, and fills the gap with zeros, which is exactly the run the writer left out.

Main statements: `parse?_octetsText` and `parse?_groupsText`.
-/

namespace PeerBook.IpAddr

/-! ## Digits -/

/-- The digits of an IPv4 field. -/
def octetDigits (octet : UInt8) : List Char := Nat.toDigits 10 octet.toNat

/-- The digits of an IPv6 group. -/
def groupDigits (group : UInt16) : List Char := Nat.toDigits 16 group.toNat

theorem ne_of_digitValue_isSome {c : Char} (digit : (Numeral.digitValue c).isSome) :
    c ≠ ':' ∧ c ≠ '.' ∧ c ≠ '%' ∧ c ≠ '/' := by
  refine ⟨?_, ?_, ?_, ?_⟩ <;> rintro rfl <;> revert digit <;> decide

theorem digitValue_isSome_of_mem_octetDigits {octet : UInt8} {c : Char}
    (member : c ∈ octetDigits octet) : (Numeral.digitValue c).isSome :=
  Numeral.digitValue_isSome_of_mem_toDigits (by omega) member

theorem digitValue_isSome_of_mem_groupDigits {group : UInt16} {c : Char}
    (member : c ∈ groupDigits group) : (Numeral.digitValue c).isSome :=
  Numeral.digitValue_isSome_of_mem_toDigits (by omega) member

theorem eq_zero_of_toDigits_eq_zero_cons {base value : Nat} (baseRange : 1 < base)
    {rest : List Char} (digits : Nat.toDigits base value = '0' :: rest) : value = 0 := by
  induction value using Nat.strong_induction_on generalizing rest with
  | _ value induction =>
      rw [Nat.toDigits_eq_if baseRange] at digits
      split_ifs at digits with small
      · simpa using (List.cons.inj digits).1
      · -- The leading digit is the quotient's, and the quotient is not zero.
        obtain ⟨first, others, leading⟩ :=
          List.exists_cons_of_ne_nil (@Nat.toDigits_ne_nil (value / base) base)
        rw [leading, List.cons_append] at digits
        have zeroFirst := (List.cons.inj digits).1
        subst zeroFirst
        have quotient := induction (value / base) (Nat.div_lt_self (by omega) baseRange) leading
        have positive := Nat.div_pos (Nat.le_of_not_lt small) (by omega)
        omega

theorem octetOf?_octetDigits (octet : UInt8) : octetOf? (octetDigits octet) = some octet := by
  have allDigits : (octetDigits octet).all Char.isDigit = true :=
    List.all_eq_true.mpr fun c member => Nat.isDigit_of_mem_toDigits (by omega) (by omega) member
  have read : (octetDigits octet).foldl (fun value c => value * 10 + (c.toNat - 48)) 0 =
      octet.toNat := by
    have step : (fun value (c : Char) => value * 10 + (c.toNat - 48)) =
        fun sofar c => 10 * sofar + (c.toNat - '0'.toNat) := by
      funext sofar c
      simp [Nat.mul_comm]
    rw [step, ← Nat.ofDigitChars_eq_foldl, octetDigits, Nat.ofDigitChars_ten_toDigits]
  obtain ⟨first, rest, digits⟩ := List.exists_cons_of_ne_nil (@Nat.toDigits_ne_nil octet.toNat 10)
  -- Only the number zero is written with a leading zero, and then alone.
  have leading : (first != '0' || rest.isEmpty) = true := by
    by_cases zero : first = '0'
    · subst zero
      have isZero := eq_zero_of_toDigits_eq_zero_cons (by omega) digits
      rw [isZero, Nat.toDigits_zero] at digits
      simp [(List.cons.inj digits).2.symm]
    · simp [zero]
  rw [octetDigits, digits] at allDigits read
  rw [octetDigits, digits, octetOf?]
  simp only [allDigits, leading, read, Bool.and_self, if_true]
  simp [Nat.le_of_lt_succ octet.toNat_lt]

theorem foldlM_groupStep_toDigits (value : Nat) :
    (Nat.toDigits 16 value).foldlM groupStep 0 = some value.toUInt16 := by
  induction value using Nat.strong_induction_on with
  | _ value induction =>
      rw [Nat.toDigits_eq_if (by omega)]
      split_ifs with small
      · simp [groupStep, Numeral.digitValue_digitChar small, small]
      · -- The leading digits read as the quotient, and the last digit adds the remainder.
        have last : value % 16 < 16 := Nat.mod_lt _ (by omega)
        rw [List.foldlM_append, induction (value / 16) (by omega)]
        simp only [groupStep, Option.bind_eq_bind, List.foldlM_cons, List.foldlM_nil,
          Option.bind_some, Numeral.digitValue_digitChar last, last, if_true]
        congr 1
        apply UInt16.toNat_inj.mp
        simp [UInt16.toNat_add, UInt16.toNat_mul]
        omega

theorem groupValue?_groupDigits (group : UInt16) : groupValue? (groupDigits group) = some group := by
  have short : (Nat.toDigits 16 group.toNat).length ≤ 4 :=
    (Nat.length_toDigits_le_iff (by omega) (by omega)).mpr group.toNat_lt
  have nonEmpty : (groupDigits group).isEmpty = false :=
    List.isEmpty_eq_false_iff.mpr Nat.toDigits_ne_nil
  rw [groupValue?, nonEmpty, groupDigits, foldlM_groupStep_toDigits]
  simp [Nat.not_lt.mpr short]

/-! ## IPv4 -/

theorem toList_octetsText (octets : Vector UInt8 4) :
    (octetsText octets).toList = ['.'].intercalate (octets.toList.map octetDigits) := by
  simp [octetsText, String.toList_intercalate, Function.comp_def]
  rfl

theorem exists_eq_octets (octets : Vector UInt8 4) :
    ∃ a b c d, octets = IpAddr.octets a b c d := by
  refine ⟨octets[0], octets[1], octets[2], octets[3], ?_⟩
  ext index bound
  interval_cases index <;> rfl

theorem octetsOf?_octetsText (octets : Vector UInt8 4) :
    octetsOf? (octetsText octets).toList = some octets := by
  have noDot : ∀ field ∈ octets.toList.map octetDigits, '.' ∉ field := by
    intro field member dot
    obtain ⟨octet, -, rfl⟩ := List.mem_map.mp member
    exact (ne_of_digitValue_isSome (digitValue_isSome_of_mem_octetDigits dot)).2.1 rfl
  obtain ⟨a, b, c, d, rfl⟩ := exists_eq_octets octets
  rw [toList_octetsText, octetsOf?, List.splitOn_intercalate '.' noDot (by simp)]
  simp [octetOf?_octetDigits, IpAddr.octets]

/-- The first dot, colon or percent sign of a text made of digits and one separator, which it
holds, is that separator. -/
theorem find?_eq_separator {chars : List Char} {separator : Char}
    (only : ∀ c ∈ chars, (Numeral.digitValue c).isSome ∨ c = separator)
    (present : separator ∈ chars) (isSeparator : separator = '.' ∨ separator = ':') :
    chars.find? (fun c => c == '.' || c == ':' || c == '%') = some separator := by
  have selected : (separator == '.' || separator == ':' || separator == '%') = true := by
    rcases isSeparator with rfl | rfl <;> rfl
  have found : (chars.find? fun c => c == '.' || c == ':' || c == '%').isSome :=
    List.find?_isSome.mpr ⟨separator, present, selected⟩
  obtain ⟨found, first⟩ := Option.isSome_iff_exists.mp found
  rw [first]
  rcases only found (List.mem_of_find?_eq_some first) with digit | same
  · have foundMatches := List.find?_some first
    obtain ⟨colon, dot, percent, -⟩ := ne_of_digitValue_isSome digit
    simp [colon, dot, percent] at foundMatches
  · rw [same]

/-- The text of an IPv4 address holds digits and dots only. -/
theorem octetsText_chars (octets : Vector UInt8 4) :
    ∀ c ∈ (octetsText octets).toList, (Numeral.digitValue c).isSome ∨ c = '.' := by
  rw [toList_octetsText]
  refine Text.forall_mem_intercalate (by simp) ?_
  intro field member c inField
  obtain ⟨octet, -, rfl⟩ := List.mem_map.mp member
  exact .inl (digitValue_isSome_of_mem_octetDigits inField)

theorem parse?_octetsText (octets : Vector UInt8 4) :
    parse? (octetsText octets) = some (.v4 octets) := by
  have only := octetsText_chars octets
  have present : '.' ∈ (octetsText octets).toList := by
    obtain ⟨a, b, c, d, rfl⟩ := exists_eq_octets octets
    simp [toList_octetsText, IpAddr.octets, List.intercalate_cons_cons]
  rw [parse?, find?_eq_separator only present (.inl rfl)]
  simp [octetsOf?_octetsText]

/-! ## The run of zeros -/

/-- The groups from `start` up to `stop`, two or more of them, are all zero. -/
def ZeroRun (groups : List UInt16) (start stop : Nat) : Prop :=
  start + 2 ≤ stop ∧ stop ≤ groups.length ∧
    groups = groups.take start ++ List.replicate (stop - start) 0 ++ groups.drop stop

/-- The zeros from a position on form a run when there are two or more of them. -/
theorem zeroRun_takeWhile (groups : List UInt16) (start : Nat)
    (long : 2 ≤ ((groups.drop start).takeWhile (· == 0)).length) :
    ZeroRun groups start (start + ((groups.drop start).takeWhile (· == 0)).length) := by
  set zeros := (groups.drop start).takeWhile (· == 0) with zerosDef
  have split : zeros ++ (groups.drop start).dropWhile (· == 0) = groups.drop start :=
    List.takeWhile_append_dropWhile
  have bounded : zeros.length ≤ groups.length - start := by
    have lengths := congrArg List.length split
    rw [List.length_append, List.length_drop] at lengths
    omega
  have allZero : zeros = List.replicate zeros.length 0 :=
    List.eq_replicate_iff.mpr ⟨rfl, fun group member => by
      simpa using List.mem_takeWhile_imp member⟩
  have rest : (groups.drop start).dropWhile (· == 0) = groups.drop (start + zeros.length) :=
    calc (groups.drop start).dropWhile (· == 0)
        = (zeros ++ (groups.drop start).dropWhile (· == 0)).drop zeros.length :=
          List.drop_left.symm
      _ = (groups.drop start).drop zeros.length := by rw [split]
      _ = groups.drop (start + zeros.length) := List.drop_drop
  refine ⟨by omega, by omega, ?_⟩
  calc groups = groups.take start ++ groups.drop start := (List.take_append_drop _ _).symm
    _ = groups.take start ++ (zeros ++ groups.drop (start + zeros.length)) := by rw [← rest, split]
    _ = _ := by rw [Nat.add_sub_cancel_left, ← allZero, List.append_assoc]

theorem zeroRun_spec {groups : List UInt16} {start stop : Nat}
    (run : zeroRun groups = some (start, stop)) : ZeroRun groups start stop := by
  unfold zeroRun at run
  -- The fold only ever keeps a candidate that is a run of zeros.
  refine List.foldlRecOn (motive := fun best => ∀ start stop, best = some (start, stop) →
      ZeroRun groups start stop) _ _ ?_ ?_ start stop run
  · intro start stop none
    cases none
  · intro best kept position _ start stop result
    simp only at result
    split at result
    · exact kept start stop result
    · rename_i long
      split at result
      · split at result
        · cases result
          exact zeroRun_takeWhile groups position (Nat.le_of_not_lt long)
        · exact kept start stop result
      · cases result
        exact zeroRun_takeWhile groups position (Nat.le_of_not_lt long)

/-! ## Cutting at the double colon -/

/-- A field of an IPv6 text: one digit or more. -/
def Solid (field : List Char) : Prop :=
  field ≠ [] ∧ ∀ c ∈ field, (Numeral.digitValue c).isSome

theorem solid_groupDigits (group : UInt16) : Solid (groupDigits group) :=
  ⟨Nat.toDigits_ne_nil, fun _ member => digitValue_isSome_of_mem_groupDigits member⟩

theorem Solid.ne_colon {field : List Char} (solid : Solid field) : ∀ c ∈ field, c ≠ ':' :=
  fun c member => (ne_of_digitValue_isSome (solid.2 c member)).1

theorem Solid.dot_not_mem {field : List Char} (solid : Solid field) : '.' ∉ field :=
  fun dot => (ne_of_digitValue_isSome (solid.2 '.' dot)).2.1 rfl

/-- Joined fields start with a digit. -/
theorem exists_intercalate_eq_cons {field : List Char} (solid : Solid field)
    (rest : List (List Char)) : ∃ c tail, c ≠ ':' ∧ [':'].intercalate (field :: rest) = c :: tail := by
  obtain ⟨c, others, rfl⟩ := List.exists_cons_of_ne_nil solid.1
  have notColon := solid.ne_colon c List.mem_cons_self
  cases rest with
  | nil => exact ⟨c, others, notColon, List.intercalate_singleton⟩
  | cons next more =>
      exact ⟨c, others ++ ':' :: [':'].intercalate (next :: more), notColon,
        by simp [List.intercalate_cons_cons]⟩

theorem splitDoubleColon_append {front : List Char} (noColon : ∀ c ∈ front, c ≠ ':')
    (rest : List Char) :
    groupVectorOf?.splitDoubleColon (front ++ rest) =
      (groupVectorOf?.splitDoubleColon rest).map fun (before, after) => (front ++ before, after) := by
  induction front with
  | nil => simp
  | cons c front induction =>
      have notColon := noColon c List.mem_cons_self
      rw [List.cons_append, groupVectorOf?.splitDoubleColon.eq_def]
      simp [notColon, induction fun d member => noColon d (List.mem_cons_of_mem c member),
        Option.map_map, Function.comp_def]

theorem splitDoubleColon_colon_cons {c : Char} (notColon : c ≠ ':') (rest : List Char) :
    groupVectorOf?.splitDoubleColon (':' :: c :: rest) =
      (groupVectorOf?.splitDoubleColon (c :: rest)).map
        fun (before, after) => (':' :: before, after) := by
  rw [groupVectorOf?.splitDoubleColon.eq_def]
  simp [notColon]

/-- Fields joined by single colons hold no double colon. -/
theorem splitDoubleColon_intercalate : ∀ {fields : List (List Char)},
    (∀ field ∈ fields, Solid field) →
      groupVectorOf?.splitDoubleColon ([':'].intercalate fields) = none
  | [], _ => rfl
  | [field], solid => by
      rw [List.intercalate_singleton, ← List.append_nil field,
        splitDoubleColon_append (solid field List.mem_cons_self).ne_colon]
      rfl
  | field :: next :: rest, solid => by
      obtain ⟨c, tail, notColon, joined⟩ :=
        exists_intercalate_eq_cons (solid next (by simp)) rest
      rw [List.intercalate_cons_cons, List.append_assoc, List.singleton_append,
        splitDoubleColon_append (solid field List.mem_cons_self).ne_colon, joined,
        splitDoubleColon_colon_cons notColon, ← joined,
        splitDoubleColon_intercalate fun other member => solid other (List.mem_cons_of_mem _ member)]
      rfl

/-- The first double colon after fields joined by single colons is the one after them. -/
theorem splitDoubleColon_intercalate_append : ∀ {fields : List (List Char)},
    (∀ field ∈ fields, Solid field) → ∀ back : List Char,
      groupVectorOf?.splitDoubleColon ([':'].intercalate fields ++ ':' :: ':' :: back) =
        some ([':'].intercalate fields, back)
  | [], _, back => rfl
  | [field], solid, back => by
      rw [List.intercalate_singleton,
        splitDoubleColon_append (solid field List.mem_cons_self).ne_colon]
      simp [groupVectorOf?.splitDoubleColon]
  | field :: next :: rest, solid, back => by
      obtain ⟨c, tail, notColon, joined⟩ :=
        exists_intercalate_eq_cons (solid next (by simp)) rest
      have later := splitDoubleColon_intercalate_append
        (fun other member => solid other (List.mem_cons_of_mem _ member)) back
      rw [List.intercalate_cons_cons, List.append_assoc, List.append_assoc, List.singleton_append,
        splitDoubleColon_append (solid field List.mem_cons_self).ne_colon, joined,
        List.cons_append, splitDoubleColon_colon_cons notColon, ← List.cons_append, ← joined, later]
      simp

theorem containsDoubleColon_eq_isSome (chars : List Char) :
    groupVectorOf?.containsDoubleColon chars = (groupVectorOf?.splitDoubleColon chars).isSome := by
  fun_induction groupVectorOf?.splitDoubleColon chars <;>
    simp_all [groupVectorOf?.containsDoubleColon]

theorem fieldsOf_intercalate {fields : List (List Char)} (solid : ∀ field ∈ fields, Solid field) :
    fieldsOf ([':'].intercalate fields) = fields := by
  cases fields with
  | nil => rfl
  | cons field rest =>
      obtain ⟨c, tail, -, joined⟩ := exists_intercalate_eq_cons (solid field List.mem_cons_self) rest
      have noColon : ∀ other ∈ field :: rest, ':' ∉ other :=
        fun other member colon => (solid other member).ne_colon ':' colon rfl
      rw [fieldsOf, joined, if_neg (by simp), ← joined,
        List.splitOn_intercalate ':' noColon (List.cons_ne_nil _ _)]

/-- Fields joined by colons hold digits and colons only. -/
theorem intercalate_chars {fields : List (List Char)} (solid : ∀ field ∈ fields, Solid field) :
    ∀ c ∈ [':'].intercalate fields, (Numeral.digitValue c).isSome ∨ c = ':' :=
  Text.forall_mem_intercalate (by simp) fun field member c inField =>
    .inl ((solid field member).2 c inField)

theorem dot_not_mem_intercalate {fields : List (List Char)}
    (solid : ∀ field ∈ fields, Solid field) : '.' ∉ [':'].intercalate fields := by
  intro dot
  rcases intercalate_chars solid '.' dot with digit | colon
  · exact (ne_of_digitValue_isSome digit).2.1 rfl
  · exact absurd colon (by decide)

/-! ## IPv6 -/

theorem solid_map_groupDigits (groups : List UInt16) :
    ∀ field ∈ groups.map groupDigits, Solid field := by
  intro field member
  obtain ⟨group, -, rfl⟩ := List.mem_map.mp member
  exact solid_groupDigits group

theorem groupsOf?_map_groupDigits : ∀ groups : List UInt16,
    groupsOf? (groups.map groupDigits) = some groups
  | [] => rfl
  | [group] => by
      simp [groupsOf?, (solid_groupDigits group).dot_not_mem, groupValue?_groupDigits]
  | group :: next :: rest => by
      have later := groupsOf?_map_groupDigits (next :: rest)
      rw [List.map_cons] at later
      simp [groupsOf?, groupValue?_groupDigits, later]

/-- Reading eight groups with no double colon among them. -/
theorem groupVectorOf?_of_splitDoubleColon_eq_none {chars : List Char} {groups : Vector UInt16 8}
    (noGap : groupVectorOf?.splitDoubleColon chars = none)
    (read : groupsOf? (chars.splitOn ':') = some groups.toList) :
    groupVectorOf? chars = some groups := by
  simp [groupVectorOf?, noGap, read]
  rfl

/-- Reading the groups on either side of a double colon, with zeros filled in between. -/
theorem groupVectorOf?_of_splitDoubleColon_eq_some {chars front back : List Char}
    {head tail : List UInt16} {groups : Vector UInt16 8}
    (gap : groupVectorOf?.splitDoubleColon chars = some (front, back))
    (single : groupVectorOf?.containsDoubleColon back = false) (noDot : '.' ∉ front)
    (readHead : groupsOf? (fieldsOf front) = some head)
    (readTail : groupsOf? (fieldsOf back) = some tail) (short : head.length + tail.length < 8)
    (filled : head ++ List.replicate (8 - head.length - tail.length) 0 ++ tail = groups.toList) :
    groupVectorOf? chars = some groups := by
  simp only [groupVectorOf?, gap, single, readHead, readTail]
  simp [noDot, short]
  refine ⟨by omega, ?_⟩
  rw [← List.append_assoc, filled, Vector.toArray_toList]

theorem toList_groupsText_of_zeroRun_eq_none {groups : List UInt16} (noRun : zeroRun groups = none) :
    (groupsText groups).toList = [':'].intercalate (groups.map groupDigits) := by
  simp [groupsText, noRun, String.toList_intercalate, Function.comp_def]
  rfl

theorem toList_groupsText_of_zeroRun_eq_some {groups : List UInt16} {start stop : Nat}
    (run : zeroRun groups = some (start, stop)) :
    (groupsText groups).toList = [':'].intercalate ((groups.take start).map groupDigits) ++
      ':' :: ':' :: [':'].intercalate ((groups.drop stop).map groupDigits) := by
  simp [groupsText, run, String.toList_intercalate, Function.comp_def]
  rfl

theorem groupVectorOf?_groupsText (groups : Vector UInt16 8) :
    groupVectorOf? (groupsText groups.toList).toList = some groups := by
  have solid := solid_map_groupDigits
  cases run : zeroRun groups.toList with
  | none =>
      have noColon : ∀ field ∈ groups.toList.map groupDigits, ':' ∉ field :=
        fun field member colon => (solid _ field member).ne_colon ':' colon rfl
      rw [toList_groupsText_of_zeroRun_eq_none run]
      apply groupVectorOf?_of_splitDoubleColon_eq_none (splitDoubleColon_intercalate (solid _))
      rw [List.splitOn_intercalate ':' noColon (by simp), groupsOf?_map_groupDigits]
  | some bounds =>
      obtain ⟨start, stop⟩ := bounds
      -- The zeros the writer cut out are exactly the ones the reader fills in.
      obtain ⟨long, inside, whole⟩ := zeroRun_spec run
      have eight : groups.toList.length = 8 := by simp
      rw [toList_groupsText_of_zeroRun_eq_some run]
      apply groupVectorOf?_of_splitDoubleColon_eq_some
        (splitDoubleColon_intercalate_append (solid _) _)
        (by rw [containsDoubleColon_eq_isSome, splitDoubleColon_intercalate (solid _)]; rfl)
        (dot_not_mem_intercalate (solid _))
        (by rw [fieldsOf_intercalate (solid _), groupsOf?_map_groupDigits])
        (by rw [fieldsOf_intercalate (solid _), groupsOf?_map_groupDigits])
      · simp only [List.length_take, List.length_drop]
        omega
      · have gapLength : 8 - (groups.toList.take start).length - (groups.toList.drop stop).length =
            stop - start := by
          simp only [List.length_take, List.length_drop]
          omega
        rw [gapLength]
        exact whole.symm

/-- The text of groups holds digits and colons only. -/
theorem groupsText_chars (groups : List UInt16) :
    ∀ c ∈ (groupsText groups).toList, (Numeral.digitValue c).isSome ∨ c = ':' := by
  intro c member
  cases run : zeroRun groups with
  | none =>
      rw [toList_groupsText_of_zeroRun_eq_none run] at member
      exact intercalate_chars (solid_map_groupDigits groups) c member
  | some bounds =>
      rw [toList_groupsText_of_zeroRun_eq_some run] at member
      simp only [List.mem_append, List.mem_cons] at member
      rcases member with front | colon | colon | back
      · exact intercalate_chars (solid_map_groupDigits _) c front
      · exact .inr colon
      · exact .inr colon
      · exact intercalate_chars (solid_map_groupDigits _) c back

theorem colon_mem_groupsText (groups : Vector UInt16 8) :
    ':' ∈ (groupsText groups.toList).toList := by
  cases run : zeroRun groups.toList with
  | none =>
      rw [toList_groupsText_of_zeroRun_eq_none run]
      have long : 2 ≤ (groups.toList.map groupDigits).length := by simp
      rcases fields : groups.toList.map groupDigits with _ | ⟨first, _ | ⟨second, rest⟩⟩
      · simp [fields] at long
      · simp [fields] at long
      · simp [List.intercalate_cons_cons]
  | some bounds => simp [toList_groupsText_of_zeroRun_eq_some run]

/-- Eight groups written with their first longest run of zeros cut out read back as
themselves. -/
theorem parse?_groupsText (groups : Vector UInt16 8) :
    parse? (groupsText groups.toList) = some (.v6 groups "") := by
  have only := groupsText_chars groups.toList
  have noZone : (groupsText groups.toList).toList.span (· != '%') =
      ((groupsText groups.toList).toList, []) := by
    rw [List.span_eq_takeWhile_dropWhile, List.takeWhile_eq_self_iff.mpr,
      List.dropWhile_eq_nil_iff.mpr] <;>
    · intro c member
      rcases only c member with digit | colon
      · simpa using (ne_of_digitValue_isSome digit).2.2.1
      · simp [colon]
  rw [parse?, find?_eq_separator only (colon_mem_groupsText groups) (.inr rfl)]
  simp only
  rw [v6Of?, noZone]
  simp [groupVectorOf?_groupsText]

end PeerBook.IpAddr
