import Mathlib
import PeerBook.Settings.File

/-!
# Reading a settings file

A settings file is read line by line. A line is trimmed of blanks; a blank line and a line
whose trimmed form starts with `#` are passed over (`skips`). Any other line is cut at its first
`=`, the two sides are trimmed, and a value between a matching pair of quotes loses them.

Main statement (`read_keeps_last_value_and_refuses_first_malformed_line`): a file whose kept
lines are `key = "value"` lines reads as the map that sends each key to the value of its last
line, whatever keys and values it holds; and a file with a kept line that has no `=` is refused,
naming the first such line, counted from 1.
-/

namespace PeerBook

namespace Text

@[simp] theorem isBlank_equals : isBlank '=' = false := rfl

@[simp] theorem isBlank_doubleQuote : isBlank '"' = false := rfl

theorem mem_dropWhile_of_not {p : Char → Bool} {c : Char} (kept : p c = false) :
    ∀ {chars : List Char}, c ∈ chars.dropWhile p ↔ c ∈ chars
  | [] => Iff.rfl
  | first :: rest => by
    by_cases dropped : p first = true
    · have other : c ≠ first := fun same => by rw [same, dropped] at kept; cases kept
      simp [dropped, mem_dropWhile_of_not kept, other]
    · simp [dropped]

theorem mem_trimBlankList {c : Char} (solid : isBlank c = false) {chars : List Char} :
    c ∈ trimBlankList chars ↔ c ∈ chars := by
  simp [trimBlankList, mem_dropWhile_of_not solid]

theorem trimBlankList_append_blank {chars : List Char} {blank : Char} (blanked : isBlank blank) :
    trimBlankList (chars ++ [blank]) = trimBlankList chars := by
  unfold trimBlankList
  rw [List.dropWhile_append]
  split
  · next allBlank =>
    rw [List.isEmpty_iff] at allBlank
    simp [allBlank, blanked]
  · simp [blanked]

theorem trimBlankList_cons_blank {chars : List Char} {blank : Char} (blanked : isBlank blank) :
    trimBlankList (blank :: chars) = trimBlankList chars := by
  simp [trimBlankList, blanked]

theorem dropWhile_isBlank_of_head {chars : List Char}
    (solidHead : ∀ c ∈ chars.head?, isBlank c = false) : chars.dropWhile isBlank = chars := by
  cases chars with
  | nil => rfl
  | cons first rest => simp [solidHead first rfl]

theorem trimBlankList_eq_self {chars : List Char}
    (solidHead : ∀ c ∈ chars.head?, isBlank c = false)
    (solidLast : ∀ c ∈ chars.getLast?, isBlank c = false) : trimBlankList chars = chars := by
  have solidReversed : ∀ c ∈ chars.reverse.head?, isBlank c = false := by
    simpa using solidLast
  rw [trimBlankList, dropWhile_isBlank_of_head solidHead,
    dropWhile_isBlank_of_head solidReversed, List.reverse_reverse]

theorem head_solid_of_trimBlankList_eq {chars : List Char} (trimmed : trimBlankList chars = chars) :
    ∀ c ∈ chars.head?, isBlank c = false := by
  cases chars with
  | nil => simp
  | cons first rest =>
    intro c member
    cases (List.mem_singleton.mp (Option.mem_toList.mpr member))
    by_contra blanked
    rw [trimBlankList_cons_blank (by simpa using blanked)] at trimmed
    have shorter : (trimBlankList rest).length ≤ rest.length := by
      simp only [trimBlankList, List.length_reverse]
      exact le_trans (List.length_dropWhile_le _ _)
        (by simpa using List.length_dropWhile_le isBlank rest)
    rw [trimmed] at shorter
    simp at shorter

theorem trimBlankList_dropWhile (chars : List Char) :
    trimBlankList (chars.dropWhile isBlank) = trimBlankList chars := by
  rw [trimBlankList, trimBlankList, List.dropWhile_idempotent]

theorem toList_trimBlank (text : String) : (trimBlank text).toList = trimBlankList text.toList := by
  rw [trimBlank, String.toList_ofList]

end Text

namespace SettingValues

/-- Replacing the values of a key that is there: it gives the new value, and every other key
gives what it gave. -/
theorem lookup_map_replace (key value other : String) :
    ∀ values : SettingValues, (other = key → values.any (·.1 == key) = true) →
      (values.map fun (k, v) => (k, if k == key then value else v)).lookup other =
        if other = key then some value else values.lookup other
  | [], present => by
    by_cases same : other = key
    · simp at present
      exact absurd same present
    · simp [same]
  | (first, firstValue) :: rest, present => by
    simp only [List.map_cons, List.lookup_cons]
    by_cases atFirst : other = first
    · subst atFirst
      by_cases same : other = key <;> simp [same]
    · have inRest : other = key → rest.any (·.1 == key) = true := fun same => by
        have := present same
        simp only [List.any_cons, Bool.or_eq_true, beq_iff_eq] at this
        rcases this with firstKey | found
        · exact absurd (same.trans firstKey.symm) atFirst
        · exact found
      rw [lookup_map_replace key value other rest inRest,
        show (other == first) = false from beq_false_of_ne atFirst]

theorem lookup_insert (values : SettingValues) (key value other : String) :
    (values.insert key value).lookup other =
      if other = key then some value else values.lookup other := by
  unfold SettingValues.insert
  split
  · next present => exact lookup_map_replace key value other values fun _ => present
  · next absent =>
    have missing : values.lookup key = none := by
      rw [List.lookup_eq_none_iff]
      intro entry member
      simp only [List.any_eq_true, beq_iff_eq, not_exists, not_and] at absent
      have notKey := absent entry member
      simp only [bne_iff_ne, ne_eq]
      exact fun same => notKey same.symm
    rw [List.lookup_append]
    by_cases same : other = key
    · simp [same, missing]
    · simp [same]

theorem keys_insert (values : SettingValues) (key value : String) :
    (values.insert key value).map Prod.fst =
      if values.any (·.1 == key) then values.map Prod.fst else values.map Prod.fst ++ [key] := by
  unfold SettingValues.insert
  split <;> simp [List.map_map, Function.comp_def]

/-- Setting keys in turn: each key gives the value of its last entry, if it has one. -/
theorem lookup_foldl_insert (key : String) :
    ∀ (entries : List (String × String)) (values : SettingValues),
      (entries.foldl (fun values entry => values.insert entry.1 entry.2) values).lookup key =
        (entries.reverse.lookup key).or (values.lookup key)
  | [], values => by simp
  | (first, firstValue) :: entries, values => by
    rw [List.foldl_cons, lookup_foldl_insert key entries, lookup_insert, List.reverse_cons,
      List.lookup_append, Option.or_assoc]
    by_cases same : key = first <;> simp [same]

theorem keys_nodup_foldl_insert :
    ∀ (entries : List (String × String)) (values : SettingValues), (values.map Prod.fst).Nodup →
      ((entries.foldl (fun values entry => values.insert entry.1 entry.2) values).map
        Prod.fst).Nodup
  | [], _, distinct => distinct
  | (key, value) :: entries, values, distinct => by
    rw [List.foldl_cons]
    apply keys_nodup_foldl_insert entries
    rw [keys_insert]
    split
    · exact distinct
    · next absent =>
      have fresh : ∀ entry ∈ values, entry.1 ≠ key := fun entry inValues same =>
        absent (List.any_eq_true.mpr ⟨entry, inValues, by simp [same]⟩)
      refine List.nodup_append.mpr ⟨distinct, List.nodup_singleton key, ?_⟩
      intro first member other single
      obtain ⟨entry, inValues, rfl⟩ := List.mem_map.mp member
      rw [List.mem_singleton.mp single]
      exact fresh entry inValues

end SettingValues

namespace SettingsFile

/-! ## Cutting at the first `=` -/

theorem cut_append_cons {before after : List Char} {separator : Char} (free : separator ∉ before) :
    cut (before ++ separator :: after) separator = some (before, after) := by
  have kept : ∀ c ∈ before, (c != separator) = true := fun c member => by
    have : c ≠ separator := fun same => free (same ▸ member)
    simpa using this
  unfold cut
  rw [List.span_eq_takeWhile_dropWhile, List.takeWhile_append_of_pos kept,
    List.dropWhile_append_of_pos kept]
  simp

theorem cut_eq_none {chars : List Char} {separator : Char} (absent : separator ∉ chars) :
    cut chars separator = none := by
  have kept : ∀ c ∈ chars, (c != separator) = true := fun c member => by
    have : c ≠ separator := fun same => absent (same ▸ member)
    simpa using this
  unfold cut
  rw [List.span_eq_takeWhile_dropWhile, List.dropWhile_eq_nil_iff.mpr kept]

theorem cut_isSome {chars : List Char} {separator : Char} (present : separator ∈ chars) :
    (cut chars separator).isSome := by
  unfold cut
  rw [List.span_eq_takeWhile_dropWhile]
  cases rest : chars.dropWhile (· != separator) with
  | nil =>
    have stopped := List.dropWhile_eq_nil_iff.mp rest separator present
    simp at stopped
  | cons _ _ => rfl

/-! ## One line -/

/-- Whether reading passes over a line: it is blank, or its trimmed form starts with `#`. -/
def skips (line : String) : Bool :=
  let trimmed := Text.trimBlankList line.toList
  trimmed.isEmpty || trimmed.head? == some '#'

/-- A final carriage return is blank, so dropping it leaves the trimmed line as it was. -/
theorem trimBlankList_withoutReturn (line : String) :
    Text.trimBlankList
        (if line.toList.getLast? == some '\r' then line.toList.dropLast else line.toList) =
      Text.trimBlankList line.toList := by
  split
  · next ending =>
    have restored : line.toList.dropLast ++ ['\r'] = line.toList :=
      List.dropLast_append_getLast? '\r' (by simpa using ending)
    conv_rhs => rw [← restored]
    rw [Text.trimBlankList_append_blank (by decide)]
  · rfl

/-- How a line reads: passed over, or the trimmed sides of its first `=`, or refused. -/
theorem readLine_eq (number : Nat) (line : String) :
    readLine number line =
      if skips line then .ok none
      else (cut (Text.trimBlankList line.toList) '=').elim (.error (.malformedLine number))
        fun entry => .ok (some (Text.trimBlank (String.ofList entry.1),
          unquote (Text.trimBlank (String.ofList entry.2)))) := by
  unfold readLine skips
  simp only [trimBlankList_withoutReturn]
  split
  · rfl
  · cases cut (Text.trimBlankList line.toList) '=' <;> rfl

theorem readLine_of_skips {number : Nat} {line : String} (skipped : skips line = true) :
    readLine number line = .ok none := by
  rw [readLine_eq, if_pos skipped]

theorem readLine_of_cut {number : Nat} {line : String} {key value : List Char}
    (kept : skips line = false) (cutting : cut (Text.trimBlankList line.toList) '=' = some (key, value)) :
    readLine number line =
      .ok (some (Text.trimBlank (String.ofList key), unquote (Text.trimBlank (String.ofList value)))) := by
  rw [readLine_eq, if_neg (by simp [kept]), cutting]
  rfl

theorem readLine_of_mem {number : Nat} {line : String} (kept : skips line = false)
    (present : '=' ∈ line.toList) : ∃ entry, readLine number line = .ok (some entry) := by
  have cutting := cut_isSome ((Text.mem_trimBlankList (by decide)).mpr present)
  obtain ⟨⟨key, value⟩, cut⟩ := Option.isSome_iff_exists.mp cutting
  exact ⟨_, readLine_of_cut kept cut⟩

theorem readLine_of_not_mem {number : Nat} {line : String} (kept : skips line = false)
    (absent : '=' ∉ line.toList) : readLine number line = .error (.malformedLine number) := by
  have trimmedAbsent : '=' ∉ Text.trimBlankList line.toList :=
    fun member => absent ((Text.mem_trimBlankList (by decide)).mp member)
  rw [readLine_eq, if_neg (by simp [kept]), cut_eq_none trimmedAbsent]
  rfl

/-! ## Setting lines -/

/-- The line that gives `key` the value `value`, between double quotes. -/
def settingLine (key value : String) : String := key ++ " = \"" ++ value ++ "\""

/-- A key a settings file can give: its own trimmed form, without `=`, not starting with `#`. -/
structure IsKey (key : String) : Prop where
  trimmed : Text.trimBlank key = key
  noEquals : '=' ∉ key.toList
  noHash : key.toList.head? ≠ some '#'

theorem toList_settingLine (key value : String) :
    (settingLine key value).toList =
      (key.toList ++ [' ']) ++ '=' :: ' ' :: '"' :: (value.toList ++ ['"']) := by
  simp [settingLine]

/-- What is left of a setting line's key side once its leading blanks are gone. -/
def keySide (key : String) : List Char := (key.toList ++ [' ']).dropWhile Text.isBlank

theorem trimBlankList_settingLine (key value : String) :
    Text.trimBlankList (settingLine key value).toList =
      keySide key ++ '=' :: ' ' :: '"' :: (value.toList ++ ['"']) := by
  -- The line ends in a quote, so only its leading blanks go, all of them on the key side.
  have leading : (settingLine key value).toList.dropWhile Text.isBlank =
      keySide key ++ '=' :: ' ' :: '"' :: (value.toList ++ ['"']) := by
    rw [toList_settingLine, List.dropWhile_append, keySide]
    split
    · next allBlank =>
      rw [List.isEmpty_iff] at allBlank
      simp [allBlank]
    · rfl
  rw [Text.trimBlankList, leading, Text.dropWhile_isBlank_of_head (by simp),
    List.reverse_reverse]

theorem keySide_trimmed {key : String} (isKey : IsKey key) :
    Text.trimBlank (String.ofList (keySide key)) = key := by
  have trimmedChars : Text.trimBlankList key.toList = key.toList := by
    rw [← Text.toList_trimBlank, isKey.trimmed]
  rw [Text.trimBlank, String.toList_ofList, keySide, Text.trimBlankList_dropWhile,
    Text.trimBlankList_append_blank (by decide), trimmedChars, String.ofList_toList]

theorem equals_not_mem_keySide {key : String} (isKey : IsKey key) : '=' ∉ keySide key := by
  intro member
  have inLine := (List.dropWhile_sublist _).subset member
  simp only [List.mem_append, List.mem_singleton] at inLine
  rcases inLine with inKey | space
  · exact isKey.noEquals inKey
  · cases space

/-- A setting line is not passed over: it starts with its key, or with `=` for the empty key. -/
theorem skips_settingLine {key : String} (isKey : IsKey key) (value : String) :
    skips (settingLine key value) = false := by
  have startsSolid := Text.head_solid_of_trimBlankList_eq (by
    rw [← Text.toList_trimBlank, isKey.trimmed] : Text.trimBlankList key.toList = key.toList)
  rw [skips]
  simp only [trimBlankList_settingLine, keySide]
  cases chars : key.toList with
  | nil => simp [show List.dropWhile Text.isBlank [' '] = [] from rfl]
  | cons first rest =>
    have solid : Text.isBlank first = false := startsSolid first (by simp [chars])
    have notHash : first ≠ '#' := fun same => isKey.noHash (by simp [chars, same])
    simp [solid, notHash]

theorem unquote_quoted (chars : List Char) :
    unquote (String.ofList ('"' :: (chars ++ ['"']))) = String.ofList chars := by
  obtain ⟨next, rest, split⟩ : ∃ next rest, chars ++ ['"'] = next :: rest := by
    cases chars with
    | nil => exact ⟨'"', [], rfl⟩
    | cons first more => exact ⟨first, more ++ ['"'], rfl⟩
  have ending : (next :: rest).getLast? = some '"' := by
    rw [← split, List.getLast?_concat]
  have front : (next :: rest).dropLast = chars := by
    rw [← split, List.dropLast_concat]
  rw [unquote, String.toList_ofList, split]
  simp [ending, front]

/-- A setting line reads as its key and its value, whatever the value holds. -/
theorem readLine_settingLine {key : String} (isKey : IsKey key) (number : Nat) (value : String) :
    readLine number (settingLine key value) = .ok (some (key, value)) := by
  have cutting : cut (Text.trimBlankList (settingLine key value).toList) '=' =
      some (keySide key, ' ' :: '"' :: (value.toList ++ ['"'])) := by
    rw [trimBlankList_settingLine, cut_append_cons (equals_not_mem_keySide isKey)]
  have valueSide : Text.trimBlank (String.ofList (' ' :: '"' :: (value.toList ++ ['"']))) =
      String.ofList ('"' :: (value.toList ++ ['"'])) := by
    rw [Text.trimBlank, String.toList_ofList, Text.trimBlankList_cons_blank (by decide),
      Text.trimBlankList_eq_self (by simp) fun c last => ?_]
    rw [← List.cons_append, List.getLast?_concat] at last
    cases last
    rfl
  rw [readLine_of_cut (skips_settingLine isKey value) cutting, keySide_trimmed isKey, valueSide,
    unquote_quoted, String.ofList_toList]

/-! ## The lines of a file -/

theorem lines_intercalate {file : List String} (unbroken : ∀ line ∈ file, '\n' ∉ line.toList) :
    lines ("\n".intercalate file) = if file.getLastD "" == "" then file.dropLast else file := by
  cases file with
  | nil => rfl
  | cons first rest =>
    have pieces : ("\n".intercalate (first :: rest)).toList.splitOn '\n' =
        (first :: rest).map String.toList := by
      rw [String.toList_intercalate, show "\n".toList = ['\n'] from rfl, List.splitOn_intercalate]
      · intro chars member
        obtain ⟨line, inFile, rfl⟩ := List.mem_map.mp member
        exact unbroken line inFile
      · simp
    have back : ((first :: rest).map String.toList).map String.ofList = first :: rest := by
      simp [List.map_map, Function.comp_def]
    simp only [lines, pieces, back]

/-- One line read into the values so far; lines are counted from 0 here, from 1 in refusals. -/
def readStep (values : SettingValues) (entry : String × Nat) :
    Except SettingsFileError SettingValues := do
  if maxLineBytes < entry.1.utf8ByteSize then throw .lineTooLong
  match ← readLine (entry.2 + 1) entry.1 with
  | some (key, value) => pure (values.insert key value)
  | none => pure values

theorem read_eq (content : String) : read content = (lines content).zipIdx.foldlM readStep [] := rfl

theorem readStep_of_short {values : SettingValues} {line : String} {index : Nat}
    (short : line.utf8ByteSize < 65536) :
    readStep values (line, index) =
      (readLine (index + 1) line).map fun read =>
        read.elim values fun entry => values.insert entry.1 entry.2 := by
  unfold readStep
  rw [if_neg (show ¬maxLineBytes < line.utf8ByteSize by unfold maxLineBytes; omega)]
  cases readLine (index + 1) line with
  | error refusal => rfl
  | ok read => cases read <;> rfl

theorem readStep_of_skips {values : SettingValues} {line : String} {index : Nat}
    (short : line.utf8ByteSize < 65536) (skipped : skips line = true) :
    readStep values (line, index) = .ok values := by
  rw [readStep_of_short short, readLine_of_skips skipped]
  rfl

/-- An empty last line, which the split into lines leaves out, would change nothing. -/
theorem read_intercalate {file : List String} (unbroken : ∀ line ∈ file, '\n' ∉ line.toList) :
    read ("\n".intercalate file) = file.zipIdx.foldlM readStep [] := by
  rw [read_eq, lines_intercalate unbroken]
  split
  · next lastEmpty =>
    rcases List.eq_nil_or_concat file with rfl | ⟨front, last, rfl⟩
    · rfl
    · have empty : last = "" := by simpa using lastEmpty
      subst empty
      rw [List.concat_eq_append, List.dropLast_concat, List.zipIdx_append, List.foldlM_append]
      have passed : ∀ values : SettingValues,
          ([""].zipIdx (0 + front.length)).foldlM readStep values = .ok values := fun values => by
        rw [List.zipIdx_cons, List.zipIdx_nil, List.foldlM_cons,
          readStep_of_skips (by decide) (by decide)]
        rfl
      simp only [passed]
      cases front.zipIdx.foldlM readStep [] <;> rfl
  · rfl

/-! ## A run of lines -/

/-- Lines whose kept ones are setting lines read as those settings, in order. -/
theorem foldlM_readStep_of_layout {pairs : List (String × String)} {file : List String}
    (keys : ∀ entry ∈ pairs, IsKey entry.1) (short : ∀ line ∈ file, line.utf8ByteSize < 65536)
    (layout : file.filter (!skips ·) = pairs.map fun entry => settingLine entry.1 entry.2)
    (values : SettingValues) (start : Nat) :
    (file.zipIdx start).foldlM readStep values =
      .ok (pairs.foldl (fun values entry => values.insert entry.1 entry.2) values) := by
  induction file generalizing pairs values start with
  | nil =>
    have none : pairs = [] := List.map_eq_nil_iff.mp layout.symm
    subst none
    rfl
  | cons line rest induction =>
    have shortRest : ∀ line ∈ rest, line.utf8ByteSize < 65536 :=
      fun other member => short other (List.mem_cons_of_mem line member)
    rw [List.zipIdx_cons, List.foldlM_cons]
    cases skipped : skips line
    · -- A kept line is the next setting line.
      rw [List.filter_cons_of_pos (by simp [skipped])] at layout
      obtain ⟨⟨key, value⟩, others, rfl, rendered, layoutRest⟩ := List.map_eq_cons_iff.mp layout.symm
      subst rendered
      rw [readStep_of_short (short _ List.mem_cons_self),
        readLine_settingLine (keys _ List.mem_cons_self)]
      exact induction (fun entry member => keys entry (List.mem_cons_of_mem _ member)) shortRest
        layoutRest.symm _ _
    · rw [List.filter_cons_of_neg (by simp [skipped])] at layout
      rw [readStep_of_skips (short _ List.mem_cons_self) skipped]
      exact induction keys shortRest layout _ _

/-- Lines that are each passed over or hold an `=` are all read. -/
theorem foldlM_readStep_of_readable {file : List String}
    (short : ∀ line ∈ file, line.utf8ByteSize < 65536)
    (readable : ∀ line ∈ file, skips line = true ∨ '=' ∈ line.toList)
    (values : SettingValues) (start : Nat) :
    ∃ read, (file.zipIdx start).foldlM readStep values = .ok read := by
  induction file generalizing values start with
  | nil => exact ⟨values, rfl⟩
  | cons line rest induction =>
    have shortRest : ∀ line ∈ rest, line.utf8ByteSize < 65536 :=
      fun other member => short other (List.mem_cons_of_mem line member)
    have readableRest : ∀ line ∈ rest, skips line = true ∨ '=' ∈ line.toList :=
      fun other member => readable other (List.mem_cons_of_mem line member)
    obtain ⟨next, stepped⟩ : ∃ next, readStep values (line, start) = .ok next := by
      rw [readStep_of_short (short _ List.mem_cons_self)]
      cases skipped : skips line
      · obtain ⟨entry, reading⟩ := @readLine_of_mem (start + 1) line skipped
          ((readable line List.mem_cons_self).resolve_left (by simp [skipped]))
        exact ⟨_, by rw [reading]; rfl⟩
      · exact ⟨_, by rw [readLine_of_skips skipped]; rfl⟩
    rw [List.zipIdx_cons, List.foldlM_cons, stepped]
    exact induction shortRest readableRest next (start + 1)

/-! ## The whole file -/

/-- A settings file whose kept lines are `key = "value"` lines, among blank lines and comments,
reads as the map sending each key to the value of its last line, whatever the values hold;
a file with a kept line that has no `=` is refused with the number of the first such line,
counted from 1. The lines in question are free of line feeds and shorter than 64 KiB. -/
theorem read_keeps_last_value_and_refuses_first_malformed_line :
    (∀ (pairs : List (String × String)) (file : List String),
      (∀ entry ∈ pairs, IsKey entry.1) →
      (∀ line ∈ file, '\n' ∉ line.toList ∧ line.utf8ByteSize < 65536) →
      file.filter (!skips ·) = pairs.map (fun entry => settingLine entry.1 entry.2) →
      ∃ values, read ("\n".intercalate file) = .ok values ∧ (values.map Prod.fst).Nodup ∧
        ∀ key, values.lookup key = pairs.reverse.lookup key) ∧
    (∀ (before : List String) (line : String) (after : List String),
      (∀ other ∈ before ++ line :: after, '\n' ∉ other.toList) →
      (∀ other ∈ before ++ [line], other.utf8ByteSize < 65536) →
      (∀ other ∈ before, skips other = true ∨ '=' ∈ other.toList) →
      skips line = false → '=' ∉ line.toList →
      read ("\n".intercalate (before ++ line :: after)) =
        .error (.malformedLine (before.length + 1))) := by
  refine ⟨fun pairs file keys lines layout => ?_,
    fun before line after unbroken short readable kept absent => ?_⟩
  · refine ⟨pairs.foldl (fun values entry => values.insert entry.1 entry.2) [], ?_,
      SettingValues.keys_nodup_foldl_insert pairs [] List.nodup_nil, fun key => ?_⟩
    · rw [read_intercalate fun line member => (lines line member).1,
        foldlM_readStep_of_layout keys (fun line member => (lines line member).2) layout]
    · rw [SettingValues.lookup_foldl_insert]
      simp
  · -- The lines before are all read; the line itself is refused.
    obtain ⟨read, reading⟩ := foldlM_readStep_of_readable
      (fun other member => short other (List.mem_append_left _ member)) readable [] 0
    have refused : readStep read (line, 0 + before.length) =
        .error (.malformedLine (before.length + 1)) := by
      rw [readStep_of_short (short line (by simp)), readLine_of_not_mem kept absent, Nat.zero_add]
      rfl
    rw [read_intercalate unbroken, List.zipIdx_append, List.foldlM_append, reading,
      List.zipIdx_cons]
    simp only [bind, Except.bind, List.foldlM_cons, refused]

/-- Two lines for one key among a comment and a blank line: the second wins; and a kept line
with no `=` after a comment and a setting is refused as line 3. -/
theorem read_keeps_last_value_of_repeated_key :
    ((∀ entry ∈ [("a", "1"), ("a", "2")], IsKey entry.1) ∧
      (∀ line ∈ ["# c", "a = \"1\"", "", "a = \"2\""],
        '\n' ∉ line.toList ∧ line.utf8ByteSize < 65536) ∧
      ["# c", "a = \"1\"", "", "a = \"2\""].filter (!skips ·) =
        [("a", "1"), ("a", "2")].map (fun entry => settingLine entry.1 entry.2) ∧
      ∃ values, read ("\n".intercalate ["# c", "a = \"1\"", "", "a = \"2\""]) = .ok values ∧
        (values.map Prod.fst).Nodup ∧
        ∀ key, values.lookup key = [("a", "1"), ("a", "2")].reverse.lookup key) ∧
    ((∀ other ∈ ["# c", "a = 1"] ++ "b" :: ["c = 2"], '\n' ∉ other.toList) ∧
      (∀ other ∈ ["# c", "a = 1"] ++ ["b"], other.utf8ByteSize < 65536) ∧
      (∀ other ∈ ["# c", "a = 1"], skips other = true ∨ '=' ∈ other.toList) ∧
      skips "b" = false ∧ '=' ∉ "b".toList ∧
      read ("\n".intercalate (["# c", "a = 1"] ++ "b" :: ["c = 2"])) =
        .error (.malformedLine (["# c", "a = 1"].length + 1))) := by
  have keys : ∀ entry ∈ [("a", "1"), ("a", "2")], IsKey entry.1 := by
    intro entry member
    simp only [List.mem_cons, List.not_mem_nil, or_false] at member
    rcases member with rfl | rfl <;> exact ⟨by decide, by decide, by decide⟩
  have lines : ∀ line ∈ ["# c", "a = \"1\"", "", "a = \"2\""],
      '\n' ∉ line.toList ∧ line.utf8ByteSize < 65536 := by decide
  have layout : ["# c", "a = \"1\"", "", "a = \"2\""].filter (!skips ·) =
      [("a", "1"), ("a", "2")].map (fun entry => settingLine entry.1 entry.2) := by decide
  have unbroken : ∀ other ∈ ["# c", "a = 1"] ++ "b" :: ["c = 2"], '\n' ∉ other.toList := by decide
  have short : ∀ other ∈ ["# c", "a = 1"] ++ ["b"], other.utf8ByteSize < 65536 := by decide
  have readable : ∀ other ∈ ["# c", "a = 1"], skips other = true ∨ '=' ∈ other.toList := by
    decide
  have kept : skips "b" = false := by decide
  have absent : '=' ∉ "b".toList := by decide
  exact ⟨⟨keys, lines, layout,
      read_keeps_last_value_and_refuses_first_malformed_line.1 _ _ keys lines layout⟩,
    ⟨unbroken, short, readable, kept, absent,
      read_keeps_last_value_and_refuses_first_malformed_line.2 _ _ _ unbroken short readable
        kept absent⟩⟩

end SettingsFile

end PeerBook
