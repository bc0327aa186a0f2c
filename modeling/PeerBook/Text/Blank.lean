/-!
# Blank characters

The characters with the Unicode property White_Space, and the trimming of them from both ends
of a text. Besides the ASCII tab, line feed, vertical tab, form feed, carriage return and space,
they are the next-line control, the no-break spaces, the Ogham space mark, the typographic
spaces from en quad to hair space, the line and paragraph separators and the ideographic space.
The zero-width space and the byte-order mark are not blank.
-/

namespace PeerBook.Text

/-- A character is blank when Unicode gives it the White_Space property. -/
def isBlank (c : Char) : Bool :=
  match c.toNat with
  | 0x09 | 0x0A | 0x0B | 0x0C | 0x0D | 0x20 | 0x85 | 0xA0 | 0x1680 => true
  | 0x2028 | 0x2029 | 0x202F | 0x205F | 0x3000 => true
  | code => 0x2000 ≤ code && code ≤ 0x200A

/-- Drops the blank characters at both ends of a list of characters. -/
def trimBlankList (chars : List Char) : List Char :=
  ((chars.dropWhile isBlank).reverse.dropWhile isBlank).reverse

/-- Drops the blank characters at both ends of a text. -/
def trimBlank (text : String) : String :=
  String.ofList (trimBlankList text.toList)

theorem isBlank_space : isBlank ' ' = true := rfl

/-- Every character that core counts as whitespace is blank here too. -/
theorem isBlank_of_isWhitespace {c : Char} (h : c.isWhitespace = true) : isBlank c = true := by
  simp only [Char.isWhitespace] at h
  rcases Bool.or_eq_true_iff.mp h with h | h
  · rcases Bool.or_eq_true_iff.mp h with h | h
    · rcases Bool.or_eq_true_iff.mp h with h | h
      all_goals simp_all [isBlank]
    · simp_all [isBlank]
  · simp_all [isBlank]

end PeerBook.Text
