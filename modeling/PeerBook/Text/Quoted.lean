import PeerBook.Text.Printable

/-!
# Quoted text

Two ways of writing a text between double quotes, as error messages show their inputs.

* `quote` keeps every printable character and escapes the rest: the quote and the backslash by
  a backslash (`quoteChar` writes one character between single quotes the same way), the seven C control escapes by their letters, other ASCII controls and delete as
  `\xNN`, and any other unprintable character as `\uNNNN` or `\UNNNNNNNN`. Hex digits are lower
  case.
* `quoteAscii` keeps printable ASCII only: every byte of the UTF-8 form of any other character is
  written as `\xNN`, while the quote and the backslash get a backslash.
-/

namespace PeerBook.Text

/-- The lower-case hexadecimal digit of a number below sixteen. -/
def hexDigit (value : Nat) : Char :=
  if value < 10 then Char.ofNat (value + 48) else Char.ofNat (value + 87)

/-- The last `width` hexadecimal digits of a number, most significant first. -/
def hexDigits (width value : Nat) : String :=
  String.ofList ((List.range width).reverse.map fun position => hexDigit (value / Nat.pow 16 position % 16))

/-- The escape that a quotation between `delimiter`s writes for one character. -/
def escapeCharWithin (delimiter c : Char) : String :=
  if c = delimiter then "\\" ++ c.toString
  else if c = '\\' then "\\\\"
  else if isPrintable c then c.toString
  else match c with
    | '\x07' => "\\a"
    | '\x08' => "\\b"
    | '\x0c' => "\\f"
    | '\n' => "\\n"
    | '\r' => "\\r"
    | '\t' => "\\t"
    | '\x0b' => "\\v"
    | _ =>
      if c.toNat < 0x20 || c.toNat == 0x7F then "\\x" ++ hexDigits 2 c.toNat
      else if c.toNat < 0x10000 then "\\u" ++ hexDigits 4 c.toNat
      else "\\U" ++ hexDigits 8 c.toNat

/-- The escape that `quote` writes for one character. -/
def escapeChar (c : Char) : String := escapeCharWithin '"' c

/-- A text between double quotes, with its unprintable characters escaped. -/
def quote (text : String) : String :=
  "\"" ++ String.join (text.toList.map escapeChar) ++ "\""

/-- A character between single quotes, escaped as `quote` escapes it. -/
def quoteChar (c : Char) : String := "'" ++ escapeCharWithin '\'' c ++ "'"

/-- The escape that `quoteAscii` writes for one character. -/
def escapeAsciiChar (c : Char) : String :=
  if c.toNat < 0x20 || 0x80 ≤ c.toNat then
    String.join ((String.singleton c).toUTF8.toList.map fun byte => "\\x" ++ hexDigits 2 byte.toNat)
  else if c = '"' then "\\\""
  else if c = '\\' then "\\\\"
  else c.toString

/-- A text between double quotes in which every non-ASCII or control character is written
byte by byte. -/
def quoteAscii (text : String) : String :=
  "\"" ++ String.join (text.toList.map escapeAsciiChar) ++ "\""

end PeerBook.Text
