import Mathlib.Data.List.DropRight
import Mathlib.Data.Nat.Digits.Defs

/-!
# Texts

Texts are lists of characters, with the operations of the Rust standard library
that the server's text handling is written in. White space is the Unicode
`White_Space` property, as `str::trim` uses it; case conversion of arbitrary
characters is left to the platform, and only the ASCII variants are defined here.
-/

namespace Sip3.Text

/-- A text as its sequence of Unicode scalar values. -/
abbrev Str := List Char

instance : LawfulBEq Str := inferInstance

/-- The Unicode `White_Space` property. -/
def isWhitespace (char : Char) : Bool :=
  let code := char.toNat
  (0x09 ≤ code && code ≤ 0x0D) || code == 0x20 || code == 0x85 || code == 0xA0 ||
    code == 0x1680 || (0x2000 ≤ code && code ≤ 0x200A) || code == 0x2028 || code == 0x2029 ||
    code == 0x202F || code == 0x205F || code == 0x3000

namespace Str

/-- `str::trim_start`. -/
def trimStart (text : Str) : Str :=
  text.dropWhile isWhitespace

/-- `str::trim_end`. -/
def trimEnd (text : Str) : Str :=
  text.rdropWhile isWhitespace

/-- `str::trim`. -/
def trim (text : Str) : Str :=
  trimEnd (trimStart text)

/-- `str::starts_with` on a text. -/
def startsWith (text pattern : Str) : Bool :=
  pattern.isPrefixOf text

/-- `str::ends_with` on a text. -/
def endsWith (text pattern : Str) : Bool :=
  pattern.isSuffixOf text

/-- `str::contains` on a text. -/
def containsStr (text pattern : Str) : Bool :=
  text.tails.any fun tail => pattern.isPrefixOf tail

/-- `str::strip_prefix`. -/
def stripLead (text pattern : Str) : Option Str :=
  if startsWith text pattern then some (text.drop pattern.length) else none

/-- `str::trim_start_matches` on a text: every leading copy of the pattern goes.
The recursion is bounded by the length of the text, since a nonempty pattern
shortens it; Rust returns the text itself for an empty pattern. -/
def trimStartMatches (text pattern : Str) : Str :=
  go text.length text
where
  go : Nat → Str → Str
    | 0, rest => rest
    | fuel + 1, rest =>
      if pattern = [] then rest
      else if startsWith rest pattern then go fuel (rest.drop pattern.length) else rest

/-- `str::trim_matches` of a character. -/
def trimMatches (char : Char) (text : Str) : Str :=
  ((text.dropWhile (· = char)).reverse.dropWhile (· = char)).reverse

/-- `str::split_once` on a character. -/
def splitOnce (separator : Char) (text : Str) : Option (Str × Str) :=
  match text.dropWhile (· ≠ separator) with
  | [] => none
  | _ :: rest => some (text.takeWhile (· ≠ separator), rest)

theorem splitOnce_append {separator : Char} {left : Str} (absent : separator ∉ left) (right : Str) :
    splitOnce separator (left ++ separator :: right) = some (left, right) := by
  have before : ∀ char ∈ left, decide (char ≠ separator) = true :=
    fun char member => decide_eq_true fun same => absent (same ▸ member)
  rw [splitOnce, List.dropWhile_append_of_pos before, List.takeWhile_append_of_pos before]
  simp

theorem splitOnce_eq_none {separator : Char} {text : Str} (absent : separator ∉ text) :
    splitOnce separator text = none := by
  have all : ∀ char ∈ text, decide (char ≠ separator) = true :=
    fun char member => decide_eq_true fun same => absent (same ▸ member)
  rw [splitOnce, List.dropWhile_eq_nil_iff.mpr all]

/-- `str::splitn` on a character. -/
def splitn : Nat → Char → Str → List Str
  | 0, _, _ => []
  | 1, _, text => [text]
  | count + 2, separator, text =>
    match splitOnce separator text with
    | none => [text]
    | some (first, rest) => first :: splitn (count + 1) separator rest

/-- `str::split` on a character. -/
def split (separator : Char) (text : Str) : List Str :=
  text.splitOn separator

/-- `str::split_whitespace`: the maximal runs without white space. -/
def splitWhitespace (text : Str) : List Str :=
  (text.splitOnP isWhitespace).filter (· ≠ [])

/-- Remove one final carriage return. -/
def stripCarriageReturn (line : Str) : Str :=
  if line.getLast? = some '\r' then line.dropLast else line

/-- `str::lines`: a line ends at a line feed, optionally preceded by a carriage
return; an unterminated last line is kept as it is, unless it is empty. -/
def lines (text : Str) : List Str :=
  let pieces := text.splitOn '\n'
  pieces.dropLast.map stripCarriageReturn ++ (pieces.getLast?.toList.filter (· ≠ []))

/-- `str::split("\r\n")`, with the current piece kept in reverse. -/
def splitCrLf (text : Str) : List Str :=
  go [] text
where
  go : Str → Str → List Str
    | current, '\r' :: '\n' :: rest => current.reverse :: go [] rest
    | current, char :: rest => go (char :: current) rest
    | current, [] => [current.reverse]

/-- Join texts with a separator. -/
def join (separator : Str) (texts : List Str) : Str :=
  List.intercalate separator texts

/-- `str::to_ascii_lowercase`. -/
def toAsciiLowercase (text : Str) : Str :=
  text.map Char.toLower

/-- `str::eq_ignore_ascii_case`. -/
def eqIgnoreAsciiCase (left right : Str) : Bool :=
  toAsciiLowercase left = toAsciiLowercase right

/-- The value of a nonempty run of ASCII digits. -/
def digits? (text : Str) : Option Nat :=
  if text ≠ [] ∧ text.all Char.isDigit then
    some (text.foldl (fun value digit => value * 10 + (digit.toNat - '0'.toNat)) 0)
  else none

/-- `str::parse` to an unsigned integer below `bound`: an optional plus sign and
at least one digit. -/
def parseUnsigned (bound : Nat) (text : Str) : Option Nat :=
  let body := match text with
    | '+' :: rest => rest
    | other => other
  match digits? body with
  | some value => if value < bound then some value else none
  | none => none

/-- Decimal rendering of a natural number. -/
def ofNat (value : Nat) : Str :=
  Nat.toDigits 10 value

/-- Decimal rendering of an integer. -/
def ofInt : Int → Str
  | .ofNat value => ofNat value
  | .negSucc value => '-' :: ofNat (value + 1)

/-- The lower-case hexadecimal digits. -/
def hexDigits : List Char :=
  ['0', '1', '2', '3', '4', '5', '6', '7', '8', '9', 'a', 'b', 'c', 'd', 'e', 'f']

/-- Lower-case hexadecimal rendering, padded with zeros to a width. -/
def ofHex (width value : Nat) : Str :=
  let digits := Nat.toDigits 16 value
  List.replicate (width - digits.length) '0' ++ digits

/-- Bytes in hexadecimal, two digits each. -/
def ofBytes (bytes : List UInt8) : Str :=
  bytes.flatMap fun byte => ofHex 2 byte.toNat

end Str

end Sip3.Text
