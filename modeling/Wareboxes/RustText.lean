import Mathlib

/-!
# Text operations of the Rust standard library and of the databases

Lengths are UTF-8 byte counts, as `str::len` has them. Trimming removes the
Unicode `White_Space` characters at both ends, and truncation to a byte count
panics when the cut does not fall on a character boundary. SQLite counts
characters up to the first NUL, and both databases trim spaces only.
-/

namespace Wareboxes.RustText

/-- The characters with the Unicode `White_Space` property (`char::is_whitespace`). -/
def isWhitespace (c : Char) : Bool :=
  (9 ≤ c.toNat && c.toNat ≤ 13) || c.toNat == 32 || c.toNat == 133 || c.toNat == 160 ||
    c.toNat == 5760 || (8192 ≤ c.toNat && c.toNat ≤ 8202) || c.toNat == 8232 ||
    c.toNat == 8233 || c.toNat == 8239 || c.toNat == 8287 || c.toNat == 12288

/-- Drop matching characters at both ends of a character list. -/
def trimChars (drops : Char → Bool) (chars : List Char) : List Char :=
  ((chars.dropWhile drops).reverse.dropWhile drops).reverse

/-- `str::trim`. -/
@[irreducible]
def trim (text : String) : String :=
  String.ofList (trimChars isWhitespace text.toList)

/-- `str::len`: the number of UTF-8 bytes. -/
def len (text : String) : ℕ := text.utf8ByteSize

/-- `str::is_empty`. -/
def isEmpty (text : String) : Bool := text.toList.isEmpty

/-- `char::is_control`: the characters of the Unicode category `Cc`. -/
def isControl (c : Char) : Bool :=
  c.toNat < 32 || (127 ≤ c.toNat && c.toNat < 160)

/-- `str::chars` followed by `count`. -/
def charCount (text : String) : ℕ := text.toList.length

/-- The characters of the first `bytes` bytes, when that cut is a character boundary. -/
def takeBytes : ℕ → List Char → Option (List Char)
  | 0, _ => some []
  | _ + 1, [] => some []
  | bytes + 1, c :: rest =>
    if c.utf8Size ≤ bytes + 1 then
      (takeBytes (bytes + 1 - c.utf8Size) rest).map (c :: ·)
    else none

/-- `String::truncate`: nothing happens when the text is short enough, and the
call panics (`none`) when the cut is inside a character. -/
def truncate (bytes : ℕ) (text : String) : Option String :=
  (takeBytes bytes text.toList).map String.ofList

/-- `char::to_ascii_lowercase`. -/
def toAsciiLowercase (c : Char) : Char :=
  if 65 ≤ c.toNat ∧ c.toNat ≤ 90 then Char.ofNat (c.toNat + 32) else c

/-- `str::eq_ignore_ascii_case`. -/
def eqIgnoreAsciiCase (left right : String) : Bool :=
  left.toList.map toAsciiLowercase == right.toList.map toAsciiLowercase

/-- The value of a decimal digit. -/
def digitValue (c : Char) : Option ℕ :=
  if 48 ≤ c.toNat ∧ c.toNat ≤ 57 then some (c.toNat - 48) else none

/-- The number that a sequence of decimal digits stands for, after the digits before it. -/
def digitsValue : ℕ → List Char → Option ℕ
  | value, [] => some value
  | value, c :: rest => (digitValue c).bind fun digit => digitsValue (10 * value + digit) rest

/-- The number of a nonempty sequence of decimal digits. -/
def parseDigits (digits : List Char) : Option ℕ :=
  if digits.isEmpty then none else digitsValue 0 digits

/-- `str::parse::<i64>`: a sign may stand first, and the number has to fit. -/
def parseI64 (text : String) : Option ℤ :=
  let number : Option ℤ :=
    match text.toList with
    | '+' :: digits => (parseDigits digits).map fun value => (value : ℤ)
    | '-' :: digits => (parseDigits digits).map fun value => -(value : ℤ)
    | digits => (parseDigits digits).map fun value => (value : ℤ)
  number.filter fun value => decide (-2 ^ 63 ≤ value ∧ value < 2 ^ 63)

/-- `char::to_ascii_uppercase`. -/
def toAsciiUppercase (c : Char) : Char :=
  if 97 ≤ c.toNat ∧ c.toNat ≤ 122 then Char.ofNat (c.toNat - 32) else c

/-- The number of the first decimal digits, as many as asked for, and what follows them. -/
def takeNumber (count : ℕ) (chars : List Char) : Option (ℕ × List Char) :=
  if (chars.take count).length = count then
    (digitsValue 0 (chars.take count)).map fun value => (value, chars.drop count)
  else none

/-- What follows the first character, when it is one of these. -/
def expectChar (allowed : List Char) : List Char → Option (List Char)
  | [] => none
  | c :: rest => if allowed.contains c then some rest else none

/-- How many days the month has, and none when there is no such month. -/
def daysInMonth (year : ℕ) : ℕ → ℕ
  | 2 => if year % 4 = 0 ∧ (year % 100 ≠ 0 ∨ year % 400 = 0) then 29 else 28
  | 4 | 6 | 9 | 11 => 30
  | 1 | 3 | 5 | 7 | 8 | 10 | 12 => 31
  | _ => 0

/-- What follows the fraction of a second, when there is one. -/
def skipFraction : List Char → Option (List Char)
  | '.' :: rest =>
    if (rest.head?.bind digitValue).isSome then
      some (rest.dropWhile fun c => (digitValue c).isSome)
    else none
  | rest => some rest

/-- What follows the offset of a time zone. -/
def skipOffset : List Char → Option (List Char)
  | 'Z' :: rest | 'z' :: rest => some rest
  | chars => do
    let rest ← expectChar ['+', '-', '−'] chars
    let (hours, rest) ← takeNumber 2 rest
    let rest ← expectChar [':'] rest
    let (minutes, rest) ← takeNumber 2 rest
    if hours ≤ 23 ∧ minutes ≤ 59 then some rest else none

/-- `DateTime::parse_from_rfc3339` takes the text. -/
def isRfc3339 (text : String) : Bool :=
  let rest : Option (List Char) := do
    let (year, rest) ← takeNumber 4 text.toList
    let (month, rest) ← takeNumber 2 (← expectChar ['-'] rest)
    let (day, rest) ← takeNumber 2 (← expectChar ['-'] rest)
    let (hour, rest) ← takeNumber 2 (← expectChar ['t', 'T', ' '] rest)
    let (minute, rest) ← takeNumber 2 (← expectChar [':'] rest)
    let (second, rest) ← takeNumber 2 (← expectChar [':'] rest)
    let rest ← skipOffset (← skipFraction rest)
    if 1 ≤ day ∧ day ≤ daysInMonth year month ∧ hour ≤ 23 ∧ minute ≤ 59 ∧ second ≤ 60 then
      some rest
    else none
  rest == some []

/-- The `length` function of SQLite: characters before the first NUL. -/
def sqliteLength (text : String) : ℕ :=
  (text.toList.takeWhile fun c => c.toNat != 0).length

/-- The one-argument `trim` function of SQLite, which removes spaces. -/
def sqliteTrim (text : String) : String :=
  String.ofList (trimChars (· == ' ') text.toList)

/-- The one-argument `btrim` function of PostgreSQL, which removes spaces. -/
def btrim (text : String) : String :=
  String.ofList (trimChars (· == ' ') text.toList)

end Wareboxes.RustText
