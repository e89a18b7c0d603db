import TypeTokenWrappers.Text.Pieces
import TypeTokenWrappers.Toml.Quotation
import TypeTokenWrappers.Toml.Value

/-! # Scalars written without quotes

Booleans, numbers, dates and times. Each is recognised from its whole text. What
an integer amounts to is settled later than that it is one: behind an underscore
it may hold characters that are no digits, and it is refused only where its
value is asked for. -/

namespace TypeTokenWrappers.Toml

def numberOf (base : Nat) (digits : List Char) : Nat :=
  digits.foldl (fun value digit => value * base + (hexDigit? digit).getD 0) 0

inductive Sign where
  | plus
  | minus
deriving DecidableEq, Repr

def splitSign : List Char → Option Sign × List Char
  | '+' :: rest => (some .plus, rest)
  | '-' :: rest => (some .minus, rest)
  | text => (none, text)

def signedNumber (sign : Option Sign) (digits : List Char) : Int :=
  if sign = some .minus then -(numberOf 10 digits : Int) else numberOf 10 digits

def underscoresDivide (isDigit : Char → Bool) : List Char → Bool
  | first :: second :: rest =>
    (first != '_' || isDigit second) && (second != '_' || isDigit first) &&
      underscoresDivide isDigit (second :: rest)
  | [last] => last != '_'
  | [] => true

/-- The text without its underscores, if each of them stands between two digits.
A sign is not part of the text: an underscore right behind it divides nothing. -/
def withoutUnderscores? (isDigit : Char → Bool) (text : List Char) : Option (List Char) :=
  if text.head? != some '_' && underscoresDivide isDigit text then
    some (text.filter (· != '_'))
  else none

def isHexDigit (char : Char) : Bool :=
  (hexDigit? char).isSome

def hasNeedlessZero (digits text : List Char) : Bool :=
  text.head? == some '0' && digits.length > 1

def integerInBase? (base : Nat) (isDigit : Char → Bool) (text : List Char) : Option Value := do
  guard (text.all fun char => isDigit char || char == '_')
  let digits ← withoutUnderscores? isDigit text
  return .integer (if digits.isEmpty then none else some (numberOf base digits))

/-- A decimal integer behind its sign. Letters that are hexadecimal digits are taken
for digits next to an underscore. -/
def integer? (sign : Option Sign) (text : List Char) : Option Value := do
  let behindDigits := text.dropWhile Char.isDigit
  guard (text != [] && (behindDigits.isEmpty || behindDigits.head? == some '_'))
  guard (!behindDigits.contains ' ')
  let digits ← withoutUnderscores? isHexDigit text
  guard (!hasNeedlessZero digits text)
  let value := signedNumber sign digits
  return .integer (if digits.all Char.isDigit then some value else none)

/-! A decimal overflows if it is at least halfway from the greatest double to
the next power of two. The comparison is exact; far from that bound the number
of digits decides. -/

def overflowBound : Nat := Nat.pow 2 1024 - Nat.pow 2 970

def isFinite (digits : List Char) (exponent : Int) : Bool :=
  let mantissa := numberOf 10 digits
  let magnitude : Int := (Nat.toDigits 10 mantissa).length + exponent
  if mantissa = 0 || magnitude < 300 then true
  else if magnitude > 320 then false
  else if exponent ≥ 0 then mantissa * Nat.pow 10 exponent.toNat < overflowBound
  else mantissa < overflowBound * Nat.pow 10 (-exponent).toNat

def digits? (text : List Char) : Option (List Char) :=
  if text != [] && text.all Char.isDigit then some text else none

def fraction? (text : List Char) : Option (List Char) :=
  match text with
  | '.' :: rest => digits? rest
  | [] => some []
  | _ => none

def exponent? (text : List Char) : Option Int :=
  match text with
  | [] => some 0
  | _ :: rest => do
    let (sign, rest) := splitSign rest
    return signedNumber sign (← digits? rest)

def isExponentMark (char : Char) : Bool :=
  char == 'e' || char == 'E'

def float? (text : List Char) : Option Value := do
  let plain ← withoutUnderscores? Char.isDigit text
  let beforeExponent := plain.takeWhile fun char => !isExponentMark char
  let exponentText := plain.dropWhile fun char => !isExponentMark char
  let whole ← digits? (beforeExponent.takeWhile (· != '.'))
  guard (!hasNeedlessZero whole text)
  let fraction ← fraction? (beforeExponent.dropWhile (· != '.'))
  let exponent ← exponent? exponentText
  return .float (isFinite (whole ++ fraction) (exponent - fraction.length))

/-! Dates and times. -/

def fixedDigits? (count : Nat) (text : List Char) : Option (Nat × List Char) :=
  let digits := text.take count
  if digits.length = count && digits.all Char.isDigit then
    some (numberOf 10 digits, text.drop count)
  else none

def expect? (char : Char) (text : List Char) : Option (List Char) :=
  Pieces.dropBeginning? [char] text

def isLeapYear (year : Nat) : Bool :=
  year % 4 == 0 && (year % 100 != 0 || year % 400 == 0)

def daysInMonth (year month : Nat) : Nat :=
  if month = 2 then if isLeapYear year then 29 else 28
  else if month = 4 ∨ month = 6 ∨ month = 9 ∨ month = 11 then 30
  else 31

/-- What follows a date, if the text begins with one. -/
def date? (text : List Char) : Option (List Char) := do
  let (year, rest) ← fixedDigits? 4 text
  let rest ← expect? '-' rest
  let (month, rest) ← fixedDigits? 2 rest
  let rest ← expect? '-' rest
  let (day, rest) ← fixedDigits? 2 rest
  guard (1 ≤ month && month ≤ 12 && 1 ≤ day && day ≤ daysInMonth year month)
  return rest

def secondFraction? (text : List Char) : Option (List Char) :=
  match text with
  | '.' :: rest =>
    match rest with
    | digit :: _ => if digit.isDigit then some (rest.dropWhile Char.isDigit) else none
    | [] => none
  | _ => some text

def time? (text : List Char) : Option (List Char) := do
  let (hour, rest) ← fixedDigits? 2 text
  let rest ← expect? ':' rest
  let (minute, rest) ← fixedDigits? 2 rest
  guard (hour ≤ 23 && minute ≤ 59)
  match rest with
  | ':' :: rest => do
    let (second, rest) ← fixedDigits? 2 rest
    guard (second ≤ 60)
    secondFraction? rest
  | _ => return rest

def isOffset (text : List Char) : Bool :=
  match text with
  | [] | ['Z'] | ['z'] => true
  | sign :: rest =>
    (sign == '+' || sign == '-') && Option.isSome do
      let (hour, rest) ← fixedDigits? 2 rest
      let rest ← expect? ':' rest
      let (minute, rest) ← fixedDigits? 2 rest
      guard (hour ≤ 23 && minute ≤ 59 && rest.isEmpty)

def isTimeWithOffset (text : List Char) : Bool :=
  (time? text).any isOffset

def isDateTime (text : List Char) : Bool :=
  match date? text with
  | some [] => true
  | some (separator :: rest) =>
    (separator == 'T' || separator == 't' || separator == ' ') && isTimeWithOffset rest
  | none => time? text == some []

/-- A number or a date; what follows the first digits tells which. -/
def numberOrDate? (text : List Char) : Option Value :=
  let (sign, unsigned) := splitSign text
  let behindDigits := unsigned.dropWhile Char.isDigit
  if behindDigits.head?.any fun char => char == '-' || char == ':' then
    if isDateTime text then some .dateTime else none
  else if behindDigits.any fun char => char == '.' || isExponentMark char then
    float? unsigned
  else integer? sign unsigned

def scalar? (text : List Char) : Option Value :=
  match text with
  | ['t', 'r', 'u', 'e'] => some (.boolean true)
  | ['f', 'a', 'l', 's', 'e'] => some (.boolean false)
  | '0' :: 'x' :: rest => integerInBase? 16 isHexDigit rest
  | '0' :: 'o' :: rest => integerInBase? 8 (fun char => '0' ≤ char && char ≤ '7') rest
  | '0' :: 'b' :: rest => integerInBase? 2 (fun char => char == '0' || char == '1') rest
  | _ =>
    match (splitSign text).2 with
    | ['i', 'n', 'f'] | ['n', 'a', 'n'] => some (.float true)
    | _ => numberOrDate? text

def isSpacing (char : Char) : Bool :=
  char == ' ' || char == '\t'

def isScalarChar (char : Char) : Bool :=
  !isSpacing char && !"=,[]{}#\r\n".toList.contains char

def goesOn (text : List Char) : Bool :=
  (text.dropWhile isSpacing).head?.any fun char =>
    isScalarChar char && char != '.' && char != '"' && char != '\''

/-- How much of the text is one scalar. Blanks belong to it if it goes on behind
them, as between a date and a time. -/
def scalarLength : (text : List Char) → Nat
  | [] => 0
  | char :: rest =>
    if isScalarChar char || (isSpacing char && goesOn rest) then scalarLength rest + 1 else 0

def readScalar (text : List Char) : Option (Taken Value text.length) :=
  let length := scalarLength text
  (scalar? (text.take length)).bind fun value => Taken.some? length value text

end TypeTokenWrappers.Toml
