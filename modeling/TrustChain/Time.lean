import TrustChain.Der.Value

/-!
# Dates and times

A certificate states the ends of its validity as calendar date and time of day in universal time, in
one of two forms: with the year in two digits, for the years 1950 to 2049, or in four. Dates from
1970 on are accepted, and either form may be used for any year that it can express. What the library
compares is the number of seconds since the start of 1970.
-/

namespace TrustChain

namespace DateTime

def isLeapYear (year : Nat) : Bool :=
  year % 4 == 0 && (year % 100 != 0 || year % 400 == 0)

def daysInMonth (year month : Nat) : Nat :=
  match month with
  | 2 => if isLeapYear year then 29 else 28
  | 4 | 6 | 9 | 11 => 30
  | _ => 31

/-- A date of the calendar from 1970 to 9999, and a time of day without leap seconds. -/
def isValid (year month day hour minute second : Nat) : Bool :=
  1970 ≤ year && year ≤ 9999 && 1 ≤ month && month ≤ 12 && 1 ≤ day &&
    day ≤ daysInMonth year month && hour ≤ 23 && minute ≤ 59 && second ≤ 59

end DateTime

/-- A moment, by its calendar date and time of day. -/
structure DateTime where
  year : Nat
  month : Nat
  day : Nat
  hour : Nat
  minute : Nat
  second : Nat
  valid : DateTime.isValid year month day hour minute second = true
  deriving DecidableEq

namespace DateTime

/-- The number of days in the years from 1 up to and including the given one. -/
def daysThrough (year : Nat) : Nat :=
  365 * year + year / 4 - year / 100 + year / 400

/-- The number of days of the year before the given month. -/
def daysBeforeMonth (year month : Nat) : Nat :=
  (List.range (month - 1)).foldl (fun days m => days + daysInMonth year (m + 1)) 0

def seconds (t : DateTime) : Nat :=
  let days :=
    daysThrough (t.year - 1) - daysThrough 1969 + daysBeforeMonth t.year t.month + (t.day - 1)
  ((days * 24 + t.hour) * 60 + t.minute) * 60 + t.second

/-- The `width` lowest decimal digits of a number. -/
def digits : (width n : Nat) → List Char
  | 0, _ => []
  | width + 1, n => digits width (n / 10) ++ [Char.ofNat (48 + n % 10)]

/-- Text such as `2023-11-14T22:13:20Z`. -/
def text (t : DateTime) : String :=
  String.ofList (digits 4 t.year ++ '-' :: digits 2 t.month ++ '-' :: digits 2 t.day ++ 'T' ::
    digits 2 t.hour ++ ':' :: digits 2 t.minute ++ ':' :: digits 2 t.second ++ ['Z'])

end DateTime

/-- The end of a validity period, in the form it is written in. -/
structure Time where
  moment : DateTime
  /-- The year is written with its last two digits. -/
  shortYear : Bool
  yearFits : shortYear = true → moment.year < 2050
  deriving DecidableEq

namespace Time

def seconds (t : Time) : Nat := t.moment.seconds

def text (t : Time) : String := t.moment.text

def twoDigits? (high low : UInt8) : Option Nat :=
  if 0x30 ≤ high ∧ high ≤ 0x39 ∧ 0x30 ≤ low ∧ low ≤ 0x39 then
    some ((high.toNat - 48) * 10 + (low.toNat - 48))
  else none

/-- Month, day, hour, minute and second, two digits each, and the `Z` of universal time. -/
def inYear? (year : Nat) (shortYear : Bool) : Octets → Option Time
  | [m₁, m₂, d₁, d₂, h₁, h₂, n₁, n₂, s₁, s₂, 0x5a] => do
    let month ← twoDigits? m₁ m₂
    let day ← twoDigits? d₁ d₂
    let hour ← twoDigits? h₁ h₂
    let minute ← twoDigits? n₁ n₂
    let second ← twoDigits? s₁ s₂
    if h : DateTime.isValid year month day hour minute second then
      if fits : shortYear = true → year < 2050 then
        some ⟨⟨year, month, day, hour, minute, second, h⟩, shortYear, fits⟩
      else none
    else none
  | _ => none

/-- UTCTime: a year below 50 is in the twenty-first century, any other in the twentieth. -/
def ofUtc? : Octets → Option Time
  | y₁ :: y₂ :: rest => do
    let yy ← twoDigits? y₁ y₂
    inYear? (if yy < 50 then 2000 + yy else 1900 + yy) true rest
  | _ => none

/-- GeneralizedTime, whose years have four digits. -/
def ofGeneralized? : Octets → Option Time
  | y₁ :: y₂ :: y₃ :: y₄ :: rest => do
    let century ← twoDigits? y₁ y₂
    let year ← twoDigits? y₃ y₄
    inYear? (century * 100 + year) false rest
  | _ => none

/-- The tag of an element tells which form its content has. -/
def ofElement? (e : Der.Element) : Option Time :=
  match e.tag with
  | .utcTime => ofUtc? e.content
  | .generalizedTime => ofGeneralized? e.content
  | _ => none

def decode : Der.Decoder Time := do
  let e ← Der.Decoder.element
  match ofElement? e with
  | some t => return t
  | none => failure

/-- The `width` lowest decimal digits of a number, in ASCII. -/
def asciiDigits : (width n : Nat) → Octets
  | 0, _ => []
  | width + 1, n => asciiDigits width (n / 10) ++ [UInt8.ofNat (48 + n % 10)]

def encode (t : Time) : Octets :=
  let year := if t.shortYear then asciiDigits 2 t.moment.year else asciiDigits 4 t.moment.year
  Der.encodeElement (if t.shortYear then .utcTime else .generalizedTime)
    (year ++ asciiDigits 2 t.moment.month ++ asciiDigits 2 t.moment.day ++
      asciiDigits 2 t.moment.hour ++ asciiDigits 2 t.moment.minute ++
      asciiDigits 2 t.moment.second ++ [0x5a])

end Time

end TrustChain
