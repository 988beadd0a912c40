import AgentSessions.Json.Decode
import AgentSessions.Text.Bytes

/-!
# Points in time

An `Instant` counts seconds from the start of 1970 in UTC, with nanoseconds within the second; a
leap second is the second before it with a billion nanoseconds more. Instants are read and written
as RFC 3339 texts. Reading is lenient: blanks may stand between the components, single digits do
for two, and a space for the `T`. Writing always gives UTC with a `Z` and no fraction, or the
shortest of three, six and nine digits that is exact.
-/

set_option autoImplicit false

namespace AgentSessions

/-- A point in time, in UTC. -/
structure Instant where
  seconds : Int
  nanos : Nat
  deriving DecidableEq, Repr, Inhabited

namespace Instant

def notAfter (a b : Instant) : Bool :=
  decide (a.seconds < b.seconds ∨ (a.seconds = b.seconds ∧ a.nanos ≤ b.nanos))

/-- The instant so many milliseconds, and less than a million nanoseconds more, from the start of
1970. -/
def ofMillis (ms nanos : Nat) : Instant :=
  ⟨(ms / 1000 : Nat), ms % 1000 * 1000000 + nanos⟩

/-! ## Calendar -/

def isLeap (year : Int) : Bool :=
  year % 4 == 0 && (year % 100 != 0 || year % 400 == 0)

def daysInMonth (year : Int) (month : Nat) : Nat :=
  match month with
  | 2 => if isLeap year then 29 else 28
  | 4 | 6 | 9 | 11 => 30
  | _ => 31

/-- Days from the start of 1970 to a date. Years are counted from March, so that the leap day
comes last. -/
def daysFromDate (year : Int) (month day : Nat) : Int :=
  let y := if month ≤ 2 then year - 1 else year
  let era := y / 400
  let yearOfEra := y - era * 400
  let m : Int := (month + 9) % 12
  let dayOfYear := (153 * m + 2) / 5 + (day : Int) - 1
  let dayOfEra := yearOfEra * 365 + yearOfEra / 4 - yearOfEra / 100 + dayOfYear
  era * 146097 + dayOfEra - 719468

/-- The year, month and day that is so many days from the start of 1970. -/
def dateFromDays (days : Int) : Int × Nat × Nat :=
  let z := days + 719468
  let era := z / 146097
  let dayOfEra := z - era * 146097
  let yearOfEra :=
    (dayOfEra - dayOfEra / 1460 + dayOfEra / 36524 - dayOfEra / 146096) / 365
  let dayOfYear := dayOfEra - (365 * yearOfEra + yearOfEra / 4 - yearOfEra / 100)
  let m := (5 * dayOfYear + 2) / 153
  let day := dayOfYear - (153 * m + 2) / 5 + 1
  let month := if m < 10 then m + 3 else m - 9
  let year := yearOfEra + era * 400 + (if month ≤ 2 then 1 else 0)
  (year, month.toNat, day.toNat)

/-! ## Reading -/

/-! A step of the reading gives a value and the text behind it. -/

/-- Reads up to `width` digits, at least one, behind any blanks. -/
def readDigits (width : Nat) (text : List Char) : Option (Nat × List Char) :=
  let text := Text.trimStart text
  let digits := (text.take width).takeWhile Char.isDigit
  if digits.isEmpty then none
  else some (Binary64.ofDigits digits, text.drop digits.length)

/-- More than the years of any date. -/
def farYear : Nat := 1000000

/-- Reads a year: four digits at most, or any number of them behind a sign. -/
def readYear (text : List Char) : Option (Int × List Char) :=
  match Text.trimStart text with
  | '-' :: rest =>
      let digits := rest.takeWhile Char.isDigit
      if digits.isEmpty then none
      else some (-(Binary64.ofDigitsUpTo farYear digits : Int), rest.drop digits.length)
  | '+' :: rest =>
      let digits := rest.takeWhile Char.isDigit
      if digits.isEmpty then none
      else some ((Binary64.ofDigitsUpTo farYear digits : Int), rest.drop digits.length)
  | rest => (readDigits 4 rest).map fun (n, rest) => ((n : Int), rest)

/-- Reads one character behind any blanks. -/
def readMark (mark : Char) (text : List Char) : Option (List Char) :=
  match Text.trimStart text with
  | c :: rest => if c = mark then some rest else none
  | [] => none

/-- Reads a fraction of a second in nanoseconds; digits past the ninth are dropped. -/
def readFraction (text : List Char) : Option (Nat × List Char) :=
  match text with
  | '.' :: rest =>
      let digits := rest.takeWhile Char.isDigit
      if digits.isEmpty then none
      else
        let kept := digits.take 9
        some (Binary64.ofDigits kept * Nat.pow 10 (9 - kept.length), rest.drop digits.length)
  | rest => some (0, rest)

/-- Reads two digits that stand right here. -/
def readPair (text : List Char) : Option (Nat × List Char) :=
  match text with
  | a :: b :: rest =>
      if a.isDigit && b.isDigit then some (Binary64.ofDigits [a, b], rest) else none
  | _ => none

/-- Reads an offset from UTC in seconds: `Z`, `UTC`, or hours and minutes behind a sign. -/
def readOffset (text : List Char) : Option (Int × List Char) :=
  match Text.trimStart text with
  | 'Z' :: rest => some (0, rest)
  | 'z' :: rest => some (0, rest)
  | c :: rest =>
      if String.ofList ((c :: rest).take 3 |>.map Char.toLower) = "utc" then
        some (0, (c :: rest).drop 3)
      else if c = '+' ∨ c = '-' ∨ c = '\u2212' then do
        let (hours, rest) ← readPair rest
        let rest := rest.dropWhile fun c => c = ':' || Text.isBlank c
        let (minutes, rest) ← readPair rest
        if 60 ≤ minutes then none
        else
          let size : Int := (hours * 3600 + minutes * 60 : Nat)
          if 86400 ≤ size then none else some (if c = '+' then size else -size, rest)
      else none
  | [] => none

def yearInRange (year : Int) : Bool :=
  decide (-262143 ≤ year ∧ year ≤ 262142)

/-- Reads an RFC 3339 text. -/
def ofText? (text : String) : Option Instant := do
  let (year, rest) ← readYear text.toList
  let rest ← readMark '-' rest
  let (month, rest) ← readDigits 2 rest
  let rest ← readMark '-' rest
  let (day, rest) ← readDigits 2 rest
  let rest ←
    match rest with
    | c :: rest => if c = 'T' ∨ c = 't' ∨ c = ' ' then some rest else none
    | [] => none
  let (hour, rest) ← readDigits 2 rest
  let rest ← readMark ':' rest
  let (minute, rest) ← readDigits 2 rest
  let rest ← readMark ':' rest
  let (second, rest) ← readDigits 2 rest
  let (nanos, rest) ← readFraction rest
  let (offset, rest) ← readOffset rest
  if !(Text.trimStart rest).isEmpty then none
  else if !yearInRange year || month < 1 || 12 < month || day < 1 || daysInMonth year month < day
      || 23 < hour || 59 < minute || 60 < second then none
  else
    let leap := second == 60
    let clock : Nat := hour * 3600 + minute * 60 + (if leap then 59 else second)
    let total := daysFromDate year month day * 86400 + clock - offset
    if yearInRange (dateFromDays (total / 86400)).1 then
      some ⟨total, nanos + (if leap then 1000000000 else 0)⟩
    else none

/-! ## Writing -/

def padded (width n : Nat) : String :=
  let ds := Nat.toDigits 10 n
  String.ofList (List.replicate (width - ds.length) '0' ++ ds)

/-- A year: four digits, and a sign when it is outside `0` to `9999`. -/
def yearText (year : Int) : String :=
  if 0 ≤ year ∧ year ≤ 9999 then padded 4 year.toNat
  else (if year < 0 then "-" else "+") ++ padded 4 year.natAbs

/-- The fraction of a second: none, or the shortest of three, six and nine digits. -/
def fractionText (nanos : Nat) : String :=
  if nanos = 0 then ""
  else if nanos % 1000000 = 0 then "." ++ padded 3 (nanos / 1000000)
  else if nanos % 1000 = 0 then "." ++ padded 6 (nanos / 1000)
  else "." ++ padded 9 nanos

/-- The instant as an RFC 3339 text in UTC. -/
def text (t : Instant) : String :=
  let (year, month, day) := dateFromDays (t.seconds / 86400)
  let clock := (t.seconds % 86400).toNat
  let leap := decide (1000000000 ≤ t.nanos)
  let second := clock % 60 + (if leap then 1 else 0)
  let nanos := if leap then t.nanos - 1000000000 else t.nanos
  yearText year ++ "-" ++ padded 2 month ++ "-" ++ padded 2 day ++ "T" ++ padded 2 (clock / 3600)
    ++ ":" ++ padded 2 (clock / 60 % 60) ++ ":" ++ padded 2 second ++ fractionText nanos ++ "Z"

def encode (t : Instant) : Json.Value :=
  .string t.text

/-- Decodes an RFC 3339 text. -/
def decoder : Json.Decoder Instant := fun levels node => do
  let s ← Json.Decoder.string levels node
  match ofText? s with
  | some t => .ok t
  | none => .error .data

end Instant

end AgentSessions
