import AgentSessions.Decimal.Binary64

/-!
# Reading decimals

Two rules turn decimal digits into a binary number. `Binary64.nearest` gives the number nearest to
the decimal. `Binary64.scaled` is the rule of the JSON reader: the significant digits that fit a
word of 64 bits are rounded first and then multiplied or divided by a rounded power of ten, so that
for long decimals the last bits can differ from the nearest number.

`Binary64.parse?` reads a whole text by the first rule.
-/

set_option autoImplicit false

namespace AgentSessions.Binary64

/-! ## Digits -/

def digit (c : Char) : Nat :=
  c.toNat - '0'.toNat

def ofDigits (ds : List Char) : Nat :=
  ds.foldl (fun n c => 10 * n + digit c) 0

/-- The natural number with these digits, or `limit` where that is smaller. -/
def ofDigitsUpTo (limit : Nat) (ds : List Char) : Nat :=
  ds.foldl (fun n c => min limit (10 * n + digit c)) 0

theorem ofDigitsUpTo_eq (limit : Nat) (ds : List Char) :
    ofDigitsUpTo limit ds = min limit (ofDigits ds) := by
  have key : ∀ n, ds.foldl (fun n c => min limit (10 * n + digit c)) (min limit n)
      = min limit (ds.foldl (fun n c => 10 * n + digit c) n) := by
    induction ds with
    | nil => intro n; rfl
    | cons c ds ih =>
        intro n
        have step : min limit (10 * min limit n + digit c) = min limit (10 * n + digit c) := by
          omega
        simp only [List.foldl_cons, step, ih]
  simpa [ofDigitsUpTo, ofDigits] using key 0

/-! ## The nearest number -/

/-- No number halfway between two neighbours has this many significant digits. -/
def tellingDigits : Nat := 800

/-- Digits and a power of ten for a decimal of any length: past the telling digits all that matters
is whether anything but zeros follows, and one digit says so. -/
def shorten (ds : List Char) : List Char × Nat :=
  let ds := ds.dropWhile (· == '0')
  let kept := ds.take tellingDigits
  let tail := ds.drop tellingDigits
  if tail.all (· == '0') then (kept, tail.length) else (kept ++ ['1'], tail.length - 1)

/-- The number nearest to `± digits · 10 ^ exponent`. Decimals far outside the range of the finite
numbers are settled by their size alone. -/
def nearest (negative : Bool) (digits : Nat) (exponent : Int) : Binary64 :=
  if digits = 0 then zero negative
  else
    let size : Int := (Nat.toDigits 10 digits).length + exponent
    if 400 < size then .infinity negative
    else if size < -400 then zero negative
    else if 0 ≤ exponent then ofRatio negative (digits * Nat.pow 10 exponent.toNat) 1
    else ofRatio negative digits (Nat.pow 10 (-exponent).toNat)

/-- The natural number that the digits of an exponent stand for. One of five digits or more that is
large enough takes no more of them. -/
def ofExponentDigits (ds : List Char) : Nat :=
  ds.foldl (fun n c => if n < 65536 then 10 * n + digit c else n) 0

/-- The exponent part of a decimal: an `e`, an optional sign and at least one digit. -/
def exponentPart : List Char → Option Int
  | [] => some 0
  | c :: rest =>
      if c = 'e' ∨ c = 'E' then
        let (negative, ds) : Bool × List Char :=
          match rest with
          | '-' :: ds => (true, ds)
          | '+' :: ds => (false, ds)
          | ds => (false, ds)
        if ds.isEmpty || !ds.all Char.isDigit then none
        else
          let n : Int := ofExponentDigits ds
          some (if negative then -n else n)
      else none

/-- A decimal without its sign: digits with an optional point, at least one digit, an optional
exponent; or a name of infinity or of a NaN in any case. -/
def parseUnsigned (negative : Bool) (cs : List Char) : Option Binary64 :=
  let whole := cs.takeWhile Char.isDigit
  let rest := cs.dropWhile Char.isDigit
  let (fraction, rest) : List Char × List Char :=
    match rest with
    | '.' :: more => (more.takeWhile Char.isDigit, more.dropWhile Char.isDigit)
    | other => ([], other)
  if whole.isEmpty && fraction.isEmpty then
    match String.ofList (cs.map Char.toLower) with
    | "inf" | "infinity" => some (.infinity negative)
    | "nan" => some .nan
    | _ => none
  else
    let (digits, power) := shorten (whole ++ fraction)
    (exponentPart rest).map fun e =>
      nearest negative (ofDigits digits) (e - fraction.length + power)

/-- Reads a text as a number: an optional sign, then `parseUnsigned`. -/
def parse? (text : String) : Option Binary64 :=
  match text.toList with
  | '-' :: cs => parseUnsigned true cs
  | '+' :: cs => parseUnsigned false cs
  | cs => parseUnsigned false cs

/-! ## Scaling a word by a power of ten -/

/-- The largest power of ten that is used in one step. -/
def largestPower : Nat := 308

/-- Division by `10 ^ n` in steps of at most `10 ^ 308`. -/
def scaleDown (x : Binary64) (n : Nat) : Binary64 :=
  if largestPower < n then
    if x.isZero then x
    else scaleDown (x.div (ofNat (Nat.pow 10 largestPower))) (n - largestPower)
  else x.div (ofNat (Nat.pow 10 n))
termination_by n
decreasing_by
  have : largestPower = 308 := rfl
  omega

/-- The rounded word `significand` times `10 ^ exponent`; `none` when that is too large. -/
def scaled (negative : Bool) (significand : Nat) (exponent : Int) : Option Binary64 :=
  let x := ofNat significand
  let size : Option Binary64 :=
    if exponent < 0 then some (scaleDown x (-exponent).toNat)
    else if (largestPower : Int) < exponent then (if x.isZero then some x else none)
    else
      let y := x.mul (ofNat (Nat.pow 10 exponent.toNat))
      if y.isFinite then some y else none
  size.map fun y => if negative then y.neg else y

end AgentSessions.Binary64
