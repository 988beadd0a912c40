import AgentSessions.Decimal.Binary64

/-!
# The shortest decimal that reads back

`Binary64.shortest` finds the decimal of fewest digits among those that round to a given number,
and of those the one nearest to it. A finite number owns the interval of reals that round to it,
with its ends when the mantissa is even. On the grid of decimals with `k` digits only the two
neighbours of the number need a look, so the search goes through `k = 1, 2, …, 17` and takes the
first grid with a neighbour inside the interval. All of it is exact arithmetic on natural numbers.

A decimal is written with or without an exponent; `positional` and `scientific` are the two forms.
-/

set_option autoImplicit false

namespace AgentSessions

/-- The number `digits · 10 ^ exponent`. -/
structure Decimal where
  digits : Nat
  exponent : Int
  deriving DecidableEq, Repr

namespace Decimal

/-- The digits of a natural number in base ten, most significant first. -/
def digitsOf (n : Nat) : List Char :=
  Nat.toDigits 10 n

/-- Trailing zeros moved from the digits into the exponent; `fuel` bounds their number. -/
def dropZeros : Nat → Decimal → Decimal
  | 0, d => d
  | fuel + 1, d =>
      if d.digits ≠ 0 ∧ d.digits % 10 = 0 then dropZeros fuel ⟨d.digits / 10, d.exponent + 1⟩ else d

/-- The exponent of the leading digit: the decimal has the form `d.ddd · 10 ^ leading`. -/
def leading (d : Decimal) : Int :=
  (digitsOf d.digits).length - 1 + d.exponent

/-- The decimal written out in full, with a point and at least `places` digits after it. -/
def positional (d : Decimal) (places : Nat) : String :=
  let ds := digitsOf d.digits
  let whole : List Char :=
    if 0 ≤ d.exponent then ds ++ List.replicate d.exponent.toNat '0'
    else
      let kept := ds.take (ds.length - (-d.exponent).toNat)
      if kept.isEmpty then ['0'] else kept
  let fraction : List Char :=
    if 0 ≤ d.exponent then []
    else
      let behind := (-d.exponent).toNat
      List.replicate (behind - ds.length) '0' ++ ds.drop (ds.length - behind)
  let fraction := fraction ++ List.replicate (places - fraction.length) '0'
  String.ofList (if fraction.isEmpty then whole else whole ++ '.' :: fraction)

/-- The decimal as `d.ddde±x`: one digit before the point, the exponent always signed. -/
def scientific (d : Decimal) : String :=
  let ds := digitsOf d.digits
  let mantissa := if ds.length ≤ 1 then ds else ds.take 1 ++ '.' :: ds.drop 1
  let e := d.leading
  String.ofList (mantissa ++ 'e' :: (if e < 0 then '-' else '+') :: digitsOf e.natAbs)

end Decimal

namespace Binary64

/-- A power of ten as a quotient: `10 ^ e = (powerOfTen e).1 / (powerOfTen e).2`. -/
def powerOfTen (e : Int) : Nat × Nat :=
  if 0 ≤ e then (Nat.pow 10 e.toNat, 1) else (1, Nat.pow 10 (-e).toNat)

/-- The exponent of the leading decimal digit of a positive quotient. -/
def leadingDecimal (num den : Nat) : Int :=
  let guess : Int := (Decimal.digitsOf num).length - ((Decimal.digitsOf den).length : Int)
  let (p, q) := powerOfTen guess
  if num * q < den * p then guess - 1 else guess

/-- The decimal with `k` digits that lies in the interval from `low / den` to `high / den` and is
nearest to `mid / den`, if one of the two neighbours of `mid / den` lies there. The ends belong to
the interval when `closed`. -/
def onGrid (low mid high den : Nat) (closed : Bool) (top : Int) (k : Nat) : Option Decimal :=
  let e := top - (k : Int) + 1
  let (p, q) := powerOfTen e
  -- `d · 10 ^ e` against `x / den` compares `d * p * den` with `x * q`
  let floor := mid * q / (p * den)
  let inside (d : Nat) : Bool :=
    let value := d * p * den
    if closed then low * q ≤ value && value ≤ high * q else low * q < value && value < high * q
  let below := mid * q - floor * p * den
  let above := (floor + 1) * p * den - mid * q
  match inside floor, inside (floor + 1) with
  | false, false => none
  | true, false => some ⟨floor, e⟩
  | false, true => some ⟨floor + 1, e⟩
  | true, true =>
      if below < above ∨ (below = above ∧ floor % 2 = 0) then some ⟨floor, e⟩
      else some ⟨floor + 1, e⟩

/-- The shortest decimal that rounds to `mantissa · 2 ^ exponent`, and of those the nearest. -/
def shortest (mantissa : Nat) (exponent : Int) : Decimal :=
  if mantissa = 0 then ⟨0, 0⟩
  else
    -- quarters of the spacing above: the gap below a power of two is half as wide
    let mid := 4 * mantissa
    let high := mid + 2
    let low := if mantissa = Nat.pow 2 52 ∧ -1074 < exponent then mid - 1 else mid - 2
    let (scale, den) :=
      if 0 ≤ exponent then (Nat.pow 2 exponent.toNat, 4) else (1, 4 * Nat.pow 2 (-exponent).toNat)
    let top := leadingDecimal (mid * scale) den
    let found := (List.range 17).findSome? fun k =>
      onGrid (low * scale) (mid * scale) (high * scale) den (mantissa % 2 == 0) top (k + 1)
    Decimal.dropZeros 20 (found.getD ⟨mid, exponent - 2⟩)

/-- The number in full with as few digits as read back: no exponent, no point for a whole number. -/
def plain : Binary64 → String
  | .finite s m q _ => (if s then "-" else "") ++ (shortest m q).positional 0
  | .infinity s => if s then "-inf" else "inf"
  | .nan => "NaN"

end Binary64

end AgentSessions
