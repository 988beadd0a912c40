/-!
# Binary floating point numbers of 64 bits

A finite number is `± mantissa · 2 ^ exponent` with a mantissa of at most 53 bits, in the one form
that is canonical: the exponent is as small as the mantissa allows. Arithmetic is exact arithmetic
on natural numbers followed by one rounding to the nearest number, a half going to the even
mantissa (`ofRatio`). Every finite number is a whole multiple of `2 ^ (-1074)`; the order compares
those multiples, and a NaN is ordered with nothing.
-/

set_option autoImplicit false

namespace AgentSessions

/-- The mantissas and exponents of finite numbers: 53 bits, a leading one except at the smallest
exponent. -/
def Binary64.Canonical (mantissa : Nat) (exponent : Int) : Prop :=
  mantissa < Nat.pow 2 53 ∧ -1074 ≤ exponent ∧ exponent ≤ 971
    ∧ (exponent = -1074 ∨ Nat.pow 2 52 ≤ mantissa)

instance (mantissa : Nat) (exponent : Int) : Decidable (Binary64.Canonical mantissa exponent) :=
  inferInstanceAs (Decidable (_ ∧ _))

/-- A binary floating point number of 64 bits; NaNs are not told apart. -/
inductive Binary64 where
  /-- The number `± mantissa · 2 ^ exponent`. -/
  | finite (negative : Bool) (mantissa : Nat) (exponent : Int)
      (canonical : Binary64.Canonical mantissa exponent)
  | infinity (negative : Bool)
  | nan
  deriving DecidableEq

namespace Binary64

def zero (negative : Bool) : Binary64 :=
  .finite negative 0 (-1074) (by decide)

instance : Inhabited Binary64 := ⟨zero false⟩

def isFinite : Binary64 → Bool
  | .finite .. => true
  | _ => false

def isZero : Binary64 → Bool
  | .finite _ m _ _ => m == 0
  | _ => false

def neg : Binary64 → Binary64
  | .finite s m q h => .finite (!s) m q h
  | .infinity s => .infinity (!s)
  | .nan => .nan

/-! ## Rounding -/

/-- A quotient rounded to the nearest whole number, a half going to the even one. -/
def roundDiv (num den : Nat) : Nat :=
  let quotient := num / den
  let twice := 2 * (num % den)
  if twice < den then quotient
  else if den < twice then quotient + 1
  else if quotient % 2 = 0 then quotient else quotient + 1

/-- The number `± mantissa · 2 ^ exponent` for a mantissa that rounding may have carried to
`2 ^ 53`; infinite when it is too large. -/
def ofRounded (negative : Bool) (mantissa : Nat) (exponent : Int) : Binary64 :=
  let carried := mantissa == Nat.pow 2 53
  let m := if carried then Nat.pow 2 52 else mantissa
  let q := if carried then exponent + 1 else exponent
  if h : Canonical m q then .finite negative m q h else .infinity negative

/-- The exponent of the leading binary digit of a positive quotient. -/
def leadingExponent (num den : Nat) : Int :=
  let guess : Int := (num.log2 : Int) - (den.log2 : Int)
  let below :=
    if 0 ≤ guess then num < den * Nat.pow 2 guess.toNat else num * Nat.pow 2 (-guess).toNat < den
  if below then guess - 1 else guess

/-- The number nearest to `± num / den`. -/
def ofRatio (negative : Bool) (num den : Nat) : Binary64 :=
  if num = 0 then zero negative
  else
    let q := max (leadingExponent num den - 52) (-1074)
    let m :=
      if 0 ≤ q then roundDiv num (den * Nat.pow 2 q.toNat)
      else roundDiv (num * Nat.pow 2 (-q).toNat) den
    ofRounded negative m q

def ofNat (n : Nat) : Binary64 :=
  ofRatio false n 1

def ofInt (i : Int) : Binary64 :=
  ofRatio (decide (i < 0)) i.natAbs 1

/-- The number nearest to `± mantissa · 2 ^ exponent`. -/
def ofScaled (negative : Bool) (mantissa : Nat) (exponent : Int) : Binary64 :=
  if 0 ≤ exponent then ofRatio negative (mantissa * Nat.pow 2 exponent.toNat) 1
  else ofRatio negative mantissa (Nat.pow 2 (-exponent).toNat)

/-! ## Arithmetic -/

def mul : Binary64 → Binary64 → Binary64
  | .finite s m q _, .finite t n r _ => ofScaled (s != t) (m * n) (q + r)
  | .infinity s, .infinity t => .infinity (s != t)
  | .infinity s, .finite t n _ _ => if n = 0 then .nan else .infinity (s != t)
  | .finite s m _ _, .infinity t => if m = 0 then .nan else .infinity (s != t)
  | _, _ => .nan

/-- A number divided by a positive natural number that is taken exactly, then rounded. -/
def divNat (x : Binary64) (d : Nat) : Binary64 :=
  match x with
  | .finite s m q _ =>
      if 0 ≤ q then ofRatio s (m * Nat.pow 2 q.toNat) d else ofRatio s m (d * Nat.pow 2 (-q).toNat)
  | other => other

/-- The rounded quotient of two finite numbers; a divisor of zero gives a NaN. -/
def div : Binary64 → Binary64 → Binary64
  | .finite s m q _, .finite t n r _ =>
      if n = 0 then .nan
      else if 0 ≤ q - r then ofRatio (s != t) (m * Nat.pow 2 (q - r).toNat) n
      else ofRatio (s != t) m (n * Nat.pow 2 (r - q).toNat)
  | _, _ => .nan

/-! ## Order and conversion to whole numbers -/

/-- A finite number as a multiple of `2 ^ (-1074)`. -/
def multiple : Binary64 → Int
  | .finite s m q _ =>
      let size : Int := (m * Nat.pow 2 (q + 1074).toNat : Nat)
      if s then -size else size
  | _ => 0

/-- Whether `x ≤ y`; a NaN is on neither side of anything. -/
def le : Binary64 → Binary64 → Bool
  | .nan, _ => false
  | _, .nan => false
  | .infinity s, .infinity t => s || !t
  | .infinity s, .finite .. => s
  | .finite .., .infinity t => !t
  | x, y => decide (x.multiple ≤ y.multiple)

/-- Whether `x < y`; a NaN is on neither side of anything. -/
def lt : Binary64 → Binary64 → Bool
  | .nan, _ => false
  | _, .nan => false
  | .infinity s, .infinity t => s && !t
  | .infinity s, .finite .. => s
  | .finite .., .infinity t => !t
  | x, y => decide (x.multiple < y.multiple)

/-- The whole part as a word of 64 bits: numbers out of range go to the nearer end, a NaN to
zero. -/
def toUInt64 : Binary64 → UInt64
  | .finite s m q _ =>
      if s then 0
      else
        let whole := if 0 ≤ q then m * Nat.pow 2 q.toNat else m / Nat.pow 2 (-q).toNat
        UInt64.ofNat (min whole (UInt64.size - 1))
  | .infinity s => if s then 0 else UInt64.ofNat (UInt64.size - 1)
  | .nan => 0

end Binary64

end AgentSessions
