import AgentSessions.Decimal.Reading
import AgentSessions.Json.Node
import AgentSessions.Text.Bytes

/-!
# Reading JSON

`Document.ofText` reads a text into a tree of nodes, and never fails: what is wrong stands in the
tree. Blanks are space, tab, line feed and carriage return. A whole number stays whole when it fits
64 bits with or without a sign; every other number, and `-0`, is a binary floating point number.
-/

set_option autoImplicit false

namespace AgentSessions.Json

/-- What follows the blanks at the start of a text. -/
def skipBlanks : List Char → List Char :=
  List.dropWhile fun c => c = ' ' || c = '\t' || c = '\n' || c = '\r'

/-- A node and the text behind it; no text behind a node that breaks. -/
abbrev Reading := Node × Option (List Char)

/-- The reading of a text that is not a value. -/
def Reading.fail (why : Break) : Reading :=
  (.broken why, none)

/-! ## Literals -/

/-- Reads the letters of a literal; `none` with the cause when the text differs. -/
def literal : (letters text : List Char) → Except Cause (List Char)
  | [], rest => .ok rest
  | _ :: _, [] => .error .eof
  | l :: letters, c :: rest => if l = c then literal letters rest else .error .malformed

/-- The node of a literal whose first letter has been read. -/
def readLiteral (node : Node) (letters : String) (text : List Char) : Reading :=
  match literal letters.toList text with
  | .ok rest => (node, some rest)
  | .error cause => .fail ⟨cause, cause, .malformed⟩

/-! ## Numbers -/

def maxWord : Nat := 18446744073709551615

/-- Digits added to a word while it fits 64 bits; the digits that are left over. -/
def fitDigits : Nat → List Char → Nat × List Char
  | n, [] => (n, [])
  | n, c :: rest =>
      let next := 10 * n + Binary64.digit c
      if maxWord < next then (n, c :: rest) else fitDigits next rest

/-- The node of a number that is not whole: `significand · 10 ^ exponent`. -/
def floatNode (negative : Bool) (significand : Nat) (exponent : Int) : Node :=
  match Binary64.scaled negative significand exponent with
  | some x => .float x
  | none => .overlarge

/-- The node of a whole number. -/
def wholeNode (negative : Bool) (n : Nat) : Node :=
  if !negative then .int n
  else if n = 0 || 9223372036854775808 < n then
    .float (Binary64.ofNat n).neg
  else .int (-(n : Int))

/-- A number breaks off: only a reader that needs its value finds the end of the text at fault. -/
def numberBreak (rest : List Char) : Reading :=
  .fail ⟨if rest.isEmpty then .eof else .malformed, .malformed, .malformed⟩

/-- The largest exponent that is kept. -/
def maxExponent : Nat := 2147483647

/-- Reads the exponent behind `e` and gives the number. -/
def readExponent (negative : Bool) (significand : Nat) (exponent : Int) (text : List Char) :
    Reading :=
  let (down, text) : Bool × List Char :=
    match text with
    | '+' :: rest => (false, rest)
    | '-' :: rest => (true, rest)
    | rest => (false, rest)
  let digits := text.takeWhile Char.isDigit
  let rest := text.dropWhile Char.isDigit
  if digits.isEmpty then numberBreak rest
  else
    let e := Binary64.ofDigitsUpTo (maxExponent + 1) digits
    if maxExponent < e then
      if significand ≠ 0 && !down then (.overlarge, some rest)
      else (.float (Binary64.zero negative), some rest)
    else
      let total := if down then exponent - e else exponent + e
      (floatNode negative significand total, some rest)

def readNumber (negative : Bool) (text : List Char) : Reading :=
  let digits := text.takeWhile Char.isDigit
  let rest := text.dropWhile Char.isDigit
  let (significand, dropped) := fitDigits 0 digits
  if digits.isEmpty then numberBreak rest
  else if digits.head? = some '0' && digits.length ≠ 1 then
    .fail (.always .malformed)
  else
    match rest with
    | '.' :: more =>
        let places := more.takeWhile Char.isDigit
        let behind := more.dropWhile Char.isDigit
        if places.isEmpty then numberBreak behind
        else
          let (significand, unused) := fitDigits significand places
          let exponent : Int := (dropped.length : Int) - (places.length - unused.length : Nat)
          match behind with
          | 'e' :: tail => readExponent negative significand exponent tail
          | 'E' :: tail => readExponent negative significand exponent tail
          | tail => (floatNode negative significand exponent, some tail)
    | 'e' :: tail => readExponent negative significand dropped.length tail
    | 'E' :: tail => readExponent negative significand dropped.length tail
    | tail =>
        if dropped.isEmpty then (wholeNode negative significand, some tail)
        else (floatNode negative significand dropped.length, some tail)

/-! ## Strings -/

def hexValue (c : Char) : Option Nat :=
  if '0' ≤ c ∧ c ≤ '9' then some (c.toNat - '0'.toNat)
  else if 'a' ≤ c ∧ c ≤ 'f' then some (c.toNat - 'a'.toNat + 10)
  else if 'A' ≤ c ∧ c ≤ 'F' then some (c.toNat - 'A'.toNat + 10)
  else none

def readHex (text : List Char) : Except Cause (Nat × List Char) :=
  if Text.byteCount (text.take 4) < 4 then .error .eof
  else
    match text with
    | a :: b :: c :: d :: rest =>
        match hexValue a, hexValue b, hexValue c, hexValue d with
        | some a, some b, some c, some d => .ok (((a * 16 + b) * 16 + c) * 16 + d, rest)
        | _, _, _, _ => .error .malformed
    | _ => .error .malformed

/-- A string behind its opening quote. -/
inductive StringReading where
  | sound (s : String) (rest : List Char)
  /-- A sound string but for half a surrogate pair. -/
  | halfPaired (rest : List Char)
  | broken (why : Break)

/-- The string breaks with this cause; half a pair before it is what a reader finds first. -/
def stringBreak (half : Bool) (cause : Cause) : StringReading :=
  .broken ⟨if half then .malformed else cause, cause, if half then .malformed else cause⟩

/-- The character of an escape of one letter. -/
def escapedChar : Char → Option Char
  | '"' => some '"'
  | '\\' => some '\\'
  | '/' => some '/'
  | 'b' => some (Char.ofNat 8)
  | 'f' => some (Char.ofNat 12)
  | 'n' => some '\n'
  | 'r' => some '\r'
  | 't' => some '\t'
  | _ => none

/-- Whether a unit of 16 bits opens a surrogate pair. -/
def isHighSurrogate (n : Nat) : Bool := 0xD800 ≤ n && n < 0xDC00

/-- Whether a unit of 16 bits closes a surrogate pair. -/
def isLowSurrogate (n : Nat) : Bool := 0xDC00 ≤ n && n < 0xE000

/-- Reads a string behind its opening quote. `done` holds the characters read so far, last first,
and `half` whether half a surrogate pair was among them. -/
def readString : (fuel : Nat) → (half : Bool) → (done : List Char) → List Char → StringReading
  | 0, half, _, _ => stringBreak half .eof
  | _, half, _, [] => stringBreak half .eof
  | fuel + 1, half, done, c :: rest =>
      if c = '"' then
        if half then .halfPaired rest else .sound (String.ofList done.reverse) rest
      else if c = '\\' then
        match rest with
        | [] => stringBreak half .eof
        | 'u' :: hex =>
            match readHex hex with
            | .error cause => stringBreak half cause
            | .ok (n, rest) =>
                if isLowSurrogate n then readString fuel true done rest
                else if isHighSurrogate n then
                  match rest with
                  | [] => stringBreak half .eof
                  | ['\\'] => stringBreak half .eof
                  | '\\' :: 'u' :: hex =>
                      match readHex hex with
                      | .error cause => stringBreak half cause
                      | .ok (m, behind) =>
                          if isLowSurrogate m then
                            let code := 0x10000 + (n - 0xD800) * 0x400 + (m - 0xDC00)
                            readString fuel half (Char.ofNat code :: done) behind
                          else readString fuel true done rest
                  | rest => readString fuel true done rest
                else readString fuel half (Char.ofNat n :: done) rest
        | e :: rest =>
            match escapedChar e with
            | some c => readString fuel half (c :: done) rest
            | none => stringBreak half .malformed
      else if c.toNat < 32 then stringBreak half .malformed
      else readString fuel half (c :: done) rest

/-! ## Values -/

/-- Reads a value that is no container, with no blanks before it. -/
def readScalar (fuel : Nat) : List Char → Reading
  | [] => .fail (.always .eof)
  | 'n' :: rest => readLiteral .null "ull" rest
  | 't' :: rest => readLiteral (.bool true) "rue" rest
  | 'f' :: rest => readLiteral (.bool false) "alse" rest
  | '-' :: rest => readNumber true rest
  | '"' :: rest =>
      match readString fuel false [] rest with
      | .sound s rest => (.string s, some rest)
      | .halfPaired rest => (.halfPaired, some rest)
      | .broken why => .fail why
  | c :: rest => if c.isDigit then readNumber false (c :: rest) else .fail (.always .malformed)

/-- What is wrong with a text that stands where a key has to. A decoder that looks for the name of a
variant there first finds a value of another type, if it is a value. -/
def keyBreak (fuel : Nat) (text : List Char) : Break :=
  let variant : Cause :=
    match text with
    | '[' :: _ => .data
    | '\x7b' :: _ => .data
    | text => (readScalar fuel text).1.mismatch
  ⟨.malformed, .malformed, variant⟩

mutual

def readValue : (fuel : Nat) → List Char → Reading
  | 0, _ => .fail (.always .eof)
  | fuel + 1, text =>
      match skipBlanks text with
      | '[' :: rest => readItems fuel true [] rest
      | '\x7b' :: rest => readMembers fuel true [] rest
      | text => readScalar fuel text

/-- Reads the items of an array up to its bracket; `done` holds those read, last first. -/
def readItems : (fuel : Nat) → (first : Bool) → (done : List Node) → List Char → Reading
  | 0, _, done, _ => (.array done.reverse (.short .eof false), none)
  | fuel + 1, first, done, text =>
      let cut (cause : Cause) (afterComma : Bool) : Reading :=
        (.array done.reverse (.short cause afterComma), none)
      let item (text : List Char) : Reading :=
        match readValue fuel text with
        | (node, some rest) => readItems fuel false (node :: done) rest
        | (node, none) => (.array (node :: done).reverse (.short .eof false), none)
      match skipBlanks text with
      | [] => cut .eof false
      | ']' :: rest => (.array done.reverse .closed, some rest)
      | c :: rest =>
          if first then item (c :: rest)
          else if c = ',' then
            match skipBlanks rest with
            | [] => cut .eof true
            | ']' :: _ => cut .malformed true
            | more => item more
          else cut .malformed false

/-- Reads the members of an object up to its brace; `done` holds those read, last first. -/
def readMembers : (fuel : Nat) → (first : Bool) → (done : List (Key × Node)) → List Char → Reading
  | 0, _, done, _ => (.object done.reverse (.short .eof false), none)
  | fuel + 1, first, done, text =>
      let cut (why : Break) (afterComma : Bool) : Reading :=
        (.object done.reverse (.cut why afterComma), none)
      let last (key : Key) (node : Node) (cause : Cause) : Reading :=
        (.object ((key, node) :: done).reverse (.short cause false), none)
      let value (key : Key) (text : List Char) : Reading :=
        match skipBlanks text with
        | [] => last key (.broken (.always .eof)) .eof
        | ':' :: rest =>
            match readValue fuel rest with
            | (node, some rest) => readMembers fuel false ((key, node) :: done) rest
            | (node, none) => last key node .eof
        | _ => last key (.broken (.always .malformed)) .malformed
      let member (afterComma : Bool) (text : List Char) : Reading :=
        match text with
        | '"' :: rest =>
            match readString fuel false [] rest with
            | .sound name rest => value (.sound name) rest
            | .halfPaired rest => value .halfPaired rest
            | .broken why => cut why afterComma
        | text => cut (keyBreak fuel text) afterComma
      match skipBlanks text with
      | [] => cut (.always .eof) false
      | '\x7d' :: rest => (.object done.reverse .closed, some rest)
      | c :: rest =>
          if first then member false (c :: rest)
          else if c = ',' then
            match skipBlanks rest with
            | [] => cut (.always .eof) true
            | more => member true more
          else cut (.always .malformed) false

end

/-! ## Documents -/

/-- A text as read: its value, and whether anything but blanks follows. -/
structure Document where
  root : Node
  trailing : Bool

/-- The deepest nesting that is read, with the outermost level counted as one. -/
def maxLevels : Nat := 128

def Document.ofText (text : String) : Document :=
  let cs := text.toList
  match readValue (2 * cs.length + 2) cs with
  | (root, some rest) => ⟨root, !(skipBlanks rest).isEmpty⟩
  | (root, none) => ⟨root, false⟩

end AgentSessions.Json
