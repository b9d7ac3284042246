import MeshRoutes.Json.Basic
import MeshRoutes.Text.Numeral
/-!
# Reading JSON text

A reader takes the characters that are left and gives what it read with the rest. Nested
readers count down a bound on the characters, so that every reader ends.
-/

namespace MeshRoutes.Json

/-- The blanks allowed between tokens. -/
def isSpace (c : Char) : Bool := c = ' ' || c = '\n' || c = '\r' || c = '\t'

def skipSpace (cs : List Char) : List Char := cs.dropWhile isSpace

/-! ## Strings -/

def hexDigit? (c : Char) : Option Nat :=
  if c.isDigit then some (c.toNat - '0'.toNat)
  else if 'a' ≤ c ∧ c ≤ 'f' then some (c.toNat - 'a'.toNat + 10)
  else if 'A' ≤ c ∧ c ≤ 'F' then some (c.toNat - 'A'.toNat + 10)
  else none

/-- The code unit that four hexadecimal digits write. -/
def readUnit? : List Char → Option (Nat × List Char)
  | a :: b :: c :: d :: rest => do
    let unit := ((← hexDigit? a) * 16 + (← hexDigit? b)) * 256
      + ((← hexDigit? c) * 16 + (← hexDigit? d))
    some (unit, rest)
  | _ => none

/-- The character that one code unit, or a leading and a trailing surrogate, stand for. -/
def readCodePoint? (cs : List Char) : Option (Char × List Char) := do
  let (unit, rest) ← readUnit? cs
  if 0xD800 ≤ unit ∧ unit < 0xDC00 then
    match rest with
    | '\\' :: 'u' :: rest =>
      let (trailing, rest) ← readUnit? rest
      if 0xDC00 ≤ trailing ∧ trailing < 0xE000 then
        some (Char.ofNat (0x10000 + (unit - 0xD800) * 0x400 + (trailing - 0xDC00)), rest)
      else none
    | _ => none
  else if 0xDC00 ≤ unit ∧ unit < 0xE000 then none
  else some (Char.ofNat unit, rest)

/-- The character that an escape stands for, read after its backslash. -/
def readEscape? : List Char → Option (Char × List Char)
  | '"' :: rest => some ('"', rest)
  | '\\' :: rest => some ('\\', rest)
  | '/' :: rest => some ('/', rest)
  | 'b' :: rest => some ('\x08', rest)
  | 'f' :: rest => some ('\x0c', rest)
  | 'n' :: rest => some ('\n', rest)
  | 'r' :: rest => some ('\r', rest)
  | 't' :: rest => some ('\t', rest)
  | 'u' :: rest => readCodePoint? rest
  | _ => none

/-- The rest of a string after its opening quote; `read` holds what came before, backwards. -/
def readString? : Nat → List Char → List Char → Option (String × List Char)
  | 0, _, _ => none
  | _ + 1, _, [] => none
  | _ + 1, read, '"' :: rest => some (String.ofList read.reverse, rest)
  | bound + 1, read, '\\' :: rest => do
    let (c, rest) ← readEscape? rest
    readString? bound (c :: read) rest
  | bound + 1, read, c :: rest =>
    if c.toNat < 0x20 then none else readString? bound (c :: read) rest

/-! ## Numbers -/

def isNumberChar (c : Char) : Bool :=
  c.isDigit || c = '-' || c = '+' || c = '.' || c = 'e' || c = 'E'

/-- An exponent, or nothing. -/
def isExponent : List Char → Bool
  | [] => true
  | e :: rest =>
    (e = 'e' || e = 'E') &&
      (match rest with
        | '+' :: digits => (Text.readNumeral? digits).isSome
        | '-' :: digits => (Text.readNumeral? digits).isSome
        | digits => (Text.readNumeral? digits).isSome)

/-- A fraction, an exponent, both or nothing. -/
def isFraction : List Char → Bool
  | '.' :: rest =>
    !(rest.takeWhile Char.isDigit).isEmpty && isExponent (rest.dropWhile Char.isDigit)
  | rest => isExponent rest

/-- Whether the digits in front of a fraction have no superfluous zero. -/
def isWhole : List Char → Bool
  | [] => false
  | ['0'] => true
  | c :: _ => c != '0'

/-- The number that a complete token writes. -/
def numberOf? (token : List Char) : Option Json :=
  let negative := token.head? == some '-'
  let digits := if negative then token.drop 1 else token
  let whole := digits.takeWhile Char.isDigit
  let fraction := digits.dropWhile Char.isDigit
  let value : Int := Text.numeralValue whole
  if !isWhole whole || !isFraction fraction then none
  else if !fraction.isEmpty || (negative && value == 0) then
    some (decimal (String.ofList token))
  else some (integer (if negative then -value else value))

def readNumber? (cs : List Char) : Option (Json × List Char) :=
  (numberOf? (cs.takeWhile isNumberChar)).map (·, cs.dropWhile isNumberChar)

/-! ## Values -/

mutual

def readValue? : Nat → List Char → Option (Json × List Char)
  | 0, _ => none
  | bound + 1, cs =>
    match skipSpace cs with
    | 'n' :: 'u' :: 'l' :: 'l' :: rest => some (null, rest)
    | 't' :: 'r' :: 'u' :: 'e' :: rest => some (boolean true, rest)
    | 'f' :: 'a' :: 'l' :: 's' :: 'e' :: rest => some (boolean false, rest)
    | '"' :: rest => (readString? bound [] rest).map fun (text, rest) => (string text, rest)
    | '[' :: rest =>
      match skipSpace rest with
      | ']' :: rest => some (array [], rest)
      | rest => (readItems? bound rest).map fun (items, rest) => (array items, rest)
    | '\x7b' :: rest =>
      match skipSpace rest with
      | '\x7d' :: rest => some (object [], rest)
      | rest => (readMembers? bound rest).map fun (members, rest) => (object members, rest)
    | rest => readNumber? rest

/-- One or more items, up to the closing bracket. -/
def readItems? : Nat → List Char → Option (List Json × List Char)
  | 0, _ => none
  | bound + 1, cs => do
    let (item, rest) ← readValue? bound cs
    match skipSpace rest with
    | ']' :: rest => some ([item], rest)
    | ',' :: rest =>
      let (items, rest) ← readItems? bound rest
      some (item :: items, rest)
    | _ => none

/-- One or more members, up to the closing brace. -/
def readMembers? : Nat → List Char → Option (Members × List Char)
  | 0, _ => none
  | bound + 1, cs =>
    match skipSpace cs with
    | '"' :: rest => do
      let (key, rest) ← readString? bound [] rest
      match skipSpace rest with
      | ':' :: rest =>
        let (value, rest) ← readValue? bound rest
        match skipSpace rest with
        | '\x7d' :: rest => some ([(key, value)], rest)
        | ',' :: rest =>
          let (members, rest) ← readMembers? bound rest
          some ((key, value) :: members, rest)
        | _ => none
      | _ => none
    | _ => none

end

/-- Reads one value that fills the whole text, blanks at its ends apart. -/
def read? (text : String) : Option Json :=
  let cs := text.toList
  match readValue? (cs.length + 1) cs with
  | some (value, rest) => if (skipSpace rest).isEmpty then some value else none
  | none => none

end MeshRoutes.Json
