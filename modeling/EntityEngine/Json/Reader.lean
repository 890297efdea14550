import EntityEngine.Json.Value

/-!
# Reading JSON

A reader of JSON text over its list of characters. An integer that fits the signed
or the unsigned 64-bit range stays an integer; a number with a point or an
exponent, one out of range, and a negative zero become floating point numbers. The
last member of a key wins. Each reading function takes a bound on its own depth of
recursion, and `read?` gives the length of the text, which always suffices.
-/

namespace EntityEngine.Json

def isBlank (c : Char) : Bool := c == ' ' || c == '\n' || c == '\t' || c == '\r'

def skipBlanks (cs : List Char) : List Char := cs.dropWhile isBlank

def digitValue (c : Char) : Nat := c.toNat - '0'.toNat

def hexDigit? (c : Char) : Option Nat :=
  if '0' ≤ c && c ≤ '9' then some (c.toNat - '0'.toNat)
  else if 'a' ≤ c && c ≤ 'f' then some (c.toNat - 'a'.toNat + 10)
  else if 'A' ≤ c && c ≤ 'F' then some (c.toNat - 'A'.toNat + 10)
  else none

def fourHex? : List Char → Option (Nat × List Char)
  | a :: b :: c :: d :: rest => do
    let a ← hexDigit? a
    let b ← hexDigit? b
    let c ← hexDigit? c
    let d ← hexDigit? d
    some (((a * 16 + b) * 16 + c) * 16 + d, rest)
  | _ => none

/-- The character of a `\u` escape; code points beyond the first plane come as a
pair of surrogates, and a surrogate alone is refused. -/
def unicodeEscape? (cs : List Char) : Option (Char × List Char) := do
  let (unit, rest) ← fourHex? cs
  if 0xD800 ≤ unit ∧ unit < 0xDC00 then
    match rest with
    | '\\' :: 'u' :: rest =>
      let (low, rest) ← fourHex? rest
      if 0xDC00 ≤ low ∧ low < 0xE000 then
        some (Char.ofNat (0x10000 + (unit - 0xD800) * 0x400 + (low - 0xDC00)), rest)
      else none
    | _ => none
  else if 0xDC00 ≤ unit ∧ unit < 0xE000 then none
  else some (Char.ofNat unit, rest)

def escape? : List Char → Option (Char × List Char)
  | '"' :: rest => some ('"', rest)
  | '\\' :: rest => some ('\\', rest)
  | '/' :: rest => some ('/', rest)
  | 'b' :: rest => some ('\x08', rest)
  | 'f' :: rest => some ('\x0c', rest)
  | 'n' :: rest => some ('\n', rest)
  | 'r' :: rest => some ('\r', rest)
  | 't' :: rest => some ('\t', rest)
  | 'u' :: rest => unicodeEscape? rest
  | _ => none

/-- The rest of a string after its opening quote; `seen` holds the characters so
far, latest first. -/
def stringRest? (seen : List Char) : (depth : Nat) → List Char → Option (String × List Char)
  | 0, _ => none
  | _, [] => none
  | _ + 1, '"' :: rest => some (String.ofList seen.reverse, rest)
  | depth + 1, '\\' :: rest => do
    let (c, rest) ← escape? rest
    stringRest? (c :: seen) depth rest
  | depth + 1, c :: rest =>
    if c.toNat < 0x20 then none else stringRest? (c :: seen) depth rest

/-- A significand of at most 64 bits with the power of ten it is scaled by. -/
structure Scaled where
  significand : Nat
  power : Int

def Scaled.append? (s : Scaled) (digit : Char) : Option Nat :=
  let grown := s.significand * 10 + digitValue digit
  if grown < Nat.pow 2 64 then some grown else none

/-- Take in the digits before the point. From the first digit that does not fit on,
each digit only raises the power. -/
def Scaled.wholeDigits (s : Scaled) : List Char → Scaled
  | [] => s
  | digit :: rest =>
    match s.append? digit with
    | some grown => wholeDigits ⟨grown, s.power⟩ rest
    | none => ⟨s.significand, s.power + (rest.length + 1)⟩

/-- Take in the digits after the point. The first digit that does not fit ends it. -/
def Scaled.fractionDigits (s : Scaled) : List Char → Scaled
  | [] => s
  | digit :: rest =>
    match s.append? digit with
    | some grown => fractionDigits ⟨grown, s.power - 1⟩ rest
    | none => s

/-- The digits before the point: a zero alone, or digits that do not begin with one. -/
def wholePart? (cs : List Char) : Option (List Char × List Char) :=
  match cs with
  | '0' :: rest => if rest.head?.any Char.isDigit then none else some (['0'], rest)
  | cs =>
    let digits := cs.takeWhile Char.isDigit
    if digits.isEmpty then none else some (digits, cs.dropWhile Char.isDigit)

def fractionPart? : List Char → Option (Option (List Char) × List Char)
  | '.' :: rest =>
    let digits := rest.takeWhile Char.isDigit
    if digits.isEmpty then none else some (some digits, rest.dropWhile Char.isDigit)
  | rest => some (none, rest)

def exponentDigits? (negative : Bool) (cs : List Char) : Option (Option Int × List Char) :=
  let digits := cs.takeWhile Char.isDigit
  if digits.isEmpty then none
  else
    let size : Int := (digits.foldl (fun n c => n * 10 + digitValue c) 0 : Nat)
    some (some (if negative then -size else size), cs.dropWhile Char.isDigit)

def exponentPart? : List Char → Option (Option Int × List Char)
  | c :: rest =>
    if c == 'e' || c == 'E' then
      match rest with
      | '-' :: rest => exponentDigits? true rest
      | '+' :: rest => exponentDigits? false rest
      | rest => exponentDigits? false rest
    else some (none, c :: rest)
  | [] => some (none, [])

def numberOf? (negative : Bool) (whole : List Char) (fraction : Option (List Char))
    (exponent : Option Int) : Option Number :=
  let read := Scaled.wholeDigits ⟨0, 0⟩ whole
  let isWhole := fraction.isNone && exponent.isNone && read.power == 0
  let value : Int := if negative then -read.significand else read.significand
  if isWhole && -Int.pow 2 63 ≤ value && !(negative && read.significand == 0) then
    some (.integer value)
  else do
    let scaled := read.fractionDigits (fraction.getD [])
    let x ← Binary64.ofDecimal? (UInt64.ofNat scaled.significand)
      (scaled.power + exponent.getD 0)
    some (.float (if negative then x.negate else x))

def number? (cs : List Char) : Option (Json × List Char) := do
  let (negative, cs) := match cs with
    | '-' :: rest => (true, rest)
    | cs => (false, cs)
  let (whole, cs) ← wholePart? cs
  let (fraction, cs) ← fractionPart? cs
  let (exponent, cs) ← exponentPart? cs
  let n ← numberOf? negative whole fraction exponent
  some (number n, cs)

mutual

def value? : (depth : Nat) → List Char → Option (Json × List Char)
  | 0, _ => none
  | depth + 1, cs =>
    match skipBlanks cs with
    | 'n' :: 'u' :: 'l' :: 'l' :: rest => some (null, rest)
    | 't' :: 'r' :: 'u' :: 'e' :: rest => some (bool true, rest)
    | 'f' :: 'a' :: 'l' :: 's' :: 'e' :: rest => some (bool false, rest)
    | '"' :: rest => do
      let (text, rest) ← stringRest? [] rest.length rest
      some (string text, rest)
    | '[' :: rest =>
      match skipBlanks rest with
      | ']' :: rest => some (array [], rest)
      | rest => do
        let (items, rest) ← items? depth rest
        some (array items, rest)
    | '\x7b' :: rest =>
      match skipBlanks rest with
      | '\x7d' :: rest => some (object [], rest)
      | rest => do
        let (members, rest) ← members? depth rest
        some (ofMembers members, rest)
    | cs => number? cs

def items? : (depth : Nat) → List Char → Option (List Json × List Char)
  | 0, _ => none
  | depth + 1, cs => do
    let (item, rest) ← value? depth cs
    match skipBlanks rest with
    | ',' :: rest =>
      let (items, rest) ← items? depth rest
      some (item :: items, rest)
    | ']' :: rest => some ([item], rest)
    | _ => none

def members? : (depth : Nat) → List Char → Option (List (String × Json) × List Char)
  | 0, _ => none
  | depth + 1, cs =>
    match skipBlanks cs with
    | '"' :: rest => do
      let (key, rest) ← stringRest? [] rest.length rest
      match skipBlanks rest with
      | ':' :: rest =>
        let (value, rest) ← value? depth rest
        match skipBlanks rest with
        | ',' :: rest =>
          let (members, rest) ← members? depth rest
          some ((key, value) :: members, rest)
        | '\x7d' :: rest => some ([(key, value)], rest)
        | _ => none
      | _ => none
    | _ => none

end

/-- The value that a text holds, with nothing but blanks around it. -/
def read? (text : String) : Option Json := do
  let cs := text.toList
  let (value, rest) ← value? (cs.length + 1) cs
  if (skipBlanks rest).isEmpty then some value else none

end EntityEngine.Json
