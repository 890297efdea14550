/-!
# Places at the end of a reason

A reason may end with the line and column of a document that it is about, as in
`unexpected end at line 3 column 14`. Such a place is taken out of the text and
written behind it again, its numbers without leading zeros; line zero stands for no
place at all and is left out. Only the last place counts, and only at the very end.
-/

namespace EntityEngine.Text

structure Place where
  line : Nat
  column : Nat
deriving DecidableEq

namespace Place

def lineMark : List Char := [' ', 'a', 't', ' ', 'l', 'i', 'n', 'e', ' ']

def columnMark : List Char := [' ', 'c', 'o', 'l', 'u', 'm', 'n', ' ']

def after? (mark cs : List Char) : Option (List Char) :=
  if mark.isPrefixOf cs then some (cs.drop mark.length) else none

/-- What stands before and behind the last mark. -/
def splitLast? (mark : List Char) : List Char → Option (List Char × List Char)
  | [] => none
  | c :: cs =>
    match splitLast? mark cs with
    | some (before, behind) => some (c :: before, behind)
    | none => (after? mark (c :: cs)).map fun behind => ([], behind)

def number? (digits : List Char) : Option Nat :=
  if digits.isEmpty then none
  else
    let n := Nat.ofDigitChars 10 digits 0
    if n < UInt64.size then some n else none

/-- A place behind its first mark: a line, the other mark, and a column that ends the
text. -/
def read? (cs : List Char) : Option Place := do
  let column ← after? columnMark (cs.dropWhile Char.isDigit)
  if column.all Char.isDigit then
    return ⟨← number? (cs.takeWhile Char.isDigit), ← number? column⟩
  else none

def ofReason? (cs : List Char) : Option (List Char × Place) := do
  let (reason, rest) ← splitLast? lineMark cs
  return (reason, ← read? rest)

/-- The place as it is written behind a reason; line zero is no place. -/
def text (p : Place) : List Char :=
  if p.line = 0 then []
  else lineMark ++ Nat.toDigits 10 p.line ++ columnMark ++ Nat.toDigits 10 p.column

end Place

/-- A reason with the place at its end in its plain form. -/
def withPlainPlace (reason : String) : String :=
  match Place.ofReason? reason.toList with
  | some (reason, place) => String.ofList (reason ++ place.text)
  | none => reason

end EntityEngine.Text
