import EntityEngine.Text.Printable

/-!
# Values as people see them

Text between double quotes: a quote, a backslash and the usual controls get a
backslash, a character that does not show on its own is written as `\u` with its
code point in braces, and everything else stands for itself. A value with named
parts is shown by its name and its fields in braces, an option as `Some(..)` or
`None`, a sequence in brackets.
-/

namespace EntityEngine.Text

def lowerHexDigits (n : Nat) : List Char := Nat.toDigits 16 n

/-- One character inside quotes. -/
def quotedChar (c : Char) : List Char :=
  match c with
  | '\x00' => ['\\', '0']
  | '\t' => ['\\', 't']
  | '\r' => ['\\', 'r']
  | '\n' => ['\\', 'n']
  | '"' => ['\\', '"']
  | '\\' => ['\\', '\\']
  | c => if isPrintable c then [c] else '\\' :: 'u' :: '\x7b' :: lowerHexDigits c.toNat ++ ['\x7d']

def quoted (text : String) : String :=
  String.ofList ('"' :: text.toList.flatMap quotedChar ++ ['"'])

/-- The fields of a record, joined. -/
def fieldsText (fields : List (String × String)) : String :=
  ", ".intercalate (fields.map fun field => field.1 ++ ": " ++ field.2)

def recordText (name : String) (fields : List (String × String)) : String :=
  name ++ " \x7b " ++ fieldsText fields ++ " \x7d"

/-- A record that has more fields than are shown. -/
def partialRecordText (name : String) (fields : List (String × String)) : String :=
  name ++ " \x7b " ++ fieldsText fields ++ ", .. \x7d"

def optionText : Option String → String
  | some text => "Some(" ++ text ++ ")"
  | none => "None"

def boolText (b : Bool) : String := if b then "true" else "false"

def listText (items : List String) : String := "[" ++ ", ".intercalate items ++ "]"

def mapText (entries : List (String × String)) : String :=
  "\x7b" ++ fieldsText entries ++ "\x7d"

end EntityEngine.Text
