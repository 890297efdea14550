import EntityEngine.Json.Reader

/-!
# Universally unique identifiers

A UUID is its 32 hexadecimal digits. It is written in groups of 8, 4, 4, 4 and 12
lower-case digits joined by hyphens. It is read in that form, without the hyphens,
in braces, or after `urn:uuid:`, with letters of either case.
-/

namespace EntityEngine

structure Uuid where
  digits : List (Fin 16)
  length_digits : digits.length = 32
deriving DecidableEq

namespace Uuid

def digitChar (d : Fin 16) : Char := Nat.digitChar d.val

/-- The 32 digits of a number below `2 ^ 128`, the highest first. -/
def ofNat (n : Nat) : Uuid :=
  ⟨(List.range 32).reverse.map fun place => Fin.ofNat 16 (n / Nat.pow 16 place), by simp⟩

/-- Join digits into the five groups. -/
def hyphenate (cs : List Char) : List Char :=
  cs.take 8 ++ '-' :: (cs.drop 8).take 4 ++ '-' :: (cs.drop 12).take 4 ++
    '-' :: (cs.drop 16).take 4 ++ '-' :: cs.drop 20

def text (u : Uuid) : String := String.ofList (hyphenate (u.digits.map digitChar))

instance : ToString Uuid := ⟨text⟩

def digit? (c : Char) : Option (Fin 16) := (Json.hexDigit? c).map (Fin.ofNat 16)

def ofDigits? (cs : List Char) : Option Uuid := do
  let digits ← cs.mapM digit?
  if h : digits.length = 32 then some ⟨digits, h⟩ else none

/-- The five groups with their hyphens, 36 characters in all. -/
def ofGroups? (cs : List Char) : Option Uuid :=
  let plain := cs.take 8 ++ (cs.drop 9).take 4 ++ (cs.drop 14).take 4 ++
    (cs.drop 19).take 4 ++ cs.drop 24
  if cs.length = 36 ∧ hyphenate plain = cs then ofDigits? plain else none

/-- What may stand before the groups, in lower case. -/
def marker : List Char := ['u', 'r', 'n', ':', 'u', 'u', 'i', 'd', ':']

def ofString? (text : String) : Option Uuid :=
  match text.toList with
  | '\x7b' :: rest =>
    if rest.getLast? = some '\x7d' then ofGroups? rest.dropLast else none
  | cs =>
    if (cs.take marker.length).map Char.toLower = marker then ofGroups? (cs.drop marker.length)
    else if cs.length = 32 then ofDigits? cs
    else ofGroups? cs

end Uuid

end EntityEngine
