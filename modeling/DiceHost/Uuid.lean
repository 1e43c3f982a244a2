/-
Universally unique identifiers and their written forms.

* `Uuid`: a 128-bit identifier;
* `Uuid.text`: the hyphenated lower-case form;
* `Uuid.parse?`: the readings of the hyphenated, plain, braced and urn forms.
-/
import DiceHost.Json.Record
import DiceHost.Text.Blank

namespace DiceHost

/-- A 128-bit identifier. -/
structure Uuid where
  value : BitVec 128
deriving DecidableEq, Hashable, Repr, Inhabited

namespace Uuid

/-- The identifier with a given number. -/
def ofNat (n : Nat) : Uuid := ⟨BitVec.ofNat 128 n⟩

/-- The identifier zero. -/
def nil : Uuid := ofNat 0

/-- Thirty-two digits in groups of eight, four, four, four and twelve. -/
def hyphenate (ds : List Char) : List Char :=
  ds.take 8 ++ '-' :: (ds.drop 8).take 4 ++ '-' :: (ds.drop 12).take 4
    ++ '-' :: (ds.drop 16).take 4 ++ '-' :: ds.drop 20

/-- The hyphenated form in lower case. -/
def text (u : Uuid) : String :=
  String.ofList (hyphenate (Text.Hex.lower 32 u.value.toNat))

/-- The number of exactly thirty-two digits. -/
def ofDigits? (ds : List Char) : Option Uuid :=
  if ds.length = 32 then (Text.Hex.nat? ds).map ofNat else none

/-- The hyphenated form in either case: hyphens at four places and nowhere else. -/
def ofHyphenated? (cs : List Char) : Option Uuid :=
  let hyphens := [8, 13, 18, 23]
  if cs.length = 36 ∧ hyphens.all (fun i => cs[i]? = some '-') then
    ofDigits? (cs.take 8 ++ (cs.drop 9).take 4 ++ (cs.drop 14).take 4
      ++ (cs.drop 19).take 4 ++ cs.drop 24)
  else none

/-- An identifier in any of its forms, told apart by their lengths. -/
def parse? (s : String) : Option Uuid :=
  let cs := s.toList
  match cs.length with
  | 32 => ofDigits? cs
  | 36 => ofHyphenated? cs
  | 38 =>
    if cs.head? = some '\x7b' ∧ cs.getLast? = some '\x7d' then
      ofHyphenated? (cs.tail.dropLast)
    else none
  | 45 => (Text.stripPrefix? "urn:uuid:".toList cs).bind ofHyphenated?
  | _ => none

/-- An identifier as a string. -/
def toJson (u : Uuid) : Json := .str u.text

/-- An identifier from a string. -/
def decode : Json.Decoder Uuid := Json.Decoder.text parse?

end Uuid

end DiceHost
