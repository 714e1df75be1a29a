import RelayDevice.Bytes

/-!
# Device identities

A device is known by an identity of sixteen octets.

* `Uuid.text` — the form with hyphens in lowercase;
* `Uuid.ofText?` — reads that form, also between braces or behind its name space, and thirty-two
  plain digits, in letters of either case;
* `Uuid.ofBytes?` — the identity that exactly sixteen octets spell.
-/

namespace RelayDevice

/-- An identity of sixteen octets. -/
structure Uuid where
  /-- The octets in wire order. -/
  octets : Bytes
  /-- There are exactly sixteen. -/
  length_eq : octets.length = 16
deriving DecidableEq

namespace Uuid

instance : Inhabited Uuid := ⟨⟨List.replicate 16 0, rfl⟩⟩

/-- The identity that exactly sixteen octets spell. -/
def ofBytes? (bs : Bytes) : Option Uuid :=
  if h : bs.length = 16 then some ⟨bs, h⟩ else none

@[simp] theorem ofBytes?_octets (u : Uuid) : ofBytes? u.octets = some u := by
  simp [ofBytes?, u.length_eq]

/-- The lowercase form in five groups. -/
def text (u : Uuid) : String :=
  let group (start count : Nat) := Bytes.hex ((u.octets.drop start).take count)
  group 0 4 ++ "-" ++ group 4 2 ++ "-" ++ group 6 2 ++ "-" ++ group 8 2 ++ "-" ++ group 10 6

/-- Reads thirty-two digits. -/
def ofDigits? (digits : List Char) : Option Uuid :=
  Bytes.ofHexChars? digits >>= ofBytes?

/-- Reads five groups of digits with hyphens between them. -/
def ofGroups? (cs : List Char) : Option Uuid :=
  if cs.length = 36 ∧ [8, 13, 18, 23].all (fun i => cs[i]? == some '-') then
    ofDigits? (cs.take 8 ++ (cs.drop 9).take 4 ++ (cs.drop 14).take 4 ++ (cs.drop 19).take 4
      ++ cs.drop 24)
  else none

/-- Reads any of the written forms. -/
def ofText? (s : String) : Option Uuid :=
  let cs := s.toList
  if cs.length = 32 then ofDigits? cs
  else if cs.length = 38 ∧ cs.head? = some '\x7b' ∧ cs.getLast? = some '\x7d' then
    ofGroups? ((cs.drop 1).take 36)
  else if cs.length = 45 ∧ (cs.take 9).map Char.toLower = "urn:uuid:".toList then
    ofGroups? (cs.drop 9)
  else ofGroups? cs

/-- Order of identities by their text. -/
def le (a b : Uuid) : Bool := a.text ≤ b.text

end Uuid

end RelayDevice
