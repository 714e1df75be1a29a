import RelayDevice.Bytes
import RelayDevice.Text.Blank
import RelayDevice.Text.Utf8

/-!
# Hexadecimal text

Octets as a person writes them: pairs of digits of either case, with blanks anywhere and one marker
`0x` in front.

* `Hexadecimal.bare` — the digits without blanks and marker;
* `Hexadecimal.readPairs` — the octets of digits;
* `Hexadecimal.read` — the octets of a text.

Digits are counted in octets of UTF-8, two to a pair. A pair may also be a plus sign and one digit.
Characters of other scripts take up several octets, so a pair can end in the middle of one; such a
text cannot be cut into pairs at all.
-/

namespace RelayDevice

/-- Why a text is not hexadecimal. -/
inductive HexError
  | oddLength
  | notDigits (offset : Nat)
  | splitCharacter (offset : Nat)
deriving DecidableEq, Repr

/-- The text of a complaint about hexadecimal text. -/
def HexError.text : HexError → String
  | oddLength => "odd number of hex digits"
  | notDigits offset => s!"invalid hex at offset {offset}"
  | splitCharacter offset => s!"character split at offset {offset}"

namespace Hexadecimal

/-- Removes one marker from the front. -/
def unmarked : List Char → List Char
  | '0' :: 'x' :: rest => rest
  | cs => cs

/-- The digits of a text without blanks and marker. -/
def bare (s : String) : List Char := unmarked (s.toList.filter (!isBlank ·))

/-- The value of a pair of digits. -/
def pairValue? (a b : Char) : Option UInt8 :=
  match Bytes.hexValue? b with
  | none => none
  | some low =>
    if a = '+' then some (.ofNat low)
    else (Bytes.hexValue? a).map fun high => .ofNat (high * 16 + low)

/-- The octets of digits, the first of which stands at `offset`. -/
def readPairs (offset : Nat) : List Char → Except HexError Bytes
  | [] => .ok []
  | a :: rest =>
    if a.utf8Size = 1 then
      match rest with
      | [] => .error .oddLength
      | b :: rest =>
        if b.utf8Size = 1 then
          match pairValue? a b with
          | none => .error (.notDigits offset)
          | some octet => (readPairs (offset + 2) rest).map (octet :: ·)
        else .error (.splitCharacter offset)
    else if a.utf8Size = 2 then .error (.notDigits offset)
    else .error (.splitCharacter offset)

/-- The octets of a text. -/
def read (s : String) : Except HexError Bytes :=
  let digits := bare s
  if Utf8.size digits % 2 = 1 then .error .oddLength else readPairs 0 digits

end Hexadecimal

end RelayDevice
