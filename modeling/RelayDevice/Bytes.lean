/-!
# Octet strings

Frames, keys and attribute values are finite lists of octets. This module holds the two
conversions that everything on the wire rests on:

* `Bytes.ofUInt16`, `Bytes.ofUInt32` — the big-endian octets of a word;
* `Bytes.toUInt16`, `Bytes.toUInt32` — the word that big-endian octets spell;
* `Bytes.hex`, `Bytes.ofHexChars?` — two digits per octet, the form in which frames are shown;
* `Bytes.zeroPad` — zeros up to the next multiple of four.

`toUInt16_ofUInt16` and its companions say that reading a written word gives it back,
`ofUInt16_toUInt16` and `ofUInt32_toUInt32` that writing a word that was read does.
-/

namespace RelayDevice

/-- A finite string of octets. -/
abbrev Bytes := List UInt8

namespace Bytes

/-! ### Big-endian words -/

/-- The two octets of a word, the high one first. -/
def ofUInt16 (w : UInt16) : Bytes :=
  [.ofNat (w.toNat / 256), .ofNat (w.toNat % 256)]

/-- The four octets of a word, the high one first. -/
def ofUInt32 (w : UInt32) : Bytes :=
  [.ofNat (w.toNat / 16777216), .ofNat (w.toNat / 65536 % 256), .ofNat (w.toNat / 256 % 256),
    .ofNat (w.toNat % 256)]

/-- The word whose high and low octets are given. -/
def toUInt16 (hi lo : UInt8) : UInt16 :=
  .ofNat (hi.toNat * 256 + lo.toNat)

/-- The word whose four octets are given, the high one first. -/
def toUInt32 (a b c d : UInt8) : UInt32 :=
  .ofNat (a.toNat * 16777216 + b.toNat * 65536 + c.toNat * 256 + d.toNat)

@[simp] theorem length_ofUInt16 (w : UInt16) : (ofUInt16 w).length = 2 := rfl

@[simp] theorem length_ofUInt32 (w : UInt32) : (ofUInt32 w).length = 4 := rfl

theorem toNat_toUInt16 (hi lo : UInt8) :
    (toUInt16 hi lo).toNat = hi.toNat * 256 + lo.toNat := by
  have := hi.toNat_lt
  have := lo.toNat_lt
  simp only [toUInt16, UInt16.toNat_ofNat']
  omega

theorem toUInt16_ofUInt16 (w : UInt16) :
    toUInt16 (.ofNat (w.toNat / 256)) (.ofNat (w.toNat % 256)) = w := by
  have := w.toNat_lt
  apply UInt16.toNat_inj.1
  rw [toNat_toUInt16]
  simp only [UInt8.toNat_ofNat']
  omega

theorem ofUInt16_inj {v w : UInt16} : ofUInt16 v = ofUInt16 w ↔ v = w := by
  constructor
  · intro h
    rw [ofUInt16, ofUInt16, List.cons.injEq, List.cons.injEq] at h
    rw [← toUInt16_ofUInt16 v, h.1, h.2.1, toUInt16_ofUInt16]
  · exact congrArg ofUInt16

theorem ofUInt16_toUInt16 (hi lo : UInt8) : ofUInt16 (toUInt16 hi lo) = [hi, lo] := by
  have := lo.toNat_lt
  have high : (hi.toNat * 256 + lo.toNat) / 256 = hi.toNat := by omega
  have low : (hi.toNat * 256 + lo.toNat) % 256 = lo.toNat := by omega
  rw [ofUInt16, toNat_toUInt16, high, low, UInt8.ofNat_toNat, UInt8.ofNat_toNat]

theorem toUInt32_ofUInt32 (w : UInt32) :
    toUInt32 (.ofNat (w.toNat / 16777216)) (.ofNat (w.toNat / 65536 % 256))
      (.ofNat (w.toNat / 256 % 256)) (.ofNat (w.toNat % 256)) = w := by
  have := w.toNat_lt
  apply UInt32.toNat_inj.1
  simp only [toUInt32, UInt32.toNat_ofNat', UInt8.toNat_ofNat']
  omega

theorem ofUInt32_toUInt32 (a b c d : UInt8) : ofUInt32 (toUInt32 a b c d) = [a, b, c, d] := by
  have := a.toNat_lt
  have := b.toNat_lt
  have := c.toNat_lt
  have := d.toNat_lt
  have word : (toUInt32 a b c d).toNat
      = a.toNat * 16777216 + b.toNat * 65536 + c.toNat * 256 + d.toNat := by
    simp only [toUInt32, UInt32.toNat_ofNat']
    omega
  have first : (toUInt32 a b c d).toNat / 16777216 = a.toNat := by omega
  have second : (toUInt32 a b c d).toNat / 65536 % 256 = b.toNat := by omega
  have third : (toUInt32 a b c d).toNat / 256 % 256 = c.toNat := by omega
  have fourth : (toUInt32 a b c d).toNat % 256 = d.toNat := by omega
  rw [ofUInt32, first, second, third, fourth, UInt8.ofNat_toNat, UInt8.ofNat_toNat,
    UInt8.ofNat_toNat, UInt8.ofNat_toNat]

/-! ### Hexadecimal text -/

/-- The lowercase digit of a value below sixteen. -/
def hexDigit (n : Nat) : Char :=
  if n < 10 then Char.ofNat (48 + n) else Char.ofNat (87 + n)

/-- The two digits of an octet. -/
def hexPair (b : UInt8) : List Char :=
  [hexDigit (b.toNat / 16), hexDigit (b.toNat % 16)]

/-- Two lowercase digits per octet. -/
def hex (bs : Bytes) : String :=
  String.ofList (bs.flatMap hexPair)

/-- The value of a hexadecimal digit of either case. -/
def hexValue? (c : Char) : Option Nat :=
  let n := c.toNat
  if 48 ≤ n ∧ n ≤ 57 then some (n - 48)
  else if 97 ≤ n ∧ n ≤ 102 then some (n - 87)
  else if 65 ≤ n ∧ n ≤ 70 then some (n - 55)
  else none

/-- The octets spelled by pairs of hexadecimal digits of either case. -/
def ofHexChars? : List Char → Option Bytes
  | [] => some []
  | a :: b :: rest => do
    let high ← hexValue? a
    let low ← hexValue? b
    let bs ← ofHexChars? rest
    return .ofNat (high * 16 + low) :: bs
  | [_] => none

/-! ### Padding to four -/

/-- The least multiple of four that is at least `n`. -/
def padded (n : Nat) : Nat :=
  (n + 3) / 4 * 4

theorem le_padded (n : Nat) : n ≤ padded n := by
  simp only [padded]
  omega

/-- Extends octets with zeros to the next multiple of four. -/
def zeroPad (bs : Bytes) : Bytes :=
  bs ++ List.replicate (padded bs.length - bs.length) 0

@[simp] theorem length_zeroPad (bs : Bytes) : (zeroPad bs).length = padded bs.length := by
  have := le_padded bs.length
  simp only [zeroPad, List.length_append, List.length_replicate]
  omega

end Bytes

end RelayDevice
