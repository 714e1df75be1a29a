import RelayDevice.Bytes

/-!
# Octets in base 64

Each three octets are written as four letters. The last group may be short, with or without equals
signs in place of what is missing, and spends no bit in vain.

* `Base64.decode?` — the octets that letters stand for;
* `Base64.fault` — what is wrong with letters that stand for none;
* `Base64.decode` — both together.
-/

namespace RelayDevice

/-- What is wrong with letters that stand for no octets. -/
inductive Base64Error
  | invalid (octet : UInt8) (offset : Nat)
  | oddLetter
  | wasteful (octet : UInt8) (offset : Nat)
deriving DecidableEq, Repr

/-- The text of a complaint about letters. -/
def Base64Error.text : Base64Error → String
  | invalid octet offset => s!"Invalid byte {octet}, offset {offset}."
  | oddLetter => "Encoded text cannot have a 6-bit remainder."
  | wasteful octet offset => s!"Invalid last symbol {octet}, offset {offset}."

namespace Base64

/-- The value of a letter. -/
def value? (c : UInt8) : Option Nat :=
  let n := c.toNat
  if 65 ≤ n ∧ n ≤ 90 then some (n - 65)
  else if 97 ≤ n ∧ n ≤ 122 then some (n - 71)
  else if 48 ≤ n ∧ n ≤ 57 then some (n + 4)
  else if n = 43 then some 62
  else if n = 47 then some 63
  else none

/-- The mark in place of a missing letter. -/
def padding : UInt8 := 61

/-- The octets of a short last group of two or three letters. -/
def lastGroup (a b : Nat) (c : Option Nat) : Option Bytes :=
  match c with
  | none => if b % 16 = 0 then some [.ofNat (a * 4 + b / 16)] else none
  | some c =>
    if c % 4 = 0 then some [.ofNat (a * 4 + b / 16), .ofNat (b % 16 * 16 + c / 4)] else none

/-- Reads groups of four letters and a last one that may be short. -/
def decode? : Bytes → Option Bytes
  | [] => some []
  | [_] => none
  | [a, b] => do lastGroup (← value? a) (← value? b) none
  | [a, b, c] =>
    if c = padding then do lastGroup (← value? a) (← value? b) none
    else do lastGroup (← value? a) (← value? b) (some (← value? c))
  | a :: b :: c :: d :: rest =>
    if d = padding then
      if !rest.isEmpty then none
      else if c = padding then do lastGroup (← value? a) (← value? b) none
      else do lastGroup (← value? a) (← value? b) (some (← value? c))
    else do
      let a ← value? a
      let b ← value? b
      let c ← value? c
      let d ← value? d
      let bs ← decode? rest
      return .ofNat (a * 4 + b / 16) :: .ofNat (b % 16 * 16 + c / 4)
        :: .ofNat (c % 4 * 64 + d) :: bs

/-! ### Faults -/

/-- Where letters stop to make sense. Equals signs may only stand behind `limit`, and there in the
second half of a group; `sign` is where the first of them stood, which is to blame for all that
follows. -/
def misplaced (limit : Nat) : Nat → Option Nat → Bytes → Option Nat
  | _, _, [] => none
  | i, sign, c :: rest =>
    if c = padding then
      if i < limit then some i
      else if i % 4 < 2 then some (sign.getD i)
      else misplaced limit (i + 1) (some (sign.getD i)) rest
    else if sign.isSome then sign
    else if (value? c).isNone then some i
    else misplaced limit (i + 1) none rest

/-- What is wrong with letters. A lone last letter comes first, unless it is none. -/
def fault (letters : Bytes) : Base64Error :=
  let last := letters.getLastD padding
  if letters.length % 4 = 1 then
    if last ≠ padding ∧ (value? last).isNone then .invalid last (letters.length - 1) else .oddLetter
  else
    match misplaced ((letters.length - 1) / 8 * 8) 0 none letters with
    | some i => .invalid (letters.getD i padding) i
    | none =>
      let proper := letters.filter (· ≠ padding)
      .wasteful (proper.getLastD padding) (proper.length - 1)

/-- The octets that letters stand for, or what is wrong with them. -/
def decode (letters : Bytes) : Except Base64Error Bytes :=
  match decode? letters with
  | some octets => .ok octets
  | none => .error (fault letters)

end Base64

end RelayDevice
