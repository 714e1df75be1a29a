/-!
# Whole numbers in decimal

* `Whole.natural?` — a number without a sign or with a plus sign;
* `Whole.integer?` — a number with either sign or none;
* `Whole.word16?` — a number of sixteen bits.
-/

namespace RelayDevice

namespace Whole

/-- Reads digits, of which there must be at least one. -/
def digits? (cs : List Char) : Option Nat :=
  if cs.isEmpty || !cs.all Char.isDigit then none
  else some (cs.foldl (fun n c => n * 10 + (c.toNat - 48)) 0)

/-- Reads a number without a sign or with a plus sign. -/
def natural? (s : String) : Option Nat :=
  match s.toList with
  | '+' :: rest => digits? rest
  | cs => digits? cs

/-- Reads a number with either sign or none. -/
def integer? (s : String) : Option Int :=
  match s.toList with
  | '-' :: rest => (digits? rest).map fun n => -(n : Int)
  | _ => (natural? s).map fun n => (n : Int)

/-- Reads a number of sixteen bits without a sign or with a plus sign. -/
def word16? (s : String) : Option UInt16 :=
  ((natural? s).filter (· < 65536)).map .ofNat

end Whole

end RelayDevice
