import RelayDevice.Toml.Text
import RelayDevice.Toml.Value

/-!
# TOML numbers, dates and times

* `Toml.digits` — digits, of which underscores may separate any two;
* `Toml.integer` — whole numbers of 64 bits with a sign, and of other bases behind a marker;
* `Toml.decimal` — decimal whole numbers and floats; a float that rounds to positive infinity is
  refused, infinity is written by its name;
* `Toml.instant` — dates, times of day, and both together, with or without an offset.
-/

namespace RelayDevice

namespace Toml

/-! ### Digits -/

/-- Reads the digits behind a first one. A separating underscore stands between two digits. -/
def moreDigits (accept : Char → Bool) : Scan (List Char)
  | '_' :: c :: rest =>
    if accept c then (moreDigits accept rest).map fun (cs, rest) => (c :: cs, rest) else none
  | c :: rest =>
    if c = '_' then none
    else if accept c then (moreDigits accept rest).map fun (cs, rest) => (c :: cs, rest)
    else some ([], c :: rest)
  | [] => some ([], [])

/-- Reads at least one digit. -/
def digits (accept : Char → Bool) : Scan (List Char)
  | c :: rest =>
    if accept c then (moreDigits accept rest).map fun (cs, rest) => (c :: cs, rest) else none
  | [] => none

/-- The number that digits spell in a base. -/
def number (base : Nat) (cs : List Char) : Nat :=
  cs.foldl (fun n c => n * base + ((hexNumber [c]).getD 0)) 0

/-- Splits off a sign, and tells whether it is a minus. -/
def sign : List Char → Bool × List Char
  | '-' :: rest => (true, rest)
  | '+' :: rest => (false, rest)
  | rest => (false, rest)

/-! ### Whole numbers and floats -/

/-- A whole number, if 64 bits with a sign hold it. -/
def ofInt? (n : Int) : Option Toml :=
  if -9223372036854775808 ≤ n ∧ n ≤ 9223372036854775807 then some (integer n) else none

/-- Reads a whole number of another base behind its marker. -/
def based (base : Nat) (accept : Char → Bool) (s : List Char) : Option (Toml × List Char) := do
  let (cs, rest) ← digits accept s
  let value ← ofInt? (number base cs)
  return (value, rest)

/-- Reads the digits of a decimal number, which has no leading zeros. -/
def leadingDigits : Scan (List Char)
  | '0' :: rest => some (['0'], rest)
  | s => digits Char.isDigit s

/-- Reads an exponent behind its letter. -/
def exponent (s : List Char) : Option (Int × List Char) := do
  let (negative, s) := sign s
  let (cs, rest) ← digits Char.isDigit s
  let n : Int := number 10 cs
  return (if negative then -n else n, rest)

/-- Whether a positive decimal, `m * 10 ^ e`, rounds to infinity in 64 bits: it is at least half a
step beyond the greatest finite float. The count of digits settles all but the close cases. -/
def overflows (m : Nat) (e : Int) : Bool :=
  let size : Int := (Nat.toDigits 10 m).length + e
  let bound := Nat.pow 2 1024 - Nat.pow 2 970
  if m = 0 ∨ size < 308 then false
  else if 310 < size then true
  else bound * Nat.pow 10 (-e).toNat ≤ m * Nat.pow 10 e.toNat

/-- A float with the given sign, digits before and behind the point, and exponent. -/
def ofFloat? (negative : Bool) (whole fraction : List Char) (e : Int) : Option Toml :=
  if !negative && overflows (number 10 (whole ++ fraction)) (e - fraction.length) then none
  else some float

/-- Reads what may follow the digits before the point, which makes the number a float. -/
def floatTail (negative : Bool) (whole : List Char) : Scan Toml
  | '.' :: s => do
    let (fraction, s) ← digits Char.isDigit s
    let (e, s) ← match s with
      | 'e' :: s | 'E' :: s => exponent s
      | s => some (0, s)
    let value ← ofFloat? negative whole fraction e
    return (value, s)
  | 'e' :: s | 'E' :: s => do
    let (e, s) ← exponent s
    let value ← ofFloat? negative whole [] e
    return (value, s)
  | s => do
    let n : Int := number 10 whole
    let value ← ofInt? (if negative then -n else n)
    return (value, s)

/-- Reads a decimal number, or a float by its name. -/
def decimal (s : List Char) : Option (Toml × List Char) :=
  let (negative, s) := sign s
  match s with
  | 'i' :: 'n' :: 'f' :: rest | 'n' :: 'a' :: 'n' :: rest => some (float, rest)
  | s => do
    let (whole, s) ← leadingDigits s
    floatTail negative whole s

/-- Whether a character is a hexadecimal digit. -/
def isHexDigit (c : Char) : Bool := (hexNumber [c]).isSome

/-! ### Dates and times -/

/-- Reads a number of exactly `count` digits within bounds. -/
def field (count low high : Nat) (s : List Char) : Option (Nat × List Char) :=
  let cs := s.take count
  let n := number 10 cs
  if cs.length = count ∧ cs.all Char.isDigit ∧ low ≤ n ∧ n ≤ high then some (n, s.drop count)
  else none

/-- Reads a certain character. -/
def mark (c : Char) : Scan Unit
  | d :: rest => if c = d then some ((), rest) else none
  | [] => none

/-- The length of a month. -/
def daysInMonth (year month : Nat) : Nat :=
  if month = 2 then
    if year % 4 = 0 ∧ (year % 100 ≠ 0 ∨ year % 400 = 0) then 29 else 28
  else if month = 4 ∨ month = 6 ∨ month = 9 ∨ month = 11 then 30
  else 31

/-- Reads a date. -/
def date (s : List Char) : Option (Unit × List Char) := do
  let (year, s) ← field 4 0 9999 s
  let (_, s) ← mark '-' s
  let (month, s) ← field 2 1 12 s
  let (_, s) ← mark '-' s
  let (_, s) ← field 2 1 (daysInMonth year month) s
  return ((), s)

/-- Reads a time of day. A second may be a leap second. -/
def timeOfDay (s : List Char) : Option (Unit × List Char) := do
  let (_, s) ← field 2 0 23 s
  let (_, s) ← mark ':' s
  let (_, s) ← field 2 0 59 s
  let (_, s) ← mark ':' s
  let (_, s) ← field 2 0 60 s
  match s with
  | '.' :: s =>
    let fraction := s.takeWhile Char.isDigit
    if fraction.isEmpty then none else some ((), s.dropWhile Char.isDigit)
  | s => some ((), s)

/-- Reads an offset, if there is one. -/
def offset : Scan Unit
  | 'Z' :: s | 'z' :: s => some ((), s)
  | '+' :: s | '-' :: s => do
    let (_, s) ← field 2 0 23 s
    let (_, s) ← mark ':' s
    let (_, s) ← field 2 0 59 s
    return ((), s)
  | s => some ((), s)

/-- Reads a date, a time of day, or both. A blank between the two may also end the date. -/
def instantText (s : List Char) : Option (Toml × List Char) :=
  match date s with
  | none => (timeOfDay s).map fun (_, s) => (instant, s)
  | some (_, s) =>
    match s with
    | 'T' :: t | 't' :: t => do
      let (_, t) ← timeOfDay t
      let (_, t) ← offset t
      return (instant, t)
    | ' ' :: t =>
      match timeOfDay t with
      | some (_, t) => (offset t).map fun (_, t) => (instant, t)
      | none => some (instant, s)
    | s => some (instant, s)

/-- Reads a number, a date or a time. -/
def numeric (s : List Char) : Option (Toml × List Char) :=
  match instantText s with
  | some r => some r
  | none =>
    match s with
    | '0' :: 'x' :: rest => based 16 isHexDigit rest
    | '0' :: 'o' :: rest => based 8 (fun c => '0' ≤ c && c ≤ '7') rest
    | '0' :: 'b' :: rest => based 2 (fun c => c == '0' || c == '1') rest
    | s => decimal s

end Toml

end RelayDevice
