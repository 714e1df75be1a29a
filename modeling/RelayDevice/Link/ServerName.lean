import RelayDevice.Error

/-!
# Names of relays

A certificate vouches for a relay by its name: a host name or a numeric address.

* `HostName.accepts` — host names: labels of 1 to 63 letters, digits, hyphens and underscores with
  dots between them, at most 253 octets in all; no label begins or ends with a hyphen, and the last
  is not a number. One dot may follow a last label;
* `NumericAddress.acceptsIpv4`, `NumericAddress.acceptsIpv6` — numeric addresses;
* `checkServerName` — any of these.
-/

namespace RelayDevice

namespace HostName

/-- Where a reader stands within a name. -/
inductive Place
  | start
  | dot
  | dotAfterNumber
  | number (length : Nat)
  | word (length : Nat)
  | hyphen (length : Nat)
deriving DecidableEq, Repr

/-- The most characters in a label. -/
def labelLimit : Nat := 63

/-- The most octets in a name. -/
def nameLimit : Nat := 253

/-- Whether a character may stand in a label, and is neither a digit nor a hyphen. -/
def isLetter (c : Char) : Bool := c.isAlpha || c == '_'

/-- The place behind one more character of a label of the given length. -/
def extend (length : Nat) (numeric : Bool) (c : Char) : Option Place :=
  if labelLimit ≤ length then none
  else if c.isDigit then some (if numeric then .number (length + 1) else .word (length + 1))
  else if c = '-' then some (.hyphen (length + 1))
  else if isLetter c then some (.word (length + 1))
  else none

/-- The place behind the first character of a label. -/
def begin (c : Char) : Option Place :=
  if c.isDigit then some (.number 1) else if isLetter c then some (.word 1) else none

/-- The place behind one more character. -/
def step (p : Place) (c : Char) : Option Place :=
  match p with
  | .start | .dot | .dotAfterNumber => begin c
  | .number length => if c = '.' then some .dotAfterNumber else extend length true c
  | .word length => if c = '.' then some .dot else extend length false c
  | .hyphen length => extend length false c

/-- Whether a name may end at a place. -/
def mayEnd : Place → Bool
  | .word _ | .dot => true
  | .start | .dotAfterNumber | .number _ | .hyphen _ => false

/-- Whether a text is a host name. -/
def accepts (s : String) : Bool :=
  s.utf8ByteSize ≤ nameLimit &&
    match s.toList.foldlM step Place.start with
    | some p => mayEnd p
    | none => false

end HostName

namespace NumericAddress

/-- Splits a text at each occurrence of a character. -/
def splitAt (mark : Char) : List Char → List (List Char)
  | [] => [[]]
  | c :: rest =>
    if c = mark then [] :: splitAt mark rest
    else
      match splitAt mark rest with
      | [] => [[c]]
      | part :: parts => (c :: part) :: parts

/-- Whether characters are a number from 0 to 255 without leading zeros. -/
def isOctet (cs : List Char) : Bool :=
  !cs.isEmpty && cs.length ≤ 3 && cs.all Char.isDigit && (cs.length == 1 || cs.head? != some '0')
    && cs.foldl (fun n c => n * 10 + (c.toNat - 48)) 0 ≤ 255

/-- Whether characters are four octets with dots between them. -/
def isIpv4 (cs : List Char) : Bool :=
  let parts := splitAt '.' cs
  parts.length == 4 && parts.all isOctet

/-- Whether characters are a group of one to four hexadecimal digits. -/
def isGroup (cs : List Char) : Bool :=
  !cs.isEmpty && cs.length ≤ 4 && cs.all fun c => (Bytes.hexValue? c).isSome

/-- The number of groups between colons, if all are groups. The last may be four octets, which
count as two. -/
def groupCount? (mayEndInIpv4 : Bool) : List (List Char) → Option Nat
  | [] => some 0
  | [part] => if isGroup part then some 1 else if mayEndInIpv4 && isIpv4 part then some 2 else none
  | part :: parts =>
    if isGroup part then (groupCount? mayEndInIpv4 parts).map (· + 1) else none

/-- Splits characters at the first double colon. -/
def splitGap : List Char → Option (List Char × List Char)
  | ':' :: ':' :: rest => some ([], rest)
  | c :: rest => (splitGap rest).map fun (a, b) => (c :: a, b)
  | [] => none

/-- The groups in a part of an address, which may be empty. -/
def partCount? (mayEndInIpv4 : Bool) (cs : List Char) : Option Nat :=
  if cs.isEmpty then some 0 else groupCount? mayEndInIpv4 (splitAt ':' cs)

/-- Whether characters are eight groups, or at most seven with a double colon in place of the
others. -/
def isIpv6 (cs : List Char) : Bool :=
  match splitGap cs with
  | none => partCount? true cs == some 8
  | some (front, back) =>
    match partCount? false front, partCount? true back with
    | some m, some n => m + n ≤ 7
    | _, _ => false

/-- Whether a text is a numeric address. -/
def accepts (s : String) : Bool := isIpv4 s.toList || isIpv6 s.toList

end NumericAddress

/-- Whether a certificate can vouch for a name. -/
def isServerName (s : String) : Bool := HostName.accepts s || NumericAddress.accepts s

/-- Refuses what is no name of a relay. -/
def checkServerName (s : String) : Except TlsError Unit :=
  if isServerName s then .ok () else .error (.invalidServerName s)

end RelayDevice
