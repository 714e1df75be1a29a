import RelayDevice.Bytes

/-!
# The SHA-1 digest

`Sha1.digest` maps octets to twenty octets: the message is padded to whole blocks of sixteen
words, and each block is folded into a chaining value of five words by eighty rounds.

`length_digest` is all that the frame codec needs to know of it.
-/

namespace RelayDevice

namespace Sha1

/-- The chaining value between blocks, and the working variables inside one. -/
structure Chain where
  a : UInt32
  b : UInt32
  c : UInt32
  d : UInt32
  e : UInt32
deriving DecidableEq, Repr

namespace Chain

/-- The chaining value before the first block. -/
def initial : Chain :=
  ⟨0x67452301, 0xEFCDAB89, 0x98BADCFE, 0x10325476, 0xC3D2E1F0⟩

/-- Wordwise sum. -/
def add (x y : Chain) : Chain :=
  ⟨x.a + y.a, x.b + y.b, x.c + y.c, x.d + y.d, x.e + y.e⟩

/-- The twenty octets of a chaining value. -/
def toBytes (x : Chain) : Bytes :=
  Bytes.ofUInt32 x.a ++ Bytes.ofUInt32 x.b ++ Bytes.ofUInt32 x.c ++ Bytes.ofUInt32 x.d
    ++ Bytes.ofUInt32 x.e

@[simp] theorem length_toBytes (x : Chain) : x.toBytes.length = 20 := by
  simp [toBytes]

end Chain

/-- Rotation to the left, by an amount between 1 and 31. -/
def rotateLeft (w n : UInt32) : UInt32 :=
  w <<< n ||| w >>> (32 - n)

/-- The mixing function and the constant of round `t`. -/
def mix (t : Nat) (b c d : UInt32) : UInt32 × UInt32 :=
  if t < 20 then ((b &&& c) ||| (~~~b &&& d), 0x5A827999)
  else if t < 40 then (b ^^^ c ^^^ d, 0x6ED9EBA1)
  else if t < 60 then ((b &&& c) ||| (b &&& d) ||| (c &&& d), 0x8F1BBCDC)
  else (b ^^^ c ^^^ d, 0xCA62C1D6)

/-- One round with the schedule word `w`. -/
def round (t : Nat) (w : UInt32) (x : Chain) : Chain :=
  let (f, k) := mix t x.b x.c x.d
  ⟨rotateLeft x.a 5 + f + x.e + k + w, x.a, rotateLeft x.b 30, x.c, x.d⟩

/-- Runs `n` rounds from round `t` on. The window holds the next sixteen words of the schedule,
of which each further word combines four. -/
def rounds : Nat → Nat → List UInt32 → Chain → Chain
  | 0, _, _, x => x
  | n + 1, t, window, x =>
    match window with
    | w₀ :: rest =>
      let next := rotateLeft
        (rest.getD 12 0 ^^^ rest.getD 7 0 ^^^ rest.getD 1 0 ^^^ w₀) 1
      rounds n (t + 1) (rest ++ [next]) (round t w₀ x)
    | [] => x

/-- Folds one block of sixteen words into the chaining value. -/
def compress (x : Chain) (block : List UInt32) : Chain :=
  x.add (rounds 80 0 block x)

/-- The big-endian words of octets; an incomplete last word is left out. -/
def words : Bytes → List UInt32
  | a :: b :: c :: d :: rest => Bytes.toUInt32 a b c d :: words rest
  | _ => []

/-- Cuts words into blocks of sixteen; an incomplete last block is left out. -/
def blocks (ws : List UInt32) : List (List UInt32) :=
  if _h : 16 ≤ ws.length then ws.take 16 :: blocks (ws.drop 16) else []
termination_by ws.length
decreasing_by simp only [List.length_drop]; omega

/-- Appends a one bit, zeros, and the length in bits as eight octets, to whole blocks. -/
def pad (message : Bytes) : Bytes :=
  let size := message.length
  let zeros := (119 - size % 64) % 64
  let bits := size * 8
  message ++ (0x80 :: List.replicate zeros 0)
    ++ Bytes.ofUInt32 (.ofNat (bits / 4294967296)) ++ Bytes.ofUInt32 (.ofNat bits)

/-- The digest of a message. -/
def digest (message : Bytes) : Bytes :=
  ((blocks (words (pad message))).foldl compress Chain.initial).toBytes

@[simp] theorem length_digest (message : Bytes) : (digest message).length = 20 :=
  Chain.length_toBytes _

end Sha1

end RelayDevice
