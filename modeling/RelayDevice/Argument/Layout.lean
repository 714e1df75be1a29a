import RelayDevice.Argument.Basic
import RelayDevice.Text.Utf8

/-!
# Argument lists on the wire

An argument list opens with the number of arguments, the payload length of each and a mask whose
bit `j` marks argument `j` as a string. One record per argument follows:

* a string record holds the lengths of value and name, then value and name;
* any other record holds four octets of value, then the name.

The payload of a record is all that follows its first four octets. The mask has eight bits, so only
the first eight arguments can be strings.

* `ArgumentList.encode` — lays values out in the order of their declarations;
* `ArgumentList.decode` — reads values by name, in the types that the reader declares;
* `ArgumentList.decodeOrdered` — the same, in the order of the reader's declarations.
-/

namespace RelayDevice

/-- Why values cannot be laid out, or octets are no argument list for the declarations at hand. -/
inductive ArgumentError
  | tooMany (count : Nat)
  | noValue (name : String)
  | wrongValue (name : String) (declared given : ArgumentType)
  | lateString (name : String) (position : Nat)
  | longString (name : String) (size : Nat)
  | longName (name : String)
  | instantOutOfRange (instant : Instant)
  | stringInWord
  | empty
  | headerTruncated
  | recordTruncated (position : Nat)
  | valueOverrun (position declared size : Nat)
  | valueNotText (position : Nat)
  | nameNotText (position : Nat)
  | undeclared (name : String)
  | wrongRecord (name : String) (declared sent : ArgumentType)
  | repeated (name : String)
  | wrongCount (expected received : Nat)
  | missing (name : String)
  | stated (reason : String)
deriving DecidableEq

namespace ArgumentList

/-! ### Writing -/

/-- The record of one argument. -/
structure Record where
  /-- Whether the record holds a string. -/
  isString : Bool
  /-- The first four octets. -/
  word : Bytes
  /-- What the length of the record counts. -/
  payload : Bytes
deriving DecidableEq, Repr

/-- The octets of a record. -/
def Record.toBytes (r : Record) : Bytes := r.word ++ r.payload

/-- The four octets of a value that is no string. A point in time counts whole seconds and must fit
in 32 bits with a sign. -/
def word : ArgumentValue → Except ArgumentError Bytes
  | .integer v => .ok (Bytes.ofUInt32 v.toUInt32)
  | .float v => .ok (Bytes.ofUInt32 v.bits)
  | .boolean v => .ok (Bytes.ofUInt32 (if v then 1 else 0))
  | .timestamp v =>
    if -2147483648 ≤ v.seconds ∧ v.seconds ≤ 2147483647 then
      .ok (Bytes.ofUInt32 (Int32.ofInt v.seconds).toUInt32)
    else .error (.instantOutOfRange v)
  | .string _ => .error .stringInWord

/-- The record of an argument at a position. -/
def record (position : Nat) (d : ArgumentDef) (value : ArgumentValue) :
    Except ArgumentError Record :=
  if value.kind ≠ d.kind then .error (.wrongValue d.name d.kind value.kind)
  else
    let name := Utf8.encode d.name
    match value with
    | .string s =>
      let text := Utf8.encode s
      let size := text.length + name.length
      -- the mask has a bit for each of the first eight records only
      if 7 < position then .error (.lateString d.name position)
      else if 255 < size then .error (.longString d.name size)
      else .ok ⟨true, [0, .ofNat text.length, 0, .ofNat name.length], text ++ name⟩
    | value =>
      if 255 < name.length then .error (.longName d.name)
      else (word value).map fun w => ⟨false, w, name⟩

/-- The records of the arguments from a position on. -/
def recordsFrom (values : Assignment) : Nat → List ArgumentDef → Except ArgumentError (List Record)
  | _, [] => .ok []
  | position, d :: defs =>
    match values.get? d.name with
    | none => .error (.noValue d.name)
    | some value => do
      let r ← record position d value
      let rs ← recordsFrom values (position + 1) defs
      return r :: rs

/-- The number whose binary digits, lowest first, say which records hold strings. -/
def maskOf : List Record → Nat
  | [] => 0
  | r :: rs => (if r.isString then 1 else 0) + 2 * maskOf rs

/-- Lays out the values of the declared names, in the order of the declarations. Values of other
names are left out. -/
def encode (defs : List ArgumentDef) (values : Assignment) : Except ArgumentError Bytes :=
  if 255 < defs.length then .error (.tooMany defs.length)
  else do
    let records ← recordsFrom values 0 defs
    return .ofNat defs.length :: records.map (fun r => .ofNat r.payload.length)
      ++ .ofNat (maskOf records) :: records.flatMap Record.toBytes

/-! ### Reading -/

/-- The type declared for a name; the last declaration of a name counts. -/
def declared? (defs : List ArgumentDef) (name : String) : Option ArgumentType :=
  (defs.reverse.find? (·.name = name)).map (·.kind)

/-- The value of four octets in a declared type. Only the number one is true. -/
def ofWord (kind : ArgumentType) (w : UInt32) : Except ArgumentError ArgumentValue :=
  match kind with
  | .integer => .ok (.integer w.toInt32)
  | .float => .ok (.float ⟨w⟩)
  | .boolean => .ok (.boolean (w == 1))
  | .timestamp => .ok (.timestamp ⟨w.toInt32.toInt, 0⟩)
  | .string => .error .stringInWord

/-- Reads the record at a position, whose first four octets and payload are given. -/
def readRecord (defs : List ArgumentDef) (position : Nat) (isString : Bool) (a b c d : UInt8)
    (payload : Bytes) : Except ArgumentError (String × ArgumentValue) :=
  if isString then
    let size := (Bytes.toUInt16 a b).toNat
    if payload.length < size then .error (.valueOverrun position size payload.length)
    else
      -- the name is all that the value leaves; its length in the record is not looked at
      match Utf8.decode? (payload.take size), Utf8.decode? (payload.drop size) with
      | none, _ => .error (.valueNotText position)
      | _, none => .error (.nameNotText position)
      | some value, some name =>
        match declared? defs name with
        | none => .error (.undeclared name)
        | some .string => .ok (name, .string value)
        | some kind => .error (.wrongRecord name kind .string)
  else
    match Utf8.decode? payload with
    | none => .error (.nameNotText position)
    | some name =>
      match declared? defs name with
      | none => .error (.undeclared name)
      | some kind => (ofWord kind (Bytes.toUInt32 a b c d)).map fun value => (name, value)

/-- Reads one record per length, from a position on. The lowest bit of the mask belongs to the
first record, and the values read before are at hand to notice a name that comes back. -/
def readRecords (defs : List ArgumentDef) :
    Nat → Nat → List UInt8 → Bytes → Assignment → Except ArgumentError Assignment
  | _, _, [], _, values => .ok values
  | position, mask, size :: sizes, rest, values =>
    match rest.take (4 + size.toNat) with
    | a :: b :: c :: d :: payload =>
      if payload.length < size.toNat then .error (.recordTruncated position)
      else do
        let (name, value) ← readRecord defs position (mask % 2 == 1) a b c d payload
        if (values.get? name).isSome then .error (.repeated name)
        else
          readRecords defs (position + 1) (mask / 2) sizes (rest.drop (4 + size.toNat))
            ((name, value) :: values)
    | _ => .error (.recordTruncated position)

/-- Reads the named values that follow the count. -/
def readCounted (defs : List ArgumentDef) (count : Nat) (rest : Bytes) :
    Except ArgumentError Assignment :=
  if count = 0 then .ok []
  else
    match rest.drop count with
    | [] => .error .headerTruncated
    | mask :: records => readRecords defs 0 mask.toNat (rest.take count) records []

/-- Reads an argument list into values by name. Every declared name must come exactly once, and
octets behind the last record are ignored. -/
def decode (bytes : Bytes) (defs : List ArgumentDef) : Except ArgumentError Assignment :=
  match bytes with
  | [] => .error .empty
  | count :: rest => do
    let values ← readCounted defs count.toNat rest
    if values.length ≠ defs.length then .error (.wrongCount defs.length values.length)
    else .ok values

/-- The values of the declared names, in the order of the declarations. Each value is taken out, so
that it is there for one declaration only. -/
def ordered (values : Assignment) : List ArgumentDef → Except ArgumentError (List ArgumentValue)
  | [] => .ok []
  | d :: defs =>
    match values.get? d.name with
    | none => .error (.missing d.name)
    | some value => (ordered (values.erase d.name) defs).map (value :: ·)

/-- Reads an argument list into values in the order of the declarations. -/
def decodeOrdered (bytes : Bytes) (defs : List ArgumentDef) :
    Except ArgumentError (List ArgumentValue) := do
  ordered (← decode bytes defs) defs

end ArgumentList

end RelayDevice
