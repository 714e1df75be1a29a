import RelayDevice.Error
import RelayDevice.Toml.Fault
import RelayDevice.Toml.Printer
import RelayDevice.Settings.File

/-!
# Identity stores

A device keeps its identity across restarts in a store that maps device names to identities.

* `IdentityStore` — what a session needs of a store, whatever it is made of;
* `IdentityTable` — a store in memory, a list of pairs;
* `IdentityFile` — a store in a file, a TOML table that is read anew for each access and written
  anew, in the order of the names, for each change.
-/

namespace RelayDevice

/-- A store of identities with contents of type `β`. -/
structure IdentityStore (β : Type) where
  /-- The identity of a device, if it is known. -/
  get : β → String → Except DeviceError (Option Uuid)
  /-- Keeps the identity of a device. -/
  set : β → String → Uuid → Except DeviceError β

/-! ### In memory -/

/-- Device names with their identities. -/
abbrev IdentityTable := List (String × Uuid)

namespace IdentityTable

/-- The identity of a device. -/
def get (t : IdentityTable) (name : String) : Option Uuid := List.lookup name t

/-- Enters an identity in place of an earlier one, among the names in order. -/
def set (t : IdentityTable) (name : String) (uuid : Uuid) : IdentityTable :=
  match t with
  | [] => [(name, uuid)]
  | (other, u) :: rest =>
    if name < other then (name, uuid) :: (other, u) :: rest
    else if name = other then (name, uuid) :: rest
    else (other, u) :: set rest name uuid

@[simp] theorem get_nil (name : String) : get [] name = none := rfl

theorem get_cons (entry : String × Uuid) (rest : IdentityTable) (name : String) :
    get (entry :: rest) name = if name = entry.1 then some entry.2 else get rest name := by
  obtain ⟨other, uuid⟩ := entry
  change (match name == other with
    | true => some uuid
    | false => get rest name) = _
  by_cases h : name = other
  · simp [h]
  · simp [h, beq_eq_false_iff_ne.mpr h]

@[simp] theorem get_set_self (t : IdentityTable) (name : String) (uuid : Uuid) :
    (t.set name uuid).get name = some uuid := by
  induction t with
  | nil => simp [set, get_cons]
  | cons head rest ih =>
    unfold set
    split
    · simp [get_cons]
    · split
      · simp [get_cons]
      · next h => simp [get_cons, h, ih]

theorem get_set_of_ne {t : IdentityTable} {name other : String} {uuid : Uuid} (h : other ≠ name) :
    (t.set name uuid).get other = t.get other := by
  induction t with
  | nil => simp [set, get_cons, h]
  | cons head rest ih =>
    unfold set
    split
    · simp [get_cons, h]
    · split
      · next hname =>
        subst hname
        simp [get_cons, h]
      · simp [get_cons, ih]

/-- A table as a store. Nothing can go wrong. -/
def store : IdentityStore IdentityTable :=
  { get := fun t name => .ok (t.get name)
    set := fun t name uuid => .ok (t.set name uuid) }

/-- A table as the text of a file. -/
def text (t : IdentityTable) : String :=
  String.join (t.map fun (name, uuid) => Toml.entryLine name uuid.text)

/-- The table in the text of a file. -/
def ofText? (s : String) : Option IdentityTable := do
  let members ← Toml.document? s
  let pairs ← members.mapM fun (name, v) => v.uuid?.map (name, ·)
  return pairs.foldl (fun t (name, uuid) => t.set name uuid) []

end IdentityTable

/-! ### In a file -/

/-- The place where a file is kept. -/
inductive IdentityFile
  | absent
  | holding (text : String)
  | unusable
deriving DecidableEq, Repr

namespace IdentityFile

/-- The table in the file at a path. A file that does not exist holds none. -/
def load (path : String) : IdentityFile → Except DeviceError IdentityTable
  | absent => .ok []
  | unusable => .error (.io "the identity file cannot be used")
  | holding text =>
    match IdentityTable.ofText? text with
    | some t => .ok t
    | none => .error (.config (.identitiesMalformed path (Toml.faultPlace (·.uuid?.isSome) text)))

/-- The identity of a device, as the file at a path has it now. -/
def get (path : String) (f : IdentityFile) (name : String) : Except DeviceError (Option Uuid) :=
  (f.load path).map (·.get name)

/-- The file with the identity of a device in it. A file that cannot be read stays as it is. -/
def set (path : String) (f : IdentityFile) (name : String) (uuid : Uuid) :
    Except DeviceError IdentityFile :=
  (f.load path).map fun t => holding (t.set name uuid).text

/-- The file at a path as a store. -/
def store (path : String) : IdentityStore IdentityFile := ⟨get path, set path⟩

/-- The text of a file, if there is one. -/
def content? : IdentityFile → Option String
  | holding text => some text
  | absent | unusable => none

end IdentityFile

end RelayDevice
