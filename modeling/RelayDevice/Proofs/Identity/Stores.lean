import Mathlib.Logic.Function.Basic
import RelayDevice.Proofs.Identity.Written
import RelayDevice.Proofs.Outcome

/-!
# Identity stores as maps

A program asks its identity store for the identity of a device or has it keep one. `IsMap` says
what can be relied on: the store holds a map, which `get` reads and `set` changes in one place, and
neither of them fails. Two stores that hold the same map cannot be told apart
(`IdentityStore.IsMap.calls_eq`).

A table in memory is such a store, and a file is as long as it can be read: each change writes the
whole table anew, and what is written is read back as it was (`IdentityTable.ofText?_text`). So all
that has to be carried from one call to the next is that the file can be read
(`IdentityFile.isMap_store`). A file that cannot be read stays so, since nothing writes over it
(`IdentityFile.calls_of_unreadable`).

* `IdentityFile.sessions` — what programs are answered that use the same file one after the other;
* `IdentityFile.answers_as_table` — they are answered as a table in memory would answer them, which
  is a map.
-/

namespace RelayDevice

/-! ### Calls -/

/-- What a program asks of an identity store. -/
inductive IdentityCall
  | get (name : String)
  | set (name : String) (uuid : Uuid)
deriving DecidableEq

/-- What it is answered. -/
inductive IdentityAnswer
  | known (uuid : Option Uuid)
  | kept
deriving DecidableEq

namespace IdentityStore

variable {β β' : Type}

/-- One call. A change that fails leaves the store as it is. -/
def call (store : IdentityStore β) (b : β) : IdentityCall → Except DeviceError IdentityAnswer × β
  | .get name => ((store.get b name).map .known, b)
  | .set name uuid =>
    match store.set b name uuid with
    | .error e => (.error e, b)
    | .ok b' => (.ok .kept, b')

/-- Several calls, one after the other. -/
def calls (store : IdentityStore β) :
    β → List IdentityCall → List (Except DeviceError IdentityAnswer) × β
  | b, [] => ([], b)
  | b, c :: cs =>
    let (answer, b) := store.call b c
    let (answers, b) := store.calls b cs
    (answer :: answers, b)

theorem calls_cons (store : IdentityStore β) (b : β) (c : IdentityCall) (cs : List IdentityCall) :
    store.calls b (c :: cs) = ((store.call b c).1 :: (store.calls (store.call b c).2 cs).1,
      (store.calls (store.call b c).2 cs).2) := rfl

theorem calls_append (store : IdentityStore β) (b : β) (before after : List IdentityCall) :
    store.calls b (before ++ after)
      = ((store.calls b before).1 ++ (store.calls (store.calls b before).2 after).1,
        (store.calls (store.calls b before).2 after).2) := by
  induction before generalizing b with
  | nil => rfl
  | cons c before ih =>
    rw [List.cons_append, calls_cons, ih]
    rfl

/-- **A store that is a map.** In a state that holds a map both operations succeed: one reads the
map, and the other changes it at one name. -/
structure IsMap (store : IdentityStore β) (holds : β → (String → Option Uuid) → Prop) : Prop where
  get : ∀ {b : β} {known : String → Option Uuid}, holds b known → ∀ name,
    store.get b name = .ok (known name)
  set : ∀ {b : β} {known : String → Option Uuid}, holds b known → ∀ name uuid,
    ∃ b', store.set b name uuid = .ok b' ∧ holds b' (Function.update known name (some uuid))

variable {store : IdentityStore β} {store' : IdentityStore β'}
  {holds : β → (String → Option Uuid) → Prop} {holds' : β' → (String → Option Uuid) → Prop}

/-- **The step.** Two stores that hold the same map answer a call alike, and again hold the same. -/
theorem IsMap.call_eq (first : store.IsMap holds) (second : store'.IsMap holds') {b : β} {b' : β'}
    {known : String → Option Uuid} (held : holds b known) (held' : holds' b' known)
    (c : IdentityCall) :
    (store.call b c).1 = (store'.call b' c).1 ∧
      ∃ known', holds (store.call b c).2 known' ∧ holds' (store'.call b' c).2 known' := by
  cases c with
  | get name =>
    refine ⟨?_, known, held, held'⟩
    rw [call, call, first.get held, second.get held']
  | set name uuid =>
    obtain ⟨after, kept, goesOn⟩ := first.set held name uuid
    obtain ⟨after', kept', goesOn'⟩ := second.set held' name uuid
    rw [call, call, kept, kept']
    exact ⟨rfl, _, goesOn, goesOn'⟩

/-- **The run**, by induction on the calls. -/
theorem IsMap.calls_eq (first : store.IsMap holds) (second : store'.IsMap holds') {b : β} {b' : β'}
    {known : String → Option Uuid} (held : holds b known) (held' : holds' b' known)
    (cs : List IdentityCall) :
    (store.calls b cs).1 = (store'.calls b' cs).1 ∧
      ∃ known', holds (store.calls b cs).2 known' ∧ holds' (store'.calls b' cs).2 known' := by
  induction cs generalizing b b' known with
  | nil => exact ⟨rfl, known, held, held'⟩
  | cons c cs ih =>
    obtain ⟨answer, known', goesOn, goesOn'⟩ := first.call_eq second held held' c
    obtain ⟨answers, last⟩ := ih goesOn goesOn'
    exact ⟨congrArg₂ List.cons answer answers, last⟩

end IdentityStore

/-! ### In memory -/

namespace IdentityTable

theorem get_set (t : IdentityTable) (name : String) (uuid : Uuid) :
    (t.set name uuid).get = Function.update t.get name (some uuid) := by
  funext other
  by_cases same : other = name
  · rw [same, Function.update_self, get_set_self]
  · rw [Function.update_of_ne same, get_set_of_ne same]

/-- **A table is a map.** -/
theorem isMap_store : store.IsMap fun t known => t.get = known where
  get held name := by
    rw [← held]
    rfl
  set {t known} held name uuid := ⟨t.set name uuid, rfl, by rw [get_set, held]⟩

end IdentityTable

/-! ### In a file -/

namespace IdentityFile

variable {path : String} {f : IdentityFile} {t : IdentityTable}

/-- A file that can be read holds the map of its table. -/
def Holds (path : String) (f : IdentityFile) (known : String → Option Uuid) : Prop :=
  ∃ t : IdentityTable, f.load path = .ok t ∧ t.Ordered ∧ t.get = known

theorem load_of_ofText? {text : String} (read : IdentityTable.ofText? text = some t) :
    (holding text).load path = .ok t := by
  rw [load, read]

/-- **A file that can be read is a map.** -/
theorem isMap_store (path : String) : (store path).IsMap (Holds path) where
  get {f known} held name := by
    obtain ⟨t, loaded, -, rfl⟩ := held
    change (f.load path).map _ = _
    rw [loaded]
    rfl
  set {f known} held name uuid := by
    obtain ⟨t, loaded, ordered, rfl⟩ := held
    have later := ordered.set name uuid
    refine ⟨holding (t.set name uuid).text, ?_, t.set name uuid, ?_, later, t.get_set name uuid⟩
    · change (f.load path).map _ = _
      rw [loaded]
      rfl
    · exact load_of_ofText? (IdentityTable.ofText?_text later)

/-- A file that cannot be read fails each call, and is left alone. -/
theorem calls_of_unreadable {cause : DeviceError} (unreadable : f.load path = .error cause)
    (cs : List IdentityCall) : (store path).calls f cs = (cs.map fun _ => .error cause, f) := by
  have one (c : IdentityCall) : (store path).call f c = (.error cause, f) := by
    cases c with
    | get name =>
      change (((f.load path).map _).map _, f) = _
      rw [unreadable]
      rfl
    | set name uuid =>
      have failed : (store path).set f name uuid = .error cause := by
        change (f.load path).map _ = _
        rw [unreadable]
        rfl
      rw [IdentityStore.call, failed]
  induction cs with
  | nil => rfl
  | cons c cs ih =>
    rw [IdentityStore.calls_cons, one, ih]
    rfl

/-- What programs are answered that use the same file one after the other, each by a store of its
own; with the file afterwards. -/
def sessions (path : String) : IdentityFile → List (List IdentityCall) →
    List (Except DeviceError IdentityAnswer) × IdentityFile
  | f, [] => ([], f)
  | f, cs :: later =>
    let (answers, f) := (store path).calls f cs
    let (more, f) := sessions path f later
    (answers ++ more, f)

theorem sessions_cons (path : String) (f : IdentityFile) (cs : List IdentityCall)
    (later : List (List IdentityCall)) : sessions path f (cs :: later)
      = (((store path).calls f cs).1 ++ (sessions path ((store path).calls f cs).2 later).1,
        (sessions path ((store path).calls f cs).2 later).2) := rfl

/-- It does not matter where one program ends and the next begins. -/
theorem sessions_eq (path : String) (f : IdentityFile) (programs : List (List IdentityCall)) :
    sessions path f programs = (store path).calls f programs.flatten := by
  induction programs generalizing f with
  | nil => rfl
  | cons cs later ih => rw [List.flatten_cons, IdentityStore.calls_append, sessions_cons, ih]

/-- Programs that use a file are answered like one that uses a table, and leave the file with the
identities of the table. -/
def AnswersAs (path : String) (f : IdentityFile) (t : IdentityTable)
    (programs : List (List IdentityCall)) : Prop :=
  let file := sessions path f programs
  let table := IdentityTable.store.calls t programs.flatten
  file.1 = table.1 ∧ ∃ t', file.2.load path = .ok t' ∧ ∀ name, t'.get name = table.2.get name

theorem answersAs_of_load (loaded : f.load path = .ok t) (ordered : t.Ordered)
    (programs : List (List IdentityCall)) : AnswersAs path f t programs := by
  obtain ⟨answers, known, ⟨t', reloaded, -, identities⟩, held⟩ :=
    (isMap_store path).calls_eq IdentityTable.isMap_store ⟨t, loaded, ordered, rfl⟩ rfl
      programs.flatten
  rw [AnswersAs, sessions_eq]
  exact ⟨answers, t', reloaded, fun name => by rw [identities, held]⟩

/-- **A file is as good as a table**, and a table is a map. Whatever names they use, programs that
use the same file one after the other are answered like a single one that uses a table in memory: an
empty one if there is no file yet, and else the table that the file has. If the file has none, each
call fails because of its text, and the text stays as it is. -/
theorem answers_as_table (path : String) (programs : List (List IdentityCall)) :
    IdentityTable.store.IsMap (fun t known => t.get = known) ∧
      AnswersAs path .absent [] programs ∧
      (∀ text t, IdentityTable.ofText? text = some t →
        AnswersAs path (.holding text) t programs) ∧
      ∀ text, IdentityTable.ofText? text = none → ∃ cause,
        sessions path (.holding text) programs
          = (programs.flatten.map fun _ => .error (.config cause), .holding text) := by
  refine ⟨IdentityTable.isMap_store, ?_, ?_, ?_⟩
  · exact answersAs_of_load (t := []) rfl List.Pairwise.nil programs
  · intro text t read
    exact answersAs_of_load (load_of_ofText? read) (IdentityTable.ordered_of_ofText? read) programs
  · intro text unread
    have failed : ∃ cause, (holding text).load path = .error (.config cause) := by
      rw [load, unread]
      exact ⟨_, rfl⟩
    obtain ⟨cause, failed⟩ := failed
    refine ⟨cause, ?_⟩
    rw [sessions_eq, calls_of_unreadable failed]

/-- A lamp whose name goes over two lines, with quotes of both kinds. -/
def oddLamp : String := "l'\"a\"mp\nof Zoë"

/-- The identity of the lamp. -/
def threes : Uuid := ⟨List.replicate 16 3, rfl⟩

/-- The identity of another device. -/
def fours : Uuid := ⟨List.replicate 16 4, rfl⟩

/-- A program enters a device without a name beside the lamp, and the next one finds both. A file
without a table is of no use to either. -/
theorem answers_as_table_oddLamp :
    (sessions "ids" (.holding (IdentityTable.text [(oddLamp, threes)]))
        [[.set "" fours], [.get oddLamp, .get "", .get "a.b"]]).1
      = [.ok .kept, .ok (.known (some threes)), .ok (.known (some fours)), .ok (.known none)] ∧
    ∃ cause, sessions "ids" (.holding "oven") [[.set "" fours], [.get ""]]
      = ([.error (.config cause), .error (.config cause)], .holding "oven") := by
  have ordered : IdentityTable.Ordered [(oddLamp, threes)] := List.pairwise_singleton _ _
  have read := IdentityTable.ofText?_text ordered
  have unread : IdentityTable.ofText? "oven" = none := by decide
  constructor
  · have asTable := (answers_as_table "ids"
      [[.set "" fours], [.get oddLamp, .get "", .get "a.b"]]).2.2.1 _ _ read
    exact asTable.1.trans (by decide)
  · exact (answers_as_table "ids" [[.set "" fours], [.get ""]]).2.2.2 "oven" unread

end IdentityFile

end RelayDevice
