import RelayDevice.Identity
import RelayDevice.Session.Device
import RelayDevice.Session.Dispatcher
import RelayDevice.Session.State
import RelayDevice.Settings.Basic

/-!
# Devices before their session

A device gets its identity from the settings, or else from the identity store; a device that
neither knows is registered with the account service, and its new identity is kept. Then features
can be added.

* `AccountService` — the operations of an account service;
* `resolveIdentity` — the identity of a device, and whether it was only now given to it;
* `DeviceSession.create` — a device with its identity, before its session;
* `DeviceSession.addFeature` — adds a feature, with other names for some of its events.
-/

namespace RelayDevice

/-- An account service with a state of type `γ`. -/
structure AccountService (γ : Type) where
  /-- Registers a device under a name and gives it an identity. -/
  register : γ → String → Except DeviceError Uuid × γ
  /-- Publishes how a device describes itself: its identity, the secret of its account, and the
  text of its descriptor. -/
  publish : γ → Uuid → String → String → Except DeviceError Unit × γ

/-- A device that has an identity. -/
structure DeviceSession (σ φ : Type) where
  /-- The name of the device. -/
  name : String
  /-- The identity of the device. -/
  uuid : Uuid
  /-- Whether the relay does not know the device yet. -/
  isNew : Bool
  /-- Where the device is in its life. -/
  state : SessionState
  /-- The timing of its session. -/
  timing : SessionSettings
  /-- What the application supplied. -/
  device : Device σ
  /-- The device and its features. -/
  dispatcher : Dispatcher σ φ

/-- The identity of a device, and whether it was only now given to it; with the identity store and
the account service afterwards. -/
def resolveIdentity {β γ : Type} (store : IdentityStore β) (service : AccountService γ)
    (pinned : Option Uuid) (name : String) (b : β) (g : γ) :
    Except DeviceError (Uuid × Bool) × β × γ :=
  match pinned with
  | some uuid => (.ok (uuid, false), b, g)
  | none =>
    match store.get b name with
    | .error e => (.error e, b, g)
    | .ok (some uuid) => (.ok (uuid, false), b, g)
    | .ok none =>
      match service.register g name with
      | (.error e, g) => (.error e, b, g)
      | (.ok uuid, g) =>
        match store.set b name uuid with
        | .error e => (.error e, b, g)
        | .ok b => (.ok (uuid, true), b, g)

namespace DeviceSession

variable {σ φ β γ : Type}

/-- A device with its identity, if the settings allow it to start; with the identity store and the
account service afterwards. -/
def create (settings : Settings) (device : Device σ) (registry : Registry σ) (initial : σ)
    (store : IdentityStore β) (service : AccountService γ) (b : β) (g : γ) :
    Except DeviceError (DeviceSession σ φ) × β × γ :=
  match settings.validate with
  | .error e => (.error (.config e), b, g)
  | .ok () =>
    match resolveIdentity store service settings.device.uuid settings.device.name b g with
    | (.error e, b, g) => (.error e, b, g)
    | (.ok (uuid, isNew), b, g) =>
      (.ok {
        name := settings.device.name
        uuid
        isNew
        state := .registered
        timing := settings.session
        device
        dispatcher := {
          state := initial
          registry
          features := []
          account := ⟨settings.device.username, settings.device.apiKey⟩ } }, b, g)

/-- The account that signs for the device. -/
def account (d : DeviceSession σ φ) : Account := d.dispatcher.account

/-- Adds a feature, with other names for some of its events. -/
def addFeature (d : DeviceSession σ φ) (f : Feature φ) (aliases : List (String × String)) :
    Except RegistryError (DeviceSession σ φ) :=
  match Installed.make f aliases with
  | .error e => .error e
  | .ok installed =>
    match d.dispatcher.install installed with
    | .error e => .error e
    | .ok dispatcher => .ok { d with dispatcher }

/-- Runs the setup of the device and then that of every feature, up to the first that fails. -/
def setup (d : DeviceSession σ φ) : Except SessionError Unit × DeviceSession σ φ :=
  match d.device.setup d.dispatcher.state with
  | (state, some failure) =>
    (.error (.deviceSetup failure), { d with dispatcher := { d.dispatcher with state } })
  | (state, none) =>
    let (result, dispatcher) := { d.dispatcher with state }.setupFeatures
    (result, { d with dispatcher })

end DeviceSession

end RelayDevice
