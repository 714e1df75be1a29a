/-!
# Kinds of transport

A device reaches the relay by datagrams or over a secure stream.

* `TransportKind.name` — the name in reports;
* `TransportKind.setting` — the word in settings;
* `TransportKind.ofText?` — reads a kind by any of its usual names, in letters of either case.
-/

namespace RelayDevice

/-- A way to reach the relay. -/
inductive TransportKind
  | udp
  | tls
deriving DecidableEq, Repr

namespace TransportKind

/-- The name of a kind in reports. -/
def name : TransportKind → String
  | udp => "UDP"
  | tls => "TLS/TCP"

/-- The word for a kind in settings. -/
def setting : TransportKind → String
  | udp => "udp"
  | tls => "tls"

/-- The kind that a word in settings means. -/
def ofSetting? (word : String) : Option TransportKind :=
  [udp, tls].find? (·.setting = word)

/-- Reads a kind by any of its names. -/
def ofText? (s : String) : Option TransportKind :=
  match s.toLower with
  | "udp" => some udp
  | "tls" | "tcp" | "ssl" => some tls
  | _ => none

/-- What is said of a text that names no kind. -/
def unknownText (s : String) : String := s!"Unknown transport kind: {s}"

end TransportKind

end RelayDevice
