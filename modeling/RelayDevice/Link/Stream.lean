import RelayDevice.Link.Backoff
import RelayDevice.Link.Reassembly
import RelayDevice.Link.ServerName
import RelayDevice.Link.Transport

/-!
# Frames over a stream

A transport that sends frames back to back over a secure stream. A stream that ends, or fails, is
replaced at once by a new connection, and the attempts to connect go on until one succeeds. Octets
that belong to no complete frame are lost together with their connection.

* `StreamRead` — what a read of a stream gives; `StreamConnection` — a whole connection as a list of
  these, behind a number of attempts that fail;
* `StreamLink` — the stream, with what it will give and the connections that will follow;
* `StreamLink.connect` — opens the next connection;
* `StreamLink.transport` — the operations of the transport. One call of `StreamLink.receive` reads
  until a frame is complete or nothing more arrives in time.
-/

namespace RelayDevice

/-! ### What the other side does -/

/-- What a read of a stream gives. -/
inductive StreamRead
  | data (octets : Bytes)
  | nothing
  | ended
  | failed
deriving DecidableEq, Repr

/-- A connection: how many attempts fail before it, and what its reads give. Further reads give
nothing. -/
structure StreamConnection where
  refusals : Nat
  reads : List StreamRead
deriving DecidableEq, Repr

/-- A transport over a stream. -/
structure StreamLink where
  /-- The reads to come, if there is a connection. -/
  stream : Option (List StreamRead)
  /-- Whether the connection takes what is written. -/
  isWritable : Bool
  /-- The octets that belong to no complete frame yet. -/
  reassembly : Reassembly
  /-- The delays between attempts to connect. -/
  backoff : Backoff
  /-- Whether a local port is known: from the first connection until the transport is closed. -/
  hasPort : Bool
  /-- The connections to come. Further ones succeed at once and give nothing. -/
  upcoming : List StreamConnection
  /-- The frames that reached the relay and were not yet taken away, the oldest first. -/
  sent : List Bytes
  /-- The delays that were waited and not yet taken away. -/
  delays : List Nanoseconds

namespace StreamLink

/-- A transport that was never connected, with its delays. -/
def start (firstDelay longestDelay : Nanoseconds) : StreamLink :=
  { stream := none
    isWritable := false
    reassembly := .empty
    backoff := .start firstDelay (some longestDelay)
    hasPort := false
    upcoming := []
    sent := []
    delays := [] }

/-- Whether there is a connection. -/
def isConnected (l : StreamLink) : Bool := l.stream.isSome

/-! ### Connecting -/

/-- The delays after several attempts that fail. -/
def waits : Nat → Backoff → List Nanoseconds
  | 0, _ => []
  | n + 1, b => b.next.1 :: waits n b.next.2

/-- Opens the next connection. Its delays begin anew, and so does the next schedule. -/
def connect (l : StreamLink) : StreamLink :=
  let next := l.upcoming.head?.getD ⟨0, []⟩
  { l with
    stream := some next.reads
    isWritable := true
    reassembly := .empty
    backoff := l.backoff.reset
    hasPort := true
    upcoming := l.upcoming.tail
    delays := l.delays ++ waits next.refusals l.backoff }

/-- Opens a connection without giving another one up. -/
def begin (l : StreamLink) : Served StreamLink Unit := ⟨l.connect, true, .ok ()⟩

/-! ### Receiving -/

/-- What reading until a frame is complete leads to. -/
inductive Reading
  | frame (frame : Bytes) (rest : Reassembly) (reads : List StreamRead)
  | waiting (rest : Reassembly) (reads : List StreamRead)
  | over
deriving DecidableEq

/-- Reads until a frame is complete, or nothing more arrives in time, or the stream is over. -/
def readFrame (r : Reassembly) : List StreamRead → Reading
  | [] => .waiting r []
  | .nothing :: reads => .waiting r reads
  | .ended :: _ => .over
  | .failed :: _ => .over
  | .data octets :: reads =>
    match (r.extend octets).next with
    | some (frame, rest) => .frame frame rest reads
    | none => readFrame (r.extend octets) reads

/-- Gives a frame that is complete already, or else reads. A stream that is over is replaced, and
gives no frame. -/
def receive (l : StreamLink) : Served StreamLink (Option Bytes) :=
  match l.reassembly.next with
  | some (frame, reassembly) => ⟨{ l with reassembly }, false, .ok (some frame)⟩
  | none =>
    match l.stream with
    | none => ⟨l, false, .error (.network .streamClosed)⟩
    | some reads =>
      match readFrame l.reassembly reads with
      | .frame frame reassembly reads =>
        ⟨{ l with reassembly, stream := some reads }, false, .ok (some frame)⟩
      | .waiting reassembly reads =>
        ⟨{ l with reassembly, stream := some reads }, false, .ok none⟩
      | .over => ⟨l.connect, true, .ok none⟩

/-! ### The other operations -/

/-- Sends a frame. A stream that does not take it is replaced, but the frame is lost. -/
def send (l : StreamLink) (frame : Bytes) : Served StreamLink Unit :=
  if !l.isConnected then ⟨l, false, .error (.network .streamClosed)⟩
  else if l.isWritable then ⟨{ l with sent := l.sent ++ [frame] }, false, .ok ()⟩
  else ⟨l.connect, true, .error (.network .streamBroken)⟩

/-- Gives the connection up and opens the next. -/
def reconnect (l : StreamLink) : Served StreamLink Unit := ⟨l.connect, true, .ok ()⟩

/-- Gives the connection up, and with it the octets of an incomplete frame. -/
def close (l : StreamLink) : StreamLink × Closing :=
  ({ l with stream := none, isWritable := false, reassembly := .empty, hasPort := false }, .done)

/-- The operations of a transport over a stream. -/
def transport : Transport StreamLink := ⟨"TLS/TCP", receive, send, reconnect, close⟩

/-! ### What the other side does to it -/

/-- Octets in pieces of a positive size. -/
def pieces (size : Nat) : Nat → Bytes → List Bytes
  | 0, _ => []
  | _, [] => []
  | fuel + 1, octets => octets.take (max size 1) :: pieces size fuel (octets.drop (max size 1))

/-- Octets arrive on the connection, and are read in pieces of at most `size`. -/
def arrive (l : StreamLink) (size : Nat) (octets : Bytes) : StreamLink :=
  { l with stream := l.stream.map (· ++ (pieces size octets.length octets).map .data) }

/-- The relay ends the connection, and refuses some attempts before it accepts the next. -/
def hangUp (l : StreamLink) (refusals : Nat) : StreamLink :=
  { l with
    stream := l.stream.map (· ++ [.ended])
    upcoming := l.upcoming ++ [⟨refusals, []⟩] }

/-- The relay breaks the connection, and refuses some attempts before it accepts the next. -/
def breakOff (l : StreamLink) (refusals : Nat) : StreamLink :=
  { l with
    stream := l.stream.map fun _ => [.failed]
    isWritable := false
    upcoming := l.upcoming ++ [⟨refusals, []⟩] }

/-- Takes away what reached the relay. -/
def takeSent (l : StreamLink) : List Bytes × StreamLink := (l.sent, { l with sent := [] })

/-- Takes away the delays that were waited. -/
def takeDelays (l : StreamLink) : List Nanoseconds × StreamLink :=
  (l.delays, { l with delays := [] })

end StreamLink

end RelayDevice
