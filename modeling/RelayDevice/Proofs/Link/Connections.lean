import RelayDevice.Link.Stream
import RelayDevice.Proofs.Link.Division

/-!
# Frames of successive connections

A stream breaks off at any octet and is replaced, and whoever asks for frames is not told. What is
asked for in one call may have been read in an earlier one, a call may read several frames at once,
and octets stay behind between calls. `StreamLink.Carries` is what holds between two calls: the
frames that the present connection gave and the octets that stayed behind are a division of what was
read on it, and of nothing else.

A call reads on only if no whole frame is left (`Reassembly.reads_readFrame`). So when it finds the
end of the connection, all frames of what was read have been given, which is why the octets that are
thrown away with it hold none. `StreamLink.Carries.receive` is the step, and `Reception.Keeps.run`
the run; what the frames of each connection are does not depend on the calls any more, for there is
one division only (`Reassembly.Divides.eq_completeFrames`).
-/

namespace RelayDevice

/-! ### Complete frames -/

namespace Reassembly

variable {octets : Bytes} {p : Progress} {r : Reassembly}

/-- All complete frames at the beginning of some octets, each as long as it declares. -/
def completeFrames (octets : Bytes) : List Bytes := (drain ⟨octets⟩).1

theorem Divides.append {more : Progress} (first : Divides octets p)
    (later : Divides p.rest.buffer more) : Divides octets ⟨p.frames ++ more.frames, more.rest⟩ := by
  refine ⟨?_, List.forall_mem_append.2 ⟨first.declared, later.declared⟩⟩
  rw [← first.octets_eq, ← later.octets_eq, List.flatten_append, List.append_assoc]

theorem drain_of_next_eq_none (drained : r.next = none) : r.drain = ([], r) := by
  rw [drain]
  split
  · rfl
  · next given => cases drained.symm.trans given

theorem drain_of_next_eq_some {frame : Bytes} {rest : Reassembly}
    (given : r.next = some (frame, rest)) : r.drain = (frame :: rest.drain.1, rest.drain.2) := by
  rw [drain]
  split
  · next drained => cases drained.symm.trans given
  · next given' =>
    cases given.symm.trans given'
    rfl

/-- Taking off all frames divides the octets, and leaves no whole frame. -/
theorem divides_drain (r : Reassembly) :
    Divides r.buffer ⟨r.drain.1, r.drain.2⟩ ∧ IsDrained ⟨r.drain.1, r.drain.2⟩ := by
  induction r using drain.induct with
  | case1 r drained =>
    rw [drain_of_next_eq_none drained]
    exact ⟨⟨rfl, nofun⟩, drained⟩
  | case2 r frame rest given _ _ _ ih =>
    obtain ⟨divides, drained⟩ := ih
    obtain ⟨split, declared⟩ := next_eq_some_iff.1 given
    have first : Divides r.buffer ⟨[frame], rest⟩ :=
      ⟨by rw [List.flatten_singleton, split], by simpa using declared⟩
    rw [drain_of_next_eq_some given]
    exact ⟨first.append divides, drained⟩

/-- **What is given first is given in full**: the complete frames are those that were given, and those
that are left. -/
theorem Divides.completeFrames_eq (divides : Divides octets p) :
    completeFrames octets = p.frames ++ completeFrames p.rest.buffer := by
  obtain ⟨whole, drained⟩ := divides_drain ⟨octets⟩
  obtain ⟨rest, drained'⟩ := divides_drain p.rest
  have same := whole.unique (divides.append rest) drained drained'
  exact congrArg Progress.frames same

theorem Divides.eq_completeFrames (divides : Divides octets p) (drained : IsDrained p) :
    p.frames = completeFrames octets := by
  obtain ⟨whole, drained'⟩ := divides_drain ⟨octets⟩
  exact congrArg Progress.frames (divides.unique whole drained drained')

end Reassembly

/-! ### Reading -/

namespace StreamRead

/-- The octets that a read gives. -/
def octets : StreamRead → Bytes
  | data octets => octets
  | nothing | ended | failed => []

/-- Whether a read ends the connection. -/
def isEnd : StreamRead → Bool
  | ended | failed => true
  | data _ | nothing => false

end StreamRead

namespace StreamLink

open Reassembly (Divides IsDrained completeFrames)

/-- The octets that several reads give. -/
def octetsOf (reads : List StreamRead) : Bytes := reads.flatMap StreamRead.octets

/-- None of several reads ends the connection. -/
def StaysOpen (reads : List StreamRead) : Prop := ∀ read ∈ reads, read.isEnd = false

/-- **What reading until a frame is complete can lead to**, in terms of the reads that it took. -/
inductive Reads (r : Reassembly) : List StreamRead → Reading → Prop
  | frame {seen left : List StreamRead} {frame : Bytes} {rest : Reassembly} : StaysOpen seen →
    (r.extend (octetsOf seen)).next = some (frame, rest) →
    Reads r (seen ++ left) (.frame frame rest left)
  | waiting {seen left : List StreamRead} : StaysOpen seen →
    (r.extend (octetsOf seen)).next = none →
    Reads r (seen ++ left) (.waiting (r.extend (octetsOf seen)) left)
  | final {seen left : List StreamRead} {final : StreamRead} : StaysOpen seen → final.isEnd = true →
    (r.extend (octetsOf seen)).next = none → Reads r (seen ++ final :: left) .over

theorem staysOpen_cons {read : StreamRead} {reads : List StreamRead} (first : read.isEnd = false)
    (later : StaysOpen reads) : StaysOpen (read :: reads) :=
  List.forall_mem_cons.2 ⟨first, later⟩

theorem extend_octetsOf_cons (r : Reassembly) (read : StreamRead) (reads : List StreamRead) :
    r.extend (octetsOf (read :: reads)) = (r.extend read.octets).extend (octetsOf reads) := by
  rw [octetsOf, List.flatMap_cons, Reassembly.extend, Reassembly.extend, Reassembly.extend,
    List.append_assoc]
  rfl

theorem extend_octetsOf_nil (r : Reassembly) : r.extend (octetsOf []) = r := by
  change r.extend [] = r
  rw [Reassembly.extend, List.append_nil]

theorem Reads.cons {r : Reassembly} {read : StreamRead} {reads : List StreamRead}
    {reading : Reading} (first : read.isEnd = false)
    (later : Reads (r.extend read.octets) reads reading) : Reads r (read :: reads) reading := by
  cases later with
  | @frame seen left _ _ opened given =>
    rw [← extend_octetsOf_cons] at given
    exact @Reads.frame r (read :: seen) left _ _ (staysOpen_cons first opened) given
  | @waiting seen left opened drained =>
    rw [← extend_octetsOf_cons] at drained ⊢
    exact @Reads.waiting r (read :: seen) left (staysOpen_cons first opened) drained
  | @final seen left final opened ended drained =>
    rw [← extend_octetsOf_cons] at drained
    exact @Reads.final r (read :: seen) left final (staysOpen_cons first opened) ended drained

section Drained

variable {r : Reassembly} (drained : r.next = none)
include drained

theorem reads_waiting (reads : List StreamRead) : Reads r reads (.waiting r reads) := by
  have waiting := @Reads.waiting r [] reads nofun
  rw [extend_octetsOf_nil] at waiting
  exact waiting drained

theorem reads_over {final : StreamRead} (ended : final.isEnd = true) (reads : List StreamRead) :
    Reads r (final :: reads) .over := by
  have finished := @Reads.final r [] reads final nofun ended
  rw [extend_octetsOf_nil] at finished
  exact finished drained

/-- **Reading goes on only where no whole frame is left.** -/
theorem reads_readFrame (reads : List StreamRead) : Reads r reads (readFrame r reads) := by
  induction reads generalizing r with
  | nil => exact reads_waiting drained []
  | cons read reads ih =>
    cases read with
    | ended => exact reads_over drained rfl reads
    | failed => exact reads_over drained rfl reads
    | nothing =>
      refine .cons rfl ?_
      have same : r.extend StreamRead.nothing.octets = r := extend_octetsOf_nil r
      rw [same]
      exact reads_waiting drained reads
    | data octets =>
      refine .cons rfl ?_
      rw [readFrame]
      split
      · next frame rest given =>
        have first := @Reads.frame (r.extend octets) [] reads frame rest nofun
        rw [extend_octetsOf_nil] at first
        exact first given
      · next unfinished => exact ih unfinished

end Drained

/-! ### One connection -/

/-- **Between two calls.** The connection has read a part of what it will give, without an end in it,
and this part is divided into the frames that were given and the octets that stayed behind. -/
structure Carries (l : StreamLink) (script seen left : List StreamRead) (frames : List Bytes) :
    Prop where
  script_eq : script = seen ++ left
  stream_eq : l.stream = some left
  opened : StaysOpen seen
  divides : Divides (octetsOf seen) ⟨frames, l.reassembly⟩

/-- **A connection that is over**: its end was read, and all frames in front of it were given. -/
def IsOver (script : List StreamRead) (frames : List Bytes) : Prop :=
  ∃ seen final left, script = seen ++ final :: left ∧ StaysOpen seen ∧ final.isEnd = true ∧
    frames = completeFrames (octetsOf seen)

/-- What a call makes of the present connection. -/
inductive Receives (l : StreamLink) (script : List StreamRead) (frames : List Bytes) :
    Served StreamLink (Option Bytes) → Prop
  | frame {after : StreamLink} {seen left : List StreamRead} {frame : Bytes} :
    after.Carries script seen left (frames ++ [frame]) → after.upcoming = l.upcoming →
    Receives l script frames ⟨after, false, .ok (some frame)⟩
  | nothing {after : StreamLink} {seen left : List StreamRead} :
    after.Carries script seen left frames → after.upcoming = l.upcoming →
    Receives l script frames ⟨after, false, .ok none⟩
  | final : IsOver script frames → Receives l script frames ⟨l.connect, true, .ok none⟩

theorem divides_next {octets frame : Bytes} {frames : List Bytes} {r rest : Reassembly}
    (divides : Divides octets ⟨frames, r⟩) (given : r.next = some (frame, rest)) :
    Divides octets ⟨frames ++ [frame], rest⟩ := by
  have next := divides.act .next
  rw [Reassembly.Action.octets, List.append_nil, Reassembly.Progress.act, given] at next
  exact next

section Present

variable {l : StreamLink} {script seen left : List StreamRead} {frames : List Bytes}

/-- Some more reads of the present connection, none of which ends it. -/
theorem Carries.read {more : List StreamRead} (carries : l.Carries script seen (more ++ left) frames)
    (later : StaysOpen more) :
    script = seen ++ more ++ left ∧ StaysOpen (seen ++ more) ∧
      Divides (octetsOf (seen ++ more)) ⟨frames, l.reassembly.extend (octetsOf more)⟩ := by
  refine ⟨?_, List.forall_mem_append.2 ⟨carries.opened, later⟩, ?_⟩
  · rw [carries.script_eq, List.append_assoc]
  · rw [octetsOf, List.flatMap_append]
    exact carries.divides.act (.extend (octetsOf more))

/-- **One call.** -/
theorem Carries.receive (carries : l.Carries script seen left frames) :
    l.Receives script frames l.receive := by
  have stream := carries.stream_eq
  rw [StreamLink.receive]
  split
  · next frame rest given =>
    -- the frame was read in an earlier call
    have divides := divides_next carries.divides given
    exact .frame ⟨carries.script_eq, stream, carries.opened, divides⟩ rfl
  · next drained =>
    rw [stream]
    dsimp only
    have reads := reads_readFrame drained left
    generalize readFrame l.reassembly left = reading at reads
    cases reads with
    | frame later given =>
      obtain ⟨split, opened, divides⟩ := carries.read later
      exact .frame ⟨split, rfl, opened, divides_next divides given⟩ rfl
    | waiting later unfinished =>
      obtain ⟨split, opened, divides⟩ := carries.read later
      exact .nothing ⟨split, rfl, opened, divides⟩ rfl
    | final later ended unfinished =>
      -- nothing whole is left behind in front of the end
      obtain ⟨split, opened, divides⟩ := carries.read later
      exact .final ⟨_, _, _, split, opened, ended, divides.eq_completeFrames unfinished⟩

end Present

/-- What the connection of a number gives, counted from 0. Those after the last give nothing. -/
def script (l : StreamLink) (i : Nat) : List StreamRead := (l.upcoming[i]?.getD ⟨0, []⟩).reads

theorem carries_connect (l : StreamLink) : l.connect.Carries (l.script 0) [] (l.script 0) [] := by
  refine ⟨rfl, ?_, nofun, ⟨rfl, nofun⟩⟩
  rw [script, ← List.head?_eq_getElem?]
  rfl

end StreamLink

/-! ### Calls -/

/-- A stream from its first connection on, with what its calls gave. -/
structure Reception where
  link : StreamLink
  /-- The frames that connections gave which are over, the oldest first. -/
  past : List (List Bytes)
  /-- The frames that the present connection gave, the oldest first. -/
  frames : List Bytes
  /-- How often the heartbeat was made to start over, which is done where an operation tells of a new
  connection (`Worker.renew`). -/
  resets : Nat

namespace Reception

open Reassembly (Divides completeFrames)

/-- The first connection is opened. -/
def begin (l : StreamLink) : Reception :=
  ⟨l.begin.transport, [], [], if l.begin.renewed then 1 else 0⟩

/-- One call. What it gives belongs to the connection that was there before it. -/
def receive (r : Reception) : Reception :=
  let served := r.link.receive
  let frames := r.frames ++ (served.result.toOption.bind id).toList
  if served.renewed then ⟨served.transport, r.past ++ [frames], [], r.resets + 1⟩
  else ⟨served.transport, r.past, frames, r.resets⟩

def run (r : Reception) : Nat → Reception
  | 0 => r
  | calls + 1 => (r.run calls).receive

/-- **What calls preserve**, on a stream that was begun. -/
structure Keeps (r : Reception) (l : StreamLink) : Prop where
  past : ∀ i frames, r.past[i]? = some frames → StreamLink.IsOver (l.script i) frames
  present : ∃ seen left, r.link.Carries (l.script r.past.length) seen left r.frames
  resets_eq : r.resets = r.past.length + 1
  /-- Each connection was one of those that were to come. -/
  upcoming_eq : r.link.upcoming = l.upcoming.drop r.resets

variable {r : Reception} {l : StreamLink}

theorem keeps_begin (l : StreamLink) : (begin l).Keeps l :=
  ⟨nofun, ⟨[], _, l.carries_connect⟩, rfl, (List.drop_one).symm⟩

/-- The present connection is over, and the next one takes its place. -/
theorem Keeps.renew (kept : r.Keeps l)
    (finished : StreamLink.IsOver (l.script r.past.length) r.frames) :
    (⟨r.link.connect, r.past ++ [r.frames], [], r.resets + 1⟩ : Reception).Keeps l := by
  have next : r.link.script 0 = l.script (r.past.length + 1) := by
    rw [StreamLink.script, kept.upcoming_eq, kept.resets_eq, List.getElem?_drop]
    rfl
  refine ⟨fun i frames listed => ?_, ⟨[], l.script (r.past.length + 1), ?_⟩, ?_, ?_⟩
  · rcases Nat.lt_trichotomy i r.past.length with earlier | last | later
    · rw [List.getElem?_append_left earlier] at listed
      exact kept.past i frames listed
    · rw [last, List.getElem?_concat_length] at listed
      cases listed
      exact last ▸ finished
    · have none : (r.past ++ [r.frames])[i]? = none :=
        List.getElem?_eq_none (by rw [List.length_append]; exact later)
      cases none.symm.trans listed
  · rw [List.length_append, List.length_singleton, ← next]
    exact r.link.carries_connect
  · rw [List.length_append, kept.resets_eq]
    rfl
  · change r.link.upcoming.tail = _
    rw [kept.upcoming_eq, List.tail_drop]

theorem Keeps.receive (kept : r.Keeps l) : r.receive.Keeps l := by
  obtain ⟨seen, left, carries⟩ := kept.present
  have receives := carries.receive
  rw [Reception.receive]
  generalize r.link.receive = served at receives
  cases receives with
  -- as long as the connection lasts, only its own frames and octets change
  | frame carries same =>
    exact ⟨kept.past, ⟨_, _, carries⟩, kept.resets_eq, same.trans kept.upcoming_eq⟩
  | @nothing after seen left carries same =>
    rw [← List.append_nil r.frames] at carries
    exact ⟨kept.past, ⟨seen, left, carries⟩, kept.resets_eq, same.trans kept.upcoming_eq⟩
  | final finished =>
    have renewed := kept.renew finished
    rw [← List.append_nil r.frames] at renewed
    exact renewed

theorem Keeps.run (kept : r.Keeps l) (calls : Nat) : (r.run calls).Keeps l := by
  induction calls with
  | zero => exact kept
  | succ calls ih => exact ih.receive

/-- **The frames of a connection come from that connection**, and none is lost. On a stream that was
begun, with any connections to come, and after any number of calls: whoever calls once more is given
no error. Each connection that is over gave, in order, all complete frames of the octets that were
read on it, which are those in front of its first end. The present one gave some of them, from the
first one on, and the rest of its octets stayed behind. The heartbeat was made to start over once for
each connection, and each was the next of those that were to come. -/
theorem frames_of_connections (l : StreamLink) (calls : Nat) :
    let r := (begin l).run calls
    (∃ given, r.link.receive.result = .ok given) ∧
    (∀ i frames, r.past[i]? = some frames →
      ∃ seen final left, l.script i = seen ++ final :: left ∧ StreamLink.StaysOpen seen ∧
        final.isEnd = true ∧ frames = completeFrames (StreamLink.octetsOf seen)) ∧
    (∃ seen left, l.script r.past.length = seen ++ left ∧ StreamLink.StaysOpen seen ∧
      r.link.stream = some left ∧ r.frames <+: completeFrames (StreamLink.octetsOf seen) ∧
      r.frames.flatten ++ r.link.reassembly.buffer = StreamLink.octetsOf seen) ∧
    r.resets = r.past.length + 1 ∧ r.link.upcoming = l.upcoming.drop r.resets := by
  intro r
  have kept : r.Keeps l := (keeps_begin l).run calls
  obtain ⟨seen, left, carries⟩ := kept.present
  refine ⟨?_, kept.past, ⟨seen, left, carries.script_eq, carries.opened, carries.stream_eq, ?_,
    carries.divides.octets_eq⟩, kept.resets_eq, kept.upcoming_eq⟩
  · have receives := carries.receive
    generalize r.link.receive = served at receives
    cases receives with
    | frame => exact ⟨_, rfl⟩
    | nothing => exact ⟨_, rfl⟩
    | final => exact ⟨_, rfl⟩
  · rw [carries.divides.completeFrames_eq]
    exact List.prefix_append _ _

/-- A frame without attributes, of one kind or another. -/
def bareFrame (kind : UInt8) : Bytes := 0 :: kind :: List.replicate 18 0

/-- A stream whose first connection breaks off within its second frame. -/
def flickering : StreamLink :=
  { StreamLink.start 1 9 with
    upcoming := [
      ⟨0, [.data ((bareFrame 1).take 9), .nothing, .data ((bareFrame 1).drop 9 ++ (bareFrame 2).take 7),
        .ended]⟩,
      ⟨3, [.data (bareFrame 3 ++ (bareFrame 4).take 3), .nothing]⟩] }

/-- What stayed behind of the first connection is no part of the frame that comes after it. -/
theorem frames_of_connections_flickering :
    ((begin flickering).run 5).past = [[bareFrame 1]] ∧
      ((begin flickering).run 5).frames = [bareFrame 3] ∧
      ((begin flickering).run 5).link.reassembly.buffer = (bareFrame 4).take 3 ∧
      ((begin flickering).run 5).resets = 2 ∧
      ∃ seen final left, flickering.script 0 = seen ++ final :: left ∧
        [bareFrame 1] = completeFrames (StreamLink.octetsOf seen) := by
  obtain ⟨-, past, -, resets, -⟩ := frames_of_connections flickering 5
  have given : ((begin flickering).run 5).past = [[bareFrame 1]] := by decide +kernel
  have first : ((begin flickering).run 5).past[0]? = some [bareFrame 1] := by rw [given]; rfl
  obtain ⟨seen, final, left, script, -, -, all⟩ := past 0 _ first
  refine ⟨given, by decide +kernel, by decide +kernel, ?_, seen, final, left, script, all⟩
  rw [resets, given]
  rfl

end Reception

end RelayDevice
