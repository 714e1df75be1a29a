import RelayDevice.Wire.Header

/-!
# Frames out of a stream

A stream carries frames back to back, cut anywhere. The octets that have arrived are kept until
they hold a whole frame, whose length its header declares.

* `Reassembly.extend` — takes octets that arrived;
* `Reassembly.next` — splits off the first frame if it is complete;
* `Reassembly.drain` — splits off all complete frames.
-/

namespace RelayDevice

/-- The octets of a stream that belong to no complete frame yet. -/
structure Reassembly where
  /-- The octets in order of arrival. -/
  buffer : Bytes
deriving DecidableEq

namespace Reassembly

/-- A stream of which nothing has arrived. -/
def empty : Reassembly := ⟨[]⟩

/-- Takes octets that arrived. -/
def extend (r : Reassembly) (chunk : Bytes) : Reassembly := ⟨r.buffer ++ chunk⟩

/-- The number of octets that wait for the rest of their frame. -/
def pending (r : Reassembly) : Nat := r.buffer.length

/-- Splits off the first frame, if all of it has arrived. -/
def next (r : Reassembly) : Option (Bytes × Reassembly) :=
  match declaredFrameLength? r.buffer with
  | none => none
  | some size =>
    if r.buffer.length < size then none
    else some (r.buffer.take size, ⟨r.buffer.drop size⟩)

theorem size_le_declaredFrameLength? {bs : Bytes} {n : Nat} (h : declaredFrameLength? bs = some n) :
    20 ≤ n := by
  unfold declaredFrameLength? at h
  split at h
  · injection h with h
    rw [← h, Header.size]
    omega
  · cases h

theorem length_of_next {r s : Reassembly} {frame : Bytes} (h : r.next = some (frame, s)) :
    s.buffer.length < r.buffer.length := by
  unfold next at h
  split at h
  · cases h
  · next size hsize =>
    have := size_le_declaredFrameLength? hsize
    split at h
    · cases h
    · injection h with h
      injection h with _ hs
      subst hs
      simp only [List.length_drop]
      omega

/-- Splits off all complete frames, in order. -/
def drain (r : Reassembly) : List Bytes × Reassembly :=
  match _h : r.next with
  | none => ([], r)
  | some (frame, rest) =>
    let (frames, last) := drain rest
    (frame :: frames, last)
termination_by r.buffer.length
decreasing_by exact length_of_next (by assumption)

end Reassembly

end RelayDevice
