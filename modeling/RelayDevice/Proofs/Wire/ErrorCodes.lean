import RelayDevice.Proofs.Wire.Answers

/-!
# Error codes on their way

A refusal tells a number and a reason, and the octets that carry them have room for less than both
can say.

* The hundreds of the number are written into one octet, of which the reader takes three bits. So
  they are counted modulo 256 by the one and modulo 8 by the other, and the rest of the number is kept
  apart from them (`errorNumber_eq_iff`).
* The reason is padded with zeros, inside the value and once more on the wire. The reader trims zeros
  until another character stands at the end, and cannot tell padding from zeros that belonged to the
  reason (`trimZeros_eq_self_iff`). What it keeps is everything in front of these
  (`exists_eq_trimZeros_append`).

`Message.errorCode_survives_iff` puts the two together, for every message that carries the code and for
frames with and without a tag.
-/

namespace RelayDevice

/-! ### Numbers -/

/-- What is read of a number: its hundreds as an octet holds them, and of that octet three bits. -/
def errorNumber (code : UInt16) : Nat :=
  code.toNat / 100 % 256 % 8 * 100 + code.toNat % 100

/-- **Eight hundred is the first number that is lost.** -/
theorem errorNumber_eq_iff {code : UInt16} : errorNumber code = code.toNat ↔ code.toNat < 800 := by
  have word := code.toNat_lt
  rw [errorNumber]
  omega

/-! ### Reasons -/

/-- A text whose last character is a zero. -/
def EndsInZero (s : String) : Prop := s.toList.getLast? = some '\x00'

instance (s : String) : Decidable (EndsInZero s) :=
  inferInstanceAs (Decidable (s.toList.getLast? = some '\x00'))

theorem not_endsInZero_iff {s : String} :
    ¬ EndsInZero s ↔ ∀ solid : s.toList ≠ [], s.toList.getLast solid ≠ '\x00' := by
  rw [EndsInZero]
  constructor
  · intro other solid last
    apply other
    rw [List.getLast?_eq_some_getLast solid, last]
  · intro other ends
    have solid : s.toList ≠ [] := by
      intro nothing
      rw [nothing] at ends
      cases ends
    rw [List.getLast?_eq_some_getLast solid] at ends
    exact other solid (Option.some.inj ends)

/-- **Trimming keeps a text** exactly if it does not end in a zero. -/
theorem trimZeros_eq_self_iff {s : String} : trimZeros s = s ↔ ¬ EndsInZero s := by
  have same : trimZeros s = s ↔ s.toList.rdropWhile (· = '\x00') = s.toList := by
    rw [trimZeros, ← String.toList_inj, String.toList_ofList]
  rw [same, List.rdropWhile_eq_self_iff, not_endsInZero_iff]
  simp only [decide_eq_true_eq, ne_eq]

/-- Nothing is left to be trimmed. -/
theorem not_endsInZero_trimZeros (s : String) : ¬ EndsInZero (trimZeros s) := by
  rw [← trimZeros_eq_self_iff]
  have again := List.rdropWhile_idempotent (p := (· = '\x00')) s.toList
  rw [trimZeros, trimZeros, String.toList_ofList, again]

/-- **What is trimmed are zeros**, and they stood at the end. -/
theorem exists_eq_trimZeros_append (s : String) :
    ∃ n, s = trimZeros s ++ String.ofList (List.replicate n '\x00') := by
  let cut := s.toList.rtakeWhile (· = '\x00')
  have zeros : cut = List.replicate cut.length '\x00' := by
    rw [List.eq_replicate_iff]
    exact ⟨rfl, fun c among => of_decide_eq_true (List.mem_rtakeWhile_imp (x := c) among)⟩
  refine ⟨cut.length, ?_⟩
  rw [← zeros, trimZeros, ← String.ofList_append, List.rdropWhile_append_rtakeWhile,
    String.ofList_toList]

/-! ### Both together -/

namespace Message

/-- **The code that is read.** Trimming and masking happen to the value, so it does not matter whether
the frame was signed on its way. -/
theorem errorCode?_delivered {m : Message} {code : UInt16} {reason : String}
    (carried : m.attribute? .errorCode = some (errorCodeValue code reason)) (key : Option Bytes)
    (frame : Bytes) :
    (m.delivered key frame).errorCode? = some (errorNumber code, trimZeros reason) := by
  apply errorCode?_of_attribute
  rw [attribute?_delivered (by decide), carried]

/-- **A code survives exactly within its range.** Take any number of sixteen bits and any reason, and a
message that carries them as its error code and has room in a frame, with a tag or without one. The
frame is read, and number and reason are read from it as they were exactly if the number is below eight
hundred and the reason does not end in a zero. Whatever they were, the number that is read has lost the
hundreds that the octet and the mask have no room for, and the reason has lost the zeros at its end and
nothing else. -/
theorem errorCode_survives_iff {m : Message} {code : UInt16} {reason : String}
    (carried : m.attribute? .errorCode = some (errorCodeValue code reason)) {key : Option Bytes}
    (room : m.bodyLength key ≤ 65535) :
    ∃ frame read, m.encode key = .ok frame ∧ decode frame = .ok read ∧
      (read.errorCode? = some (code.toNat, reason) ↔ code.toNat < 800 ∧ ¬ EndsInZero reason) ∧
      ∃ kept zeros, reason = kept ++ String.ofList (List.replicate zeros '\x00') ∧
        ¬ EndsInZero kept ∧
        read.errorCode? = some (code.toNat / 100 % 256 % 8 * 100 + code.toNat % 100, kept) := by
  have written := encode_eq_ok room
  have read := errorCode?_delivered carried key (m.frame key)
  refine ⟨m.frame key, _, written, decode_encoded written, ?_, ?_⟩
  · rw [read, Option.some.injEq, Prod.mk.injEq, errorNumber_eq_iff, trimZeros_eq_self_iff]
  · obtain ⟨zeros, split⟩ := exists_eq_trimZeros_append reason
    exact ⟨trimZeros reason, zeros, split, not_endsInZero_trimZeros reason, read⟩

/-- A refusal with the last number that survives, for a reason with a zero inside. -/
def lastRefusal : Message :=
  (empty .error .binding .zero).push .errorCode (errorCodeValue 799 "no\x00pe")

/-- Number and reason are read as they were, from a frame with a tag. -/
theorem errorCode_survives_lastRefusal :
    ∃ frame read, lastRefusal.encode (some [107]) = .ok frame ∧ decode frame = .ok read ∧
      read.errorCode? = some (799, "no\x00pe") := by
  have carried : lastRefusal.attribute? .errorCode = some (errorCodeValue 799 "no\x00pe") := rfl
  have room : lastRefusal.bodyLength (some [107]) ≤ 65535 := by decide +kernel
  obtain ⟨frame, read, written, decoded, survives, -⟩ := errorCode_survives_iff carried room
  have inRange : (799 : UInt16).toNat < 800 ∧ ¬ EndsInZero "no\x00pe" := by decide +kernel
  exact ⟨frame, read, written, decoded, survives.2 inRange⟩

end Message

end RelayDevice
