import RelayDevice.Proofs.Argument.RoundTrip

/-!
# Argument lists that were cut

A list says in its first octets how many records it has and how long they are, so an end that was
lost is missed: no cut makes a shorter list of a longer one. This holds for every reader, whatever
it declares. Octets behind the last record are ignored by readers, so it holds of nothing but the
octets that the writer left.

The reader meets the cut in one of three places, in the count, in the header behind it, or in a
record, and complains of what is missing there (`ArgumentList.isTruncation`). It may find fault
with an earlier record before it gets there, but then it finds the same fault with the whole list.
The argument is `readRecords_of_cut`, by induction on the records: those in front of the cut are read
as they are in the whole list, and the one with the cut in it is too short for its length
(`readRecords_of_short`). `decode_of_cut` adds the two places in front of the records.
-/

namespace RelayDevice

namespace ArgumentList

/-- Whether an error says that octets are missing. -/
def isTruncation : ArgumentError → Bool
  | .empty | .headerTruncated | .recordTruncated _ => true
  | _ => false

variable {defs sent : List ArgumentDef} {values before : Assignment} {position mask : Nat}
  {records : List Record} {p lost : Bytes}

/-! ### Records -/

theorem readRecords_of_short {size : UInt8} {rest : Bytes} (short : rest.length < 4 + size.toNat)
    (sizes : List UInt8) :
    readRecords defs position mask (size :: sizes) rest before
      = .error (.recordTruncated position) := by
  rw [readRecords]
  split
  · next a b c d payload taken =>
    -- four octets are there, so it is the payload that lacks some
    have length : (rest.take (4 + size.toNat)).length = payload.length + 4 := by
      rw [taken]
      rfl
    have fewer : payload.length < size.toNat := by
      rw [List.length_take] at length
      omega
    rw [if_pos fewer]
  · rfl

/-- **A cut among the records.** The records in front of it are read as if nothing were missing, and
any fault that is found there is a fault of the whole. -/
theorem readRecords_of_cut {place : Nat} (written : recordsFrom values place sent = .ok records)
    (cut : p ++ lost = records.flatMap Record.toBytes) (missing : lost ≠ []) (position : Nat)
    (before : Assignment) :
    ∃ cause,
      readRecords defs position (maskOf records) (records.map fun r => .ofNat r.payload.length)
        p before = .error cause ∧
      (isTruncation cause = true ∨
        readRecords defs position (maskOf records) (records.map fun r => .ofNat r.payload.length)
          (records.flatMap Record.toBytes) before = .error cause) := by
  induction sent generalizing place records p position before with
  | nil =>
    -- there are no records to be cut
    cases written
    exact absurd (List.append_eq_nil_iff.1 cut).2 missing
  | cons d sent ih =>
    obtain ⟨value, r, rs, -, first, later, rfl⟩ := recordsFrom_cons_eq_ok written
    obtain ⟨a, b, c, e, word, short, -⟩ := record_eq_ok first
    rw [List.flatMap_cons] at cut ⊢
    have size : (UInt8.ofNat r.payload.length).toNat = r.payload.length :=
      UInt8.toNat_ofNat_of_lt' (Nat.lt_succ_of_le short)
    have length : r.toBytes.length = 4 + r.payload.length := Record.length_toBytes word
    by_cases inside : p.length < 4 + r.payload.length
    · -- the cut is in this record
      exact ⟨_, readRecords_of_short (by rwa [size]) _, .inl rfl⟩
    · -- the record is whole, and the cut is in one of the others
      have leads : r.toBytes <+: p :=
        List.prefix_of_prefix_length_le (List.prefix_append _ _) ⟨lost, cut⟩ (by omega)
      obtain ⟨q, rfl⟩ := leads
      rw [List.append_assoc] at cut
      have cut : q ++ lost = rs.flatMap Record.toBytes := List.append_cancel_left cut
      rw [List.map_cons, readRecords_cons word short, readRecords_cons word short]
      cases read : readRecord defs position r.isString a b c e r.payload with
      | error fault => exact ⟨fault, rfl, .inr rfl⟩
      | ok entry =>
        obtain ⟨name, value⟩ := entry
        change ∃ cause, (if (before.get? name).isSome then _ else _) = _ ∧
          (_ ∨ (if (before.get? name).isSome then _ else _) = _)
        by_cases seen : (before.get? name).isSome
        · rw [if_pos seen, if_pos seen]
          exact ⟨_, rfl, .inr rfl⟩
        · rw [if_neg seen, if_neg seen]
          exact ih later cut (position + 1) ((name, value) :: before)

/-! ### Whole lists -/

theorem readCounted_of_short {count : Nat} (positive : count ≠ 0) {rest : Bytes}
    (short : rest.length ≤ count) : readCounted defs count rest = .error .headerTruncated := by
  rw [readCounted, if_neg positive, List.drop_eq_nil_of_le short]

/-- **A cut behind the count.** Where the mask is missing there are too few octets, and otherwise the
cut is among the records. -/
theorem readCounted_of_cut (defs : List ArgumentDef) (arguments : sent ≠ [])
    (written : recordsFrom values 0 sent = .ok records)
    (cut : p ++ lost = (records.map fun r => .ofNat r.payload.length)
      ++ .ofNat (maskOf records) :: records.flatMap Record.toBytes) (missing : lost ≠ []) :
    ∃ cause, readCounted defs sent.length p = .error cause ∧
      (isTruncation cause = true ∨ readCounted defs sent.length (p ++ lost) = .error cause) := by
  have positive : sent.length ≠ 0 := fun none => arguments (List.eq_nil_of_length_eq_zero none)
  have lengths : (records.map fun r => UInt8.ofNat r.payload.length).length = sent.length := by
    rw [List.length_map, length_recordsFrom written]
  have mask : (UInt8.ofNat (maskOf records)).toNat = maskOf records :=
    UInt8.toNat_ofNat_of_lt' (maskOf_lt written)
  by_cases header : p.length ≤ sent.length
  · exact ⟨_, readCounted_of_short positive header, .inl rfl⟩
  · have leads : (records.map fun r => UInt8.ofNat r.payload.length)
        ++ [.ofNat (maskOf records)] <+: p := by
      refine List.prefix_of_prefix_length_le ⟨records.flatMap Record.toBytes, ?_⟩ ⟨lost, cut⟩ ?_
      · rw [List.append_assoc]
        rfl
      · rw [List.length_append, lengths, List.length_singleton]
        omega
    obtain ⟨q, rfl⟩ := leads
    simp only [List.append_assoc, List.cons_append, List.nil_append] at cut ⊢
    have cut : q ++ lost = records.flatMap Record.toBytes :=
      (List.cons.inj (List.append_cancel_left cut)).2
    rw [cut, readCounted_append positive lengths, readCounted_append positive lengths, mask]
    exact readRecords_of_cut written cut missing 0 []

/-- **A cut is always noticed.** Whoever reads a list of arguments whose end is missing, be it
everything or the last octet, fails, whatever arguments were declared for it. The complaint is that
octets are missing, or else it is one that the reader has of the whole list as well. -/
theorem decode_of_cut {bytes : Bytes} (arguments : sent ≠ [])
    (encoded : encode sent values = .ok bytes) (cut : p <+: bytes) (strict : p ≠ bytes)
    (defs : List ArgumentDef) :
    ∃ cause, decode p defs = .error cause ∧
      (isTruncation cause = true ∨ decode bytes defs = .error cause) := by
  obtain ⟨few, records, written, rfl⟩ := encode_eq_ok encoded
  obtain ⟨lost, cut⟩ := cut
  have missing : lost ≠ [] := by
    rintro rfl
    exact strict (by rw [← cut, List.append_nil])
  cases p with
  | nil => exact ⟨.empty, rfl, .inl rfl⟩
  | cons count q =>
    rw [List.cons_append, List.cons.injEq] at cut
    obtain ⟨rfl, cut⟩ := cut
    have whole : (UInt8.ofNat sent.length).toNat = sent.length :=
      UInt8.toNat_ofNat_of_lt' (Nat.lt_succ_of_le few)
    have passes {rest : Bytes} {cause : ArgumentError}
        (failed : readCounted defs sent.length rest = .error cause) :
        decode (.ofNat sent.length :: rest) defs = .error cause := by
      rw [decode, whole, failed]
      rfl
    obtain ⟨cause, failed, reason⟩ := readCounted_of_cut defs arguments written cut missing
    rw [cut] at reason
    exact ⟨cause, passes failed, reason.imp_right passes⟩

theorem decode_of_cut_sample :
    sampleSent ≠ [] ∧ encode sampleSent sampleValues = .ok sampleBytes ∧
      sampleBytes.take 12 <+: sampleBytes ∧ sampleBytes.take 12 ≠ sampleBytes ∧
      ∃ cause, decode (sampleBytes.take 12) sampleDefs = .error cause ∧
        isTruncation cause = true := by
  have arguments : sampleSent ≠ [] := by decide
  have encoded : encode sampleSent sampleValues = .ok sampleBytes := by decide +kernel
  have cut : sampleBytes.take 12 <+: sampleBytes := List.take_prefix 12 sampleBytes
  have strict : sampleBytes.take 12 ≠ sampleBytes := by decide
  refine ⟨arguments, encoded, cut, strict, ?_⟩
  obtain ⟨cause, failed, missing | whole⟩ := decode_of_cut arguments encoded cut strict sampleDefs
  · exact ⟨cause, failed, missing⟩
  · -- the whole list can be read
    have read : (decode sampleBytes sampleDefs).isOk = true := by decide +kernel
    rw [whole] at read
    cases read

end ArgumentList

end RelayDevice
