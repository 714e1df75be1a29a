import RelayDevice.Proofs.Argument.Limits

/-!
# Assignments sent and received

Who receives an argument list asks for the values in the order of its own declarations, whatever the
order in which they were sent (`ArgumentList.decodeOrdered_encoded`).

An assignment in which no name comes twice can be sent under its own names, in its own order
(`ArgumentList.ownDefs`). It is received as it was sent (`ArgumentList.decodeOrdered_own`). Types and
positions are no concern as long as there are few entries, so that whether it can be sent at all is
a matter of sizes (`ArgumentList.encode_own_isOk_iff`).
-/

namespace RelayDevice

namespace ArgumentList

/-! ### In the order of the receiver -/

theorem get?_delivered {sent : List ArgumentDef} {values : Assignment} {records : List Record}
    (written : recordsFrom values 0 sent = .ok records) (distinct : (sent.map (·.name)).Nodup)
    {d : ArgumentDef} (declared : d ∈ sent) :
    ∃ value, values.get? d.name = some value ∧
      Assignment.get? (delivered values sent).reverse d.name = some value.received := by
  obtain ⟨value, found, entry⟩ := mem_delivered written declared
  -- the list was read from its end, which makes no difference without repetitions
  have keys : ((delivered values sent).reverse.map Prod.fst).Nodup := by
    rw [List.map_reverse, List.nodup_reverse, map_fst_delivered written]
    exact distinct
  exact ⟨value, found, Assignment.get?_of_mem keys (List.mem_reverse.2 entry)⟩

/-- **Values arrive in the order of the receiver**, who declares what the sender declares. -/
theorem decodeOrdered_encoded {sent defs : List ArgumentDef} {values : Assignment} {bytes : Bytes}
    (same : sent.Perm defs) (distinct : (defs.map (·.name)).Nodup)
    (encoded : encode sent values = .ok bytes) :
    ∃ list, decodeOrdered bytes defs = .ok list ∧
      list.map some = defs.map fun d => (values.get? d.name).map ArgumentValue.received := by
  obtain ⟨decoded, -⟩ := decode_eq_delivered same distinct encoded
  obtain ⟨-, records, written, -⟩ := encode_eq_ok encoded
  have arrived : ∀ d ∈ defs, ∃ value, values.get? d.name = some value ∧
      Assignment.get? (delivered values sent).reverse d.name = some value.received := fun d hd =>
    get?_delivered written ((same.map _).nodup_iff.2 distinct) (same.mem_iff.2 hd)
  obtain ⟨list, inOrder, all⟩ := ordered_eq_ok (delivered values sent).reverse fun d hd => by
    obtain ⟨value, -, entry⟩ := arrived d hd
    rw [entry, Option.isSome_some]
  refine ⟨list, ?_, all.trans (List.map_congr_left fun d hd => ?_)⟩
  · rw [decodeOrdered, decoded]
    exact inOrder
  · obtain ⟨value, found, entry⟩ := arrived d hd
    rw [found, entry, Option.map_some]

/-! ### Under their own names -/

/-- The declarations that an assignment is made for: its names, in its order and with the types of
its values. -/
def ownDefs (values : Assignment) : List ArgumentDef :=
  values.map fun entry => ⟨entry.1, entry.2.kind⟩

/-- **An assignment is received as it was sent**, under its own names. -/
theorem decodeOrdered_own {values : Assignment} (distinct : (values.map Prod.fst).Nodup)
    {bytes : Bytes} (encoded : encode (ownDefs values) values = .ok bytes) :
    decodeOrdered bytes (ownDefs values) = .ok (values.map (·.2.received)) := by
  have names : ((ownDefs values).map (·.name)).Nodup := by
    rw [ownDefs, List.map_map]
    exact distinct
  obtain ⟨list, inOrder, all⟩ := decodeOrdered_encoded (.refl _) names encoded
  -- each name is declared for the one entry that bears it
  have each : (ownDefs values).map (fun d => (values.get? d.name).map ArgumentValue.received)
      = (values.map (·.2.received)).map some := by
    rw [ownDefs, List.map_map, List.map_map]
    refine List.map_congr_left fun entry h => ?_
    exact congrArg (Option.map ArgumentValue.received) (Assignment.get?_of_mem distinct h)
  have same : list = values.map (·.2.received) :=
    (List.map_inj_right fun _ _ => Option.some.inj).1 (all.trans each)
  rw [inOrder, same]

/-- **What few values must be like** to be laid out under their own names: none is too large. -/
theorem encode_own_isOk_iff {values : Assignment} (distinct : (values.map Prod.fst).Nodup)
    (few : values.length ≤ 8) :
    (∃ bytes, encode (ownDefs values) values = .ok bytes) ↔
      ∀ entry ∈ values, Fits entry.1 entry.2 := by
  have count : (ownDefs values).length = values.length := List.length_map _
  rw [encode_isOk_iff, count, and_iff_right (by omega)]
  constructor
  · intro sendable entry h
    -- the entry is declared somewhere, and what is found under its name is the entry
    have declared : ⟨entry.1, entry.2.kind⟩ ∈ ownDefs values := List.mem_map.2 ⟨entry, h, rfl⟩
    obtain ⟨position, early, there⟩ := List.mem_iff_getElem.1 declared
    obtain ⟨value, found, -, -, fits⟩ := sendable (⟨entry.1, entry.2.kind⟩, position)
      (List.mk_mem_zipIdx_iff_getElem?.2 (List.getElem?_eq_some_iff.2 ⟨early, there⟩))
    have same : value = entry.2 :=
      Option.some.inj (found.symm.trans (Assignment.get?_of_mem distinct h))
    exact same ▸ fits
  · rintro fits ⟨d, position⟩ h
    have place := List.mk_mem_zipIdx_iff_getElem?.1 h
    obtain ⟨early, -⟩ := List.getElem?_eq_some_iff.1 place
    obtain ⟨entry, own, rfl⟩ := List.mem_map.1 (List.mem_of_getElem? place)
    refine ⟨entry.2, Assignment.get?_of_mem distinct own, rfl, fun _ => ?_, fits entry own⟩
    -- there are no more than eight positions
    change position ≤ 7
    omega

end ArgumentList

end RelayDevice
