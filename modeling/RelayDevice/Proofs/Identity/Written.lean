import Mathlib.Data.List.Pairwise
import Mathlib.Data.String.Basic
import RelayDevice.Identity
import RelayDevice.Proofs.Toml.RoundTrip

/-!
# Identities read back from their file

A file of identities has a line for each device, in the order of the names. Reading it enters the
lines into a table one after the other, and a table keeps its entries in that order too
(`IdentityTable.Ordered.set`). So each line that is read goes behind all those before it, and a
table in order is read back as it was written: `IdentityTable.ofText?_text`, for names that are any
texts at all.

What is read from any other file is a table in order as well (`IdentityTable.ordered_of_ofText?`),
because it was made by the same entries.
-/

namespace RelayDevice

/-! ### Identities as texts -/

namespace Bytes

theorem hexValue?_hexDigit : ∀ n < 16, hexValue? (hexDigit n) = some n := by decide

/-- **Octets read back** from their digits. -/
theorem ofHexChars?_flatMap_hexPair (bs : Bytes) : ofHexChars? (bs.flatMap hexPair) = some bs := by
  induction bs with
  | nil => rfl
  | cons b bs ih =>
    have := b.toNat_lt
    have high : hexValue? (hexDigit (b.toNat / 16)) = some (b.toNat / 16) :=
      hexValue?_hexDigit _ (by omega)
    have low : hexValue? (hexDigit (b.toNat % 16)) = some (b.toNat % 16) :=
      hexValue?_hexDigit _ (by omega)
    have whole : b.toNat / 16 * 16 + b.toNat % 16 = b.toNat := by omega
    rw [List.flatMap_cons, hexPair, List.cons_append, List.cons_append, List.nil_append,
      ofHexChars?, high, low, ih]
    simp only [Option.bind_eq_bind, Option.bind_some, whole, UInt8.ofNat_toNat, Option.pure_def]

theorem length_flatMap_hexPair (bs : Bytes) : (bs.flatMap hexPair).length = 2 * bs.length := by
  rw [List.length_flatMap]
  induction bs with
  | nil => rfl
  | cons b bs ih =>
    rw [List.map_cons, List.sum_cons, ih, List.length_cons]
    change 2 + 2 * bs.length = _
    omega

/-- A digit stands between quotes as it is. -/
theorem escaped_of_mem_hexPair {b : UInt8} {c : Char} (digit : c ∈ hexPair b) :
    Toml.escaped c = [c] := by
  have noEscape : ∀ n < 16, Toml.escaped (hexDigit n) = [hexDigit n] := by decide
  have := b.toNat_lt
  rw [hexPair, List.mem_pair] at digit
  rcases digit with rfl | rfl
  · exact noEscape _ (by omega)
  · exact noEscape _ (by omega)

end Bytes

namespace Uuid

/-- Five groups with hyphens between them are read as their digits. -/
theorem ofGroups?_join {g₀ g₁ g₂ g₃ g₄ : List Char} (h₀ : g₀.length = 8) (h₁ : g₁.length = 4)
    (h₂ : g₂.length = 4) (h₃ : g₃.length = 4) (h₄ : g₄.length = 12) :
    ofGroups? (g₀ ++ '-' :: (g₁ ++ '-' :: (g₂ ++ '-' :: (g₃ ++ '-' :: g₄))))
      = ofDigits? (g₀ ++ g₁ ++ g₂ ++ g₃ ++ g₄) := by
  simp [ofGroups?, List.drop_append, List.getElem?_append, List.getElem?_cons, h₀, h₁, h₂, h₃, h₄,
    List.drop_eq_nil_of_le]

/-- The digits of some of the octets. -/
def group (u : Uuid) (start count : Nat) : List Char :=
  ((u.octets.drop start).take count).flatMap Bytes.hexPair

theorem length_group (u : Uuid) (start count : Nat) (within : start + count ≤ 16) :
    (u.group start count).length = 2 * count := by
  have sixteen := u.length_eq
  rw [group, Bytes.length_flatMap_hexPair, List.length_take, List.length_drop]
  omega

theorem toList_text (u : Uuid) : u.text.toList = u.group 0 4 ++ '-' :: (u.group 4 2 ++ '-' ::
    (u.group 6 2 ++ '-' :: (u.group 8 2 ++ '-' :: u.group 10 6))) := by
  simp [text, group, Bytes.hex, String.toList_append, String.toList_ofList]

/-- The groups hold all octets. -/
theorem groups_eq (u : Uuid) :
    u.group 0 4 ++ u.group 4 2 ++ u.group 6 2 ++ u.group 8 2 ++ u.group 10 6
      = u.octets.flatMap Bytes.hexPair := by
  have last : (u.octets.drop 10).take 6 = u.octets.drop 10 :=
    List.take_of_length_le (by rw [List.length_drop, u.length_eq])
  have step (start count : Nat) :
      (u.octets.drop start).take count ++ u.octets.drop (start + count) = u.octets.drop start := by
    rw [← List.drop_drop, List.take_append_drop]
  simp only [group, ← List.flatMap_append, last, List.append_assoc, step]
  rfl

/-- **An identity read back.** -/
theorem ofText?_text (u : Uuid) : ofText? u.text = some u := by
  have g₀ := u.length_group 0 4 (by decide)
  have g₁ := u.length_group 4 2 (by decide)
  have g₂ := u.length_group 6 2 (by decide)
  have g₃ := u.length_group 8 2 (by decide)
  have g₄ := u.length_group 10 6 (by decide)
  have long : u.text.toList.length = 36 := by
    rw [toList_text]
    simp only [List.length_append, List.length_cons, g₀, g₁, g₂, g₃, g₄]
  rw [ofText?, long, toList_text]
  simp only [Nat.reduceEqDiff, false_and, if_false]
  rw [ofGroups?_join g₀ g₁ g₂ g₃ g₄, groups_eq, ofDigits?, Bytes.ofHexChars?_flatMap_hexPair]
  exact ofBytes?_octets u

/-- The written form of an identity needs no escapes. -/
theorem needsNoEscape_text (u : Uuid) : Toml.NeedsNoEscape u.text.toList := by
  intro c among
  have digits (start count : Nat) (h : c ∈ u.group start count) : Toml.escaped c = [c] := by
    obtain ⟨b, -, digit⟩ := List.mem_flatMap.1 h
    exact Bytes.escaped_of_mem_hexPair digit
  have hyphen : Toml.escaped '-' = ['-'] := by decide
  rw [toList_text] at among
  simp only [List.mem_append, List.mem_cons] at among
  rcases among with h | rfl | h | rfl | h | rfl | h | rfl | h
  iterate 4
    · exact digits _ _ h
    · exact hyphen
  exact digits _ _ h

end Uuid

/-! ### Tables in order -/

namespace IdentityTable

/-- The names of a table come in order, and none of them twice. -/
def Ordered (t : IdentityTable) : Prop := (t.map (·.1)).Pairwise (· < ·)

theorem Ordered.nodup {t : IdentityTable} (ordered : t.Ordered) : (t.map (·.1)).Nodup :=
  List.Pairwise.imp (fun less => less.ne) ordered

/-- The names of a table after an entry. -/
theorem mem_names_set {t : IdentityTable} {name : String} {uuid : Uuid} {other : String}
    (among : other ∈ (t.set name uuid).map (·.1)) : other = name ∨ other ∈ t.map (·.1) := by
  induction t with
  | nil => exact .inl (List.mem_singleton.1 among)
  | cons entry rest ih =>
    rw [set] at among
    split at among
    · exact (List.mem_cons.1 among).imp id id
    split at among
    · rcases List.mem_cons.1 among with rfl | later
      · exact .inl rfl
      · exact .inr (List.mem_cons_of_mem _ later)
    · rcases List.mem_cons.1 among with rfl | later
      · exact .inr List.mem_cons_self
      · exact (ih later).imp id (List.mem_cons_of_mem _)

/-- **An entry keeps the order.** -/
theorem Ordered.set {t : IdentityTable} (ordered : t.Ordered) (name : String) (uuid : Uuid) :
    (t.set name uuid).Ordered := by
  induction t with
  | nil => exact List.pairwise_singleton _ _
  | cons entry rest ih =>
    obtain ⟨other, u⟩ := entry
    obtain ⟨least, later⟩ := List.pairwise_cons.1 ordered
    rw [IdentityTable.set]
    split
    · next before =>
      refine List.pairwise_cons.2 ⟨fun n among => ?_, ordered⟩
      rcases List.mem_cons.1 among with rfl | among
      · exact before
      · exact before.trans (least n among)
    split
    · next same =>
      subst same
      exact ordered
    · next notBefore another =>
      refine List.pairwise_cons.2 ⟨fun n among => ?_, ih later⟩
      rcases mem_names_set among with rfl | among
      · exact lt_of_le_of_ne (not_lt.1 notBefore) (Ne.symm another)
      · exact least n among

/-- The last name in order is entered behind all others. -/
theorem set_of_last {t : IdentityTable} {name : String} (last : ∀ other ∈ t.map (·.1), other < name)
    (uuid : Uuid) : t.set name uuid = t ++ [(name, uuid)] := by
  induction t with
  | nil => rfl
  | cons entry rest ih =>
    obtain ⟨other, u⟩ := entry
    have before : other < name := last other List.mem_cons_self
    rw [set, if_neg before.not_gt, if_neg before.ne', ih fun n among =>
      last n (List.mem_cons_of_mem _ among)]
    rfl

/-- **Entries in order** make the table that they are. -/
theorem foldl_set_append {t rest : IdentityTable} (ordered : (t ++ rest).Ordered) :
    rest.foldl (fun t (name, uuid) => t.set name uuid) t = t ++ rest := by
  induction rest generalizing t with
  | nil => exact (List.append_nil t).symm
  | cons entry rest ih =>
    obtain ⟨name, uuid⟩ := entry
    have last : ∀ other ∈ t.map (·.1), other < name := by
      intro other among
      rw [Ordered, List.map_append] at ordered
      exact (List.pairwise_append.1 ordered).2.2 other among name List.mem_cons_self
    rw [List.foldl_cons]
    change rest.foldl _ (t.set name uuid) = _
    rw [set_of_last last, ih]
    · rw [List.append_assoc, List.singleton_append]
    · rw [List.append_assoc]
      exact ordered

/-- Entries of any kind keep the order. -/
theorem Ordered.foldl_set {t : IdentityTable} (ordered : t.Ordered) (pairs : IdentityTable) :
    (pairs.foldl (fun t (name, uuid) => t.set name uuid) t).Ordered := by
  induction pairs generalizing t with
  | nil => exact ordered
  | cons entry pairs ih => exact ih (ordered.set entry.1 entry.2)

/-! ### The file of a table -/

/-- The identities are read back from their texts. -/
theorem mapM_uuid?_text (t : IdentityTable) :
    (t.map fun e => (e.1, Toml.text e.2.text)).mapM (fun (name, v) => v.uuid?.map (name, ·))
      = some t := by
  induction t with
  | nil => rfl
  | cons entry rest ih =>
    have first : (Toml.text entry.2.text).uuid?.map (entry.1, ·) = some entry := by
      rw [Toml.uuid?, Uuid.ofText?_text]
      rfl
    rw [List.map_cons, List.mapM_cons, ih]
    change ((Toml.text entry.2.text).uuid?.map (entry.1, ·)).bind _ = _
    rw [first]
    rfl

/-- **A table read back.** -/
theorem ofText?_text {t : IdentityTable} (ordered : t.Ordered) : ofText? t.text = some t := by
  have written : t.text = String.join ((t.map fun e => (e.1, e.2.text)).map fun e =>
      Toml.entryLine e.1 e.2) := by
    rw [text, List.map_map]
    rfl
  have read : Toml.document? t.text = some (t.map fun e => (e.1, .text e.2.text)) := by
    rw [written, Toml.document?_entries, List.map_map]
    · rfl
    · intro e among
      obtain ⟨entry, -, rfl⟩ := List.mem_map.1 among
      exact entry.2.needsNoEscape_text
    · rw [List.map_map]
      exact ordered.nodup
  rw [ofText?, read, Option.bind_eq_bind, Option.bind_some, mapM_uuid?_text]
  exact congrArg some (foldl_set_append (t := []) ordered)

/-- **Whatever is read is in order.** -/
theorem ordered_of_ofText? {s : String} {t : IdentityTable} (read : ofText? s = some t) :
    t.Ordered := by
  obtain ⟨members, -, read⟩ := Option.bind_eq_some_iff.1 read
  obtain ⟨pairs, -, read⟩ := Option.bind_eq_some_iff.1 read
  obtain rfl := Option.some.inj read
  exact Ordered.foldl_set (t := []) List.Pairwise.nil pairs

end IdentityTable

end RelayDevice
