import Mathlib.Data.List.Forall2
import RelayDevice.Proofs.Text.Pairs

/-!
# Copies of printed octets

Octets are printed as pairs of lowercase digits. Whoever copies such a print may put the marker in
front, write digits in uppercase, and break the text by blanks at any place: `Hexadecimal.Copy`. The
blanks may also fall into the marker or between the two digits of an octet.

Every copy is read as the octets that were printed, `Hexadecimal.read_of_copy`. The digits of a copy
are a row of pairs whatever their case (`row_of_recased`, the induction over the octets), and no
character of a row is a blank or belongs to the marker. So taking the blanks away leaves the text as
it was before they came in (`Spaced.filter_eq`), and taking the marker away after that leaves the
row. In the other order a marker with a blank in it would not be found.
-/

namespace RelayDevice

namespace Hexadecimal

/-! ### What a copy may change -/

/-- A printed digit as it is written, in lowercase or in uppercase. -/
def Recased (printed written : Char) : Prop := written = printed ∨ written = printed.toUpper

/-- Characters with blanks put in, at any places. -/
inductive Spaced : List Char → List Char → Prop
  | nil : Spaced [] []
  | keep {cs ds : List Char} (c : Char) : Spaced cs ds → Spaced (c :: cs) (c :: ds)
  | blank {cs ds : List Char} {b : Char} : isBlank b = true → Spaced cs ds → Spaced cs (b :: ds)

/-- **A copy of printed octets**, without the marker or with it. -/
inductive Copy (octets : Bytes) (s : String) : Prop
  | plain {digits : List Char} : List.Forall₂ Recased (Bytes.hex octets).toList digits →
    Spaced digits s.toList → Copy octets s
  | marked {digits : List Char} : List.Forall₂ Recased (Bytes.hex octets).toList digits →
    Spaced ('0' :: 'x' :: digits) s.toList → Copy octets s

/-! ### Blanks -/

/-- Characters come back when the blanks that were put in are taken away. -/
theorem Spaced.filter_eq {cs ds : List Char} (spaced : Spaced cs ds)
    (inked : ∀ c ∈ cs, isBlank c = false) : ds.filter (!isBlank ·) = cs := by
  induction spaced with
  | nil => rfl
  | keep c _ ih =>
    have first := inked c List.mem_cons_self
    have later := ih fun c among => inked c (List.mem_cons_of_mem _ among)
    rw [List.filter_cons, first, later]
    rfl
  | blank between _ ih =>
    rw [List.filter_cons, between, ih inked]
    rfl

/-! ### Rows of digits -/

namespace Row

variable {cs : List Char} {octets : Bytes}

theorem inked (row : Row DigitPair cs octets) (c : Char) (among : c ∈ cs) : isBlank c = false := by
  have noBlank : (lowercase ++ uppercase).all (!isBlank ·) = true := by decide
  have visible := List.all_eq_true.1 noBlank c (row.mem_digits c among)
  rwa [Bool.not_eq_true'] at visible

/-- A row does not begin with the marker, because the second character of the marker is no digit. -/
theorem unmarked_eq (row : Row DigitPair cs octets) : unmarked cs = cs := by
  unfold unmarked
  split
  · next rest =>
    have digit : 'x' ∈ lowercase ++ uppercase :=
      row.mem_digits 'x' (List.mem_cons_of_mem _ List.mem_cons_self)
    exact absurd digit (by decide)
  · rfl

end Row

/-! ### Digits in either case -/

theorem isDigit_of_recased {n : Nat} (small : n < 16) {c : Char}
    (recased : Recased (Bytes.hexDigit n) c) : IsDigit c n := by
  have place : ∀ n < 16, lowercase[n]? = some (Bytes.hexDigit n) := by decide
  have upper : uppercase = lowercase.map Char.toUpper := by decide
  rcases recased with rfl | rfl
  · exact .inl (place n small)
  · refine .inr ?_
    rw [upper, List.getElem?_map, place n small]
    rfl

/-- **The digits of a copy** are a row of pairs that spells the octets. -/
theorem row_of_recased {octets : Bytes} {digits : List Char}
    (recased : List.Forall₂ Recased (Bytes.hex octets).toList digits) :
    Row DigitPair digits octets := by
  rw [Bytes.hex, String.toList_ofList] at recased
  induction octets generalizing digits with
  | nil =>
    cases recased
    exact .nil
  | cons octet octets ih =>
    rw [List.flatMap_cons, Bytes.hexPair, List.cons_append, List.cons_append] at recased
    obtain _ | ⟨first, _ | ⟨second, later⟩⟩ := recased
    have := octet.toNat_lt
    have high := isDigit_of_recased (by omega) first
    have low := isDigit_of_recased (by omega) second
    have whole : octet.toNat / 16 * 16 + octet.toNat % 16 = octet.toNat := by omega
    refine .cons ⟨_, _, high, low, ?_⟩ (ih later)
    rw [whole, UInt8.ofNat_toNat]

/-! ### Copies read back -/

/-- **Printed octets are read back** from any copy. -/
theorem read_of_copy {octets : Bytes} {s : String} (copy : Copy octets s) :
    read s = .ok octets := by
  rw [read_eq_ok_iff, bare]
  rcases copy with ⟨recased, spaced⟩ | ⟨recased, spaced⟩
  · have row := row_of_recased recased
    rw [spaced.filter_eq row.inked, row.unmarked_eq]
    exact row.loose
  · have row := row_of_recased recased
    have inked : ∀ c ∈ '0' :: 'x' :: _, isBlank c = false :=
      List.forall_mem_cons.2 ⟨by decide, List.forall_mem_cons.2 ⟨by decide, row.inked⟩⟩
    rw [spaced.filter_eq inked, unmarked]
    exact row.loose

/-- A copy with a no-break space in its marker, a blank in each octet and letters of both cases. -/
theorem read_of_copy_scattered : Copy [0x4A, 0xFB] "0\u00a0x4 A\n\tF\u2003b" ∧
    read "0\u00a0x4 A\n\tF\u2003b" = .ok [0x4A, 0xFB] := by
  have recased : List.Forall₂ Recased (Bytes.hex [0x4A, 0xFB]).toList ['4', 'A', 'F', 'b'] :=
    .cons (.inl rfl) (.cons (.inr rfl) (.cons (.inr rfl) (.cons (.inl rfl) .nil)))
  have spaced : Spaced ['0', 'x', '4', 'A', 'F', 'b'] "0\u00a0x4 A\n\tF\u2003b".toList :=
    .keep _ (.blank rfl (.keep _ (.keep _ (.blank rfl (.keep _ (.blank rfl (.blank rfl
      (.keep _ (.blank rfl (.keep _ .nil))))))))))
  exact ⟨.marked recased spaced, read_of_copy (.marked recased spaced)⟩

end Hexadecimal

end RelayDevice
