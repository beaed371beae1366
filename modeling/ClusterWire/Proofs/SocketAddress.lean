import ClusterWire.Proofs.Json.Numbers
import ClusterWire.SocketAddress
import Mathlib.Data.Nat.Digits.Defs

/-! The text of an address is short: it fits where one byte holds its length. -/
namespace ClusterWire.SocketAddress

/-- Addresses as connections have them. The longer form has eight groups. -/
def Proper : SocketAddress → Prop
  | .v4 .. => True
  | .v6 groups _ _ => groups.length = 8

theorem size_ofList_le (cs : List Char) : (String.ofList cs).utf8ByteSize ≤ 4 * cs.length := by
  rw [← Utf8.length_encode, Utf8.encode, String.toList_ofList]
  induction cs with
  | nil => exact Nat.le_refl _
  | cons c cs ih =>
    have one := c.utf8Size_le_four
    rw [List.flatMap_cons, List.length_append, String.length_utf8EncodeChar, List.length_cons]
    omega

theorem size_natural_le {n : Nat} (digits : Nat) (some : 0 < digits) (small : n < 10 ^ digits) :
    (toString n).utf8ByteSize ≤ digits := by
  rw [← Utf8.length_encode, Json.encode_toString, Json.asciiBytes, List.length_map]
  exact Nat.toDigits_length 10 n digits some small

theorem size_byte_le (b : UInt8) : (toString b.toNat).utf8ByteSize ≤ 3 :=
  size_natural_le 3 (by decide) (Nat.lt_trans b.toNat_lt (by decide))

theorem size_hexGroup_le (g : UInt16) : (hostText.hexGroup g).utf8ByteSize ≤ 16 := by
  have digits : (Nat.toDigits 16 g.toNat).length ≤ 4 :=
    Nat.toDigits_length 16 g.toNat 4 (by decide) g.toNat_lt
  have size := size_ofList_le (Nat.toDigits 16 g.toNat)
  unfold hostText.hexGroup
  omega

theorem size_intercalate_le {between : String} {most : Nat} {parts : List String}
    (short : ∀ part ∈ parts, part.utf8ByteSize ≤ most) :
    (between.intercalate parts).utf8ByteSize ≤ (most + between.utf8ByteSize) * parts.length := by
  induction parts with
  | nil => exact Nat.zero_le _
  | cons part rest ih =>
    obtain ⟨head, tail⟩ := List.forall_mem_cons.mp short
    have behind := ih tail
    cases rest with
    | nil =>
      rw [String.intercalate_singleton]
      simpa using Nat.le_trans head (Nat.le_add_right _ _)
    | cons next others =>
      rw [String.intercalate_cons_cons, String.utf8ByteSize_append, String.utf8ByteSize_append,
        List.length_cons, Nat.mul_succ]
      omega

theorem size_joined_le (groups : List UInt16) :
    (hostText.joined groups).utf8ByteSize ≤ 17 * groups.length := by
  have short : ∀ part ∈ groups.map hostText.hexGroup, part.utf8ByteSize ≤ 16 := by
    intro part held
    obtain ⟨g, -, rfl⟩ := List.mem_map.mp held
    exact size_hexGroup_le g
  have parts := @size_intercalate_le ":" 16 _ short
  rwa [List.length_map] at parts

theorem size_ipv4Text_le (a b c d : UInt8) :
    (hostText.ipv4Text a b c d).utf8ByteSize ≤ 15 := by
  have first := size_byte_le a
  have second := size_byte_le b
  have third := size_byte_le c
  have fourth := size_byte_le d
  have dot : (toString ".").utf8ByteSize = 1 := rfl
  unfold hostText.ipv4Text
  simp only [String.utf8ByteSize_append, dot]
  omega

theorem size_groupsText_le {groups : List UInt16} (eight : groups.length = 8) :
    (hostText.groupsText groups).utf8ByteSize ≤ 138 := by
  unfold hostText.groupsText
  split
  · rename_i x y
    have mapped := size_ipv4Text_le (UInt8.ofNat (x.toNat / 256)) (UInt8.ofNat (x.toNat % 256))
      (UInt8.ofNat (y.toNat / 256)) (UInt8.ofNat (y.toNat % 256))
    have front : (toString "::ffff:").utf8ByteSize = 7 := rfl
    simp only [String.utf8ByteSize_append, front]
    exact Nat.le_trans (Nat.add_le_add_left mapped 7) (by decide)
  · dsimp only
    split
    · have whole := size_joined_le groups
      omega
    · have before := size_joined_le (groups.take (hostText.longestRun groups).1)
      have behind := size_joined_le
        (groups.drop ((hostText.longestRun groups).1 + (hostText.longestRun groups).2))
      have gap : (toString "::").utf8ByteSize = 2 := rfl
      rw [List.length_take] at before
      rw [List.length_drop] at behind
      simp only [String.utf8ByteSize_append, gap]
      show (hostText.joined _).utf8ByteSize + 2 + (hostText.joined _).utf8ByteSize ≤ 138
      omega

theorem size_hostText_le {a : SocketAddress} (proper : a.Proper) :
    a.hostText.utf8ByteSize ≤ 151 := by
  cases a with
  | v4 a b c d port => exact Nat.le_trans (size_ipv4Text_le a b c d) (by decide)
  | v6 groups scope port =>
    have inside := size_groupsText_le proper
    have number : (toString scope.toNat).utf8ByteSize ≤ 10 :=
      size_natural_le 10 (by decide) (Nat.lt_trans scope.toNat_lt (by decide))
    have brackets : (toString "[").utf8ByteSize = 1 ∧ (toString "]").utf8ByteSize = 1 ∧
        (toString "%").utf8ByteSize = 1 := ⟨rfl, rfl, rfl⟩
    unfold hostText
    simp only [String.utf8ByteSize_append, brackets]
    split
    · show 1 + (hostText.groupsText groups).utf8ByteSize + 0 + 1 ≤ 151
      omega
    · show 1 + (hostText.groupsText groups).utf8ByteSize +
        (toString "%" ++ toString scope.toNat).utf8ByteSize + 1 ≤ 151
      rw [String.utf8ByteSize_append, brackets.2.2]
      omega

theorem size_text_le {a : SocketAddress} (proper : a.Proper) : a.text.utf8ByteSize ≤ 255 := by
  have host := size_hostText_le proper
  have port : (toString a.port.toNat).utf8ByteSize ≤ 5 :=
    size_natural_le 5 (by decide) (Nat.lt_trans a.port.toNat_lt (by decide))
  have colon : (toString ":").utf8ByteSize = 1 := rfl
  unfold text
  simp only [String.utf8ByteSize_append, colon]
  show a.hostText.utf8ByteSize + 1 + (toString a.port.toNat).utf8ByteSize ≤ 255
  omega

end ClusterWire.SocketAddress
