import ClusterWire.Json.Reader
import ClusterWire.Json.Writer
import ClusterWire.Proofs.Utf8

/-! Strings in JSON text. A character is written plain or as an escape, and is
read back from either. -/
namespace ClusterWire
namespace Json

theorem isPlain_of_high {n : Nat} (high : 0x80 ≤ n) (fits : n < 256) :
    isPlain (UInt8.ofNat n) = true := by
  have value := Utf8.toNat_byte fits
  simp only [isPlain, Bool.and_eq_true, bne_iff_ne, decide_eq_true_eq, UInt8.le_iff_toNat_le,
    ← UInt8.toNat_inj, ne_eq, value]
  refine ⟨⟨?_, ?_⟩, ?_⟩
  · change ¬ n = 0x22
    omega
  · change ¬ n = 0x5C
    omega
  · change 0x20 ≤ n
    omega

theorem isPlain_of_mem {c : Char} (quote : c.toNat ≠ 0x22) (backslash : c.toNat ≠ 0x5C)
    (printable : 0x20 ≤ c.toNat) {b : UInt8} (held : b ∈ String.utf8EncodeChar c) :
    isPlain b = true := by
  have valid := c.valid
  by_cases one : c.toNat ≤ 0x7F
  · have bytes : String.utf8EncodeChar c = [UInt8.ofNat c.toNat] := if_pos one
    have value : (UInt8.ofNat c.toNat).toNat = c.toNat := Utf8.toNat_byte (by omega)
    rw [bytes, List.mem_singleton] at held
    subst held
    simp only [isPlain, Bool.and_eq_true, bne_iff_ne, decide_eq_true_eq, UInt8.le_iff_toNat_le,
      ← UInt8.toNat_inj, ne_eq, value]
    exact ⟨⟨quote, backslash⟩, printable⟩
  · have many : ∃ ns : List Nat, String.utf8EncodeChar c = ns.map UInt8.ofNat ∧
        ∀ n ∈ ns, 0x80 ≤ n ∧ n < 256 := by
      by_cases two : c.toNat ≤ 0x7FF
      · refine ⟨[_, _], (if_neg one).trans (if_pos two), ?_⟩
        simp only [List.forall_mem_cons, List.not_mem_nil, false_imp_iff, implies_true, and_true]
        omega
      · by_cases three : c.toNat ≤ 0xFFFF
        · refine ⟨[_, _, _], (if_neg one).trans ((if_neg two).trans (if_pos three)), ?_⟩
          simp only [List.forall_mem_cons, List.not_mem_nil, false_imp_iff, implies_true, and_true]
          omega
        · refine ⟨[_, _, _, _], (if_neg one).trans ((if_neg two).trans (if_neg three)), ?_⟩
          simp only [List.forall_mem_cons, List.not_mem_nil, false_imp_iff, implies_true, and_true]
          omega
    obtain ⟨ns, bytes, high⟩ := many
    rw [bytes, List.mem_map] at held
    obtain ⟨n, inside, rfl⟩ := held
    exact isPlain_of_high (high n inside).1 (high n inside).2

theorem control_digits (n : Fin 32) :
    ∃ a b : UInt8, Utf8.encode s!"\\u00{Bytes.hex [UInt8.ofNat n.val]}" =
      [0x5C, 0x75, 0x30, 0x30, a, b] ∧
      hexValue? a = some (n.val / 16) ∧ hexValue? b = some (n.val % 16) := by
  refine ⟨if n.val < 16 then 0x30 else 0x31,
    UInt8.ofNat (n.val % 16 + if n.val % 16 < 10 then 0x30 else 0x57), ?_⟩
  revert n
  decide +kernel

theorem readEscape_control {n : Nat} (small : n < 32) :
    ∃ bytes, Utf8.encode s!"\\u00{Bytes.hex [UInt8.ofNat n]}" = 0x5C :: bytes ∧
      ∀ rest, readEscape (bytes ++ rest) = .ok (Char.ofNat n, rest) := by
  obtain ⟨a, b, written, high, low⟩ := control_digits ⟨n, small⟩
  refine ⟨_, written, fun rest => ?_⟩
  have zero : hexValue? 0x30 = some 0 := rfl
  have code : ((0 * 16 + 0) * 16 + n / 16) * 16 + n % 16 = n := by omega
  have unit : readUnit (0x30 :: 0x30 :: a :: b :: rest) = .ok (n, rest) := by
    simp only [readUnit, zero, high, low, code]
  have point : readCodePoint (0x30 :: 0x30 :: a :: b :: rest) = .ok (n, rest) := by
    simp only [readCodePoint, unit, bind, Except.bind]
    rw [if_neg (by omega), if_neg (by omega)]
  change (readCodePoint (0x30 :: 0x30 :: a :: b :: rest) >>= _) = _
  simp only [point, bind, Except.bind, pure, Except.pure]

/-- A character is written as plain bytes, or as an escape that stands for it. -/
theorem escape_cases (c : Char) :
    (escape c = String.utf8EncodeChar c ∧ ∀ b ∈ String.utf8EncodeChar c, isPlain b = true) ∨
    ∃ bytes, escape c = 0x5C :: bytes ∧ ∀ rest, readEscape (bytes ++ rest) = .ok (c, rest) := by
  unfold escape
  split
  iterate 7 exact .inr ⟨_, rfl, fun _ => rfl⟩
  rename_i quote backslash _ _ _ _ _
  split
  · rename_i control
    obtain ⟨bytes, written, read⟩ := readEscape_control control
    rw [Char.ofNat_toNat] at read
    exact .inr ⟨bytes, written, read⟩
  · rename_i printable
    refine .inl ⟨rfl, fun b held => ?_⟩
    refine isPlain_of_mem (fun same => quote ?_) (fun same => backslash ?_) (by omega) held
    · rw [← Char.ofNat_toNat c, same]
    · rw [← Char.ofNat_toNat c, same]

theorem readQuoted_plain {b : UInt8} (plain : isPlain b = true) {fuel : Nat}
    {bs quoted rest : Bytes} (read : readQuoted (fuel + 1) bs = .ok (quoted, rest)) :
    readQuoted (fuel + 1) (b :: bs) = .ok (b :: quoted, rest) := by
  rw [readQuoted] at read ⊢
  rw [List.takeWhile_cons_of_pos plain, List.dropWhile_cons_of_pos plain]
  generalize bs.takeWhile isPlain = front at read ⊢
  generalize bs.dropWhile isPlain = back at read ⊢
  split at read
  · cases read
  · cases read
    rfl
  · rename_i behind
    cases escaped : readEscape behind with
    | error stuck => simp [escaped, bind, Except.bind] at read
    | ok found =>
      cases inner : readQuoted fuel found.2 with
      | error stuck => simp [escaped, inner, bind, Except.bind] at read
      | ok more =>
        simp only [escaped, inner, bind, Except.bind, pure, Except.pure, Except.ok.injEq,
          Prod.mk.injEq] at read ⊢
        obtain ⟨rfl, rfl⟩ := read
        exact ⟨rfl, rfl⟩
  · cases read

theorem readQuoted_plains {front : Bytes} (plain : ∀ b ∈ front, isPlain b = true) {fuel : Nat}
    {bs quoted rest : Bytes} (read : readQuoted (fuel + 1) bs = .ok (quoted, rest)) :
    readQuoted (fuel + 1) (front ++ bs) = .ok (front ++ quoted, rest) := by
  induction front with
  | nil => exact read
  | cons b front ih =>
    apply readQuoted_plain (plain b List.mem_cons_self)
    exact ih fun other held => plain other (List.mem_cons_of_mem b held)

theorem readQuoted_escape {c : Char} {fuel : Nat} {bs behind quoted rest : Bytes}
    (escaped : readEscape bs = .ok (c, behind)) (read : readQuoted fuel behind = .ok (quoted, rest)) :
    readQuoted (fuel + 1) (0x5C :: bs) = .ok (String.utf8EncodeChar c ++ quoted, rest) := by
  have special : isPlain 0x5C = false := rfl
  rw [readQuoted, List.takeWhile_cons_of_neg (by simp [special]),
    List.dropWhile_cons_of_neg (by simp [special])]
  simp only [escaped, read, bind, Except.bind, pure, Except.pure, List.nil_append]

theorem readQuoted_escape_all (cs : List Char) {fuel : Nat} (enough : cs.length < fuel)
    (rest : Bytes) :
    readQuoted fuel (cs.flatMap escape ++ 0x22 :: rest) =
      .ok (cs.flatMap String.utf8EncodeChar, rest) := by
  induction cs generalizing fuel with
  | nil =>
    obtain ⟨fuel, rfl⟩ : ∃ n, fuel = n + 1 := ⟨fuel - 1, by simp at enough; omega⟩
    rfl
  | cons c cs ih =>
    obtain ⟨fuel, rfl⟩ : ∃ n, fuel = n + 1 := ⟨fuel - 1, by omega⟩
    rw [List.length_cons] at enough
    rw [List.flatMap_cons, List.flatMap_cons, List.append_assoc]
    rcases escape_cases c with ⟨written, plain⟩ | ⟨bytes, written, read⟩
    · rw [written]
      exact readQuoted_plains plain (ih (by omega))
    · rw [written]
      exact readQuoted_escape (read _) (ih (by omega))

theorem length_quoted (s : String) : s.toList.length + 2 ≤ (quoted s).length := by
  have grows : ∀ cs : List Char, cs.length ≤ (cs.flatMap escape).length := by
    intro cs
    induction cs with
    | nil => exact Nat.le_refl 0
    | cons c cs ih =>
      have one : 1 ≤ (escape c).length := by
        rcases escape_cases c with ⟨written, _⟩ | ⟨bytes, written, _⟩
        · rw [written, String.length_utf8EncodeChar]
          exact c.utf8Size_pos
        · rw [written, List.length_cons]
          omega
      rw [List.flatMap_cons, List.length_append, List.length_cons]
      omega
  have inside := grows s.toList
  simp only [quoted, List.length_cons, List.length_append, List.length_nil]
  omega

/-- A text is read back from its quotes, if there is fuel for its escapes. -/
theorem readString_quoted (s : String) {fuel : Nat} (enough : s.toList.length < fuel)
    (rest : Bytes) : readString fuel ((quoted s).tail ++ rest) = .ok (s, rest) := by
  have shape : (quoted s).tail ++ rest = s.toList.flatMap escape ++ 0x22 :: rest := by
    simp [quoted]
  rw [shape]
  simp only [readString, readQuoted_escape_all _ enough, bind, Except.bind]
  have bytes : s.toList.flatMap String.utf8EncodeChar = Utf8.encode s := rfl
  rw [bytes, Utf8.decode_encode]
  rfl

end Json
end ClusterWire
