import ClusterWire.Utf8

/-! Every text is read back from its own bytes, and from no others. The bytes of
a character fall into one of four ranges, and the reader follows the announcement
of the first byte through the others. -/
namespace ClusterWire.Utf8

theorem toNat_byte {n : Nat} (fits : n < 256) : (UInt8.ofNat n).toNat = n :=
  UInt8.toNat_ofNat_of_lt' fits

theorem tail?_byte {more code seen n : Nat} {low high : UInt8} {rest : Bytes}
    (fits : n < 256) (lo : low.toNat ≤ n) (hi : n ≤ high.toNat) :
    tail? (more + 1) low high code seen (UInt8.ofNat n :: rest) =
      tail? more 0x80 0xBF (code * 64 + n % 64) (seen + 1) rest := by
  have value := toNat_byte fits
  have inside : low ≤ UInt8.ofNat n ∧ UInt8.ofNat n ≤ high := by
    rw [UInt8.le_iff_toNat_le, UInt8.le_iff_toNat_le, value]
    exact ⟨lo, hi⟩
  rw [tail?, if_pos inside, value]

/-- Behind the second byte of a character all bytes have the same range. -/
theorem tail?_plain {more code seen n : Nat} {rest : Bytes} (lo : 0x80 ≤ n) (hi : n ≤ 0xBF) :
    tail? (more + 1) 0x80 0xBF code seen (UInt8.ofNat n :: rest) =
      tail? more 0x80 0xBF (code * 64 + n % 64) (seen + 1) rest :=
  tail?_byte (Nat.lt_of_le_of_lt hi (by decide)) lo hi

theorem lead?_byte {n : Nat} (fits : n < 256) :
    lead? (UInt8.ofNat n) =
      if n < 0x80 then some ⟨n, 0, 0x80, 0xBF⟩
      else if n < 0xC2 then none
      else if n < 0xE0 then some ⟨n % 32, 1, 0x80, 0xBF⟩
      else if n < 0xF0 then
        some ⟨n % 16, 2, if n = 0xE0 then 0xA0 else 0x80, if n = 0xED then 0x9F else 0xBF⟩
      else if n < 0xF5 then
        some ⟨n % 8, 3, if n = 0xF0 then 0x90 else 0x80, if n = 0xF4 then 0x8F else 0xBF⟩
      else none := by
  have value := toNat_byte fits
  simp only [lead?, UInt8.lt_iff_toNat_lt, ← UInt8.toNat_inj, value]
  rfl

theorem next?_one {n : Nat} (rest : Bytes) (hi : n ≤ 0x7F) :
    next? (UInt8.ofNat n) rest = .ok (n, 1, rest) := by
  have first : lead? (UInt8.ofNat n) = some ⟨n, 0, 0x80, 0xBF⟩ := by
    rw [lead?_byte (by omega), if_pos (by omega)]
  simp only [next?, first]
  rfl

theorem next?_two {n : Nat} (rest : Bytes) (lo : 0x7F < n) (hi : n ≤ 0x7FF) :
    next? (UInt8.ofNat (n / 64 % 0x20 + 0xC0)) (UInt8.ofNat (n % 0x40 + 0x80) :: rest) =
      .ok (n, 2, rest) := by
  have first : lead? (UInt8.ofNat (n / 64 % 0x20 + 0xC0)) = some ⟨n / 64, 1, 0x80, 0xBF⟩ := by
    rw [lead?_byte (by omega), if_neg (by omega), if_neg (by omega), if_pos (by omega)]
    congr 2
    omega
  have code : n / 64 * 64 + (n % 0x40 + 0x80) % 64 = n := by omega
  simp only [next?, first]
  rw [tail?_plain (by omega) (by omega), code]
  rfl

theorem next?_three {n : Nat} (rest : Bytes) (lo : 0x7FF < n) (hi : n ≤ 0xFFFF)
    (valid : n < 0xD800 ∨ 0xDFFF < n) :
    next? (UInt8.ofNat (n / 4096 % 0x10 + 0xE0))
      (UInt8.ofNat (n / 64 % 0x40 + 0x80) :: UInt8.ofNat (n % 0x40 + 0x80) :: rest) =
        .ok (n, 3, rest) := by
  let low : UInt8 := if n / 4096 % 0x10 + 0xE0 = 0xE0 then 0xA0 else 0x80
  let high : UInt8 := if n / 4096 % 0x10 + 0xE0 = 0xED then 0x9F else 0xBF
  have first : lead? (UInt8.ofNat (n / 4096 % 0x10 + 0xE0)) = some ⟨n / 4096, 2, low, high⟩ := by
    rw [lead?_byte (by omega), if_neg (by omega), if_neg (by omega), if_neg (by omega),
      if_pos (by omega)]
    congr 2
    omega
  have above : low.toNat ≤ n / 64 % 0x40 + 0x80 := by
    simp only [low]
    split
    · change 0xA0 ≤ _
      omega
    · change 0x80 ≤ _
      omega
  have below : n / 64 % 0x40 + 0x80 ≤ high.toNat := by
    simp only [high]
    split
    · change _ ≤ 0x9F
      omega
    · change _ ≤ 0xBF
      omega
  have code : (n / 4096 * 64 + (n / 64 % 0x40 + 0x80) % 64) * 64 + (n % 0x40 + 0x80) % 64 = n := by
    omega
  simp only [next?, first]
  rw [tail?_byte (by omega) above below,
    tail?_plain (by omega) (by omega), code]
  rfl

theorem next?_four {n : Nat} (rest : Bytes) (lo : 0xFFFF < n) (hi : n < 0x110000) :
    next? (UInt8.ofNat (n / 262144 % 0x08 + 0xF0))
      (UInt8.ofNat (n / 4096 % 0x40 + 0x80) :: UInt8.ofNat (n / 64 % 0x40 + 0x80) ::
        UInt8.ofNat (n % 0x40 + 0x80) :: rest) = .ok (n, 4, rest) := by
  let low : UInt8 := if n / 262144 % 0x08 + 0xF0 = 0xF0 then 0x90 else 0x80
  let high : UInt8 := if n / 262144 % 0x08 + 0xF0 = 0xF4 then 0x8F else 0xBF
  have first : lead? (UInt8.ofNat (n / 262144 % 0x08 + 0xF0)) = some ⟨n / 262144, 3, low, high⟩ := by
    rw [lead?_byte (by omega), if_neg (by omega), if_neg (by omega), if_neg (by omega),
      if_neg (by omega), if_pos (by omega)]
    congr 2
    omega
  have above : low.toNat ≤ n / 4096 % 0x40 + 0x80 := by
    simp only [low]
    split
    · change 0x90 ≤ _
      omega
    · change 0x80 ≤ _
      omega
  have below : n / 4096 % 0x40 + 0x80 ≤ high.toNat := by
    simp only [high]
    split
    · change _ ≤ 0x8F
      omega
    · change _ ≤ 0xBF
      omega
  have code : ((n / 262144 * 64 + (n / 4096 % 0x40 + 0x80) % 64) * 64
      + (n / 64 % 0x40 + 0x80) % 64) * 64 + (n % 0x40 + 0x80) % 64 = n := by
    omega
  simp only [next?, first]
  rw [tail?_byte (by omega) above below,
    tail?_plain (by omega) (by omega),
    tail?_plain (by omega) (by omega), code]
  rfl

section

variable {c : Char}

theorem encodeChar_one (hi : c.toNat ≤ 0x7F) : String.utf8EncodeChar c = [UInt8.ofNat c.toNat] :=
  if_pos hi

theorem encodeChar_two (lo : 0x7F < c.toNat) (hi : c.toNat ≤ 0x7FF) :
    String.utf8EncodeChar c =
      [UInt8.ofNat (c.toNat / 64 % 0x20 + 0xC0), UInt8.ofNat (c.toNat % 0x40 + 0x80)] :=
  (if_neg (Nat.not_le.mpr lo)).trans (if_pos hi)

theorem encodeChar_three (lo : 0x7FF < c.toNat) (hi : c.toNat ≤ 0xFFFF) :
    String.utf8EncodeChar c =
      [UInt8.ofNat (c.toNat / 4096 % 0x10 + 0xE0), UInt8.ofNat (c.toNat / 64 % 0x40 + 0x80),
        UInt8.ofNat (c.toNat % 0x40 + 0x80)] :=
  (if_neg (by omega : ¬ c.toNat ≤ 0x7F)).trans
    ((if_neg (Nat.not_le.mpr lo)).trans (if_pos hi))

theorem encodeChar_four (lo : 0xFFFF < c.toNat) :
    String.utf8EncodeChar c =
      [UInt8.ofNat (c.toNat / 262144 % 0x08 + 0xF0), UInt8.ofNat (c.toNat / 4096 % 0x40 + 0x80),
        UInt8.ofNat (c.toNat / 64 % 0x40 + 0x80), UInt8.ofNat (c.toNat % 0x40 + 0x80)] :=
  (if_neg (by omega : ¬ c.toNat ≤ 0x7F)).trans
    ((if_neg (by omega : ¬ c.toNat ≤ 0x7FF)).trans (if_neg (Nat.not_le.mpr lo)))

end

/-- The bytes of a character are read as that character, whatever follows. -/
theorem next?_encodeChar (c : Char) (rest : Bytes) :
    ∃ b bs, String.utf8EncodeChar c = b :: bs ∧
      next? b (bs ++ rest) = .ok (c.toNat, (b :: bs).length, rest) := by
  have valid : c.toNat < 0xD800 ∨ (0xDFFF < c.toNat ∧ c.toNat < 0x110000) := c.valid
  by_cases one : c.toNat ≤ 0x7F
  · exact ⟨_, _, encodeChar_one one, next?_one rest one⟩
  · by_cases two : c.toNat ≤ 0x7FF
    · exact ⟨_, _, encodeChar_two (Nat.lt_of_not_le one) two, next?_two rest (Nat.lt_of_not_le one) two⟩
    · by_cases three : c.toNat ≤ 0xFFFF
      · exact ⟨_, _, encodeChar_three (Nat.lt_of_not_le two) three,
          next?_three rest (Nat.lt_of_not_le two) three (valid.imp_right And.left)⟩
      · have below : c.toNat < 0x110000 := valid.elim (fun h => by omega) And.right
        exact ⟨_, _, encodeChar_four (Nat.lt_of_not_le three),
          next?_four rest (Nat.lt_of_not_le three) below⟩

theorem decodeFrom_encode (cs : List Char) (fuel index : Nat) (enough : cs.length ≤ fuel) :
    decodeFrom fuel index (cs.flatMap String.utf8EncodeChar) = .ok cs := by
  induction cs generalizing fuel index with
  | nil => cases fuel <;> rfl
  | cons c cs ih =>
    obtain ⟨fuel, rfl⟩ : ∃ n, fuel = n + 1 := ⟨fuel - 1, by simp at enough; omega⟩
    obtain ⟨b, bs, bytes, read⟩ := next?_encodeChar c (cs.flatMap String.utf8EncodeChar)
    have rest := ih fuel (index + (b :: bs).length) (by simpa using enough)
    rw [List.flatMap_cons, bytes, List.cons_append, decodeFrom, read]
    simp only [rest]
    change Except.ok (Char.ofNat c.toNat :: cs) = .ok (c :: cs)
    rw [Char.ofNat_toNat]

theorem length_le_encode (cs : List Char) : cs.length ≤ (cs.flatMap String.utf8EncodeChar).length := by
  induction cs with
  | nil => exact Nat.le_refl 0
  | cons c cs ih =>
    have := c.utf8Size_pos
    simp only [List.flatMap_cons, List.length_append, List.length_cons, String.length_utf8EncodeChar]
    omega

theorem decode_encode (s : String) : decode (encode s) = .ok s := by
  rw [decode, encode, decodeFrom_encode _ _ _ (length_le_encode _)]
  change Except.ok (String.ofList s.toList) = .ok s
  rw [String.ofList_toList]

theorem length_encode (s : String) : (encode s).length = s.utf8ByteSize := by
  have bytes : s.toByteArray = (encode s).toByteArray := by
    rw [encode, ← List.utf8Encode, ← String.toByteArray_ofList, String.ofList_toList]
  rw [← String.size_toByteArray, bytes, List.size_toByteArray]

/-! A text that is read has the very bytes that it was read from. -/

theorem byte_of_toNat {n : Nat} {b : UInt8} (value : n = b.toNat) : UInt8.ofNat n = b := by
  rw [value, UInt8.ofNat_toNat]

theorem lead?_eq_some {b : UInt8} {l : Lead} (announced : lead? b = some l) :
    (b.toNat < 0x80 ∧ l = ⟨b.toNat, 0, 0x80, 0xBF⟩) ∨
    (0xC2 ≤ b.toNat ∧ b.toNat < 0xE0 ∧ l = ⟨b.toNat % 32, 1, 0x80, 0xBF⟩) ∨
    (0xE0 ≤ b.toNat ∧ b.toNat < 0xF0 ∧ l = ⟨b.toNat % 16, 2,
      if b.toNat = 0xE0 then 0xA0 else 0x80, if b.toNat = 0xED then 0x9F else 0xBF⟩) ∨
    (0xF0 ≤ b.toNat ∧ b.toNat < 0xF5 ∧ l = ⟨b.toNat % 8, 3,
      if b.toNat = 0xF0 then 0x90 else 0x80, if b.toNat = 0xF4 then 0x8F else 0xBF⟩) := by
  have spelled := lead?_byte b.toNat_lt
  rw [UInt8.ofNat_toNat, announced] at spelled
  split at spelled
  · rename_i one
    exact .inl ⟨one, Option.some.inj spelled⟩
  · split at spelled
    · cases spelled
    · rename_i above
      split at spelled
      · rename_i two
        exact .inr (.inl ⟨Nat.le_of_not_lt above, two, Option.some.inj spelled⟩)
      · rename_i above
        split at spelled
        · rename_i three
          exact .inr (.inr (.inl ⟨Nat.le_of_not_lt above, three, Option.some.inj spelled⟩))
        · rename_i above
          split at spelled
          · rename_i four
            exact .inr (.inr (.inr ⟨Nat.le_of_not_lt above, four, Option.some.inj spelled⟩))
          · cases spelled

section

variable {low high : UInt8} {code seen n : Nat} {bs rest : Bytes}

theorem tail?_zero (read : tail? 0 low high code seen bs = .ok (n, rest)) : code = n ∧ bs = rest := by
  rw [tail?] at read
  cases read
  exact ⟨rfl, rfl⟩

theorem tail?_succ {more : Nat} (read : tail? (more + 1) low high code seen bs = .ok (n, rest)) :
    ∃ b further, bs = b :: further ∧ low.toNat ≤ b.toNat ∧ b.toNat ≤ high.toNat ∧
      tail? more 0x80 0xBF (code * 64 + b.toNat % 64) (seen + 1) further = .ok (n, rest) := by
  cases bs with
  | nil => cases read
  | cons b further =>
    rw [tail?] at read
    split at read
    · rename_i inside
      exact ⟨b, further, rfl, UInt8.le_iff_toNat_le.mp inside.1, UInt8.le_iff_toNat_le.mp inside.2, read⟩
    · cases read

/-- Behind the second byte of a character all bytes have the same range. -/
theorem tail?_further {more : Nat} (read : tail? (more + 1) 0x80 0xBF code seen bs = .ok (n, rest)) :
    ∃ b further, bs = b :: further ∧ 0x80 ≤ b.toNat ∧ b.toNat ≤ 0xBF ∧
      tail? more 0x80 0xBF (code * 64 + b.toNat % 64) (seen + 1) further = .ok (n, rest) :=
  tail?_succ read

end

/-- The second byte of a character, where the first one narrows its range. -/
theorem inside_of_narrow {low high : UInt8} {n : Nat} {p q : Prop} [Decidable p] [Decidable q]
    (least : 0x80 ≤ low.toNat) (most : high.toNat ≤ 0xBF)
    (above : (if p then low else 0x80).toNat ≤ n) (below : n ≤ (if q then high else 0xBF).toNat) :
    (0x80 ≤ n ∧ n ≤ 0xBF) ∧ (p → low.toNat ≤ n) ∧ (q → n ≤ high.toNat) := by
  have floor : (0x80 : UInt8).toNat = 0x80 := rfl
  have top : (0xBF : UInt8).toNat = 0xBF := rfl
  refine ⟨⟨?_, ?_⟩, fun narrow => ?_, fun narrow => ?_⟩
  · split at above <;> omega
  · split at below <;> omega
  · rwa [if_pos narrow] at above
  · rwa [if_pos narrow] at below

/-- The number of a character that is read is that of a character. -/
theorem toNat_char {n : Nat} (valid : n < 0xD800 ∨ 0xDFFF < n ∧ n < 0x110000) :
    (Char.ofNat n).toNat = n := by
  have held : n.isValidChar := valid
  rw [Char.ofNat, dif_pos held]
  rfl

theorem next?_eq_ok {b : UInt8} {bs rest : Bytes} {n size : Nat}
    (read : next? b bs = .ok (n, size, rest)) :
    ∃ l, lead? b = some l ∧ tail? l.more l.low l.high l.bits 1 bs = .ok (n, rest) := by
  unfold next? at read
  cases announced : lead? b with
  | none => simp [announced] at read
  | some l =>
    simp only [announced] at read
    cases tail : tail? l.more l.low l.high l.bits 1 bs with
    | error length => simp [tail, bind, Except.bind] at read
    | ok found =>
      simp only [tail, bind, Except.bind, pure, Except.pure, Except.ok.injEq, Prod.mk.injEq] at read
      obtain ⟨rfl, -, rfl⟩ := read
      exact ⟨l, rfl, tail⟩

/-- A character that is read has the bytes that it was read from. -/
theorem encodeChar_of_next? {b : UInt8} {bs rest : Bytes} {n size : Nat}
    (read : next? b bs = .ok (n, size, rest)) :
    String.utf8EncodeChar (Char.ofNat n) ++ rest = b :: bs := by
  obtain ⟨l, announced, tail⟩ := next?_eq_ok read
  rcases lead?_eq_some announced with
    ⟨one, rfl⟩ | ⟨least, most, rfl⟩ | ⟨least, most, rfl⟩ | ⟨least, most, rfl⟩
  · obtain ⟨code, rfl⟩ := tail?_zero tail
    dsimp only at code
    have value : (Char.ofNat n).toNat = n := toNat_char (by omega)
    rw [encodeChar_one (by omega), byte_of_toNat (b := b) (by omega)]
    rfl
  · obtain ⟨c, further, rfl, low, high, tail⟩ := tail?_further tail
    obtain ⟨code, rfl⟩ := tail?_zero tail
    dsimp only at code
    have value : (Char.ofNat n).toNat = n := toNat_char (by omega)
    rw [encodeChar_two (by omega) (by omega), byte_of_toNat (b := b) (by omega),
      byte_of_toNat (b := c) (by omega)]
    rfl
  · obtain ⟨c, further, rfl, low, high, tail⟩ := tail?_succ tail
    obtain ⟨d, further, rfl, low', high', tail⟩ := tail?_further tail
    obtain ⟨code, rfl⟩ := tail?_zero tail
    dsimp only at code low high
    obtain ⟨wide, overlong, surrogate⟩ := inside_of_narrow (by decide) (by decide) low high
    have overlong : b.toNat = 0xE0 → 0xA0 ≤ c.toNat := overlong
    have surrogate : b.toNat = 0xED → c.toNat ≤ 0x9F := surrogate
    have value : (Char.ofNat n).toNat = n := toNat_char (by omega)
    rw [encodeChar_three (by omega) (by omega), byte_of_toNat (b := b) (by omega),
      byte_of_toNat (b := c) (by omega), byte_of_toNat (b := d) (by omega)]
    rfl
  · obtain ⟨c, further, rfl, low, high, tail⟩ := tail?_succ tail
    obtain ⟨d, further, rfl, low', high', tail⟩ := tail?_further tail
    obtain ⟨e, further, rfl, low', high', tail⟩ := tail?_further tail
    obtain ⟨code, rfl⟩ := tail?_zero tail
    dsimp only at code low high
    obtain ⟨wide, overlong, beyond⟩ := inside_of_narrow (by decide) (by decide) low high
    have overlong : b.toNat = 0xF0 → 0x90 ≤ c.toNat := overlong
    have beyond : b.toNat = 0xF4 → c.toNat ≤ 0x8F := beyond
    have value : (Char.ofNat n).toNat = n := toNat_char (by omega)
    rw [encodeChar_four (by omega), byte_of_toNat (b := b) (by omega),
      byte_of_toNat (b := c) (by omega), byte_of_toNat (b := d) (by omega),
      byte_of_toNat (b := e) (by omega)]
    rfl

theorem encode_decodeFrom {fuel index : Nat} {bs : Bytes} {cs : List Char}
    (enough : bs.length ≤ fuel) (read : decodeFrom fuel index bs = .ok cs) :
    cs.flatMap String.utf8EncodeChar = bs := by
  induction fuel generalizing index bs cs with
  | zero =>
    cases List.length_eq_zero_iff.mp (Nat.le_zero.mp enough)
    cases read
    rfl
  | succ fuel ih =>
    cases bs with
    | nil =>
      cases read
      rfl
    | cons b bs =>
      rw [decodeFrom] at read
      cases first : next? b bs with
      | error length => simp [first] at read
      | ok found =>
        obtain ⟨code, size, rest⟩ := found
        have bytes := encodeChar_of_next? first
        have shorter : rest.length ≤ fuel := by
          have total := congrArg List.length bytes
          have some := (Char.ofNat code).utf8Size_pos
          simp only [List.length_append, List.length_cons, String.length_utf8EncodeChar] at total
          simp only [List.length_cons] at enough
          omega
        simp only [first] at read
        cases further : decodeFrom fuel (index + size) rest with
        | error fault => simp [further, bind, Except.bind] at read
        | ok cs' =>
          simp only [further, bind, Except.bind, pure, Except.pure, Except.ok.injEq] at read
          rw [← read, List.flatMap_cons, ih shorter further, bytes]

/-- Bytes that are read as a text are the bytes of that text. -/
theorem encode_of_decode {bs : Bytes} {s : String} (read : decode bs = .ok s) : encode s = bs := by
  unfold decode at read
  cases chars : decodeFrom bs.length 0 bs with
  | error fault => simp [chars, Except.map] at read
  | ok cs =>
    simp only [chars, Except.map, Except.ok.injEq] at read
    rw [← read, encode, String.toList_ofList, encode_decodeFrom (Nat.le_refl _) chars]

end ClusterWire.Utf8
