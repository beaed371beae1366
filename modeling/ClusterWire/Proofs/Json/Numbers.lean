import ClusterWire.Json.Reader
import ClusterWire.Json.Writer
import ClusterWire.Proofs.Utf8

/-! Numbers in JSON text. What follows a number does not change how it is read,
as long as it cannot be part of one; whole numbers are read back from their own
text. -/
namespace ClusterWire
namespace Json

/-- Whether a number ends in front of these bytes. -/
def endsNumber : Bytes → Bool
  | [] => true
  | b :: _ => !isDigit b && b != 0x2E && b != 0x65 && b != 0x45

section

variable {rest : Bytes}

theorem startsWithDigit_of_endsNumber (bounded : endsNumber rest = true) :
    startsWithDigit rest = false := by
  cases rest with
  | nil => rfl
  | cons b rest =>
    simp only [endsNumber, Bool.and_eq_true, Bool.not_eq_true'] at bounded
    exact bounded.1.1.1

theorem startsWithDigit_append (bounded : endsNumber rest = true) (bs : Bytes) :
    startsWithDigit (bs ++ rest) = startsWithDigit bs := by
  cases bs with
  | nil => exact startsWithDigit_of_endsNumber bounded
  | cons b bs => rfl

theorem span_digits_append (bounded : endsNumber rest = true) (bs : Bytes) :
    (bs ++ rest).dropWhile isDigit = bs.dropWhile isDigit ++ rest ∧
    (bs ++ rest).takeWhile isDigit = bs.takeWhile isDigit := by
  induction bs with
  | nil =>
    have stops := startsWithDigit_of_endsNumber bounded
    cases rest with
    | nil => exact ⟨rfl, rfl⟩
    | cons b rest =>
      have other : ¬ isDigit b = true := by simpa [startsWithDigit] using stops
      exact ⟨List.dropWhile_cons_of_neg other, List.takeWhile_cons_of_neg other⟩
  | cons b bs ih =>
    by_cases digit : isDigit b = true
    · rw [List.cons_append, List.dropWhile_cons_of_pos digit, List.dropWhile_cons_of_pos digit,
        List.takeWhile_cons_of_pos digit, List.takeWhile_cons_of_pos digit, ih.1, ih.2]
      exact ⟨rfl, rfl⟩
    · rw [List.cons_append, List.dropWhile_cons_of_neg digit, List.dropWhile_cons_of_neg digit,
        List.takeWhile_cons_of_neg digit, List.takeWhile_cons_of_neg digit]
      exact ⟨rfl, rfl⟩

theorem grow_append (bounded : endsNumber rest = true) (limit n : Nat) (bs : Bytes) :
    grow limit n (bs ++ rest) =
      ((grow limit n bs).1, (grow limit n bs).2.1, (grow limit n bs).2.2 ++ rest) := by
  induction bs generalizing n with
  | nil =>
    have stops := startsWithDigit_of_endsNumber bounded
    cases rest with
    | nil => rfl
    | cons b rest =>
      have other : isDigit b = false := stops
      simp [grow, other]
  | cons b bs ih =>
    rw [List.cons_append, grow, grow]
    split
    · rw [ih]
    · rfl

theorem finish_append {negative : Bool} {significand : Nat} {exponent : Int} {bs left : Bytes}
    {n : Number} (read : finish negative significand exponent bs = .ok (n, left)) :
    finish negative significand exponent (bs ++ rest) = .ok (n, left ++ rest) := by
  unfold finish at read ⊢
  split at read
  · cases read
    rfl
  · cases read

theorem readExponentDigits_append (bounded : endsNumber rest = true) {negative down : Bool}
    {significand : Nat} {start : Int} {bs left : Bytes} {n : Number}
    (read : readExponentDigits negative significand start down bs = .ok (n, left)) :
    readExponentDigits negative significand start down (bs ++ rest) = .ok (n, left ++ rest) := by
  simp only [readExponentDigits, grow_append bounded, startsWithDigit_append bounded,
    (span_digits_append bounded _).1] at read ⊢
  split
  · rename_i more
    rw [if_pos more] at read
    split at read
    · cases read
    · rename_i small
      rw [if_neg small]
      cases read
      rfl
  · rename_i none
    rw [if_neg none] at read
    exact finish_append read

theorem exponentSign_append (b : UInt8) (bs rest : Bytes) :
    exponentSign (b :: bs ++ rest) =
      ((exponentSign (b :: bs)).1, (exponentSign (b :: bs)).2 ++ rest) := by
  by_cases plus : b = 0x2B
  · subst plus
    rfl
  · by_cases minus : b = 0x2D
    · subst minus
      rfl
    · have signless : ∀ bs, exponentSign (b :: bs) = (false, b :: bs) := by
        intro bs
        unfold exponentSign
        split
        · rename_i same
          exact absurd (List.cons.inj same).1 plus
        · rename_i same
          exact absurd (List.cons.inj same).1 minus
        · rfl
      rw [List.cons_append, signless, signless, List.cons_append]

theorem readExponent_append (bounded : endsNumber rest = true) {negative : Bool} {significand : Nat}
    {start : Int} {bs left : Bytes} {n : Number}
    (read : readExponent negative significand start bs = .ok (n, left)) :
    readExponent negative significand start (bs ++ rest) = .ok (n, left ++ rest) := by
  cases bs with
  | nil => cases read
  | cons b bs =>
    simp only [readExponent, exponentSign_append] at read ⊢
    generalize exponentSign (b :: bs) = signed at read ⊢
    obtain ⟨down, _ | ⟨b, bs⟩⟩ := signed
    · cases read
    · by_cases digit : isDigit b = true
      · simp only [digit, if_true, List.cons_append] at read ⊢
        exact readExponentDigits_append bounded read
      · simp only [digit] at read
        cases read

theorem readScale_other {b : UInt8} (small : b ≠ 0x65) (big : b ≠ 0x45) (negative : Bool)
    (significand : Nat) (exponent : Int) (bs : Bytes) :
    readScale negative significand exponent (b :: bs) =
      finish negative significand exponent (b :: bs) := by
  unfold readScale
  split
  · rename_i same
    exact absurd (List.cons.inj same).1 small
  · rename_i same
    exact absurd (List.cons.inj same).1 big
  · rfl

theorem readScale_append (bounded : endsNumber rest = true) {negative : Bool} {significand : Nat}
    {exponent : Int} {bs left : Bytes} {n : Number}
    (read : readScale negative significand exponent bs = .ok (n, left)) :
    readScale negative significand exponent (bs ++ rest) = .ok (n, left ++ rest) := by
  cases bs with
  | nil =>
    have ended := @finish_append rest _ _ _ [] _ _ read
    cases rest with
    | nil => exact ended
    | cons b rest =>
      simp only [endsNumber, Bool.and_eq_true, bne_iff_ne] at bounded
      rw [List.nil_append, readScale_other bounded.1.2 bounded.2]
      exact ended
  | cons b bs =>
    by_cases small : b = 0x65
    · subst small
      exact readExponent_append bounded read
    · by_cases big : b = 0x45
      · subst big
        exact readExponent_append bounded read
      · rw [readScale_other small big] at read
        rw [List.cons_append, readScale_other small big]
        exact finish_append read

theorem readFraction_append (bounded : endsNumber rest = true) {negative : Bool} {significand : Nat}
    {exponent : Int} {bs left : Bytes} {n : Number}
    (read : readFraction negative significand exponent bs = .ok (n, left)) :
    readFraction negative significand exponent (bs ++ rest) = .ok (n, left ++ rest) := by
  simp only [readFraction, grow_append bounded, startsWithDigit_append bounded,
    (span_digits_append bounded _).1] at read ⊢
  split
  · rename_i more
    rw [if_pos more] at read
    exact readScale_append bounded read
  · rename_i none
    rw [if_neg none] at read
    split
    · rename_i empty
      rw [if_pos empty] at read
      split at read <;> cases read
    · rename_i some
      rw [if_neg some] at read
      exact readScale_append bounded read

theorem wholeNumber_append {negative : Bool} {significand dropped : Nat} {bs left : Bytes}
    {n : Number} (read : wholeNumber negative significand dropped bs = .ok (n, left)) :
    wholeNumber negative significand dropped (bs ++ rest) = .ok (n, left ++ rest) := by
  unfold wholeNumber at read ⊢
  split
  · rename_i wide
    rw [if_pos wide] at read
    exact finish_append read
  · rename_i exact
    rw [if_neg exact] at read
    split at read <;> try split at read
    all_goals
      cases read
      simp only [*, if_true, if_false, Bool.false_eq_true]

theorem readTail_other {b : UInt8} (point : b ≠ 0x2E) (small : b ≠ 0x65) (big : b ≠ 0x45)
    (negative : Bool) (significand dropped : Nat) (bs : Bytes) :
    readTail negative significand dropped (b :: bs) =
      wholeNumber negative significand dropped (b :: bs) := by
  unfold readTail
  split
  · rename_i same
    exact absurd (List.cons.inj same).1 point
  · rename_i same
    exact absurd (List.cons.inj same).1 small
  · rename_i same
    exact absurd (List.cons.inj same).1 big
  · rfl

theorem readTail_append (bounded : endsNumber rest = true) {negative : Bool}
    {significand dropped : Nat} {bs left : Bytes} {n : Number}
    (read : readTail negative significand dropped bs = .ok (n, left)) :
    readTail negative significand dropped (bs ++ rest) = .ok (n, left ++ rest) := by
  cases bs with
  | nil =>
    have ended := @wholeNumber_append rest _ _ _ [] _ _ read
    cases rest with
    | nil => exact ended
    | cons b rest =>
      simp only [endsNumber, Bool.and_eq_true, bne_iff_ne] at bounded
      rw [List.nil_append, readTail_other bounded.1.1.2 bounded.1.2 bounded.2]
      exact ended
  | cons b bs =>
    by_cases point : b = 0x2E
    · subst point
      exact readFraction_append bounded read
    · by_cases small : b = 0x65
      · subst small
        exact readExponent_append bounded read
      · by_cases big : b = 0x45
        · subst big
          exact readExponent_append bounded read
        · rw [readTail_other point small big] at read
          rw [List.cons_append, readTail_other point small big]
          exact wholeNumber_append read

theorem readNumber_append (bounded : endsNumber rest = true) {negative : Bool} {bs left : Bytes}
    {n : Number} (read : readNumber negative bs = .ok (n, left)) :
    readNumber negative (bs ++ rest) = .ok (n, left ++ rest) := by
  cases bs with
  | nil => cases read
  | cons b bs =>
    simp only [readNumber, List.cons_append] at read ⊢
    split
    · rename_i zero
      rw [if_pos zero] at read
      rw [startsWithDigit_append bounded]
      split at read
      · cases read
      · rename_i single
        rw [if_neg single]
        exact readTail_append bounded read
    · rename_i nonzero
      rw [if_neg nonzero] at read
      split
      · rename_i digit
        rw [if_pos digit] at read
        rw [← List.cons_append, grow_append bounded, (span_digits_append bounded _).1,
          (span_digits_append bounded _).2]
        exact readTail_append bounded read
      · rename_i other
        rw [if_neg other] at read
        cases read

end

def readSigned : Bytes → Except Stuck (Number × Bytes)
  | 0x2D :: bs => readNumber true bs
  | bs => readNumber false bs

theorem readSigned_plain {b : UInt8} (plain : b ≠ 0x2D) (bs : Bytes) :
    readSigned (b :: bs) = readNumber false (b :: bs) := by
  unfold readSigned
  split
  · rename_i same
    exact absurd (List.cons.inj same).1 plain
  · rfl

theorem readSigned_append {rest : Bytes} (bounded : endsNumber rest = true) {bs left : Bytes}
    {n : Number} (read : readSigned bs = .ok (n, left)) :
    readSigned (bs ++ rest) = .ok (n, left ++ rest) := by
  cases bs with
  | nil => cases read
  | cons b bs =>
    by_cases minus : b = 0x2D
    · subst minus
      exact readNumber_append bounded read
    · rw [readSigned_plain minus] at read
      rw [List.cons_append, readSigned_plain minus]
      exact readNumber_append bounded read

theorem readSigned_head {bs left : Bytes} {n : Number} (read : readSigned bs = .ok (n, left)) :
    ∃ b rest, bs = b :: rest ∧ (b = 0x2D ∨ isDigit b = true) := by
  cases bs with
  | nil => cases read
  | cons b bs =>
    refine ⟨b, bs, rfl, ?_⟩
    by_cases minus : b = 0x2D
    · exact .inl minus
    · by_cases digit : isDigit b = true
      · exact .inr digit
      · have zero : b ≠ 0x30 := fun same => digit (same ▸ rfl)
        rw [readSigned_plain minus] at read
        simp only [readNumber, if_neg zero, if_neg digit] at read
        cases read

/-- A number whose text is read as that number, to its last byte. -/
def Number.ReadsBack (n : Number) : Prop := readSigned (Utf8.encode n.text) = .ok (n, [])

/-! Whole numbers. -/

def asciiBytes (cs : List Char) : Bytes := cs.map fun c => UInt8.ofNat c.toNat

theorem toNat_of_isDigit {c : Char} (digit : c.isDigit = true) :
    48 ≤ c.toNat ∧ c.toNat ≤ 57 := by
  simp only [Char.isDigit, Bool.and_eq_true, decide_eq_true_eq, ge_iff_le, UInt32.le_iff_toNat_le] at digit
  exact digit

theorem encode_digits {cs : List Char} (digits : ∀ c ∈ cs, c.isDigit = true) :
    cs.flatMap String.utf8EncodeChar = asciiBytes cs := by
  induction cs with
  | nil => rfl
  | cons c cs ih =>
    have small : c.toNat ≤ 0x7F := by
      have range := toNat_of_isDigit (digits c List.mem_cons_self)
      omega
    have one : String.utf8EncodeChar c = [UInt8.ofNat c.toNat] := if_pos small
    rw [List.flatMap_cons, one, ih fun other held => digits other (List.mem_cons_of_mem c held)]
    rfl

theorem digit_byte {c : Char} (digit : c.isDigit = true) :
    isDigit (UInt8.ofNat c.toNat) = true ∧ Json.digit (UInt8.ofNat c.toNat) = c.toNat - 48 := by
  have range := toNat_of_isDigit digit
  have value : (UInt8.ofNat c.toNat).toNat = c.toNat := Utf8.toNat_byte (by omega)
  constructor
  · simp only [isDigit, Bool.and_eq_true, decide_eq_true_eq, UInt8.le_iff_toNat_le, value]
    exact range
  · rw [Json.digit, value]

theorem le_ofDigitChars (cs : List Char) (n : Nat) : n ≤ Nat.ofDigitChars 10 cs n := by
  induction cs generalizing n with
  | nil => simp
  | cons c cs ih =>
    have more := ih (10 * n + (c.toNat - '0'.toNat))
    rw [Nat.ofDigitChars_cons]
    omega

theorem grow_digits {limit n : Nat} {cs : List Char} (digits : ∀ c ∈ cs, c.isDigit = true)
    (fits : Nat.ofDigitChars 10 cs n ≤ limit) :
    grow limit n (asciiBytes cs) = (Nat.ofDigitChars 10 cs n, cs.length, []) := by
  induction cs generalizing n with
  | nil => simp [grow, asciiBytes]
  | cons c cs ih =>
    obtain ⟨digit, value⟩ := digit_byte (digits c List.mem_cons_self)
    have zero : '0'.toNat = 48 := rfl
    rw [Nat.ofDigitChars_cons, zero, Nat.mul_comm] at fits
    have below := Nat.le_trans (le_ofDigitChars cs (n * 10 + (c.toNat - 48))) fits
    have inner := ih (fun other held => digits other (List.mem_cons_of_mem c held)) fits
    change grow limit n (UInt8.ofNat c.toNat :: asciiBytes cs) = _
    rw [grow, if_pos ⟨digit, by rw [value]; exact below⟩, value, inner, Nat.ofDigitChars_cons, zero,
      Nat.mul_comm 10 n, List.length_cons]

theorem digits_of_toDigits (n : Nat) : ∀ c ∈ Nat.toDigits 10 n, c.isDigit = true :=
  fun _ held => Nat.isDigit_of_mem_toDigits (by omega) (by omega) held

theorem toDigits_head {n : Nat} (positive : 0 < n) :
    ∃ c cs, Nat.toDigits 10 n = c :: cs ∧ c ≠ '0' := by
  induction n using Nat.strongRecOn with
  | ind n ih =>
    rw [Nat.toDigits_eq_if (by omega)]
    split
    · rename_i small
      refine ⟨_, [], rfl, fun same => ?_⟩
      have value := Nat.toNat_digitChar_of_lt_ten small
      rw [same] at value
      have zero : '0'.toNat = 48 := rfl
      omega
    · obtain ⟨c, cs, digits, nonzero⟩ := ih (n / 10) (by omega) (by omega)
      rw [digits]
      exact ⟨c, _, rfl, nonzero⟩

theorem readNumber_digits (negative : Bool) {n : Nat} (fits : n ≤ maxSignificand) :
    readNumber negative (asciiBytes (Nat.toDigits 10 n)) = wholeNumber negative n 0 [] := by
  by_cases zero : n = 0
  · subst zero
    rfl
  · obtain ⟨c, cs, digits, nonzero⟩ := toDigits_head (Nat.pos_of_ne_zero zero)
    have all := digits_of_toDigits n
    have value : Nat.ofDigitChars 10 (c :: cs) 0 = n := by
      rw [← digits]
      exact Nat.ofDigitChars_ten_toDigits
    rw [digits] at all ⊢
    have digit := (digit_byte (all c List.mem_cons_self)).1
    have range := toNat_of_isDigit (all c List.mem_cons_self)
    have other : UInt8.ofNat c.toNat ≠ 0x30 := by
      intro same
      have byte : (UInt8.ofNat c.toNat).toNat = c.toNat := Utf8.toNat_byte (by omega)
      rw [same] at byte
      apply nonzero
      rw [← Char.ofNat_toNat c, ← byte]
      rfl
    rw [← value] at fits
    have bytes : UInt8.ofNat c.toNat :: asciiBytes cs = asciiBytes (c :: cs) := rfl
    have grown := grow_digits all fits
    rw [value] at grown
    rw [← bytes]
    simp only [readNumber, if_neg other, if_pos digit]
    rw [bytes, grown]
    rfl

theorem encode_toString (n : Nat) :
    Utf8.encode (toString n) = asciiBytes (Nat.toDigits 10 n) := by
  rw [Utf8.encode, Nat.toString_eq_repr, Nat.toList_repr, encode_digits (digits_of_toDigits n)]

theorem readsBack_natural (n : UInt64) : (Number.natural n).ReadsBack := by
  have fits : n.toNat ≤ maxSignificand := Nat.le_sub_one_of_lt n.toNat_lt
  have read := readNumber_digits false fits
  change readSigned (Utf8.encode (toString n.toNat)) = _
  rw [encode_toString]
  cases digits : Nat.toDigits 10 n.toNat with
  | nil => exact absurd digits Nat.toDigits_ne_nil
  | cons c cs =>
    rw [digits] at read
    have range := toNat_of_isDigit (digits_of_toDigits n.toNat c (digits ▸ List.mem_cons_self))
    have plain : UInt8.ofNat c.toNat ≠ 0x2D := by
      intro same
      have byte : (UInt8.ofNat c.toNat).toNat = c.toNat := Utf8.toNat_byte (by omega)
      rw [same] at byte
      have dash : (0x2D : UInt8).toNat = 0x2D := rfl
      omega
    change readSigned (UInt8.ofNat c.toNat :: asciiBytes cs) = _
    rw [readSigned_plain plain]
    refine read.trans ?_
    simp [wholeNumber]

theorem readsBack_negative {n : Int64} (below : n < 0) : (Number.negative n).ReadsBack := by
  have low := n.minValue_le_toInt
  have least : Int64.minValue.toInt = -0x8000000000000000 := rfl
  have sign : n.toInt < 0 := Int64.lt_iff_toInt_lt.mp below
  obtain ⟨k, size⟩ := Int.eq_negSucc_of_lt_zero sign
  have text : Utf8.encode (toString n.toInt) = 0x2D :: asciiBytes (Nat.toDigits 10 (k + 1)) := by
    rw [← encode_toString, size]
    change (("-" ++ Nat.repr (k + 1)).toList.flatMap String.utf8EncodeChar) = _
    rw [String.toList_append, List.flatMap_append]
    rfl
  have fits : k + 1 ≤ 0x8000000000000000 := by omega
  have holds : k + 1 ≤ maxSignificand := by
    simp only [maxSignificand, UInt64.size]
    omega
  have read := readNumber_digits true holds
  have value : Int64.ofInt (-((k + 1 : Nat) : Int)) = n := by
    have same : -((k + 1 : Nat) : Int) = n.toInt := size.symm
    rw [same]
    exact Int64.ofInt_toInt n
  change readSigned (Utf8.encode (toString n.toInt)) = _
  rw [text]
  refine read.trans ?_
  have range : ¬ (k + 1 = 0 ∨ 0x8000000000000000 < k + 1) := by omega
  simp only [wholeNumber, ne_eq, not_true_eq_false, if_false, Bool.not_true, Bool.false_eq_true,
    range, value]

end Json
end ClusterWire
