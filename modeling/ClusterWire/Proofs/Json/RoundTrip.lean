import ClusterWire.Proofs.Json.Numbers
import ClusterWire.Proofs.Json.Strings

/-! The text of a value is read back as that value, if it is nested no deeper
than readers go; what is nested deeper comes out of no text at all. -/
namespace ClusterWire
namespace Json

/-- Values as they are built: the fields of an object are in the order of their
names, and each number is one that its text stands for. -/
inductive Lawful : Json → Prop where
  | null : Lawful .null
  | bool (b : Bool) : Lawful (.bool b)
  | number {n : Number} (reads : n.ReadsBack) : Lawful (.number n)
  | string (s : String) : Lawful (.string s)
  | array {items : List Json} (inside : ∀ v ∈ items, Lawful v) : Lawful (.array items)
  | object {fields : List (String × Json)} (sorted : fields.Pairwise (·.1 < ·.1))
      (inside : ∀ field ∈ fields, Lawful field.2) : Lawful (.object fields)

/-- Lists and objects are nested at most so deep. -/
inductive Nested : Nat → Json → Prop where
  | null (levels : Nat) : Nested levels .null
  | bool (levels : Nat) (b : Bool) : Nested levels (.bool b)
  | number (levels : Nat) (n : Number) : Nested levels (.number n)
  | string (levels : Nat) (s : String) : Nested levels (.string s)
  | array {levels : Nat} {items : List Json} (inside : ∀ v ∈ items, Nested levels v) :
      Nested (levels + 1) (.array items)
  | object {levels : Nat} {fields : List (String × Json)}
      (inside : ∀ field ∈ fields, Nested levels field.2) : Nested (levels + 1) (.object fields)

theorem Nested.succ {levels : Nat} {v : Json} (nested : Nested levels v) : Nested (levels + 1) v := by
  induction nested with
  | null | bool | number | string => constructor
  | array _ ih => exact .array ih
  | object _ ih => exact .object ih

/-! Objects. -/

theorem insertField_last {name : String} {v : Json} {fields : List (String × Json)}
    (below : ∀ field ∈ fields, field.1 < name) :
    insertField name v fields = fields ++ [(name, v)] := by
  induction fields with
  | nil => rfl
  | cons field fields ih =>
    obtain ⟨n, w⟩ := field
    have less : n < name := below (n, w) List.mem_cons_self
    have differs : ¬ name = n := fun same => String.lt_irrefl n (same ▸ less)
    rw [insertField, if_neg differs, if_neg (String.lt_asymm less),
      ih fun field held => below field (List.mem_cons_of_mem _ held)]
    rfl

theorem foldl_insertField {fields front : List (String × Json)}
    (sorted : (front ++ fields).Pairwise (·.1 < ·.1)) :
    fields.foldl (fun sorted (n, v) => insertField n v sorted) front = front ++ fields := by
  induction fields generalizing front with
  | nil => simp
  | cons field fields ih =>
    obtain ⟨name, v⟩ := field
    have below : ∀ other ∈ front, other.1 < name := fun other held =>
      (List.pairwise_append.mp sorted).2.2 other held (name, v) List.mem_cons_self
    have shape : front ++ (name, v) :: fields = front ++ [(name, v)] ++ fields := by simp
    rw [shape] at sorted ⊢
    change fields.foldl _ (insertField name v front) = _
    rw [insertField_last below]
    exact ih sorted

theorem ofFields_sorted {fields : List (String × Json)} (sorted : fields.Pairwise (·.1 < ·.1)) :
    ofFields fields = .object fields := by
  have built := @foldl_insertField fields [] sorted
  rw [ofFields, built]
  rfl

theorem mem_of_insertField {name : String} {v : Json} {entry : String × Json}
    {fields : List (String × Json)} (held : entry ∈ insertField name v fields) :
    entry = (name, v) ∨ entry ∈ fields := by
  induction fields with
  | nil => exact .inl (List.mem_singleton.mp held)
  | cons field fields ih =>
    obtain ⟨n, w⟩ := field
    rw [insertField] at held
    split at held
    · rcases List.mem_cons.mp held with same | behind
      · exact .inl same
      · exact .inr (List.mem_cons_of_mem _ behind)
    · split at held
      · exact List.mem_cons.mp held
      · rcases List.mem_cons.mp held with same | behind
        · exact .inr (List.mem_cons.mpr (.inl same))
        · exact (ih behind).imp_right (List.mem_cons_of_mem _)

theorem mem_of_ofFields {given fields : List (String × Json)} (same : ofFields given = .object fields)
    {entry : String × Json} (held : entry ∈ fields) : entry ∈ given := by
  have all : ∀ front : List (String × Json),
      entry ∈ given.foldl (fun sorted (n, v) => insertField n v sorted) front →
        entry ∈ front ∨ entry ∈ given := by
    clear same
    induction given with
    | nil => exact fun front held => .inl held
    | cons field given ih =>
      intro front held
      rcases ih _ held with inside | behind
      · rcases mem_of_insertField inside with same | old
        · exact .inr (List.mem_cons.mpr (.inl same))
        · exact .inl old
      · exact .inr (List.mem_cons_of_mem _ behind)
  cases same
  exact (all [] held).resolve_left (by simp)

/-! What is written is read back. -/

theorem skipBlanks_cons {b : UInt8} (plain : isBlank b = false) (bs : Bytes) :
    skipBlanks (b :: bs) = b :: bs := by
  rw [skipBlanks, List.dropWhile_cons_of_neg (by simp [plain])]

theorem encode_head {v : Json} (lawful : Lawful v) :
    ∃ b bs, encode v = b :: bs ∧ isBlank b = false ∧ b ≠ 0x5D := by
  cases lawful with
  | null => exact ⟨_, _, rfl, rfl, by decide⟩
  | bool b => cases b <;> exact ⟨_, _, rfl, rfl, by decide⟩
  | string s => exact ⟨_, _, rfl, rfl, by decide⟩
  | array inside => exact ⟨_, _, by rw [encode], rfl, by decide⟩
  | object sorted inside => exact ⟨_, _, by rw [encode], rfl, by decide⟩
  | @number n reads =>
    obtain ⟨b, bs, text, start⟩ := readSigned_head reads
    refine ⟨b, bs, by rw [encode, text], ?_⟩
    rcases start with rfl | digit
    · exact ⟨rfl, by decide⟩
    · refine ⟨?_, fun same => ?_⟩
      · simp only [isBlank, Bool.or_eq_false_iff, beq_eq_false_iff_ne]
        refine ⟨⟨⟨?_, ?_⟩, ?_⟩, ?_⟩
        all_goals
          intro same
          rw [same] at digit
          cases digit
      · rw [same] at digit
        cases digit

theorem readStarted_number {fuel : Nat} {inside : Option (Reader Json)} {b : UInt8}
    {bs left : Bytes} {n : Number} (read : readSigned (b :: bs) = .ok (n, left)) :
    readStarted fuel inside b bs = .ok (.number n, left) := by
  obtain ⟨_, _, same, start⟩ := readSigned_head read
  cases same
  rcases start with rfl | digit
  · have inner : readNumber true bs = .ok (n, left) := read
    change (readNumber true bs >>= _) = _
    rw [inner]
    rfl
  · have minus : b ≠ 0x2D := fun same => by rw [same] at digit; cases digit
    rw [readSigned_plain minus] at read
    unfold readStarted
    split <;> try cases digit
    simp only [if_pos digit, read, bind, Except.bind, pure, Except.pure]

/-! Items and fields, with what follows the first of them. -/

theorem encodeItems_cons (v w : Json) (items : List Json) :
    encodeItems (v :: w :: items) = encode v ++ 0x2C :: encodeItems (w :: items) := rfl

theorem encodeFields_cons (n m : String) (v w : Json) (fields : List (String × Json)) :
    encodeFields ((n, v) :: (m, w) :: fields) =
      quoted n ++ 0x3A :: encode v ++ 0x2C :: encodeFields ((m, w) :: fields) := rfl

theorem encodeItems_head {v : Json} (lawful : Lawful v) (items : List Json) (rest : Bytes) :
    ∃ b bs, encodeItems (v :: items) ++ rest = b :: bs ∧ isBlank b = false ∧ b ≠ 0x5D := by
  obtain ⟨b, bs, head, plain, inside⟩ := encode_head lawful
  cases items with
  | nil => exact ⟨b, bs ++ [0x5D] ++ rest, by rw [encodeItems, head]; rfl, plain, inside⟩
  | cons w items =>
    exact ⟨b, bs ++ 0x2C :: encodeItems (w :: items) ++ rest,
      by rw [encodeItems_cons, head]; rfl, plain, inside⟩

theorem encodeFields_head (field : String × Json) (fields : List (String × Json)) (rest : Bytes) :
    ∃ bs, encodeFields (field :: fields) ++ rest = 0x22 :: bs := by
  obtain ⟨n, v⟩ := field
  cases fields with
  | nil => exact ⟨_, by rw [encodeFields, quoted]; rfl⟩
  | cons other fields => exact ⟨_, by rw [encodeFields_cons, quoted]; rfl⟩

/-- A reader that reads a value back from its text, whatever follows that can
follow a value. -/
def Reads (read : Reader Json) (v : Json) : Prop :=
  ∀ rest, endsNumber rest = true → read (encode v ++ rest) = .ok (v, rest)

section

variable {read : Reader Json}

theorem readItems_encode {items : List Json} (some : items ≠ [])
    (lawful : ∀ v ∈ items, Lawful v) (reads : ∀ v ∈ items, Reads read v) {fuel : Nat}
    (enough : (encodeItems items).length ≤ fuel) (rest : Bytes) :
    readItems read fuel (encodeItems items ++ rest) = .ok (items, rest) := by
  induction items generalizing fuel with
  | nil => exact absurd rfl some
  | cons v items ih =>
    have first := reads v List.mem_cons_self
    cases items with
    | nil =>
      simp only [encodeItems, List.length_append, List.length_cons, List.length_nil] at enough
      obtain ⟨fuel, rfl⟩ : ∃ n, fuel = n + 1 := ⟨fuel - 1, by omega⟩
      rw [encodeItems, List.append_assoc, readItems, first _ rfl]
      rfl
    | cons w items =>
      rw [encodeItems_cons, List.length_append, List.length_cons] at enough
      obtain ⟨fuel, rfl⟩ : ∃ n, fuel = n + 1 := ⟨fuel - 1, by omega⟩
      have fewer : (encodeItems (w :: items)).length ≤ fuel := by omega
      have behind := ih (by simp) (fun v held => lawful v (List.mem_cons_of_mem _ held))
        (fun v held => reads v (List.mem_cons_of_mem _ held)) fewer
      obtain ⟨b, bs, start, plain, inside⟩ := encodeItems_head (lawful w (by simp)) items rest
      rw [encodeItems_cons, List.append_assoc, readItems, List.cons_append, first _ rfl]
      rw [start] at behind ⊢
      simp only [bind, Except.bind]
      rw [skipBlanks_cons (by rfl)]
      simp only [skipBlanks_cons plain]
      split
      · rename_i same
        cases same
      · rename_i same
        exact absurd (List.cons.inj same).1 inside
      · rw [behind]
        rfl

theorem readArray_encode {items : List Json} (lawful : ∀ v ∈ items, Lawful v)
    (reads : ∀ v ∈ items, Reads read v) {fuel : Nat}
    (enough : (encodeItems items).length ≤ fuel) (rest : Bytes) :
    readArray fuel read (encodeItems items ++ rest) = .ok (.array items, rest) := by
  cases items with
  | nil => rfl
  | cons v items =>
    have all := readItems_encode (by simp) lawful reads enough rest
    obtain ⟨b, bs, start, plain, inside⟩ :=
      encodeItems_head (lawful v List.mem_cons_self) items rest
    rw [start] at all ⊢
    rw [readArray, skipBlanks_cons plain]
    split
    · rename_i same
      cases same
    · rename_i same
      exact absurd (List.cons.inj same).1 inside
    · rw [all]
      rfl

theorem readField_encode {n : String} {v : Json} (reads : Reads read v) {fuel : Nat}
    (enough : (quoted n).length ≤ fuel) {rest : Bytes} (bounded : endsNumber rest = true) :
    readField fuel read ((quoted n).tail ++ 0x3A :: (encode v ++ rest)) = .ok ((n, v), rest) := by
  have size := length_quoted n
  rw [readField, readString_quoted n (by omega)]
  simp only [bind, Except.bind]
  rw [skipBlanks_cons (by rfl)]
  simp only [reads rest bounded]
  rfl

theorem readFields_encode {fields : List (String × Json)} (some : fields ≠ [])
    (reads : ∀ field ∈ fields, Reads read field.2) {fuel : Nat}
    (enough : (encodeFields fields).length ≤ fuel) (rest : Bytes) :
    readFields read fuel (encodeFields fields ++ rest) = .ok (fields, rest) := by
  induction fields generalizing fuel with
  | nil => exact absurd rfl some
  | cons field fields ih =>
    obtain ⟨n, v⟩ := field
    have first := reads (n, v) List.mem_cons_self
    cases fields with
    | nil =>
      simp only [encodeFields, List.length_append, List.length_cons, List.length_nil] at enough
      obtain ⟨fuel, rfl⟩ : ∃ n, fuel = n + 1 := ⟨fuel - 1, by omega⟩
      have shape : (encodeFields [(n, v)] ++ rest).drop 1 =
          (quoted n).tail ++ 0x3A :: (encode v ++ 0x7D :: rest) := by
        simp [encodeFields, quoted]
      rw [readFields, shape, readField_encode first (by omega) rfl]
      rfl
    | cons other fields =>
      obtain ⟨m, w⟩ := other
      simp only [encodeFields_cons, List.length_append, List.length_cons] at enough
      obtain ⟨fuel, rfl⟩ : ∃ n, fuel = n + 1 := ⟨fuel - 1, by omega⟩
      have fewer : (encodeFields ((m, w) :: fields)).length ≤ fuel := by omega
      have behind := ih (by simp) (fun field held => reads field (List.mem_cons_of_mem _ held)) fewer
      have shape : (encodeFields ((n, v) :: (m, w) :: fields) ++ rest).drop 1 =
          (quoted n).tail ++ 0x3A :: (encode v ++ 0x2C :: (encodeFields ((m, w) :: fields) ++ rest)) := by
        simp [encodeFields_cons, quoted]
      obtain ⟨bs, start⟩ := encodeFields_head (m, w) fields rest
      rw [readFields, shape, readField_encode first (by omega) rfl]
      rw [start] at behind ⊢
      simp only [bind, Except.bind]
      rw [skipBlanks_cons (by rfl)]
      have quote : isBlank 0x22 = false := rfl
      simp only [skipBlanks_cons quote, behind]
      rfl

theorem readObject_encode {fields : List (String × Json)} (sorted : fields.Pairwise (·.1 < ·.1))
    (reads : ∀ field ∈ fields, Reads read field.2) {fuel : Nat}
    (enough : (encodeFields fields).length ≤ fuel) (rest : Bytes) :
    readObject fuel read (encodeFields fields ++ rest) = .ok (.object fields, rest) := by
  cases fields with
  | nil => rfl
  | cons field fields =>
    have all := readFields_encode (by simp) reads enough rest
    obtain ⟨bs, start⟩ := encodeFields_head field fields rest
    rw [start] at all ⊢
    rw [readObject, skipBlanks_cons (by rfl)]
    simp only [all, bind, Except.bind, pure, Except.pure, ofFields_sorted sorted]

end

theorem length_le_encodeItems {v : Json} {items : List Json} (held : v ∈ items) :
    (encode v).length ≤ (encodeItems items).length := by
  induction items with
  | nil => cases held
  | cons w items ih =>
    have shape : (encode w).length ≤ (encodeItems (w :: items)).length ∧
        (encodeItems items).length ≤ (encodeItems (w :: items)).length := by
      cases items with
      | nil => simp [encodeItems]
      | cons x items =>
        simp only [encodeItems_cons, List.length_append, List.length_cons]
        omega
    rcases List.mem_cons.mp held with rfl | behind
    · exact shape.1
    · exact Nat.le_trans (ih behind) shape.2

theorem length_le_encodeFields {field : String × Json} {fields : List (String × Json)}
    (held : field ∈ fields) : (encode field.2).length ≤ (encodeFields fields).length := by
  induction fields with
  | nil => cases held
  | cons other fields ih =>
    have shape : (encode other.2).length ≤ (encodeFields (other :: fields)).length ∧
        (encodeFields fields).length ≤ (encodeFields (other :: fields)).length := by
      obtain ⟨n, v⟩ := other
      cases fields with
      | nil =>
        simp only [encodeFields, List.length_append, List.length_cons, List.length_nil]
        omega
      | cons next fields =>
        obtain ⟨m, w⟩ := next
        simp only [encodeFields_cons, List.length_append, List.length_cons]
        omega
    rcases List.mem_cons.mp held with rfl | behind
    · exact shape.1
    · exact Nat.le_trans (ih behind) shape.2

theorem readValue_zero {b : UInt8} (plain : isBlank b = false) (fuel : Nat) (bs : Bytes) :
    readValue fuel 0 (b :: bs) = readStarted fuel none b bs := by
  rw [readValue, skipBlanks_cons plain]

theorem readValue_succ {b : UInt8} (plain : isBlank b = false) (fuel levels : Nat) (bs : Bytes) :
    readValue fuel (levels + 1) (b :: bs) =
      readStarted fuel (some (readValue fuel levels)) b bs := by
  rw [readValue, skipBlanks_cons plain]

theorem readValue_plain {b : UInt8} (plain : isBlank b = false) {bs rest : Bytes} {v : Json}
    {fuel : Nat} (read : ∀ inside, readStarted fuel inside b bs = .ok (v, rest)) (levels : Nat) :
    readValue fuel levels (b :: bs) = .ok (v, rest) := by
  cases levels with
  | zero => rw [readValue_zero plain, read]
  | succ levels => rw [readValue_succ plain, read]

/-- A value is read back in front of anything that can follow it. The induction
is on the nesting, whose levels lists and objects use up. -/
theorem readValue_encode {levels : Nat} {v : Json} (nested : Nested levels v) (lawful : Lawful v)
    {fuel : Nat} (enough : (encode v).length ≤ fuel) : Reads (readValue fuel levels) v := by
  intro rest bounded
  -- On the nesting: what is inside a list or an object has one level less.
  induction nested generalizing rest with
  | null levels => exact readValue_plain rfl (fun _ => rfl) levels
  | bool levels b => cases b <;> exact readValue_plain rfl (fun _ => rfl) levels
  | number levels n =>
    cases lawful with
    | number reads =>
      obtain ⟨b, bs, text, plain, -⟩ := encode_head (.number reads)
      have read := readSigned_append bounded reads
      rw [encode] at text
      rw [encode, text, List.cons_append]
      rw [text, List.cons_append] at read
      exact readValue_plain plain (fun _ => readStarted_number read) levels
  | string levels s =>
    have size := length_quoted s
    rw [encode] at enough ⊢
    have fewer : s.toList.length < fuel := by omega
    have read := readString_quoted s fewer rest
    refine readValue_plain rfl (fun inside => ?_) levels
    change (readString fuel ((quoted s).tail ++ rest) >>= _) = _
    rw [read]
    rfl
  | @array levels items inside ih =>
    cases lawful with
    | array lawful =>
      rw [encode, List.length_cons] at enough
      have reads : ∀ v ∈ items, Reads (readValue fuel levels) v := by
        intro v held rest bounded
        have shorter := length_le_encodeItems held
        exact ih v held (lawful v held) (by omega) rest bounded
      rw [encode, List.cons_append, readValue_succ (by rfl)]
      exact readArray_encode lawful reads (by omega) rest
  | @object levels fields inside ih =>
    cases lawful with
    | object sorted lawful =>
      rw [encode, List.length_cons] at enough
      have reads : ∀ field ∈ fields, Reads (readValue fuel levels) field.2 := by
        intro field held rest bounded
        have shorter := length_le_encodeFields held
        exact ih field held (lawful field held) (by omega) rest bounded
      rw [encode, List.cons_append, readValue_succ (by rfl)]
      exact readObject_encode sorted reads (by omega) rest

theorem decode_encode_of_nested {v : Json} (lawful : Lawful v) (nested : Nested maxDepth v) :
    decode (encode v) = .ok v := by
  have read := readValue_encode nested lawful (Nat.le_succ (encode v).length) [] rfl
  rw [List.append_nil] at read
  simp only [decode, readText, read, bind, Except.bind]
  rfl

/-! What is read is nested no deeper than the reader goes. -/

theorem ok_of_bind {ε α β : Type} {x : Except ε α} {f : α → Except ε β} {b : β}
    (found : (x >>= f) = .ok b) : ∃ a, x = .ok a ∧ f a = .ok b := by
  cases x with
  | error fault => cases found
  | ok a => exact ⟨a, rfl, found⟩

section

variable {read : Reader Json} {levels : Nat} {P : Json → Prop}

theorem readItems_all (all : ∀ bs v rest, read bs = .ok (v, rest) → P v)
    {fuel : Nat} {bs rest : Bytes} {items : List Json}
    (found : readItems read fuel bs = .ok (items, rest)) : ∀ v ∈ items, P v := by
  induction fuel generalizing bs items rest with
  | zero => cases found
  | succ fuel ih =>
    obtain ⟨⟨v, behind⟩, first, found⟩ := ok_of_bind found
    have head := all bs v behind first
    simp only at found
    split at found
    · cases found
    · cases found
      simpa using head
    · split at found
      · cases found
      · cases found
      · obtain ⟨⟨vs, left⟩, inner, found⟩ := ok_of_bind found
        cases found
        exact List.forall_mem_cons.mpr ⟨head, ih inner⟩
    · cases found

theorem readArray_nested (shallow : ∀ bs v rest, read bs = .ok (v, rest) → Nested levels v)
    {fuel : Nat} {bs rest : Bytes} {v : Json} (found : readArray fuel read bs = .ok (v, rest)) :
    Nested (levels + 1) v := by
  unfold readArray at found
  split at found
  · cases found
  · cases found
    exact .array (by simp)
  · obtain ⟨⟨vs, left⟩, inner, found⟩ := ok_of_bind found
    cases found
    exact .array (readItems_all shallow inner)

theorem readField_all (all : ∀ bs v rest, read bs = .ok (v, rest) → P v)
    {fuel : Nat} {bs rest : Bytes} {field : String × Json}
    (found : readField fuel read bs = .ok (field, rest)) : P field.2 := by
  obtain ⟨⟨name, behind⟩, _, found⟩ := ok_of_bind found
  simp only at found
  split at found
  · cases found
  · obtain ⟨⟨v, left⟩, inner, found⟩ := ok_of_bind found
    cases found
    exact all _ _ _ inner
  · cases found

theorem readFields_all (all : ∀ bs v rest, read bs = .ok (v, rest) → P v)
    {fuel : Nat} {bs rest : Bytes} {fields : List (String × Json)}
    (found : readFields read fuel bs = .ok (fields, rest)) :
    ∀ field ∈ fields, P field.2 := by
  induction fuel generalizing bs fields rest with
  | zero => cases found
  | succ fuel ih =>
    obtain ⟨⟨field, behind⟩, first, found⟩ := ok_of_bind found
    have head := readField_all all first
    simp only at found
    split at found
    · cases found
    · cases found
      simpa using head
    · split at found
      · cases found
      · obtain ⟨⟨more, left⟩, inner, found⟩ := ok_of_bind found
        cases found
        exact List.forall_mem_cons.mpr ⟨head, ih inner⟩
      · cases found
      · cases found
    · cases found

theorem readObject_nested (shallow : ∀ bs v rest, read bs = .ok (v, rest) → Nested levels v)
    {fuel : Nat} {bs rest : Bytes} {v : Json} (found : readObject fuel read bs = .ok (v, rest)) :
    Nested (levels + 1) v := by
  unfold readObject at found
  split at found
  · cases found
  · cases found
    exact .object (by simp)
  · obtain ⟨⟨fields, left⟩, inner, found⟩ := ok_of_bind found
    have inside := readFields_all shallow inner
    cases found
    exact .object fun field held => inside field (mem_of_ofFields rfl held)
  · cases found

end

theorem readWord_value {v w : Json} {word bs rest : Bytes}
    (found : readWord v word bs = .ok (w, rest)) : w = v := by
  induction word generalizing bs with
  | nil => cases found; rfl
  | cons letter word ih =>
    cases bs with
    | nil => cases found
    | cons b bs =>
      rw [readWord] at found
      split at found
      · exact ih found
      · cases found

theorem readStarted_nested {fuel levels : Nat} {inside : Option (Reader Json)}
    (shallow : ∀ read, inside = some read →
      ∃ below, levels = below + 1 ∧ ∀ bs v rest, read bs = .ok (v, rest) → Nested below v)
    {b : UInt8} {bs rest : Bytes} {v : Json}
    (found : readStarted fuel inside b bs = .ok (v, rest)) : Nested levels v := by
  unfold readStarted at found
  split at found
  · exact readWord_value found ▸ .null levels
  · exact readWord_value found ▸ .bool levels true
  · exact readWord_value found ▸ .bool levels false
  · obtain ⟨_, _, found⟩ := ok_of_bind found
    cases found
    exact .string levels _
  · obtain ⟨_, _, found⟩ := ok_of_bind found
    cases found
    exact .number levels _
  · split at found
    · obtain ⟨below, rfl, all⟩ := shallow _ rfl
      exact readArray_nested all found
    · cases found
  · split at found
    · obtain ⟨below, rfl, all⟩ := shallow _ rfl
      exact readObject_nested all found
    · cases found
  · split at found
    · obtain ⟨_, _, found⟩ := ok_of_bind found
      cases found
      exact .number levels _
    · cases found

theorem readValue_nested {fuel levels : Nat} {bs rest : Bytes} {v : Json}
    (found : readValue fuel levels bs = .ok (v, rest)) : Nested levels v := by
  induction levels generalizing bs rest v with
  | zero =>
    rw [readValue] at found
    split at found
    · cases found
    · exact readStarted_nested (fun _ none => by cases none) found
  | succ levels ih =>
    rw [readValue] at found
    split at found
    · cases found
    · refine readStarted_nested (fun read same => ⟨levels, rfl, fun bs v rest inner => ?_⟩) found
      cases same
      exact ih inner

theorem readValue_of_decode {bs : Bytes} {v : Json} (found : decode bs = .ok v) :
    ∃ rest, readValue (bs.length + 1) maxDepth bs = .ok (v, rest) := by
  unfold decode at found
  cases read : readText bs with
  | error stuck => rw [read] at found; cases found
  | ok w =>
    rw [read] at found
    cases found
    obtain ⟨⟨w, rest⟩, inner, finished⟩ := ok_of_bind read
    simp only at finished
    split at finished
    · cases finished
      exact ⟨rest, inner⟩
    · cases finished

theorem nested_of_decode {bs : Bytes} {v : Json} (found : decode bs = .ok v) :
    Nested maxDepth v := by
  obtain ⟨rest, read⟩ := readValue_of_decode found
  exact readValue_nested read

/-- The text of a value stands for it just when readers go deep enough. -/
theorem decode_encode {v : Json} (lawful : Lawful v) :
    decode (encode v) = .ok v ↔ Nested maxDepth v :=
  ⟨nested_of_decode, decode_encode_of_nested lawful⟩

def stacked : Nat → Json
  | 0 => .array []
  | n + 1 => .array [stacked n]

theorem not_nested_stacked (n : Nat) : ¬ Nested n (stacked n) := by
  induction n with
  | zero => rintro ⟨⟩
  | succ n ih =>
    intro nested
    cases nested with
    | array inside => exact ih (inside _ List.mem_cons_self)

end Json
end ClusterWire
