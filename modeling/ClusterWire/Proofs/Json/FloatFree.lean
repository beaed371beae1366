import ClusterWire.Proofs.Json.RoundTrip

/-! Values without floating-point numbers. What is read is always built in
order; of such values only the floating-point numbers may not be read back from
their own text. -/
namespace ClusterWire
namespace Json

/-- A number kept as negative is below zero. -/
def Number.Signed (n : Number) : Prop := ∀ i, n = .negative i → i < 0

/-- Values as readers and programs build them, floating-point numbers or not. -/
inductive Orderly : Json → Prop where
  | null : Orderly .null
  | bool (b : Bool) : Orderly (.bool b)
  | number {n : Number} (signed : n.Signed) : Orderly (.number n)
  | string (s : String) : Orderly (.string s)
  | array {items : List Json} (inside : ∀ v ∈ items, Orderly v) : Orderly (.array items)
  | object {fields : List (String × Json)} (sorted : fields.Pairwise (·.1 < ·.1))
      (inside : ∀ field ∈ fields, Orderly field.2) : Orderly (.object fields)

inductive FloatFree : Json → Prop where
  | null : FloatFree .null
  | bool (b : Bool) : FloatFree (.bool b)
  | natural (n : UInt64) : FloatFree (.number (.natural n))
  | negative (n : Int64) : FloatFree (.number (.negative n))
  | string (s : String) : FloatFree (.string s)
  | array {items : List Json} (inside : ∀ v ∈ items, FloatFree v) : FloatFree (.array items)
  | object {fields : List (String × Json)} (inside : ∀ field ∈ fields, FloatFree field.2) :
      FloatFree (.object fields)

theorem FloatFree.lawful {v : Json} (free : v.FloatFree) (orderly : v.Orderly) : v.Lawful := by
  induction free with
  | null => exact .null
  | bool b => exact .bool b
  | natural n => exact .number (readsBack_natural n)
  | negative n =>
    cases orderly with
    | number signed => exact .number (readsBack_negative (signed n rfl))
  | string s => exact .string s
  | array _ ih =>
    cases orderly with
    | array inside => exact .array fun v held => ih v held (inside v held)
  | object _ ih =>
    cases orderly with
    | object sorted inside => exact .object sorted fun field held => ih field held (inside field held)

theorem sorted_insertField {name : String} {v : Json} {fields : List (String × Json)}
    (sorted : fields.Pairwise (·.1 < ·.1)) :
    (insertField name v fields).Pairwise (·.1 < ·.1) := by
  induction fields with
  | nil => exact List.pairwise_singleton _ _
  | cons field rest ih =>
    obtain ⟨n, w⟩ := field
    obtain ⟨above, tail⟩ := List.pairwise_cons.mp sorted
    rw [insertField]
    split
    · rename_i same
      exact List.pairwise_cons.mpr ⟨same ▸ above, tail⟩
    · rename_i differs
      split
      · rename_i before
        refine List.pairwise_cons.mpr ⟨fun field held => ?_, sorted⟩
        rcases List.mem_cons.mp held with rfl | held
        · exact before
        · exact String.lt_trans before (above field held)
      · rename_i behind
        have after : n < name := by
          rcases Std.lt_trichotomy name n with before | same | after
          · exact absurd before behind
          · exact absurd same differs
          · exact after
        refine List.pairwise_cons.mpr ⟨fun field held => ?_, ih tail⟩
        rcases mem_of_insertField held with rfl | held
        · exact after
        · exact above field held

theorem orderly_ofFields {given : List (String × Json)}
    (inside : ∀ field ∈ given, Orderly field.2) : (ofFields given).Orderly := by
  have sorted : ∀ front : List (String × Json), front.Pairwise (·.1 < ·.1) →
      (given.foldl (fun sorted field => insertField field.1 field.2 sorted) front).Pairwise
        (·.1 < ·.1) := by
    clear inside
    induction given with
    | nil => exact fun front sorted => sorted
    | cons field rest ih => exact fun front sorted => ih _ (sorted_insertField sorted)
  exact .object (sorted [] .nil) fun field held => inside field (mem_of_ofFields rfl held)

theorem orderly_ofInt64 (i : Int64) : (Json.ofInt64 i).Orderly := by
  unfold ofInt64
  split
  · exact .number nofun
  · rename_i below
    refine .number fun j same => ?_
    cases same
    exact Int64.not_le.mp below

theorem floatFree_ofInt64 (i : Int64) : (Json.ofInt64 i).FloatFree := by
  unfold ofInt64
  split
  · exact .natural _
  · exact .negative _

/-! Numbers with a point or an exponent are floating-point numbers. -/

section

variable {negative : Bool} {bs rest : Bytes} {n : Number}

theorem finish_float {significand : Nat} {exponent : Int}
    (found : finish negative significand exponent bs = .ok (n, rest)) : ∃ x, n = .float x := by
  unfold finish at found
  split at found
  · cases found
    exact ⟨_, rfl⟩
  · cases found

theorem readExponent_float {significand : Nat} {start : Int}
    (found : readExponent negative significand start bs = .ok (n, rest)) : ∃ x, n = .float x := by
  unfold readExponent at found
  split at found
  · cases found
  · split at found
    · unfold readExponentDigits at found
      simp only at found
      split at found
      · split at found
        · cases found
        · cases found
          exact ⟨_, rfl⟩
      · exact finish_float found
    · cases found

theorem readScale_float {significand : Nat} {exponent : Int}
    (found : readScale negative significand exponent bs = .ok (n, rest)) : ∃ x, n = .float x := by
  unfold readScale at found
  split at found
  · exact readExponent_float found
  · exact readExponent_float found
  · exact finish_float found

theorem readFraction_float {significand : Nat} {exponent : Int}
    (found : readFraction negative significand exponent bs = .ok (n, rest)) :
    ∃ x, n = .float x := by
  unfold readFraction at found
  simp only at found
  split at found
  · exact readScale_float found
  · split at found
    · split at found <;> cases found
    · exact readScale_float found

theorem Number.signed_of_float (float : ∃ x, n = .float x) : n.Signed := by
  obtain ⟨x, rfl⟩ := float
  intro i same
  cases same

theorem wholeNumber_signed {significand dropped : Nat}
    (found : wholeNumber negative significand dropped bs = .ok (n, rest)) : n.Signed := by
  unfold wholeNumber at found
  split at found
  · exact Number.signed_of_float (finish_float found)
  · split at found
    · cases found
      intro i same
      cases same
    · split at found
      · cases found
        exact Number.signed_of_float ⟨_, rfl⟩
      · rename_i bounds
        cases found
        intro i same
        cases same
        rw [Int64.lt_iff_toInt_lt, Int64.toInt_ofInt_of_le (by omega) (by omega)]
        show -(significand : Int) < 0
        omega

theorem readNumber_signed (found : readNumber negative bs = .ok (n, rest)) : n.Signed := by
  have tail : ∀ {significand dropped : Nat} {bs : Bytes},
      readTail negative significand dropped bs = .ok (n, rest) → n.Signed := by
    intro significand dropped bs found
    unfold readTail at found
    split at found
    · exact Number.signed_of_float (readFraction_float found)
    · exact Number.signed_of_float (readExponent_float found)
    · exact Number.signed_of_float (readExponent_float found)
    · exact wholeNumber_signed found
  unfold readNumber at found
  split at found
  · cases found
  · split at found
    · split at found
      · cases found
      · exact tail found
    · split at found
      · exact tail found
      · cases found

end

/-! Whatever is read is in order. -/

section

variable {read : Reader Json} {fuel : Nat} {bs rest : Bytes} {v : Json}

theorem readArray_orderly (all : ∀ bs v rest, read bs = .ok (v, rest) → Orderly v)
    (found : readArray fuel read bs = .ok (v, rest)) : v.Orderly := by
  unfold readArray at found
  split at found
  · cases found
  · cases found
    exact .array (by simp)
  · obtain ⟨⟨vs, left⟩, inner, found⟩ := ok_of_bind found
    cases found
    exact .array (readItems_all all inner)

theorem readObject_orderly (all : ∀ bs v rest, read bs = .ok (v, rest) → Orderly v)
    (found : readObject fuel read bs = .ok (v, rest)) : v.Orderly := by
  unfold readObject at found
  split at found
  · cases found
  · cases found
    exact .object .nil (by simp)
  · obtain ⟨⟨fields, left⟩, inner, found⟩ := ok_of_bind found
    cases found
    exact orderly_ofFields (readFields_all all inner)
  · cases found

theorem readStarted_orderly {inside : Option (Reader Json)}
    (all : ∀ read, inside = some read → ∀ bs v rest, read bs = .ok (v, rest) → Orderly v)
    {b : UInt8} (found : readStarted fuel inside b bs = .ok (v, rest)) : v.Orderly := by
  unfold readStarted at found
  split at found
  · exact readWord_value found ▸ .null
  · exact readWord_value found ▸ .bool true
  · exact readWord_value found ▸ .bool false
  · obtain ⟨_, _, found⟩ := ok_of_bind found
    cases found
    exact .string _
  · obtain ⟨_, number, found⟩ := ok_of_bind found
    cases found
    exact .number (readNumber_signed number)
  · split at found
    · exact readArray_orderly (all _ rfl) found
    · cases found
  · split at found
    · exact readObject_orderly (all _ rfl) found
    · cases found
  · split at found
    · obtain ⟨_, number, found⟩ := ok_of_bind found
      cases found
      exact .number (readNumber_signed number)
    · cases found

theorem readValue_orderly {levels : Nat} (found : readValue fuel levels bs = .ok (v, rest)) :
    v.Orderly := by
  induction levels generalizing bs rest v with
  | zero =>
    rw [readValue] at found
    split at found
    · cases found
    · exact readStarted_orderly (fun _ none => by cases none) found
  | succ levels ih =>
    rw [readValue] at found
    split at found
    · cases found
    · refine readStarted_orderly (fun read same bs v rest inner => ?_) found
      cases same
      exact ih inner

end

theorem orderly_of_decode {bs : Bytes} {v : Json} (found : decode bs = .ok v) : v.Orderly := by
  obtain ⟨rest, read⟩ := readValue_of_decode found
  exact readValue_orderly read

end Json
end ClusterWire
