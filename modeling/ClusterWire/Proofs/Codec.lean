import ClusterWire.Codec
import ClusterWire.ErrorCode
import ClusterWire.Proofs.Json.RoundTrip

/-! Bodies under a serializer: what is encoded is decoded again, and the body of
an error is read as that error. -/
namespace ClusterWire
namespace Serializer

theorem readJson_eq_ok {bs : Bytes} {v : Json} : readJson bs = .ok v ↔ Json.decode bs = .ok v := by
  rw [readJson]
  cases Json.decode bs with
  | ok w =>
    constructor
    · rintro ⟨⟩
      rfl
    · rintro ⟨⟩
      rfl
  | error fault =>
    constructor
    · rintro ⟨⟩
    · rintro ⟨⟩

/-- A body stands for the value it was made of just when the text of the value
does. -/
theorem decode_encode_iff (z : Serializer) (v : Json) :
    z.decode (z.encode v) = .ok v ↔ v = .null ∨ Json.decode v.encode = .ok v := by
  by_cases null : v = .null
  · subst null
    exact iff_of_true rfl (.inl rfl)
  · have other : v.isNull = false := by
      cases v <;> first | rfl | exact absurd rfl null
    rw [or_iff_right null, ← readJson_eq_ok]
    cases z with
    | json =>
      simp only [encode, other, decode, Bool.false_eq_true, if_false]
      split
      · rename_i empty
        rw [List.isEmpty_iff.mp empty]
        refine iff_of_false (fun same => null ?_) (fun same => by cases same)
        cases same
        rfl
      · rfl
    | deflate compressor level =>
      have some : (compressor.write level v.encode).isEmpty = false := by
        rw [List.isEmpty_eq_false_iff]
        exact compressor.write_ne_nil level _
      simp only [encode, other, decode, Bool.false_eq_true, if_false, some, compressor.inflates]

/-- A body stands for the value it was made of just when the value is nested no
deeper than readers go. -/
theorem decode_encode (z : Serializer) {v : Json} (lawful : v.Lawful) :
    z.decode (z.encode v) = .ok v ↔ v.Nested Json.maxDepth := by
  rw [decode_encode_iff, Json.decode_encode lawful]
  constructor
  · rintro (rfl | nested)
    · exact .null _
    · exact nested
  · exact .inr

theorem nested_of_decode {z : Serializer} {body : Bytes} {v : Json}
    (found : z.decode body = .ok v) : v.Nested Json.maxDepth := by
  unfold decode at found
  split at found
  · cases found
    exact .null _
  · split at found
    · exact Json.nested_of_decode (readJson_eq_ok.mp found)
    · split at found
      · exact Json.nested_of_decode (readJson_eq_ok.mp found)
      · cases found

end Serializer

namespace Json

theorem lawful_ofInt64 (i : Int64) : (Json.ofInt64 i).Lawful := by
  unfold ofInt64
  split
  · exact .number (readsBack_natural _)
  · rename_i below
    exact .number (readsBack_negative (Int64.not_le.mp below))

theorem nested_ofInt64 (levels : Nat) (i : Int64) : Nested levels (.ofInt64 i) := by
  unfold ofInt64
  split <;> exact .number levels _

theorem toNat_toUInt64 {i : Int64} (positive : 0 ≤ i) : (i.toUInt64.toNat : Int) = i.toInt := by
  have sign : 0 ≤ i.toInt := Int64.le_iff_toInt_le.mp positive
  have value : i.toInt = if 2 * i.toUInt64.toNat < 2 ^ 64 then (i.toUInt64.toNat : Int)
      else (i.toUInt64.toNat : Int) - (2 ^ 64 : Nat) := BitVec.toInt_eq_toNat_cond i.toBitVec
  have top := i.toUInt64.toNat_lt
  split at value
  · exact value.symm
  · omega

theorem integer_ofInt64 {name : String} {low high : Int} {i : Int64}
    (inside : low ≤ i.toInt ∧ i.toInt ≤ high) :
    Shape.integer name low high (.ofInt64 i) = .ok i.toInt := by
  unfold ofInt64
  split
  · rename_i positive
    simp only [Shape.integer, Shape.integer.within, toNat_toUInt64 positive, if_pos inside]
  · simp only [Shape.integer, Shape.integer.within, if_pos inside]

theorem int32_ofInt64 (i : Int32) : Shape.int32 (.ofInt64 i.toInt64) = .ok i := by
  have value : i.toInt64.toInt = i.toInt := Int32.toInt_toInt64 i
  have inside : Int32.minValue.toInt ≤ i.toInt ∧ i.toInt ≤ Int32.maxValue.toInt :=
    ⟨i.minValue_le_toInt, i.toInt_le⟩
  simp only [Shape.int32, integer_ofInt64 (value.symm ▸ inside), value, bind, Except.bind, pure,
    Except.pure, Int32.ofInt_toInt]

theorem int64_ofInt64 (i : Int64) : Shape.int64 (.ofInt64 i) = .ok i := by
  have inside : Int64.minValue.toInt ≤ i.toInt ∧ i.toInt ≤ Int64.maxValue.toInt :=
    ⟨i.minValue_le_toInt, i.toInt_le⟩
  simp only [Shape.int64, integer_ofInt64 inside, bind, Except.bind, pure, Except.pure,
    Int64.ofInt_toInt]

theorem list_ofList {α : Type} {item : Shape α} {f : α → Json} (reads : ∀ x, item (f x) = .ok x)
    (xs : List α) : Shape.list item (.ofList f xs) = .ok xs := by
  simp only [ofList, Shape.list]
  induction xs with
  | nil => rfl
  | cons x rest ih =>
    rw [List.map_cons, List.mapM_cons, reads, ih]
    rfl

end Json

namespace ErrorResponse

theorem toJson_eq (e : ErrorResponse) :
    e.toJson = .object [("code", .ofInt64 e.code.value.toInt64), ("message", .string e.message)] :=
  rfl

theorem lawful_toJson (e : ErrorResponse) : e.toJson.Lawful := by
  rw [toJson_eq]
  refine .object ?_ ?_
  · rw [List.pairwise_pair]
    change "code" < "message"
    decide
  · simp only [List.forall_mem_cons]
    exact ⟨Json.lawful_ofInt64 _, .string _, by simp⟩

theorem nested_toJson (e : ErrorResponse) : e.toJson.Nested Json.maxDepth := by
  rw [toJson_eq]
  apply Json.Nested.object
  simp only [List.forall_mem_cons]
  exact ⟨Json.nested_ofInt64 _ _, .string _ _, by simp⟩

theorem shape_toJson (e : ErrorResponse) : shape e.toJson = .ok e := by
  have code := Json.int32_ofInt64 e.code.value
  have differ : ("code" == "message") = false ∧ ("message" == "code") = false := ⟨rfl, rfl⟩
  rw [toJson_eq]
  generalize Json.ofInt64 e.code.value.toInt64 = v at code
  simp [shape, Json.Shape.record, Json.Shape.recordWith, Json.Shape.checkGiven,
    Json.Shape.complete, Json.Shape.Field.required, Json.Shape.text, code, differ, List.lookup_cons,
    bind, Except.bind, Except.map, pure, Except.pure]

theorem decodeAs_toJson (z : Serializer) (e : ErrorResponse) :
    z.decodeAs shape (z.encode e.toJson) = .ok e := by
  have body := (z.decode_encode (lawful_toJson e)).mpr (nested_toJson e)
  simp only [Serializer.decodeAs, body, bind, Except.bind, shape_toJson]
  rfl

end ErrorResponse
end ClusterWire
