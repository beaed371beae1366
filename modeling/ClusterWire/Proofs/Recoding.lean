import ClusterWire.Proofs.Transcoding

/-! Bodies on their way from one serializer to the next. Whichever compressor a serializer has,
and at whichever level, a value is kept by it, on one hop and along any chain of serializers. -/
namespace ClusterWire

theorem Json.isNull_iff {v : Json} : v.isNull ↔ v = .null := by
  cases v <;> simp [Json.isNull]

theorem Json.encode_ne_nil {v : Json} (lawful : v.Lawful) : v.encode ≠ [] := by
  obtain ⟨b, bs, text, _⟩ := Json.encode_head lawful
  rw [text]
  exact List.cons_ne_nil b bs

namespace Serializer

/-- A body that is moved from one serializer to the next. -/
def relay : Serializer → List Serializer → Bytes → Except CodecFault Bytes
  | _, [], body => .ok body
  | source, target :: further, body => (source.transcode target body).bind (relay target further)

/-- No compressor writes nothing, so the null value alone has an empty body. -/
theorem encode_eq_nil_iff (z : Serializer) {v : Json} (lawful : v.Lawful) :
    z.encode v = [] ↔ v = .null := by
  unfold encode
  split
  · rename_i null
    exact iff_of_true rfl (Json.isNull_iff.mp null)
  · rename_i other
    have some : v ≠ .null := mt Json.isNull_iff.mpr other
    cases z with
    | json => exact iff_of_false (Json.encode_ne_nil lawful) some
    | deflate compressor level => exact iff_of_false (compressor.write_ne_nil level v.encode) some

theorem transcode_error_iff {source target : Serializer} (differ : source.type ≠ target.type)
    (body : Bytes) (fault : CodecFault) :
    source.transcode target body = .error fault ↔ source.decode body = .error fault := by
  rw [transcode, if_neg differ]
  cases source.decode body <;> simp [Except.map]

theorem relay_decodes {source : Serializer} (targets : List Serializer) {body : Bytes} {v : Json}
    (lawful : v.Lawful) (found : source.decode body = .ok v) :
    ∃ moved, source.relay targets body = .ok moved ∧
      (targets.getLastD source).decode moved = .ok v := by
  induction targets generalizing source body with
  | nil => exact ⟨body, rfl, found⟩
  | cons target further ih =>
    obtain ⟨between, moves, kept⟩ := transcode_decodes target lawful found
    obtain ⟨moved, relayed, read⟩ := ih kept
    refine ⟨moved, ?_, ?_⟩
    · rw [relay, moves]
      exact relayed
    · rw [List.getLastD_cons]
      exact read

/-- A serializer brings every portable value over, and every body that it reads as one comes over
to other serializers. -/
structure KeepsValues (z : Serializer) : Prop where
  reads : ∀ v : Json, v.Portable → z.decode (z.encode v) = .ok v
  empty : ∀ v : Json, v.Portable → (z.encode v = [] ↔ v = .null)
  moves : ∀ (target : Serializer) (body : Bytes) (v : Json), v.FloatFree →
    z.decode body = .ok v →
      ∃ moved, z.transcode target body = .ok moved ∧ target.decode moved = .ok v
  relays : ∀ (targets : List Serializer) (body : Bytes) (v : Json), v.FloatFree →
    z.decode body = .ok v →
      ∃ moved, z.relay targets body = .ok moved ∧ (targets.getLastD z).decode moved = .ok v
  stays : ∀ (target : Serializer) (body : Bytes), z.type = target.type →
    z.transcode target body = .ok body
  fails : ∀ (target : Serializer) (body : Bytes) (fault : CodecFault), z.type ≠ target.type →
    (z.transcode target body = .error fault ↔ z.decode body = .error fault)

theorem keeps_values (z : Serializer) : KeepsValues z where
  reads _ portable := (z.decode_encode portable.lawful).mpr portable.nested
  empty _ portable := z.encode_eq_nil_iff portable.lawful
  moves target _ _ free found :=
    transcode_decodes target (free.lawful (orderly_of_decode found)) found
  relays targets _ _ free found :=
    relay_decodes targets (free.lawful (orderly_of_decode found)) found
  stays _ _ same := if_pos same
  fails _ body fault differ := transcode_error_iff differ body fault

/-- An order of seven potions without a remark. -/
def order : Json :=
  .object [("item", .string "potion"), ("pieces", .number (.natural 7)),
    ("remarks", .array [.null])]

theorem order_portable : order.Portable where
  free := by
    apply Json.FloatFree.object
    simp only [List.forall_mem_cons]
    exact ⟨.string _, .natural 7, .array (by simp [Json.FloatFree.null]), by simp⟩
  orderly := by
    apply Json.Orderly.object
    · decide
    · simp only [List.forall_mem_cons]
      exact ⟨.string _, .number (fun _ same => by cases same), .array (by simp [Json.Orderly.null]),
        by simp⟩
  nested := by
    apply Json.Nested.object
    simp only [List.forall_mem_cons]
    exact ⟨.string _ _, .number _ _, .array (by simp [Json.Nested.null]), by simp⟩

/-- The order as text and packed, packed from its text, and unpacked and packed again from that. -/
theorem keeps_values_order :
    json.decode (json.encode order) = .ok order ∧
    (deflateAt 6).decode ((deflateAt 6).encode order) = .ok order ∧
    ∃ packed, json.transcode (deflateAt 6) (json.encode order) = .ok packed ∧
      (deflateAt 6).decode packed = .ok order ∧
      ∃ back, (deflateAt 6).relay [json, deflateAt 1] packed = .ok back ∧
        (deflateAt 1).decode back = .ok order := by
  have plain := (keeps_values json).reads order order_portable
  have tight := (keeps_values (deflateAt 6)).reads order order_portable
  obtain ⟨packed, moved, read⟩ :=
    (keeps_values json).moves (deflateAt 6) _ order order_portable.free plain
  obtain ⟨back, relayed, again⟩ :=
    (keeps_values (deflateAt 6)).relays [json, deflateAt 1] packed order order_portable.free read
  exact ⟨plain, tight, packed, moved, read, back, relayed, again⟩

end Serializer
end ClusterWire
