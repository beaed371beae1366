import ClusterWire.Registry

/-! Registries as they come about: from an empty one, by registrations that were
not refused. -/
namespace ClusterWire
namespace Registry

variable {H : Type}

inductive Built : Registry H → Prop where
  | empty : Built .empty
  | declare {r s : Registry H} (before : Built r) (d : Descriptor) (taken : r.declare d = .ok s) :
      Built s
  | bind {r s : Registry H} (before : Built r) (d : Descriptor) (h : H) (taken : r.bind d h = .ok s) :
      Built s
  | route {r s : Registry H} (before : Built r) (d : Descriptor) (responseType : String) (h : H)
      (taken : r.route d responseType h = .ok s) : Built s
  | expect {r : Registry H} (before : Built r) (protocol : ProtocolId) (type : String) :
      Built (r.expect protocol type)

theorem bound_of_declare {r s : Registry H} {d : Descriptor} (taken : r.declare d = .ok s) :
    s.bound = r.bound := by
  unfold declare at taken
  split at taken
  · cases taken
  · split at taken
    · cases taken
    · cases taken
      rfl

theorem bound_of_bind {r s : Registry H} {d : Descriptor} {h : H} (taken : r.bind d h = .ok s) :
    d.protocol.isReserved = false ∧ s.bound = insert d h r.bound := by
  unfold bind at taken
  split at taken
  · cases taken
  · rename_i free
    split at taken
    · cases taken
    · cases taken
      exact ⟨by simpa using free, rfl⟩

theorem not_reserved_of_bind {r s : Registry H} {d : Descriptor} {h : H}
    (free : ∀ entry ∈ r.bound, entry.1.protocol.isReserved = false) (taken : r.bind d h = .ok s) :
    ∀ entry ∈ s.bound, entry.1.protocol.isReserved = false := by
  obtain ⟨new, bound⟩ := bound_of_bind taken
  intro entry held
  rw [bound] at held
  rcases mem_insert.mp held with rfl | old
  · exact new
  · exact free entry old

/-- No handler is ever bound in the module of the transport. -/
theorem Built.not_reserved {r : Registry H} (built : Built r) :
    ∀ entry ∈ r.bound, entry.1.protocol.isReserved = false := by
  induction built with
  | empty =>
    intro entry held
    cases held
  | declare before d taken ih =>
    rw [bound_of_declare taken]
    exact ih
  | bind before d h taken ih => exact not_reserved_of_bind ih taken
  | route before d responseType h taken ih =>
    unfold Registry.route at taken
    split at taken
    · exact not_reserved_of_bind ih taken
    · exact not_reserved_of_bind ih taken
  | expect before protocol type ih => exact ih

theorem protocol_of_handler? {r : Registry H} {protocol : ProtocolId} {d : Descriptor} {h : H}
    (found : r.handler? protocol = some (d, h)) : d.protocol = protocol := by
  simpa using List.find?_some found

theorem Built.handled_not_reserved {r : Registry H} (built : Built r) {protocol : ProtocolId}
    {d : Descriptor} {h : H} (found : r.handler? protocol = some (d, h)) :
    protocol.isReserved = false := by
  rw [← protocol_of_handler? found]
  exact built.not_reserved (d, h) (List.mem_of_find?_eq_some found)

end Registry
end ClusterWire
