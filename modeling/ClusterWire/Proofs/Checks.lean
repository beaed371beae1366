/-! Checks that are made one after another and stop at the first fault. -/
namespace ClusterWire.Checks

variable {α ε : Type} {check : α → Except ε Unit}

theorem bind_eq_ok_iff {first : Except ε Unit} {next : Unit → Except ε Unit} :
    first >>= next = .ok () ↔ first = .ok () ∧ next () = .ok () := by
  cases first <;> simp [bind, Except.bind]

theorem forM_cons (x : α) (rest : List α) :
    (x :: rest).forM check = (check x >>= fun _ => rest.forM check) := rfl

theorem forM_eq_ok_iff {xs : List α} : xs.forM check = .ok () ↔ ∀ x ∈ xs, check x = .ok () := by
  induction xs with
  | nil => simp [pure, Except.pure]
  | cons x rest ih =>
    rw [forM_cons, List.forall_mem_cons, ← ih]
    cases check x <;> simp [bind, Except.bind]

theorem forM_eq_error_iff {xs : List α} {fault : ε} :
    xs.forM check = .error fault ↔ ∃ front x back, xs = front ++ x :: back ∧
      (∀ y ∈ front, check y = .ok ()) ∧ check x = .error fault := by
  constructor
  · intro failed
    induction xs with
    | nil => cases failed
    | cons x rest ih =>
      rw [forM_cons] at failed
      cases checked : check x with
      | error found =>
        rw [checked] at failed
        cases failed
        exact ⟨[], x, rest, rfl, (fun _ held => nomatch held), checked⟩
      | ok u =>
        rw [checked] at failed
        obtain ⟨front, y, back, rfl, passed, refused⟩ := ih failed
        refine ⟨x :: front, y, back, rfl, fun z held => ?_, refused⟩
        rcases List.mem_cons.mp held with rfl | held
        · exact checked
        · exact passed z held
  · rintro ⟨front, x, back, rfl, passed, refused⟩
    induction front with
    | nil =>
      rw [List.nil_append, forM_cons, refused]
      rfl
    | cons y front ih =>
      obtain ⟨first, rest⟩ := List.forall_mem_cons.mp passed
      rw [List.cons_append, forM_cons, first]
      exact ih rest

/-- What passes may be left out. -/
theorem forM_filter {xs : List α} {keeps : α → Bool}
    (passed : ∀ x ∈ xs, keeps x = false → check x = .ok ()) :
    (xs.filter keeps).forM check = xs.forM check := by
  induction xs with
  | nil => rfl
  | cons x rest ih =>
    obtain ⟨first, others⟩ := List.forall_mem_cons.mp passed
    rw [List.filter_cons, forM_cons]
    split
    · rw [forM_cons, ih others]
    · rename_i left
      rw [first (Bool.not_eq_true _ ▸ left), ih others]
      rfl

end ClusterWire.Checks
