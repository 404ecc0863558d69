import BlobDispatch.Host.Registry

/-! Registries that come about by registering: no two of their triggers have names that differ in
ASCII case only. -/

namespace BlobDispatch.Registry

/-- The registries that registering triggers leads to. -/
inductive Built : Registry → Prop
  | new (settings : Host.Settings) : Built (.new settings)
  | register {r next : Registry} {t : Trigger} (built : Built r)
      (done : r.register t = .ok next) : Built next

theorem register_eq_ok_iff {r next : Registry} {t : Trigger} : r.register t = .ok next ↔
    r.get? t.name = none ∧ next = { r with triggers := r.triggers ++ [t] } := by
  unfold register
  cases taken : r.get? t.name with
  | none => simp [eq_comm (a := next)]
  | some other => simp

theorem Built.apart {r : Registry} (built : r.Built) :
    r.triggers.Pairwise fun a b => Text.sameAsciiFold a.name b.name = false := by
  induction built with
  | new settings => exact .nil
  | @register r next t built done ih =>
    obtain ⟨free, rfl⟩ := register_eq_ok_iff.1 done
    refine List.pairwise_append.2 ⟨ih, List.pairwise_singleton _ _, ?_⟩
    intro earlier member other here
    rw [List.mem_singleton.1 here]
    simpa using List.find?_eq_none.1 free earlier member

theorem Built.names_distinct {r : Registry} (built : r.Built) :
    r.triggers.Pairwise fun a b => a.name ≠ b.name := by
  refine built.apart.imp ?_
  intro a b apart same
  rw [same] at apart
  simp [Text.sameAsciiFold] at apart

end BlobDispatch.Registry
