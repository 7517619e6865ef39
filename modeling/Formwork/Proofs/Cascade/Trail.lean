import Formwork.Proofs.Cascade.Run

namespace Formwork.Cascade

/-- The bag before the change, the one that the cascade starts with, and the one behind each
pass. -/
def trail (values reference : Bag) : List (List Field) → List Bag
  | [] => [reference, values]
  | pass :: rest => reference :: trail (clearAll values pass) values rest

variable {fields : List Field} {origin : String} {cleared : List String}
  {values reference a b : Bag} {ps : List (List Field)} {f : Field}

theorem exists_trail_eq (values reference : Bag) (ps : List (List Field)) :
    ∃ rest, trail values reference ps = reference :: values :: rest := by
  cases ps with
  | nil => exact ⟨[], rfl⟩
  | cons pass ps =>
    cases ps with
    | nil => exact ⟨[clearAll values pass], rfl⟩
    | cons next ps => exact ⟨_, rfl⟩

theorem adjacent_trail_cons {pass : List Field} {rest : List (List Field)}
    (h : [a, b] <:+: trail values reference (pass :: rest)) :
    (a = reference ∧ b = values) ∨ [a, b] <:+: trail (clearAll values pass) values rest := by
  rw [trail, List.infix_cons_iff] at h
  refine h.imp_left fun h ↦ ?_
  obtain ⟨tail, ht⟩ := exists_trail_eq (clearAll values pass) values rest
  rw [ht, List.cons_prefix_cons, List.cons_prefix_cons] at h
  exact ⟨h.1, h.2.1⟩

theorem adjacent_trail_nil (h : [a, b] <:+: trail values reference []) :
    a = reference ∧ b = values := by
  have he := h.eq_of_length rfl
  rw [trail, List.cons.injEq, List.cons.injEq] at he
  exact ⟨he.1, he.2.1⟩

theorem adjacent_trail_first (values reference : Bag) (ps : List (List Field)) :
    [reference, values] <:+: trail values reference ps := by
  obtain ⟨rest, h⟩ := exists_trail_eq values reference ps
  exact h ▸ ⟨[], rest, rfl⟩

theorem getLast?_trail (values reference : Bag) (ps : List (List Field)) :
    (trail values reference ps).getLast? = some (clearAll values ps.flatten) := by
  induction ps generalizing values reference with
  | nil => rfl
  | cons pass rest ih =>
    rw [trail, List.getLast?_cons, ih, List.flatten_cons, clearAll_append, Option.getD_some]

theorem get?_of_adjacent (h : [a, b] <:+: trail values reference ps) {k : String}
    (hk : k ∉ ps.flatten.map Field.name) : b.get? k = values.get? k := by
  induction ps generalizing values reference with
  | nil => rw [(adjacent_trail_nil h).2]
  | cons pass rest ih =>
    rw [List.flatten_cons, List.map_append, List.mem_append, not_or] at hk
    rcases adjacent_trail_cons h with ⟨_, rfl⟩ | h
    · rfl
    · rw [ih h hk.2, get?_clearAll_of_notMem hk.1]

namespace Run

theorem isDue_eq_false (h : Run fields origin cleared values reference ps)
    (hab : [a, b] <:+: trail values reference ps) (hf : f ∈ fields) (hn : f.name ≠ origin)
    (hc : f.name ∉ cleared) (hp : f.name ∉ ps.flatten.map Field.name) : f.isDue b a = false := by
  induction h with
  | stop hd =>
    obtain ⟨rfl, rfl⟩ := adjacent_trail_nil hab
    refine Bool.eq_false_iff.2 fun hdue ↦ ?_
    exact absurd (mem_due.2 ⟨⟨hf, hn, hc⟩, hdue⟩) (hd ▸ List.not_mem_nil)
  | pass hd _ _ ih =>
    rw [List.flatten_cons, List.map_append, List.mem_append, not_or] at hp
    rcases adjacent_trail_cons hab with ⟨rfl, rfl⟩ | hab
    · refine Bool.eq_false_iff.2 fun hdue ↦ hp.1 ?_
      exact List.mem_map_of_mem (hd ▸ mem_due.2 ⟨⟨hf, hn, hc⟩, hdue⟩)
    · exact ih hab (fun h ↦ (List.mem_append.1 h).elim hc hp.1) hp.2

theorem exists_isDue (h : Run fields origin cleared values reference ps) (hf : f ∈ ps.flatten) :
    ∃ a b, [a, b] <:+: trail values reference ps ∧ f.isDue b a := by
  induction h with
  | stop _ => cases hf
  | @pass cleared values reference pass rest hd _ _ ih =>
    rw [List.flatten_cons, List.mem_append] at hf
    rcases hf with hf | hf
    · exact ⟨reference, values, adjacent_trail_first values reference _, (mem_due.1 (hd ▸ hf)).2⟩
    · obtain ⟨a, b, hab, hdue⟩ := ih hf
      exact ⟨a, b, List.infix_cons hab, hdue⟩

end Run

end Formwork.Cascade
