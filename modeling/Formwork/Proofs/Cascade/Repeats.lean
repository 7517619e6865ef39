import Formwork.Proofs.Cascade.Run
import Mathlib.Data.List.Nodup
import Mathlib.Data.List.Perm.Subperm

namespace Formwork.Cascade

variable {fields : List Field} {origin : String} {cleared : List String} {values reference : Bag}
  {ps : List (List Field)}

theorem candidates_sublist (fields : List Field) (origin : String) (cleared : List String)
    (values reference : Bag) :
    (candidates fields origin
        (cleared ++ (due fields origin cleared values reference).map Field.name)).Sublist
      ((candidates fields origin cleared).filter fun f ↦ !f.isDue values reference) := by
  have hgone : ∀ f ∈ candidates fields origin cleared, f.isDue values reference →
      f.name ∈ (due fields origin cleared values reference).map Field.name := by
    intro f hf hdue
    exact List.mem_map_of_mem (List.mem_filter.2 ⟨hf, hdue⟩)
  have hfilter :
      candidates fields origin
          (cleared ++ (due fields origin cleared values reference).map Field.name) =
        ((candidates fields origin cleared).filter fun f ↦ !f.isDue values reference).filter fun f ↦
          !((due fields origin cleared values reference).map Field.name).contains f.name := by
    rw [candidates_append, List.filter_filter]
    refine List.filter_congr fun f hf ↦ ?_
    cases hdue : f.isDue values reference with
    | false => rw [Bool.not_false, Bool.and_true]
    | true => rw [List.contains_iff_mem.2 (hgone f hf hdue), Bool.not_true, Bool.false_and]
  rw [hfilter]
  exact List.filter_sublist

namespace Run

theorem subperm_candidates (h : Run fields origin cleared values reference ps) :
    ps.flatten.Subperm (candidates fields origin cleared) := by
  induction h with
  | stop _ => exact List.nil_subperm
  | @pass cleared values reference pass rest hd _ _ ih =>
    -- What is due is drawn now, and what is drawn later is among what was not due.
    have hrest :=
      ih.trans (hd ▸ (candidates_sublist fields origin cleared values reference).subperm)
    have hsplit :=
      List.filter_append_perm (fun f ↦ f.isDue values reference) (candidates fields origin cleared)
    rw [List.flatten_cons, ← hd]
    exact ((List.Subperm.refl _).append hrest).trans hsplit.subperm

theorem subperm_fields (h : Run fields origin cleared values reference ps) :
    ps.flatten.Subperm fields :=
  h.subperm_candidates.trans List.filter_sublist.subperm

theorem subperm_names (h : Run fields origin cleared values reference ps) :
    (ps.flatten.map Field.name).Subperm (fields.map Field.name) := by
  obtain ⟨drawn, hdrawn, hfields⟩ := h.subperm_fields
  exact ⟨drawn.map Field.name, hdrawn.map _, hfields.map _⟩

theorem pairwise_disjoint (h : Run fields origin cleared values reference ps) :
    (ps.map (List.map Field.name)).Pairwise List.Disjoint := by
  induction h with
  | stop _ => exact .nil
  | pass _ _ hr ih =>
    refine List.pairwise_cons.2 ⟨fun names hn k hk hk' ↦ ?_, ih⟩
    obtain ⟨later, hl, rfl⟩ := List.mem_map.1 hn
    obtain ⟨f, hf, rfl⟩ := List.mem_map.1 hk'
    have hnew := (hr.mem_flatten (List.mem_flatten_of_mem hl hf)).2.2
    exact hnew (List.mem_append_right _ hk)

theorem nodup_names_iff (h : Run fields origin cleared values reference ps) :
    (ps.flatten.map Field.name).Nodup ↔ ∀ pass ∈ ps, (pass.map Field.name).Nodup := by
  rw [List.map_flatten, List.nodup_flatten, and_iff_left h.pairwise_disjoint, List.forall_mem_map]

end Run

end Formwork.Cascade
