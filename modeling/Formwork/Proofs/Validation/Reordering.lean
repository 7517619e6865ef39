import Formwork.Proofs.Validation.Complaints
import Mathlib.Data.List.Nodup

namespace Formwork

namespace Complaints

variable {es fs : Complaints}

theorem put_perm_cons (hd : (es.map Prod.fst).Nodup) (name message : String) :
    (put es name message).Perm ((name, message) :: es.filter fun e ↦ e.1 != name) := by
  induction es with
  | nil => exact .refl _
  | cons e rest ih =>
    obtain ⟨k, m⟩ := e
    simp only [List.map_cons, List.nodup_cons] at hd
    rw [put]
    by_cases hk : k = name
    · subst hk
      have hother : rest.filter (fun e ↦ e.1 != k) = rest := by
        refine List.filter_eq_self.2 fun e he ↦ bne_iff_ne.2 fun heq ↦ hd.1 ?_
        exact heq ▸ List.mem_map_of_mem he
      simp [hother]
    · have hkeep : ((k, m) :: rest).filter (fun e ↦ e.1 != name) =
          (k, m) :: rest.filter fun e ↦ e.1 != name :=
        List.filter_cons_of_pos (bne_iff_ne.2 hk)
      rw [if_neg hk, hkeep]
      exact ((ih hd.2).cons (k, m)).trans (.swap _ _ _)

theorem nodup_put (hd : (es.map Prod.fst).Nodup) (name message : String) :
    ((put es name message).map Prod.fst).Nodup := by
  rw [((put_perm_cons hd name message).map Prod.fst).nodup_iff, List.map_cons, List.nodup_cons]
  refine ⟨fun hm ↦ ?_, hd.sublist (List.filter_sublist.map Prod.fst)⟩
  obtain ⟨e, he, heq⟩ := List.mem_map.1 hm
  exact bne_iff_ne.1 (List.mem_filter.1 he).2 heq

theorem put_perm (h : es.Perm fs) (hd : (es.map Prod.fst).Nodup) (name message : String) :
    (put es name message).Perm (put fs name message) := by
  have hd' : (fs.map Prod.fst).Nodup := (h.map Prod.fst).nodup_iff.1 hd
  have hsame : (fs.filter fun e ↦ e.1 != name).Perm (es.filter fun e ↦ e.1 != name) :=
    h.symm.filter _
  exact (put_perm_cons hd name message).trans
    ((hsame.cons (name, message)).symm.trans (put_perm_cons hd' name message).symm)

theorem overlay_perm (h : es.Perm fs) (hd : (es.map Prod.fst).Nodup) (other : Complaints) :
    (overlay es other).Perm (overlay fs other) := by
  induction other generalizing es fs with
  | nil => exact h
  | cons e rest ih => exact ih (put_perm h hd e.1 e.2) (nodup_put hd e.1 e.2)

theorem nodup_overlay (hd : (es.map Prod.fst).Nodup) (other : Complaints) :
    ((overlay es other).map Prod.fst).Nodup := by
  induction other generalizing es with
  | nil => exact hd
  | cons e rest ih => exact ih (nodup_put hd e.1 e.2)

theorem put_ne_nil (es : Complaints) (name message : String) : put es name message ≠ [] := by
  cases es with
  | nil => exact List.cons_ne_nil _ _
  | cons e rest =>
    rw [put]
    split <;> exact List.cons_ne_nil _ _

theorem overlay_eq_nil_iff {other : Complaints} : overlay es other = [] ↔ es = [] ∧ other = [] := by
  induction other generalizing es with
  | nil => exact (and_iff_left rfl).symm
  | cons e rest ih =>
    refine iff_of_false (fun h ↦ ?_) fun h ↦ List.cons_ne_nil _ _ h.2
    exact put_ne_nil es e.1 e.2 (ih.1 h).1

end Complaints

namespace FormChecks

variable {values : Bag} {named : List String}

theorem notMem_named_of_outstanding {fields : List FieldChecks} {e : String × String}
    (h : e ∈ outstanding values named fields) : e.1 ∉ named := by
  induction fields generalizing named with
  | nil => cases h
  | cons f rest ih =>
    by_cases hn : f.name ∈ named
    · rw [outstanding_of_mem hn] at h
      exact ih h
    · cases hv : f.validate (values.get? f.name) with
      | none =>
        rw [outstanding_of_none hn hv] at h
        exact ih h
      | some message =>
        rw [outstanding_of_some hn hv] at h
        rcases List.mem_cons.1 h with rfl | h
        · exact hn
        · exact fun hm ↦ ih h (List.mem_append_left _ hm)

theorem nodup_outstanding (values : Bag) (named : List String) (fields : List FieldChecks) :
    ((outstanding values named fields).map Prod.fst).Nodup := by
  induction fields generalizing named with
  | nil => exact .nil
  | cons f rest ih =>
    by_cases hn : f.name ∈ named
    · rw [outstanding_of_mem hn]
      exact ih named
    · cases hv : f.validate (values.get? f.name) with
      | none =>
        rw [outstanding_of_none hn hv]
        exact ih named
      | some message =>
        rw [outstanding_of_some hn hv, List.map_cons, List.nodup_cons]
        refine ⟨fun hm ↦ ?_, ih _⟩
        obtain ⟨e, he, heq⟩ := List.mem_map.1 hm
        exact notMem_named_of_outstanding he (List.mem_append_right _ (List.mem_singleton.2 heq))

theorem nodup_validate (w : FormChecks) (values : Bag) : ((w.validate values).map Prod.fst).Nodup :=
  validate_eq w values ▸ nodup_outstanding values [] w.fields

theorem outstanding_eq_filterMap {fields : List FieldChecks}
    (hd : (fields.map FieldChecks.name).Nodup) (hn : ∀ f ∈ fields, f.name ∉ named) :
    outstanding values named fields =
      fields.filterMap fun f ↦
        (f.validate (values.get? f.name)).map fun message ↦ (f.name, message) := by
  induction fields generalizing named with
  | nil => rfl
  | cons f rest ih =>
    simp only [List.map_cons, List.nodup_cons] at hd
    have hf := hn f (.head _)
    have hrest : ∀ g ∈ rest, g.name ∉ named := fun g hg ↦ hn g (.tail _ hg)
    cases hv : f.validate (values.get? f.name) with
    | none =>
      rw [outstanding_of_none hf hv, ih hd.2 hrest, List.filterMap_cons, hv, Option.map_none]
    | some message =>
      have hlater : ∀ g ∈ rest, g.name ∉ named ++ [f.name] := by
        intro g hg hm
        rcases List.mem_append.1 hm with hm | hm
        · exact hrest g hg hm
        · exact hd.1 (List.mem_singleton.1 hm ▸ List.mem_map_of_mem hg)
      rw [outstanding_of_some hf hv, ih hd.2 hlater, List.filterMap_cons, hv, Option.map_some]

theorem validate_perm {w w' : FormChecks} (h : w.fields.Perm w'.fields)
    (hd : (w.fields.map FieldChecks.name).Nodup)
    (values : Bag) : (w.validate values).Perm (w'.validate values) := by
  have hd' : (w'.fields.map FieldChecks.name).Nodup := (h.map FieldChecks.name).nodup_iff.1 hd
  rw [validate_eq, validate_eq, outstanding_eq_filterMap hd fun _ _ ↦ List.not_mem_nil,
    outstanding_eq_filterMap hd' fun _ _ ↦ List.not_mem_nil]
  exact h.filterMap _

end FormChecks

end Formwork
