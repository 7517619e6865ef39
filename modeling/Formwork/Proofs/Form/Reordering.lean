import Formwork.Proofs.Cascade.Run
import Mathlib.Data.List.Nodup

namespace Formwork

theorem Record.insertAll_eq_of_perm {es fs : List (String × Json)} (h : es.Perm fs)
    (hd : (es.map Prod.fst).Nodup) (r : Record) : r.insertAll es = r.insertAll fs := by
  refine h.foldl_eq' (fun e he e' he' b ↦ ?_) r
  by_cases hk : e.1 = e'.1
  · rw [List.inj_on_of_nodup_map hd he he' hk]
  · exact insert_comm b e.2 e'.2 hk

namespace Form

variable {form form' : Form} {f g : Field}

theorem eq_of_name_eq (hd : form.fieldNames.Nodup) (hf : f ∈ form.fields) (hg : g ∈ form.fields)
    (h : g.name = f.name) : g = f :=
  List.inj_on_of_nodup_map hd hg hf h

theorem field?_some {name : String} (h : form.field? name = some f) :
    f ∈ form.fields ∧ f.name = name := by
  rw [field?] at h
  have hn := List.find?_some h
  exact ⟨List.mem_of_find?_eq_some h, beq_iff_eq.1 hn⟩

theorem field?_eq_some_iff {name : String} (hd : form.fieldNames.Nodup) :
    form.field? name = some f ↔ f ∈ form.fields ∧ f.name = name := by
  refine ⟨field?_some, ?_⟩
  rintro ⟨hf, rfl⟩
  have hfound : (form.field? f.name).isSome := List.find?_isSome.2 ⟨f, hf, beq_self_eq_true f.name⟩
  obtain ⟨g, hg⟩ := Option.isSome_iff_exists.1 hfound
  obtain ⟨hm, hn⟩ := field?_some hg
  rw [hg, eq_of_name_eq hd hf hm hn]

theorem findSome?_of_nodup {α : Type} (hd : form.fieldNames.Nodup) (hf : f ∈ form.fields)
    (answer : Field → Option α) :
    (form.fields.filter (·.name == f.name)).findSome? answer = answer f := by
  have hm : f ∈ form.fields.filter (·.name == f.name) :=
    List.mem_filter.2 ⟨hf, beq_self_eq_true f.name⟩
  have he : ∀ g ∈ form.fields.filter (·.name == f.name), g = f := by
    intro g hg
    obtain ⟨hgf, hgn⟩ := List.mem_filter.1 hg
    exact eq_of_name_eq hd hf hgf (beq_iff_eq.1 hgn)
  rw [List.eq_replicate_of_mem he]
  exact List.findSome?_replicate_of_pos (List.length_pos_of_mem hm)

theorem field?_eq_of_perm (h : form.fields.Perm form'.fields) (hd : form.fieldNames.Nodup)
    (name : String) :
    form.field? name = form'.field? name := by
  have hd' : form'.fieldNames.Nodup := (h.map Field.name).nodup_iff.1 hd
  ext f
  rw [field?_eq_some_iff hd, field?_eq_some_iff hd', h.mem_iff]

theorem initialBag_eq_of_perm (h : form.fields.Perm form'.fields) (hd : form.fieldNames.Nodup) :
    form.initialBag = form'.initialBag := by
  refine Record.insertAll_eq_of_perm (h.map _) ?_ .empty
  rwa [List.map_map]

end Form

namespace Cascade

variable {fields fields' fs gs : List Field} {origin : String} {cleared cleared' : List String}
  {values reference : Bag} {ps : List (List Field)}

theorem clearAll_eq_of_perm (h : fs.Perm gs) (hd : (fs.map Field.name).Nodup) (b : Bag) :
    clearAll b fs = clearAll b gs := by
  have hall (fs : List Field) : clearAll b fs =
      b.insertAll (fs.map fun f ↦ (f.name, f.blankValue)) := by
    rw [Record.insertAll, List.foldl_map]
    rfl
  rw [hall, hall]
  refine Record.insertAll_eq_of_perm (h.map _) ?_ b
  rwa [List.map_map]

theorem due_perm (h : fields.Perm fields') (hc : cleared.Perm cleared') (values reference : Bag) :
    (due fields origin cleared values reference).Perm
      (due fields' origin cleared' values reference) := by
  have hsame : (fun f : Field ↦ f.name != origin && !cleared.contains f.name) =
      fun f ↦ f.name != origin && !cleared'.contains f.name := by
    funext f
    simp only [List.contains_eq_mem, hc.mem_iff]
  simp only [due, candidates, hsame]
  exact (h.filter _).filter _

theorem nodup_due (hd : (fields.map Field.name).Nodup) :
    ((due fields origin cleared values reference).map Field.name).Nodup :=
  hd.sublist ((List.filter_sublist.trans List.filter_sublist).map Field.name)

/-- The passes of a cascade are the same up to the order within each of them. -/
theorem Run.exists_perm (h : Run fields origin cleared values reference ps)
    (hp : fields.Perm fields') (hd : (fields.map Field.name).Nodup) (hc : cleared.Perm cleared') :
    ∃ qs, Run fields' origin cleared' values reference qs ∧ ps.flatten.Perm qs.flatten ∧
      clearAll values ps.flatten = clearAll values qs.flatten := by
  induction h generalizing cleared' with
  | @stop cleared values reference hdue =>
    have hdue' : due fields' origin cleared' values reference = [] :=
      List.perm_nil.1 (hdue ▸ (due_perm hp hc values reference).symm)
    exact ⟨[], .stop hdue', .refl _, rfl⟩
  | @pass cleared values reference pass rest hdue hne _ ih =>
    have hpass : pass.Perm (due fields' origin cleared' values reference) :=
      hdue ▸ due_perm hp hc values reference
    have hnodup : (pass.map Field.name).Nodup := hdue ▸ nodup_due hd
    have hsame := clearAll_eq_of_perm hpass hnodup values
    obtain ⟨qs, hrun, hperm, hclear⟩ := ih (hc.append (hpass.map Field.name))
    rw [hsame] at hrun hclear
    refine ⟨due fields' origin cleared' values reference :: qs, .pass rfl ?_ hrun,
      hpass.append hperm, ?_⟩
    · intro he
      exact hne (List.perm_nil.1 (he ▸ hpass))
    · rw [List.flatten_cons, List.flatten_cons, clearAll_append, clearAll_append, hsame, hclear]

end Cascade

end Formwork
