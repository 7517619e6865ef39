import Formwork.Proofs.Record.Frame
import Formwork.Session.Cascade

namespace Formwork.Cascade

theorem clearAll_append (b : Bag) (fs gs : List Field) :
    clearAll b (fs ++ gs) = clearAll (clearAll b fs) gs :=
  List.foldl_append

theorem get?_clearAll_of_notMem {fields : List Field} {k : String} (h : k ∉ fields.map Field.name)
    (b : Bag) :
    (clearAll b fields).get? k = b.get? k := by
  induction fields generalizing b with
  | nil => rfl
  | cons f fields ih =>
    simp only [List.map_cons, List.mem_cons, not_or] at h
    exact (ih h.2 _).trans (Record.get?_insert_of_ne b _ h.1)

theorem exists_get?_clearAll {fields : List Field} {k : String} (h : k ∈ fields.map Field.name)
    (b : Bag) :
    ∃ f ∈ fields, f.name = k ∧ (clearAll b fields).get? k = some f.blankValue := by
  induction fields generalizing b with
  | nil => cases h
  | cons f fields ih =>
    by_cases hk : k ∈ fields.map Field.name
    · obtain ⟨g, hg, hn, hv⟩ := ih hk (b.insert f.name f.blankValue)
      exact ⟨g, List.mem_cons_of_mem _ hg, hn, hv⟩
    · obtain rfl : k = f.name := (List.mem_cons.1 h).resolve_right hk
      exact ⟨f, List.mem_cons_self, rfl,
        (get?_clearAll_of_notMem hk _).trans (Record.get?_insert_self b _ _)⟩

theorem get?_clearAll_congr {b b' : Bag} {k : String} (h : b.get? k = b'.get? k)
    (fields : List Field) :
    (clearAll b fields).get? k = (clearAll b' fields).get? k := by
  induction fields generalizing b b' with
  | nil => exact h
  | cons f fields ih =>
    refine ih ?_
    rw [Record.get?_insert, Record.get?_insert, h]

theorem mem_entries_clearAll {fields : List Field} {b : Bag} {e : String × Json}
    (h : e ∈ (clearAll b fields).entries) :
    (∃ f ∈ fields, e = (f.name, f.blankValue)) ∨ e ∈ b.entries := by
  induction fields generalizing b with
  | nil => exact .inr h
  | cons f fields ih =>
    rcases ih h with ⟨g, hg, he⟩ | h
    · exact .inl ⟨g, List.mem_cons_of_mem _ hg, he⟩
    · rcases Record.mem_entries_insert h with he | h
      · exact .inl ⟨f, List.mem_cons_self, he⟩
      · exact .inr h

def Covers (fields : List Field) (b : Bag) : Prop := ∀ f ∈ fields, b.contains f.name

theorem Covers.insert {fields : List Field} {b : Bag} (h : Covers fields b) (key : String)
    (value : Json) :
    Covers fields (b.insert key value) :=
  fun f hf ↦ by rw [Record.contains_insert, h f hf, Bool.or_true]

theorem contains_clearAll {b : Bag} {k : String} (h : b.contains k) (fields : List Field) :
    (clearAll b fields).contains k := by
  induction fields generalizing b with
  | nil => exact h
  | cons f fields ih => exact ih (by rw [Record.contains_insert, h, Bool.or_true])

theorem Covers.clearAll {fields : List Field} {b : Bag} (h : Covers fields b) (pass : List Field) :
    Covers fields (clearAll b pass) :=
  fun f hf ↦ contains_clearAll (h f hf) pass

/-- A field that is found to hold something by path holds it in the entry of its name. -/
theorem holdsNothing_get?_eq_false {f : Field} {b : Bag} (hc : b.contains f.name)
    (h : f.holdsNothing (b.resolve? f.name) = false) :
    f.holdsNothing (b.get? f.name) = false := by
  have hn : f.name ≠ "" := fun he ↦ by
    rw [he, Record.resolve?_empty] at h
    cases h
  exact Record.resolve?_of_contains hn hc ▸ h

theorem mem_due {fields : List Field} {origin : String} {cleared : List String}
    {values reference : Bag} {f : Field} :
    f ∈ due fields origin cleared values reference ↔
      (f ∈ fields ∧ f.name ≠ origin ∧ f.name ∉ cleared) ∧ f.isDue values reference := by
  simp only [due, candidates, List.mem_filter, Bool.and_eq_true, bne_iff_ne, Bool.not_eq_true',
    List.contains_eq_mem, decide_eq_false_iff_not]

/-- `Run fields origin cleared values reference passes`: a cascade that has cleared the names
`cleared` so far, holds `values` now and held `reference` one change ago goes on with `passes`. -/
inductive Run (fields : List Field) (origin : String) :
    List String → Bag → Bag → List (List Field) → Prop
  | stop {cleared : List String} {values reference : Bag} :
      due fields origin cleared values reference = [] →
      Run fields origin cleared values reference []
  | pass {cleared : List String} {values reference : Bag} {pass : List Field}
      {rest : List (List Field)} :
      due fields origin cleared values reference = pass → pass ≠ [] →
      Run fields origin (cleared ++ pass.map Field.name) (clearAll values pass) values rest →
      Run fields origin cleared values reference (pass :: rest)

variable {fields : List Field} {origin : String} {cleared : List String} {values reference : Bag}
  {ps : List (List Field)}

theorem run_passes (fields : List Field) (origin : String) (cleared : List String)
    (values reference : Bag) :
    Run fields origin cleared values reference (passes fields origin cleared values reference) := by
  fun_induction passes fields origin cleared values reference with
  | case1 cleared values reference h => exact .stop h
  | case2 cleared values reference f rest h ih => exact .pass h (List.cons_ne_nil _ _) ih

namespace Run

theorem unique {qs : List (List Field)} (h : Run fields origin cleared values reference ps)
    (h' : Run fields origin cleared values reference qs) : ps = qs := by
  induction h generalizing qs with
  | stop hd =>
    cases h' with
    | stop _ => rfl
    | pass hd' hne _ => exact absurd (hd'.symm.trans hd) hne
  | pass hd hne _ ih =>
    cases h' with
    | stop hd' => exact absurd (hd.symm.trans hd') hne
    | pass hd' _ hr =>
      obtain rfl := hd.symm.trans hd'
      rw [ih hr]

theorem eq_passes (h : Run fields origin cleared values reference ps) :
    ps = passes fields origin cleared values reference :=
  h.unique (run_passes fields origin cleared values reference)

theorem mem_flatten (h : Run fields origin cleared values reference ps) {f : Field}
    (hf : f ∈ ps.flatten) :
    f ∈ fields ∧ f.name ≠ origin ∧ f.name ∉ cleared := by
  induction h with
  | stop _ => cases hf
  | pass hd _ _ ih =>
    rw [List.flatten_cons, List.mem_append] at hf
    rcases hf with hf | hf
    · exact (mem_due.1 (hd ▸ hf)).1
    · obtain ⟨hm, hn, hc⟩ := ih hf
      exact ⟨hm, hn, fun h ↦ hc (List.mem_append_left _ h)⟩

/-- What is cleared held something from the start: until its turn comes no pass touches its
entry. -/
theorem holdsNothing_eq_false (h : Run fields origin cleared values reference ps)
    (hv : Covers fields values)
    {f : Field} (hf : f ∈ ps.flatten) : f.holdsNothing (values.resolve? f.name) = false := by
  induction h with
  | stop _ => cases hf
  | @pass cleared values reference pass rest hd _ hr ih =>
    rw [List.flatten_cons, List.mem_append] at hf
    rcases hf with hf | hf
    · have hdue := (mem_due.1 (hd ▸ hf)).2
      simp only [Field.isDue, Bool.and_eq_true, Bool.not_eq_true'] at hdue
      exact hdue.2
    · obtain ⟨hm, _, hc⟩ := hr.mem_flatten hf
      have hk : f.name ∉ pass.map Field.name := fun h ↦ hc (List.mem_append_right _ h)
      have he :=
        Record.resolve?_congr_of_contains (hv.clearAll pass f hm)
          (get?_clearAll_of_notMem hk values)
      exact he ▸ ih (hv.clearAll pass) hf

end Run

end Formwork.Cascade
