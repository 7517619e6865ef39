import Formwork.Validation.FormChecks

namespace Formwork.FormChecks

/-- The complaints that some fields raise, where some names have theirs already. -/
def outstanding (values : Bag) (named : List String) : List FieldChecks → Complaints
  | [] => []
  | f :: rest =>
    if f.name ∈ named then outstanding values named rest
    else match f.validate (values.get? f.name) with
      | some message => (f.name, message) :: outstanding values (named ++ [f.name]) rest
      | none => outstanding values named rest

section

variable {values : Bag} {named : List String} {f : FieldChecks}

theorem outstanding_of_mem (h : f.name ∈ named) (rest : List FieldChecks) :
    outstanding values named (f :: rest) = outstanding values named rest :=
  if_pos h

theorem outstanding_of_none (h : f.name ∉ named) (hv : f.validate (values.get? f.name) = none)
    (rest : List FieldChecks) :
    outstanding values named (f :: rest) = outstanding values named rest := by
  rw [outstanding, if_neg h, hv]

theorem outstanding_of_some {message : String} (h : f.name ∉ named)
    (hv : f.validate (values.get? f.name) = some message) (rest : List FieldChecks) :
    outstanding values named (f :: rest) = (f.name, message) ::
      outstanding values (named ++ [f.name]) rest := by
  rw [outstanding, if_neg h, hv]

end

theorem foldl_complain (values : Bag) (fields : List FieldChecks) (errors : Complaints) :
    fields.foldl (complain values) errors = errors ++
      outstanding values (errors.map Prod.fst) fields := by
  induction fields generalizing errors with
  | nil => rw [List.foldl_nil, outstanding, List.append_nil]
  | cons f rest ih =>
    have hm : errors.any (·.1 == f.name) = true ↔ f.name ∈ errors.map Prod.fst := by
      rw [List.any_eq_true, List.mem_map]
      exact exists_congr fun e ↦ and_congr_right fun _ ↦ beq_iff_eq
    rw [List.foldl_cons, ih, complain]
    by_cases hn : f.name ∈ errors.map Prod.fst
    · rw [if_pos (hm.2 hn), outstanding_of_mem hn]
    · rw [if_neg fun h ↦ hn (hm.1 h)]
      cases hv : f.validate (values.get? f.name) with
      | none => rw [outstanding_of_none hn hv]
      | some message =>
        rw [outstanding_of_some hn hv]
        simp only [List.map_append, List.map_cons, List.map_nil, List.append_assoc,
          List.singleton_append]

theorem validate_eq (w : FormChecks) (values : Bag) :
    w.validate values = outstanding values [] w.fields := by
  rw [validate, foldl_complain, List.map_nil, List.nil_append]

theorem lookup_outstanding {values : Bag} {named : List String} {name : String} (h : name ∉ named)
    (fields : List FieldChecks) :
    (outstanding values named fields).lookup name =
      (fields.filter (·.name == name)).findSome? fun f ↦ f.validate (values.get? name) := by
  induction fields generalizing named with
  | nil => rfl
  | cons f rest ih =>
    rw [List.filter_cons]
    by_cases hn : f.name = name
    · subst hn
      rw [if_pos (beq_self_eq_true f.name), List.findSome?_cons]
      cases hv : f.validate (values.get? f.name) with
      | none => rw [outstanding_of_none h hv, ih h]
      | some message => rw [outstanding_of_some h hv, List.lookup_cons_self]
    · rw [if_neg fun he ↦ hn (beq_iff_eq.1 he)]
      by_cases hm : f.name ∈ named
      · rw [outstanding_of_mem hm, ih h]
      · cases hv : f.validate (values.get? f.name) with
        | none => rw [outstanding_of_none hm hv, ih h]
        | some message =>
          have hk : name ∉ named ++ [f.name] := by
            rw [List.mem_append, List.mem_singleton]
            exact fun hm ↦ hm.elim h (Ne.symm hn)
          rw [outstanding_of_some hm hv, ← ih hk, List.lookup_cons,
            beq_eq_false_iff_ne.2 (Ne.symm hn)]

theorem lookup_validate (w : FormChecks) (name : String) (values : Bag) :
    (w.validate values).lookup name = w.validateField name values := by
  rw [validate_eq, lookup_outstanding List.not_mem_nil, validateField]

theorem mem_names_of_lookup_validate {w : FormChecks} {values : Bag} {name message : String}
    (h : (w.validate values).lookup name = some message) :
    name ∈ w.fields.map FieldChecks.name := by
  rw [lookup_validate, validateField] at h
  obtain ⟨f, hf, -⟩ := List.exists_of_findSome?_eq_some h
  obtain ⟨hmem, hname⟩ := List.mem_filter.1 hf
  exact List.mem_map.2 ⟨f, hmem, beq_iff_eq.1 hname⟩

end Formwork.FormChecks

namespace Formwork.Form

def outstanding (backend : Backend) (bag : Bag) (named : List String) (fields : List Field) :
    Complaints :=
  FormChecks.outstanding bag named (fields.map fun f ↦ f.checks backend)

variable {bag : Bag} {named : List String} {f : Field} {rest : List Field} {backend : Backend}

theorem validate_checks (form : Form) (backend : Backend) (bag : Bag) :
    (form.checks backend).validate bag = outstanding backend bag [] form.fields :=
  FormChecks.validate_eq _ _

theorem outstanding_of_named (h : f.name ∈ named) (backend : Backend) :
    outstanding backend bag named (f :: rest) = outstanding backend bag named rest :=
  FormChecks.outstanding_of_mem h _

theorem outstanding_of_none (h : f.name ∉ named)
    (hv : (f.checks backend).validate (bag.get? f.name) = none) :
    outstanding backend bag named (f :: rest) = outstanding backend bag named rest :=
  FormChecks.outstanding_of_none h hv _

theorem outstanding_of_some {message : String} (h : f.name ∉ named)
    (hv : (f.checks backend).validate (bag.get? f.name) = some message) :
    outstanding backend bag named (f :: rest) =
      (f.name, message) :: outstanding backend bag (named ++ [f.name]) rest :=
  FormChecks.outstanding_of_some h hv _

end Formwork.Form
