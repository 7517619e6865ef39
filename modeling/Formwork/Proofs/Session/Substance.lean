import Formwork.Proofs.Session.Run

namespace Formwork

def Field.substance (f : Field) : Field :=
  { f with
    visibilityRules := [], disableRules := []
    disabled := false, hidden := false, reserveSpace := false }

namespace Form

def substance (form : Form) : Form := { form with fields := form.fields.map Field.substance }

theorem field?_substance (form : Form) (name : String) :
    form.substance.field? name = (form.field? name).map Field.substance :=
  List.find?_map

theorem initialBag_substance (form : Form) : form.substance.initialBag = form.initialBag := by
  rw [initialBag, substance, List.map_map]
  rfl

theorem checks_substance (form : Form) (backend : Backend) :
    form.substance.checks backend = form.checks backend := by
  rw [checks, substance, List.map_map]
  rfl

end Form

namespace Cascade

variable {fields : List Field} {origin : String} {cleared : List String} {values reference : Bag}
  {ps : List (List Field)}

theorem due_substance (fields : List Field) (origin : String) (cleared : List String)
    (values reference : Bag) :
    due (fields.map Field.substance) origin cleared values reference =
      (due fields origin cleared values reference).map Field.substance := by
  rw [due, candidates, List.filter_map, List.filter_map]
  rfl

theorem clearAll_substance (values : Bag) (pass : List Field) :
    clearAll values (pass.map Field.substance) = clearAll values pass :=
  List.foldl_map

theorem map_name_substance (pass : List Field) :
    (pass.map Field.substance).map Field.name = pass.map Field.name :=
  List.map_map

theorem Run.substance (h : Run fields origin cleared values reference ps) :
    Run (fields.map Field.substance) origin cleared values reference
      (ps.map (List.map Field.substance)) := by
  induction h with
  | stop hd =>
    refine .stop ?_
    rw [due_substance, hd, List.map_nil]
  | @pass cleared values reference pass rest hd hne _ ih =>
    refine .pass (by rw [due_substance, hd]) (fun hn ↦ hne (List.map_eq_nil_iff.1 hn)) ?_
    rw [map_name_substance, clearAll_substance]
    exact ih

end Cascade

namespace Session

variable {u v : Session}

def substance (u : Session) : Session := { u with form := u.form.substance }

theorem start_substance (u : Session) : u.substance.start = u.start := by
  rw [start, start, initial, initial, substance, Form.initialBag_substance]

theorem complaints_substance (u : Session) (values : Bag) :
    u.substance.complaints values = u.complaints values := by
  rw [complaints, complaints, checks, checks, substance, Form.checks_substance]

theorem validate_substance (u : Session) (s : State) : u.substance.validate s = u.validate s := by
  rw [validate, validate, complaints_substance]

theorem admits_substance (u : Session) (name : String) (value : Json) :
    u.substance.admits name value = u.admits name value := by
  have hfield : u.substance.form.field? name = (u.form.field? name).map Field.substance :=
    u.form.field?_substance name
  simp only [admits, hfield]
  cases u.form.field? name with
  | none => rfl
  | some f =>
    -- Text is the one kind of value that a field has a say in.
    cases value <;> rfl

theorem validatesChange_substance (u : Session) (s : State) (name : String) (revalidate : Bool) :
    u.substance.validatesChange s name revalidate = u.validatesChange s name revalidate := by
  rw [validatesChange, validatesChange, substance, Form.field?_substance, Option.any_map]
  rfl

theorem passes_substance (u : Session) (s : State) (name : String) (value : Json) :
    u.substance.passes s name value = (u.passes s name value).map (List.map Field.substance) :=
  (u.run_passes s name value).substance.eq_passes.symm

theorem written_substance (u : Session) (s : State) (name : String) (value : Json) :
    u.substance.written s name value = u.written s name value := by
  rw [written, written, passes_substance, ← List.map_flatten, Cascade.clearAll_substance]

theorem write_substance (u : Session) (s : State) (name : String) (value : Json)
    (revalidate : Bool) :
    u.substance.write s name value revalidate = u.write s name value revalidate := by
  refine Prod.ext ?_ ?_
  · rw [write_state, write_state, validatesChange_substance, validate_substance, written_substance]
  · rw [write_cleared, write_cleared, passes_substance, ← List.map_flatten,
      Cascade.map_name_substance]

theorem step_substance (u : Session) (s : State) (c : Command) :
    u.substance.step s c = u.step s c := by
  cases c with
  | set name value revalidate => simp only [step, set?, admits_substance, write_substance]
  | blur name =>
    simp only [step, blur, validate_substance]
    rfl
  | clear name =>
    have hclear : u.substance.clear? s name = u.clear? s name := by
      rw [clear?, clear?, substance, Form.field?_substance, Option.map_map]
      exact Option.map_congr fun f _ ↦ u.write_substance s name f.blankValue false
    simp only [step, hclear]
  | submit =>
    have hsubmit : u.substance.submit s = u.submit s :=
      u.validate_substance { s with submitted := true }
    simp only [step, hsubmit]
  | reset => simp only [step, start_substance]

theorem run_substance (u : Session) (s : State) (cs : List Command) :
    u.substance.run s cs = u.run s cs := by
  induction cs generalizing s with
  | nil => rfl
  | cons c cs ih => rw [run, run, step_substance, ih]

theorem after_substance (u : Session) (s : State) (cs : List Command) :
    u.substance.after s cs = u.after s cs := by
  induction cs generalizing s with
  | nil => rfl
  | cons c cs ih =>
    exact (ih _).trans (congrArg (fun x : Step ↦ u.after x.state cs) (u.step_substance s c))

/-- How fields are drawn is nothing that a session goes by. -/
theorem run_eq_of_substance_eq (h : u.substance = v.substance) (cs : List Command) :
    u.after u.start cs = v.after v.start cs ∧ u.run u.start cs = v.run v.start cs := by
  have hstart : u.start = v.start := by rw [← u.start_substance, h, start_substance]
  refine ⟨?_, ?_⟩
  · rw [hstart, ← u.after_substance, h, after_substance]
  · rw [hstart, ← u.run_substance, h, run_substance]

end Session

end Formwork
