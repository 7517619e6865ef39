import Formwork.Proofs.Form.Reordering
import Formwork.Proofs.Session.Reachable
import Formwork.Proofs.Validation.Reordering

namespace Formwork

structure State.Alike (s t : State) : Prop where
  values : s.values = t.values
  previous : s.previous = t.previous
  errors : s.errors.Perm t.errors
  touched : s.touched = t.touched
  submitted : s.submitted = t.submitted

inductive Event.Alike : Event → Event → Prop
  | refl (e : Event) : Alike e e
  | changed {cleared cleared' : List String} :
      cleared.Perm cleared' → Alike (.changed cleared) (.changed cleared')

structure Step.Alike (x y : Step) : Prop where
  state : x.state.Alike y.state
  event : x.event.Alike y.event
  calls : x.calls = y.calls

namespace Session

theorem notifying_alike {x y : State × List String} (hs : x.1.Alike y.1) (hc : x.2.Perm y.2) :
    (notifying x).Alike (notifying y) :=
  ⟨hs, .changed hc, by simp only [notifying, hs.values]⟩

/-- The second session has the fields of the first one in some order. No two of them share a
name. -/
structure Reorders (u v : Session) : Prop where
  fields : u.form.fields.Perm v.form.fields
  nodup : u.form.fieldNames.Nodup
  options : u.options = v.options

namespace Reorders

variable {u v : Session} {s t : State} {name : String} {value : Json}

theorem field?_eq (h : u.Reorders v) (name : String) : u.form.field? name = v.form.field? name :=
  Form.field?_eq_of_perm h.fields h.nodup name

theorem initial_eq (h : u.Reorders v) : u.initial = v.initial := by
  simp only [initial, h.options, Form.initialBag_eq_of_perm h.fields h.nodup]

theorem admits_eq (h : u.Reorders v) (name : String) (value : Json) :
    u.admits name value = v.admits name value := by
  simp only [admits, h.field?_eq]

theorem complaints_perm (h : u.Reorders v) (values : Bag) :
    (u.complaints values).Perm (v.complaints values) := by
  have hfields : u.checks.fields.Perm v.checks.fields := by
    rw [checks, checks, h.options]
    exact h.fields.map fun f ↦ f.checks v.options.backend
  have hnames : (u.checks.fields.map FieldChecks.name).Nodup := by
    have hd := h.nodup
    rwa [Form.fieldNames, show Field.name =
      FieldChecks.name ∘ fun f ↦ f.checks u.options.backend from rfl,
      ← List.map_map] at hd
  have hvalid := FormChecks.validate_perm hfields hnames values
  rw [complaints, complaints, h.options]
  cases v.options.crossField with
  | none => exact hvalid
  | some f =>
    exact Complaints.overlay_perm hvalid (FormChecks.nodup_validate u.checks values) (f values)

theorem validate_alike (h : u.Reorders v) (hst : s.Alike t) :
    (u.validate s).Alike (v.validate t) where
  values := hst.values
  previous := hst.previous
  errors := by
    simp only [validate, hst.values]
    exact h.complaints_perm t.values
  touched := hst.touched
  submitted := hst.submitted

theorem start_alike (h : u.Reorders v) : u.start.Alike v.start where
  values := h.initial_eq
  previous := rfl
  errors := .refl _
  touched := rfl
  submitted := rfl

theorem passes_perm (h : u.Reorders v) (hst : s.Alike t) (name : String) (value : Json) :
    (u.passes s name value).flatten.Perm (v.passes t name value).flatten ∧
      Cascade.clearAll (s.values.insert name value) (u.passes s name value).flatten =
        Cascade.clearAll (t.values.insert name value) (v.passes t name value).flatten := by
  obtain ⟨qs, hrun, hperm, hclear⟩ :=
    (u.run_passes s name value).exists_perm h.fields h.nodup (.refl [])
  have hqs : qs = v.passes t name value := by
    rw [hst.values] at hrun
    exact hrun.eq_passes
  rw [hqs] at hperm hclear
  exact ⟨hperm, by rw [hclear, hst.values]⟩

theorem write_alike (h : u.Reorders v) (hst : s.Alike t) (name : String) (value : Json)
    (revalidate : Bool) :
    (u.write s name value revalidate).1.Alike (v.write t name value revalidate).1 ∧
      (u.write s name value revalidate).2.Perm (v.write t name value revalidate).2 := by
  obtain ⟨hperm, hclear⟩ := h.passes_perm hst name value
  have hvalidates : u.validatesChange s name revalidate = v.validatesChange t name revalidate := by
    simp only [validatesChange, h.field?_eq, h.options, hst.submitted]
  have hwritten : (u.written s name value).Alike (v.written t name value) :=
    ⟨hclear, congrArg some hst.values, hst.errors, hst.touched, hst.submitted⟩
  refine ⟨?_, hperm.map Field.name⟩
  rw [write_state, write_state, hvalidates]
  split
  · exact h.validate_alike hwritten
  · exact hwritten

theorem step_alike (h : u.Reorders v) (hst : s.Alike t) (c : Command) :
    (u.step s c).Alike (v.step t c) := by
  cases c with
  | set name value revalidate =>
    obtain ⟨hstate, hcleared⟩ := h.write_alike hst name value revalidate
    simp only [step, set?, h.admits_eq]
    by_cases ha : v.admits name value
    · rw [if_pos ha, if_pos ha]
      exact notifying_alike hstate hcleared
    · rw [if_neg ha, if_neg ha]
      exact ⟨hst, .refl _, rfl⟩
  | blur name =>
    refine ⟨?_, .refl _, rfl⟩
    have htouched : State.Alike
        { s with touched := if s.touched.contains name then s.touched else s.touched ++ [name] }
        { t with touched := if t.touched.contains name then t.touched else t.touched ++ [name] } :=
      ⟨hst.values, hst.previous, hst.errors, by rw [hst.touched], hst.submitted⟩
    simp only [step, blur, h.options]
    split
    · exact h.validate_alike htouched
    · exact htouched
  | clear name =>
    simp only [step, clear?, h.field?_eq]
    cases v.form.field? name with
    | none => exact ⟨hst, .refl _, rfl⟩
    | some f =>
      obtain ⟨hstate, hcleared⟩ := h.write_alike hst name f.blankValue false
      exact notifying_alike hstate hcleared
  | submit =>
    have hsubmitted : State.Alike { s with submitted := true } { t with submitted := true } :=
      ⟨hst.values, hst.previous, hst.errors, hst.touched, rfl⟩
    have hstate : (u.submit s).Alike (v.submit t) := h.validate_alike hsubmitted
    simp only [step]
    have hempty : (u.submit s).errors.isEmpty = (v.submit t).errors.isEmpty := by
      rw [Bool.eq_iff_iff, List.isEmpty_iff_length_eq_zero, List.isEmpty_iff_length_eq_zero,
        hstate.errors.length_eq]
    rw [hempty]
    split
    · exact ⟨hstate, .refl _, by rw [hstate.values]⟩
    · exact ⟨hstate, by rw [hstate.errors.length_eq]; exact .refl _, rfl⟩
  | reset => exact ⟨h.start_alike, .refl _, by simp only [step, h.start_alike.values]⟩

theorem run_alike (h : u.Reorders v) (hst : s.Alike t) (cs : List Command) :
    List.Forall₂ Step.Alike (u.run s cs) (v.run t cs) := by
  induction cs generalizing s t with
  | nil => exact .nil
  | cons c cs ih =>
    have hstep := h.step_alike hst c
    exact .cons hstep (ih hstep.state)

end Reorders

/-- The order of the fields shows neither when a session starts nor behind any of its commands. -/
theorem run_alike_of_reorders {u v : Session} (h : u.Reorders v) (cs : List Command) :
    u.start.Alike v.start ∧ List.Forall₂ Step.Alike (u.run u.start cs) (v.run v.start cs) :=
  ⟨h.start_alike, h.run_alike h.start_alike cs⟩

/-- A country, and a state and a city that go with it in one pass and have to be given. -/
def enrolment : Session where
  options := .standard
  form := ⟨none, none, none, [
    { Field.named "country" .text with defaultValue := some (.string "us") },
    { Field.named "state" .text with
      defaultValue := some (.string "NY"), clearRules := [⟨"country", .changed, none⟩],
      validation := [.ofKind .required] },
    { Field.named "city" .text with
      defaultValue := some (.string "Troy"), clearRules := [⟨"country", .changed, none⟩],
      validation := [.ofKind .required] }], none, none⟩

def backwards : Session :=
  { enrolment with form := { enrolment.form with fields := enrolment.form.fields.reverse } }

def enrolling : List Command :=
  [.set "country" (.string "ca") false, .submit, .set "city" (.string "Hull") false,
    .clear "country", .reset]

theorem run_alike_of_reorders_enrolment :
    enrolment.Reorders backwards ∧ enrolment.start.Alike backwards.start ∧
    List.Forall₂ Step.Alike (enrolment.run enrolment.start enrolling)
      (backwards.run backwards.start enrolling) := by
  have h : enrolment.Reorders backwards := ⟨(List.reverse_perm _).symm, by decide, rfl⟩
  exact ⟨h, run_alike_of_reorders h enrolling⟩

end Session

end Formwork
