import Formwork.Proofs.Cascade.Run
import Formwork.Session.Basic

namespace Formwork.Session

variable {u : Session} {s : State} {name : String} {value : Json}

def passes (u : Session) (s : State) (name : String) (value : Json) : List (List Field) :=
  u.form.cascade name (s.values.insert name value) s.values

theorem run_passes (u : Session) (s : State) (name : String) (value : Json) :
    Cascade.Run u.form.fields name [] (s.values.insert name value) s.values
      (u.passes s name value) :=
  Cascade.run_passes _ _ _ _ _

def written (u : Session) (s : State) (name : String) (value : Json) : State :=
  { s with
    values := Cascade.clearAll (s.values.insert name value) (u.passes s name value).flatten
    previous := some s.values }

theorem write_state (u : Session) (s : State) (name : String) (value : Json) (revalidate : Bool) :
    (u.write s name value revalidate).1 =
      if u.validatesChange s name revalidate then u.validate (u.written s name value)
      else u.written s name value := by
  have h := List.foldl_flatten (f := fun b f ↦ Record.insert b f.name (Field.blankValue f))
    (b := s.values.insert name value) (L := u.passes s name value)
  simp only [write, written, Cascade.clearAll, h]
  rfl

theorem write_values (u : Session) (s : State) (name : String) (value : Json) (revalidate : Bool) :
    (u.write s name value revalidate).1.values =
      Cascade.clearAll (s.values.insert name value) (u.passes s name value).flatten := by
  rw [write_state]
  split <;> rfl

theorem write_previous (u : Session) (s : State) (name : String) (value : Json)
    (revalidate : Bool) :
    (u.write s name value revalidate).1.previous = some s.values := by
  rw [write_state]
  split <;> rfl

theorem write_cleared (u : Session) (s : State) (name : String) (value : Json) (revalidate : Bool) :
    (u.write s name value revalidate).2 = (u.passes s name value).flatten.map Field.name := rfl

/-- `Accepts u s name value change`: in the state `s` the session lets `value` be written under
`name`, as a value that is set or as what a field is cleared to, and `change` is what comes of
it. -/
inductive Accepts (u : Session) (s : State) : String → Json → State × List String → Prop
  | set {name : String} {value : Json} {revalidate : Bool} {change : State × List String} :
      u.set? s name value revalidate = some change → Accepts u s name value change
  | clear {name : String} {f : Field} {change : State × List String} :
      u.form.field? name = some f → u.clear? s name = some change →
      Accepts u s name f.blankValue change

theorem Accepts.eq_write {change : State × List String} (h : u.Accepts s name value change) :
    ∃ revalidate, change = u.write s name value revalidate := by
  cases h with
  | set h =>
    rw [set?] at h
    split at h
    · exact ⟨_, (Option.some.inj h).symm⟩
    · cases h
  | clear hf h =>
    rw [clear?, hf] at h
    exact ⟨false, (Option.some.inj h).symm⟩

/-- The states that a session gets into from its start, by commands and by validations asked for in
between. -/
inductive Reachable (u : Session) : State → Prop
  | start : Reachable u u.start
  | step {s : State} (c : Command) : Reachable u s → Reachable u (u.step s c).state
  | validate {s : State} : Reachable u s → Reachable u (u.validate s)

theorem covers_initial (u : Session) : Cascade.Covers u.form.fields u.initial := by
  have h : Cascade.Covers u.form.fields u.form.initialBag := by
    intro f hf
    simp only [Form.initialBag, Record.ofList, Record.contains_insertAll, Bool.or_eq_true]
    exact .inl (List.any_eq_true.2 ⟨_, List.mem_map_of_mem hf, beq_self_eq_true f.name⟩)
  intro f hf
  rw [initial]
  split
  · exact h f hf
  · simp only [Record.overlay, Record.contains_insertAll, h f hf, Bool.or_true]

theorem covers_write (h : Cascade.Covers u.form.fields s.values) (name : String) (value : Json)
    (revalidate : Bool) :
    Cascade.Covers u.form.fields (u.write s name value revalidate).1.values := by
  rw [write_values]
  exact (h.insert name value).clearAll _

/-- What a command comes to: one case for each that it may be, and for each way in which it may be
turned down. -/
inductive Leads (u : Session) (s : State) : Command → State → Prop
  | set {name : String} {value : Json} {revalidate : Bool} : u.admits name value →
      Leads u s (.set name value revalidate) (u.write s name value revalidate).1
  | refuse {name : String} {value : Json} {revalidate : Bool} : ¬ u.admits name value →
      Leads u s (.set name value revalidate) s
  | blur (name : String) : Leads u s (.blur name) (u.blur s name)
  | clear {name : String} {f : Field} : u.form.field? name = some f →
      Leads u s (.clear name) (u.write s name f.blankValue false).1
  | ignore {name : String} : u.form.field? name = none → Leads u s (.clear name) s
  | submit : Leads u s .submit (u.submit s)
  | reset : Leads u s .reset u.start

theorem step_submit (u : Session) (s : State) : (u.step s .submit).state = u.submit s := by
  simp only [step]
  split <;> rfl

theorem leads_step (u : Session) (s : State) (c : Command) : u.Leads s c (u.step s c).state := by
  cases c with
  | set name value revalidate =>
    simp only [step, set?]
    by_cases ha : u.admits name value
    · rw [if_pos ha]
      exact .set ha
    · rw [if_neg ha]
      exact .refuse ha
  | blur name => exact .blur name
  | clear name =>
    simp only [step, clear?]
    cases hf : u.form.field? name with
    | none => exact .ignore hf
    | some f => exact .clear hf
  | submit =>
    rw [step_submit]
    exact .submit
  | reset => exact .reset

theorem blur_values (u : Session) (s : State) (name : String) :
    (u.blur s name).values = s.values := by
  simp only [blur]
  split <;> rfl

theorem Leads.covers {t : State} {c : Command} (h : u.Leads s c t)
    (hs : Cascade.Covers u.form.fields s.values) :
    Cascade.Covers u.form.fields t.values := by
  cases h with
  | set _ => exact covers_write hs _ _ _
  | clear _ => exact covers_write hs _ _ _
  | blur name => exact (u.blur_values s name).symm ▸ hs
  | refuse _ => exact hs
  | ignore _ => exact hs
  | submit => exact hs
  | reset => exact u.covers_initial

theorem Reachable.covers (h : Reachable u s) : Cascade.Covers u.form.fields s.values := by
  induction h with
  | start => exact u.covers_initial
  | step c _ ih => exact (u.leads_step _ c).covers ih
  | validate _ ih => exact ih

end Formwork.Session
