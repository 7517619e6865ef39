import Formwork.Proofs.Session.Reachable

namespace Formwork.Session

variable {u : Session} {s t : State} {c : Command}

def IsFresh (u : Session) (s : State) : Prop := s.errors = u.complaints s.values

def Revalidates (u : Session) (s : State) : Prop :=
  u.options.mode = .onChange ∨ s.submitted ∧ u.options.revalidateAfterSubmit

/-- The states that a session gets into where, since its start or the last reset, a value was
written or a field of the form was cleared, or a submission was tried or a validation asked for. -/
inductive Stirred (u : Session) : State → Prop
  | write {s : State} {name : String} {value : Json} {change : State × List String} :
      u.Reachable s → u.Accepts s name value change → Stirred u change.1
  | submit {s : State} : u.Reachable s → Stirred u (u.step s .submit).state
  | validate {s : State} : u.Reachable s → Stirred u (u.validate s)
  | step {s : State} (c : Command) : c ≠ .reset → Stirred u s → Stirred u (u.step s c).state

theorem isFresh_validate (u : Session) (s : State) : u.IsFresh (u.validate s) := rfl

theorem isFresh_submit (u : Session) (s : State) : u.IsFresh (u.submit s) := rfl

theorem isFresh_write (h : u.Revalidates s) (name : String) (value : Json) (revalidate : Bool) :
    u.IsFresh (u.write s name value revalidate).1 := by
  have hv : u.validatesChange s name revalidate := by
    rcases h with h | ⟨hs, hr⟩
    · simp [validatesChange, h]
    · simp [validatesChange, hs, hr]
  rw [write_state, if_pos hv]
  exact u.isFresh_validate _

theorem submitted_write (u : Session) (s : State) (name : String) (value : Json)
    (revalidate : Bool) :
    (u.write s name value revalidate).1.submitted = s.submitted := by
  rw [write_state]
  split <;> rfl

theorem Leads.isFresh (hl : u.Leads s c t) (hr : u.Revalidates s) (h : u.IsFresh s)
    (hc : c ≠ .reset) : u.IsFresh t := by
  cases hl with
  | set _ => exact isFresh_write hr _ _ _
  | clear _ => exact isFresh_write hr _ _ _
  | blur name =>
    rw [Session.blur]
    split
    · exact u.isFresh_validate _
    · exact h
  | refuse _ => exact h
  | ignore _ => exact h
  | submit => exact u.isFresh_submit s
  | reset => exact absurd rfl hc

theorem Leads.submitted (hl : u.Leads s c t) (hs : c ≠ .submit) (hr : c ≠ .reset) :
    t.submitted = s.submitted := by
  cases hl with
  | set _ => exact u.submitted_write s _ _ _
  | clear _ => exact u.submitted_write s _ _ _
  | blur name =>
    rw [Session.blur]
    split <;> rfl
  | refuse _ => rfl
  | ignore _ => rfl
  | submit => exact absurd rfl hs
  | reset => exact absurd rfl hr

theorem Reachable.isFresh (h : u.Reachable s) (hr : u.options.revalidateAfterSubmit)
    (hs : s.submitted) :
    u.IsFresh s := by
  induction h with
  | start => cases hs
  | @step s c _ ih =>
    have hl := u.leads_step s c
    by_cases hreset : c = .reset
    · subst hreset
      cases hs
    · by_cases hsubmit : c = .submit
      · rw [hsubmit, step_submit]
        exact u.isFresh_submit s
      · rw [hl.submitted hsubmit hreset] at hs
        exact hl.isFresh (.inr ⟨hs, hr⟩) (ih hs) hreset
  | validate _ _ => exact u.isFresh_validate _

theorem Stirred.isFresh (h : u.Stirred s) (hm : u.options.mode = .onChange) : u.IsFresh s := by
  induction h with
  | write _ ha =>
    obtain ⟨revalidate, rfl⟩ := ha.eq_write
    exact isFresh_write (.inl hm) _ _ revalidate
  | @submit s _ => exact step_submit u s ▸ u.isFresh_submit s
  | validate _ => exact u.isFresh_validate _
  | @step s c hc _ ih => exact (u.leads_step s c).isFresh (.inl hm) ih hc

/-- Two passwords that have to be the same, validated on every change. -/
def signup : Session where
  options := { Options.standard with
    mode := .onChange
    crossField := some (Agreement.complaints [⟨"password", "again", "again", "Different"⟩]) }
  form := ⟨none, none, none, [
    { Field.named "password" .text with validation := [.ofKind .required] },
    { Field.named "again" .text with clearRules := [⟨"password", .changed, none⟩] }], none, none⟩

end Formwork.Session
