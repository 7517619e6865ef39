import Formwork.Proofs.Session.Run
import Formwork.Proofs.Validation.Reordering
import Mathlib.Data.List.Dedup

namespace Formwork

def Complaints.names (errors : Complaints) : List String := (errors.map Prod.fst).dedup

def Call.submission? : Call → Option Bag
  | .submit values => some values
  | .listen _ => none

def Step.submissions (x : Step) : List Bag := x.calls.filterMap Call.submission?

namespace Session

def handover : Command → Step → List Bag
  | .submit, ⟨t, .submitted, _⟩ => [t.values]
  | _, _ => []

inductive Verdict (u : Session) (values : Bag) : Event → List Call → Prop
  | accept : u.checks.validate values = [] → (∀ f, u.options.crossField = some f → f values = []) →
      Verdict u values .submitted [.submit values]
  | reject {n : Nat} : n = (u.complaints values).names.length → 0 < n →
      Verdict u values (.submitRejected n) []

structure Submission (u : Session) (s : State) (x : Step) : Prop where
  verdict : u.Verdict s.values x.event x.calls
  state : x.state = { s with errors := u.complaints s.values, submitted := true }
  again : u.step x.state .submit = x

variable {u : Session} {s : State} {values : Bag}

theorem complaints_eq_nil_iff :
    u.complaints values = [] ↔
      u.checks.validate values = [] ∧ ∀ f, u.options.crossField = some f → f values = [] := by
  rw [complaints]
  cases u.options.crossField with
  | none => exact (and_iff_left nofun).symm
  | some f =>
    rw [Complaints.overlay_eq_nil_iff]
    refine and_congr_right fun _ ↦ ⟨fun h g hg ↦ ?_, fun h ↦ h f rfl⟩
    exact Option.some.inj hg ▸ h

theorem nodup_complaints (u : Session) (values : Bag) :
    ((u.complaints values).map Prod.fst).Nodup := by
  have hvalid := FormChecks.nodup_validate u.checks values
  rw [complaints]
  cases u.options.crossField with
  | none => exact hvalid
  | some f => exact Complaints.nodup_overlay hvalid (f values)

theorem length_names_complaints (u : Session) (values : Bag) :
    (u.complaints values).names.length = (u.complaints values).length := by
  rw [Complaints.names, (u.nodup_complaints values).dedup, List.length_map]

theorem verdict_step_submit (u : Session) (s : State) :
    u.Verdict s.values (u.step s .submit).event (u.step s .submit).calls := by
  by_cases h : u.complaints s.values = []
  · obtain ⟨hfields, hcross⟩ := complaints_eq_nil_iff.1 h
    rw [step_submit_of_nil h]
    exact .accept hfields hcross
  · rw [step_submit_of_ne_nil h]
    exact .reject (u.length_names_complaints s.values).symm (List.length_pos_of_ne_nil h)

theorem step_submit_submit (u : Session) (s : State) :
    u.step (u.submit s) .submit = u.step s .submit := rfl

theorem submission_step (u : Session) (s : State) : u.Submission s (u.step s .submit) where
  verdict := u.verdict_step_submit s
  state := u.step_submit s
  again := by rw [step_submit, step_submit_submit]

theorem submissions_step (u : Session) (s : State) (c : Command) :
    (u.step s c).submissions = handover c (u.step s c) := by
  cases c with
  | set name value revalidate =>
    by_cases ha : u.admits name value
    · rw [step_set_of_admits ha]
      rfl
    · rw [step_set_of_not_admits ha]
      rfl
  | blur name => rfl
  | clear name =>
    cases hf : u.form.field? name with
    | none =>
      rw [step_clear_of_none hf]
      rfl
    | some f =>
      rw [step_clear_of_some hf]
      rfl
  | submit =>
    by_cases h : u.complaints s.values = []
    · rw [step_submit_of_nil h]
      rfl
    · rw [step_submit_of_ne_nil h]
      rfl
  | reset => rfl

theorem submissions_run (u : Session) (s : State) (cs : List Command) :
    (u.run s cs).map Step.submissions = List.zipWith handover cs (u.run s cs) :=
  map_run u.submissions_step s cs

/-- The values are handed over once for each submission that is accepted, and at no other time, and
every submission in a run is judged by the values that it finds. -/
theorem submission_of_run (u : Session) (s : State) (cs ds : List Command) :
    (u.run s cs).map Step.submissions = List.zipWith handover cs (u.run s cs) ∧
      ∃ x, u.run s (cs ++ .submit :: ds) = u.run s cs ++ x :: u.run x.state ds ∧
        u.Submission (u.after s cs) x := by
  refine ⟨u.submissions_run s cs, u.step (u.after s cs) .submit, ?_,
    u.submission_step (u.after s cs)⟩
  exact u.run_append s cs (.submit :: ds)

/-- An order with a mail address that has to be given twice. -/
def order : Session where
  options := { Options.standard with
    crossField := some (Agreement.complaints [⟨"mail", "again", "again", "Different"⟩]) }
  form := ⟨none, none, none,
    [{ Field.named "mail" .text with validation := [.ofKind .required] },
      Field.named "again" .text], none, none⟩

def ordering : List Command :=
  [.submit, .set "mail" (.string "a@b") false, .submit, .set "again" (.string "a@b") false, .submit]

def ordered : Bag := .ofList [("again", .string "a@b"), ("mail", .string "a@b")]

/-- The first submission fails for want of an address, the second because the two differ, the third
is accepted. -/
theorem submission_of_run_order :
    (order.run order.start ordering).map Step.event =
      [.submitRejected 1, .changed [], .submitRejected 1, .changed [], .submitted] ∧
    (order.run order.start ordering).map Step.submissions = [[], [], [], [], [ordered]] ∧
    ∃ x, order.run order.start (ordering ++ [.submit]) = order.run order.start ordering ++ [x] ∧
      order.Submission (order.after order.start ordering) x := by
  obtain ⟨hhanded, x, hx, hsubmission⟩ := submission_of_run order order.start ordering []
  refine ⟨by with_unfolding_all rfl, ?_, x, hx, hsubmission⟩
  rw [hhanded]
  with_unfolding_all rfl

end Session

end Formwork
