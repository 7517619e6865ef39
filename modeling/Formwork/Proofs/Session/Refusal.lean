import Formwork.Proofs.Session.Run

namespace Formwork.Session

variable {u : Session} {s : State} {c : Command} {cs : List Command}

def turnsDown (u : Session) : Command → Event → Bool
  | .set _ _ _, .rejected => true
  | .clear name, _ => (u.form.field? name).isNone
  | _, _ => false

def heeded (u : Session) (s : State) (cs : List Command) : List (Command × Step) :=
  (cs.zip (u.run s cs)).filter fun p ↦ !u.turnsDown p.1 p.2.event

theorem step_of_turnsDown (h : u.turnsDown c (u.step s c).event) :
    (u.step s c).state = s ∧ (u.step s c).calls = [] := by
  cases c with
  | set name value revalidate =>
    by_cases ha : u.admits name value
    · rw [step_set_of_admits ha] at h
      cases h
    · rw [step_set_of_not_admits ha]
      exact ⟨rfl, rfl⟩
  | clear name =>
    have hf : u.form.field? name = none := Option.isNone_iff_eq_none.1 h
    rw [step_clear_of_none hf]
    exact ⟨rfl, rfl⟩
  | blur name => cases h
  | submit => cases h
  | reset => cases h

theorem heeded_cons_of_turnsDown (h : u.turnsDown c (u.step s c).event) (cs : List Command) :
    u.heeded s (c :: cs) = u.heeded s cs := by
  rw [heeded, run, List.zip_cons_cons, List.filter_cons_of_neg (by simp [h]),
    (step_of_turnsDown h).1]
  rfl

theorem heeded_cons_of_not_turnsDown (h : ¬ u.turnsDown c (u.step s c).event) (cs : List Command) :
    u.heeded s (c :: cs) = (c, u.step s c) :: u.heeded (u.step s c).state cs := by
  rw [heeded, run, List.zip_cons_cons, List.filter_cons_of_pos (by simp [h])]
  rfl

theorem run_heeded (u : Session) (s : State) (cs : List Command) :
    u.run s ((u.heeded s cs).map Prod.fst) = (u.heeded s cs).map Prod.snd := by
  induction cs generalizing s with
  | nil => rfl
  | cons c cs ih =>
    by_cases h : u.turnsDown c (u.step s c).event
    · rw [heeded_cons_of_turnsDown h, ih]
    · rw [heeded_cons_of_not_turnsDown h, List.map_cons, List.map_cons, run, ih]

theorem after_heeded (u : Session) (s : State) (cs : List Command) :
    u.after s ((u.heeded s cs).map Prod.fst) = u.after s cs := by
  induction cs generalizing s with
  | nil => rfl
  | cons c cs ih =>
    by_cases h : u.turnsDown c (u.step s c).event
    · rw [heeded_cons_of_turnsDown h, ih]
      exact congrArg (fun t ↦ u.after t cs) (step_of_turnsDown h).1.symm
    · rw [heeded_cons_of_not_turnsDown h]
      exact ih (u.step s c).state

theorem calls_heeded (u : Session) (s : State) (cs : List Command) :
    ((u.heeded s cs).map Prod.snd).flatMap Step.calls = (u.run s cs).flatMap Step.calls := by
  induction cs generalizing s with
  | nil => rfl
  | cons c cs ih =>
    by_cases h : u.turnsDown c (u.step s c).event
    · obtain ⟨hstate, hcalls⟩ := step_of_turnsDown h
      rw [heeded_cons_of_turnsDown h, ih, run, List.flatMap_cons, hcalls, hstate, List.nil_append]
    · rw [heeded_cons_of_not_turnsDown h, List.map_cons, run, List.flatMap_cons,
        List.flatMap_cons, ih]

/-- What came to nothing leaves no trace: without it the other commands do the same, step by step,
and all that is told and left in the end is the same. -/
theorem run_without_refusals (u : Session) (s : State) (cs : List Command) :
    u.run s ((u.heeded s cs).map Prod.fst) = (u.heeded s cs).map Prod.snd ∧
      u.after s ((u.heeded s cs).map Prod.fst) = u.after s cs ∧
      (u.run s ((u.heeded s cs).map Prod.fst)).flatMap Step.calls =
        (u.run s cs).flatMap Step.calls := by
  refine ⟨u.run_heeded s cs, u.after_heeded s cs, ?_⟩
  rw [run_heeded, calls_heeded]

/-- A code of digits that may not be typed in any other way. -/
def coupon : Session where
  options := .standard
  form := ⟨none, none, none, [
    { Field.named "code" .text with
      restrictInput := true, validation :=
        [⟨.pattern, some (.string "^[0-9]+$"), none⟩] }], none, none⟩

def typing : List Command :=
  [.set "code" (.string "4") false, .set "code" (.string "4x") true, .clear "cod", .blur "code"]

example : (coupon.heeded coupon.start typing).length = 2 := by decide +kernel

end Formwork.Session
