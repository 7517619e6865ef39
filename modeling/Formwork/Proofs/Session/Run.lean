import Formwork.Proofs.Session.Reachable

namespace Formwork

def Command.isReset : Command → Bool
  | .reset => true
  | _ => false

theorem Command.eq_reset {c : Command} (h : c.isReset) : c = .reset := by
  cases c with
  | reset => rfl
  | _ => cases h

namespace Session

variable {u : Session} {s t : State} {c : Command} {name : String} {value : Json}

theorem step_set_of_admits (h : u.admits name value) (s : State) (revalidate : Bool) :
    u.step s (.set name value revalidate) = notifying (u.write s name value revalidate) := by
  rw [step, set?, if_pos h]

theorem step_set_of_not_admits (h : ¬ u.admits name value) (s : State) (revalidate : Bool) :
    u.step s (.set name value revalidate) = ⟨s, .rejected, []⟩ := by
  rw [step, set?, if_neg h]

theorem step_clear_of_some {f : Field} (h : u.form.field? name = some f) (s : State) :
    u.step s (.clear name) = notifying (u.write s name f.blankValue false) := by
  rw [step, clear?, h, Option.map_some]

theorem step_clear_of_none (h : u.form.field? name = none) (s : State) :
    u.step s (.clear name) = ⟨s, .changed [], []⟩ := by
  rw [step, clear?, h, Option.map_none]

theorem step_submit_of_nil (h : u.complaints s.values = []) :
    u.step s .submit = ⟨u.submit s, .submitted, [.submit s.values]⟩ := by
  have hn : (u.submit s).errors.isEmpty := List.isEmpty_iff.2 h
  rw [step, if_pos hn]
  rfl

theorem step_submit_of_ne_nil (h : u.complaints s.values ≠ []) :
    u.step s .submit = ⟨u.submit s, .submitRejected (u.complaints s.values).length, []⟩ := by
  have hn : ¬ (u.submit s).errors.isEmpty := fun he ↦ h (List.isEmpty_iff.1 he)
  rw [step, if_neg hn]
  rfl

theorem after_append (u : Session) (s : State) (cs ds : List Command) :
    u.after s (cs ++ ds) = u.after (u.after s cs) ds :=
  List.foldl_append

theorem Reachable.after (h : u.Reachable s) (cs : List Command) : u.Reachable (u.after s cs) := by
  induction cs generalizing s with
  | nil => exact h
  | cons c cs ih => exact ih (h.step c)

theorem length_run (u : Session) (s : State) (cs : List Command) :
    (u.run s cs).length = cs.length := by
  induction cs generalizing s with
  | nil => rfl
  | cons c cs ih => rw [run, List.length_cons, List.length_cons, ih]

theorem map_run {α : Type} {f : Step → α} {g : Command → Step → α}
    (h : ∀ s c, f (u.step s c) = g c (u.step s c)) (s : State) (cs : List Command) :
    (u.run s cs).map f = List.zipWith g cs (u.run s cs) := by
  induction cs generalizing s with
  | nil => rfl
  | cons c cs ih => rw [run, List.map_cons, List.zipWith_cons_cons, h, ih]

theorem run_append (u : Session) (s : State) (cs ds : List Command) :
    u.run s (cs ++ ds) = u.run s cs ++ u.run (u.after s cs) ds := by
  induction cs generalizing s with
  | nil => rfl
  | cons c cs ih =>
    rw [List.cons_append, run, run, ih, List.cons_append]
    rfl

/-- A reset leaves nothing behind of what came before it. -/
theorem run_reset (u : Session) (s : State) (cs ds : List Command) :
    u.run s (cs ++ .reset :: ds) =
      u.run s cs ++ ⟨u.start, .reset, [.listen u.initial]⟩ :: u.run u.start ds :=
  u.run_append s cs (.reset :: ds)

def shown (u : Session) (x : Step) : Step × List (Field × Decision) := (x, u.decisions x.state)

theorem shown_run_reset (u : Session) (s : State) (cs ds : List Command) :
    u.after s (cs ++ [.reset]) = u.start ∧
      ((u.run s (cs ++ .reset :: ds)).drop (cs.length + 1)).map u.shown =
        (u.run u.start ds).map u.shown := by
  refine ⟨u.after_append s cs [.reset], ?_⟩
  have hlength : (u.run s cs).length = cs.length := u.length_run s cs
  rw [run_reset, ← hlength, List.drop_length_add_append]
  rfl

/-- Whether a command leads to a write: it sets a value that is admitted, or clears a field of the
form. -/
def writes (u : Session) : Command → Bool
  | .set name value _ => u.admits name value
  | .clear name => (u.form.field? name).isSome
  | .blur _ | .submit | .reset => false

theorem step_of_writes (h : u.writes c) (s : State) :
    ∃ name value revalidate, u.step s c = notifying (u.write s name value revalidate) := by
  cases c with
  | set name value revalidate => exact ⟨name, value, revalidate, step_set_of_admits h s revalidate⟩
  | clear name =>
    obtain ⟨f, hf⟩ := Option.isSome_iff_exists.1 h
    exact ⟨name, f.blankValue, false, step_clear_of_some hf s⟩
  | _ => cases h

theorem Leads.idle (hl : u.Leads s c t) (hw : ¬ u.writes c) (hr : ¬ c.isReset) :
    t.values = s.values ∧ t.previous = s.previous := by
  cases hl with
  | set ha => exact absurd ha hw
  | clear hf => exact absurd (Option.isSome_of_eq_some hf) hw
  | blur name =>
    rw [Session.blur]
    split <;> exact ⟨rfl, rfl⟩
  | refuse _ => exact ⟨rfl, rfl⟩
  | ignore _ => exact ⟨rfl, rfl⟩
  | submit => exact ⟨rfl, rfl⟩
  | reset => exact absurd rfl hr

end Session

end Formwork
