import Formwork.Proofs.Session.Run

namespace Formwork

def Call.news? : Call → Option Bag
  | .listen values => some values
  | .submit _ => none

def Step.news (x : Step) : List Bag := x.calls.filterMap Call.news?

namespace Session

variable {u : Session} {s : State} {c : Command}

def announces (u : Session) (c : Command) : Bool := u.writes c || c.isReset

def announcement (u : Session) (c : Command) (x : Step) : List Bag :=
  if u.announces c then [x.state.values] else []

def news (u : Session) (s : State) (cs : List Command) : List Bag := (u.run s cs).flatMap Step.news

theorem news_step_of_idle (hw : ¬ u.writes c) (hr : ¬ c.isReset) (s : State) :
    (u.step s c).news = [] := by
  cases c with
  | set name value revalidate =>
    rw [step_set_of_not_admits hw]
    rfl
  | blur name => rfl
  | clear name =>
    rw [step_clear_of_none (Option.not_isSome_iff_eq_none.1 hw)]
    rfl
  | submit =>
    by_cases h : u.complaints s.values = []
    · rw [step_submit_of_nil h]
      rfl
    · rw [step_submit_of_ne_nil h]
      rfl
  | reset => exact absurd rfl hr

theorem news_step (u : Session) (s : State) (c : Command) :
    (u.step s c).news = u.announcement c (u.step s c) := by
  rw [announcement, announces]
  by_cases hw : u.writes c
  · obtain ⟨name, value, revalidate, hstep⟩ := step_of_writes hw s
    rw [hw, hstep]
    rfl
  · by_cases hr : c.isReset
    · rw [Command.eq_reset hr]
      rfl
    · rw [news_step_of_idle hw hr, Bool.eq_false_iff.2 hw, Bool.eq_false_iff.2 hr]
      rfl

theorem getD_announcement (u : Session) (s : State) (c : Command) :
    (u.announcement c (u.step s c)).getLast?.getD s.values = (u.step s c).state.values := by
  by_cases h : u.announces c
  · rw [announcement, if_pos h]
    rfl
  · rw [announcement, if_neg h]
    rw [announces, Bool.or_eq_true, not_or] at h
    exact ((u.leads_step s c).idle h.1 h.2).1.symm

theorem news_cons (u : Session) (s : State) (c : Command) (cs : List Command) :
    u.news s (c :: cs) = u.announcement c (u.step s c) ++ u.news (u.step s c).state cs := by
  rw [news, run, List.flatMap_cons, news_step]
  rfl

theorem length_news (u : Session) (s : State) (cs : List Command) :
    (u.news s cs).length = cs.countP u.announces := by
  induction cs generalizing s with
  | nil => rfl
  | cons c cs ih =>
    rw [news_cons, List.length_append, ih, List.countP_cons, announcement, Nat.add_comm]
    split <;> rfl

theorem last_news (u : Session) (s : State) (cs : List Command) :
    (u.news s cs).getLast?.getD s.values = (u.after s cs).values := by
  induction cs generalizing s with
  | nil => rfl
  | cons c cs ih =>
    rw [news_cons, List.getLast?_append, Option.getD_or, getD_announcement, ih]
    rfl

/-- The listener is a faithful mirror: it is called once for each command that writes or resets,
with what the whole step leaves, and at every point of a run, which is the end of the commands so
far, the last bag it was handed is the present one. -/
theorem news_of_run (u : Session) (s : State) (cs : List Command) :
    (u.news s cs).length = cs.countP u.announces ∧
      (u.run s cs).map Step.news = List.zipWith u.announcement cs (u.run s cs) ∧
      (u.news s cs).getLast?.getD s.values = (u.after s cs).values :=
  ⟨u.length_news s cs, map_run u.news_step s cs, u.last_news s cs⟩

end Session

end Formwork
