import Formwork.Proofs.Session.Freshness
import Formwork.Proofs.Session.Run
import Mathlib.Data.List.DropRight

namespace Formwork

theorem eraseDups_concat (names : List String) (name : String) :
    (names ++ [name]).eraseDups =
      if names.eraseDups.contains name then names.eraseDups else names.eraseDups ++ [name] := by
  have hmem : names.eraseDups.contains name ↔ name ∈ names := by
    rw [List.contains_iff_mem, List.mem_eraseDups]
  rw [List.eraseDups_append]
  by_cases h : name ∈ names
  · have hnone : [name].removeAll names = [] := by simp [List.removeAll, h]
    rw [hnone, List.eraseDups_nil, List.append_nil, if_pos (hmem.2 h)]
  · have hone : [name].removeAll names = [name] := by simp [List.removeAll, h]
    rw [hone, if_neg (mt hmem.1 h)]
    rfl

namespace Command

def sinceReset (cs : List Command) : List Command := cs.rtakeWhile fun c ↦ !c.isReset

def blurred? : Command → Option String
  | .blur name => some name
  | _ => none

def namesBlurred (cs : List Command) : List String := (cs.filterMap blurred?).eraseDups

theorem sinceReset_concat_reset (cs : List Command) : sinceReset (cs ++ [.reset]) = [] :=
  List.rtakeWhile_concat_neg _ _ _ nofun

theorem sinceReset_concat {c : Command} (h : ¬ c.isReset) (cs : List Command) :
    sinceReset (cs ++ [c]) = sinceReset cs ++ [c] :=
  List.rtakeWhile_concat_pos _ _ _ (by rw [Bool.eq_false_iff.2 h, Bool.not_false])

theorem blurred?_eq_some_iff {c : Command} {name : String} :
    c.blurred? = some name ↔ c = .blur name := by
  cases c <;> simp [blurred?]

theorem mem_namesBlurred {cs : List Command} {name : String} :
    name ∈ namesBlurred cs ↔ .blur name ∈ cs := by
  simp only [namesBlurred, List.mem_eraseDups, List.mem_filterMap, blurred?_eq_some_iff,
    exists_eq_right]

theorem namesBlurred_concat_blur (cs : List Command) (name : String) :
    namesBlurred (cs ++ [.blur name]) =
      if (namesBlurred cs).contains name then namesBlurred cs else namesBlurred cs ++ [name] := by
  rw [namesBlurred, List.filterMap_append]
  exact eraseDups_concat _ name

example : namesBlurred [.blur "b", .submit, .blur "a", .blur "b"] = ["b", "a"] := by decide

theorem namesBlurred_concat {c : Command} (h : c.blurred? = none) (cs : List Command) :
    namesBlurred (cs ++ [c]) = namesBlurred cs := by
  rw [namesBlurred, List.filterMap_append, List.filterMap_cons_none h, List.filterMap_nil,
    List.append_nil]
  rfl

end Command

namespace Session

open Command

variable {u : Session} {s t : State} {c : Command} {cs : List Command} {name message : String}

theorem after_concat (u : Session) (s : State) (cs : List Command) (c : Command) :
    u.after s (cs ++ [c]) = (u.step (u.after s cs) c).state :=
  u.after_append s cs [c]

theorem submitted_after_iff (u : Session) (cs : List Command) :
    (u.after u.start cs).submitted ↔ .submit ∈ sinceReset cs := by
  -- Commands are added at the end, because that is where a reset cuts off all that came before it.
  induction cs using List.reverseRecOn with
  | nil => exact ⟨nofun, nofun⟩
  | append_singleton cs c ih =>
    rw [after_concat]
    by_cases hr : c.isReset
    · rw [eq_reset hr, sinceReset_concat_reset]
      exact ⟨nofun, nofun⟩
    · rw [sinceReset_concat hr, List.mem_append, List.mem_singleton]
      by_cases hs : c = .submit
      · subst hs
        rw [step_submit]
        exact ⟨fun _ ↦ .inr rfl, fun _ ↦ rfl⟩
      · have hreset : c ≠ .reset := fun h ↦ hr (h ▸ rfl)
        rw [(u.leads_step _ c).submitted hs hreset, ih, or_iff_left (Ne.symm hs)]

theorem blur_touched (u : Session) (s : State) (name : String) :
    (u.blur s name).touched =
      if s.touched.contains name then s.touched else s.touched ++ [name] := by
  rw [blur]
  split <;> rfl

theorem write_touched (u : Session) (s : State) (name : String) (value : Json) (revalidate : Bool) :
    (u.write s name value revalidate).1.touched = s.touched := by
  rw [write_state]
  split <;> rfl

theorem Leads.touched (hl : u.Leads s c t) (hb : c.blurred? = none) (hr : ¬ c.isReset) :
    t.touched = s.touched := by
  cases hl with
  | set _ => exact u.write_touched s _ _ _
  | clear _ => exact u.write_touched s _ _ _
  | blur name => cases hb
  | refuse _ => rfl
  | ignore _ => rfl
  | submit => rfl
  | reset => exact absurd rfl hr

theorem touched_after (u : Session) (cs : List Command) :
    (u.after u.start cs).touched = namesBlurred (sinceReset cs) := by
  induction cs using List.reverseRecOn with
  | nil => rfl
  | append_singleton cs c ih =>
    rw [after_concat]
    by_cases hr : c.isReset
    · rw [eq_reset hr, sinceReset_concat_reset]
      rfl
    · rw [sinceReset_concat hr]
      cases hb : c.blurred? with
      | none => rw [(u.leads_step _ c).touched hb hr, namesBlurred_concat hb, ih]
      | some name =>
        obtain rfl := blurred?_eq_some_iff.1 hb
        have hstep : (u.step (u.after u.start cs) (.blur name)).state =
            u.blur (u.after u.start cs) name := rfl
        rw [hstep, blur_touched, namesBlurred_concat_blur, ih]

theorem previous_step_of_writes (h : u.writes c) (s : State) :
    (u.step s c).state.previous = some s.values := by
  obtain ⟨name, value, revalidate, hstep⟩ := step_of_writes h s
  rw [hstep]
  exact u.write_previous s name value revalidate

theorem previous_after_of_idle (h : ∀ c ∈ cs, ¬ u.writes c ∧ ¬ c.isReset) (s : State) :
    (u.after s cs).previous = s.previous := by
  induction cs generalizing s with
  | nil => rfl
  | cons c cs ih =>
    obtain ⟨hc, hcs⟩ := List.forall_mem_cons.1 h
    exact (ih hcs _).trans ((u.leads_step s c).idle hc.1 hc.2).2

theorem previous_after_eq_none_iff (u : Session) (cs : List Command) :
    (u.after u.start cs).previous = none ↔ ∀ c ∈ sinceReset cs, ¬ u.writes c := by
  induction cs using List.reverseRecOn with
  | nil => exact ⟨fun _ _ ↦ nofun, fun _ ↦ rfl⟩
  | append_singleton cs c ih =>
    rw [after_concat]
    by_cases hr : c.isReset
    · rw [eq_reset hr, sinceReset_concat_reset]
      exact ⟨fun _ _ ↦ nofun, fun _ ↦ rfl⟩
    · rw [sinceReset_concat hr, List.forall_mem_append, List.forall_mem_singleton]
      by_cases hw : u.writes c
      · rw [previous_step_of_writes hw]
        exact ⟨nofun, fun h ↦ absurd hw h.2⟩
      · rw [((u.leads_step _ c).idle hw hr).2, ih, and_iff_left hw]

theorem shownComplaint?_eq_some_iff :
    shownComplaint? s name = some message ↔
      s.errors.lookup name = some message ∧ (s.submitted ∨ name ∈ s.touched) := by
  have hgate : (s.submitted || s.touched.contains name) ↔ s.submitted ∨ name ∈ s.touched := by
    rw [Bool.or_eq_true, List.contains_iff_mem]
  rw [shownComplaint?]
  split
  · next h => exact (and_iff_left (hgate.1 h)).symm
  · next h => exact ⟨nofun, fun hm ↦ absurd (hgate.2 hm.2) h⟩

structure Recalls (u : Session) (cs : List Command) (t : State) : Prop where
  submitted : t.submitted ↔ .submit ∈ sinceReset cs
  touched : t.touched = namesBlurred (sinceReset cs)
  unwritten : t.previous = none ↔ ∀ c ∈ sinceReset cs, ¬ u.writes c
  written : ∀ before c after, cs = before ++ c :: after → u.writes c →
    (∀ d ∈ after, ¬ u.writes d ∧ ¬ d.isReset) → t.previous = some (u.after u.start before).values
  decided : (u.decisions t).map Prod.fst = u.form.fields
  shown : ∀ (i : Nat) (f : Field), u.form.fields[i]? = some f →
    ∃ d : Decision, (u.decisions t)[i]? = some (f, d) ∧ ∀ message, d.error = some message ↔
      t.errors.lookup f.name = some message ∧
        (.submit ∈ sinceReset cs ∨ .blur f.name ∈ sinceReset cs)

/-- The state is what the commands since the last reset have made of it. -/
theorem recalls_after (u : Session) (cs : List Command) : u.Recalls cs (u.after u.start cs) where
  submitted := u.submitted_after_iff cs
  touched := u.touched_after cs
  unwritten := u.previous_after_eq_none_iff cs
  written := by
    rintro before c after rfl hw hafter
    have hlast := previous_after_of_idle hafter (u.step (u.after u.start before) c).state
    rw [after_append]
    exact hlast.trans (previous_step_of_writes hw _)
  decided := by
    rw [decisions, List.map_map]
    exact List.map_id _
  shown := by
    intro i f hf
    have hd : (u.decisions (u.after u.start cs))[i]? =
        some (f, decision (u.after u.start cs) f) := by
      rw [decisions, List.getElem?_map, hf, Option.map_some]
    refine ⟨_, hd, fun message ↦ ?_⟩
    rw [← submitted_after_iff, ← mem_namesBlurred, ← touched_after]
    exact shownComplaint?_eq_some_iff

/-- The first password is left empty; that it was ever touched is forgotten by the reset. -/
def mistyping : List Command :=
  [.submit, .blur "password", .reset, .set "again" (.string "one") false, .blur "again",
    .blur "again"]

def mistyped : State := signup.after signup.start mistyping

theorem recalls_after_mistyping :
    mistyped.submitted = false ∧ mistyped.touched = ["again"] ∧
    mistyped.previous = some signup.start.values ∧
    mistyped.errors = [("password", "Required"), ("again", "Different")] ∧
    (∃ d, (signup.decisions mistyped)[0]? = some (signup.form.fields[0], d) ∧ d.error = none) ∧
    ∃ d, (signup.decisions mistyped)[1]? = some (signup.form.fields[1], d) ∧
      d.error = some "Different" := by
  have h : signup.Recalls mistyping mistyped := recalls_after signup mistyping
  have hsince : sinceReset mistyping =
      [.set "again" (.string "one") false, .blur "again", .blur "again"] := rfl
  have hsubmit : .submit ∉ sinceReset mistyping := hsince ▸ by simp
  have hforgotten : .blur "password" ∉ sinceReset mistyping := hsince ▸ by simp
  have hblurred : .blur "again" ∈ sinceReset mistyping := hsince ▸ by simp
  have herrors : mistyped.errors = [("password", "Required"), ("again", "Different")] := by
    with_unfolding_all rfl
  obtain ⟨d, hd, hhidden⟩ := h.shown 0 _ rfl
  obtain ⟨e, he, hshown⟩ := h.shown 1 _ rfl
  refine ⟨?_, h.touched.trans rfl, ?_, herrors, ⟨d, hd, ?_⟩, e, he, ?_⟩
  · exact Bool.eq_false_iff.2 (mt h.submitted.1 hsubmit)
  · exact h.written [.submit, .blur "password", .reset] _ [.blur "again", .blur "again"] rfl rfl
      (by simp [writes, Command.isReset])
  · rw [Option.eq_none_iff_forall_ne_some]
    intro message hm
    exact ((hhidden message).1 hm).2.elim hsubmit hforgotten
  · exact (hshown "Different").2 ⟨herrors ▸ rfl, .inr hblurred⟩

end Session

end Formwork
