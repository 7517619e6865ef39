import Formwork.Proofs.Session.Run
import Mathlib.Data.List.Forall2

namespace Formwork

def State.data (s : State) : State := { s with errors := [] }

theorem State.data_eq_iff {s t : State} :
    s.data = t.data ↔
      s.values = t.values ∧ s.previous = t.previous ∧ s.touched = t.touched ∧
      s.submitted = t.submitted := by
  simp only [data, State.mk.injEq, true_and]

def Event.deed? : Event → Option Event
  | .submitted | .submitRejected _ => none
  | e => some e

def Decision.layout (d : Decision) : Bool × Bool × Bool := (d.visible, d.disabled, d.reserveSpace)

inductive Command.SameDeed : Command → Command → Prop
  | set (name : String) (value : Json) (revalidate revalidate' : Bool) :
      SameDeed (.set name value revalidate) (.set name value revalidate')
  | blur (name : String) : SameDeed (.blur name) (.blur name)
  | clear (name : String) : SameDeed (.clear name) (.clear name)
  | submit : SameDeed .submit .submit
  | reset : SameDeed .reset .reset

namespace Session

def layouts (u : Session) (s : State) : List (Field × Bool × Bool × Bool) :=
  (u.decisions s).map fun p ↦ (p.1, p.2.layout)

/-- What a step has to do with the data: the state without its complaints, the event unless it is
the verdict on a submission, and how the fields are drawn. -/
def imprint (u : Session) (x : Step) : State × Option Event × List (Field × Bool × Bool × Bool) :=
  (x.state.data, x.event.deed?, u.layouts x.state)

structure SharesData (u v : Session) : Prop where
  form : u.form = v.form
  initialValues : u.options.initialValues = v.options.initialValues

theorem write_data (u : Session) (s : State) (name : String) (value : Json) (revalidate : Bool) :
    (u.write s name value revalidate).1.data = (u.written s name value).data := by
  rw [write_state]
  split <;> rfl

theorem blur_data (u : Session) (s : State) (name : String) :
    (u.blur s name).data =
      { s.data with
        touched := if s.touched.contains name then s.touched else s.touched ++ [name] } := by
  rw [blur]
  split <;> rfl

theorem deed?_step_submit (u : Session) (s : State) : (u.step s .submit).event.deed? = none := by
  by_cases h : u.complaints s.values = []
  · rw [step_submit_of_nil h]
    rfl
  · rw [step_submit_of_ne_nil h]
    rfl

namespace SharesData

variable {u v : Session} {s t : State} {c d : Command} {cs ds : List Command} {x y : Step}

theorem layouts_eq (h : u.SharesData v) (hst : s.data = t.data) : u.layouts s = v.layouts t := by
  have hvalues := (State.data_eq_iff.1 hst).1
  simp only [layouts, decisions, List.map_map, h.form]
  refine List.map_congr_left fun f _ ↦ ?_
  simp only [Function.comp_apply, decision, Decision.layout, hvalues]

theorem imprint_eq (h : u.SharesData v) (hs : x.state.data = y.state.data)
    (he : x.event.deed? = y.event.deed?) :
    u.imprint x = v.imprint y := by
  rw [imprint, imprint, hs, he, h.layouts_eq hs]

theorem start_eq (h : u.SharesData v) : u.start = v.start := by
  rw [start, start, initial, initial, h.form, h.initialValues]

theorem admits_eq (h : u.SharesData v) (name : String) (value : Json) :
    u.admits name value = v.admits name value := by
  simp only [admits, h.form]

theorem passes_eq (h : u.SharesData v) (hst : s.data = t.data) (name : String) (value : Json) :
    u.passes s name value = v.passes t name value := by
  have hvalues := (State.data_eq_iff.1 hst).1
  rw [passes, passes, h.form, hvalues]

theorem written_eq (h : u.SharesData v) (hst : s.data = t.data) (name : String) (value : Json) :
    (u.written s name value).data = (v.written t name value).data := by
  obtain ⟨hvalues, _, htouched, hsubmitted⟩ := State.data_eq_iff.1 hst
  simp only [State.data, written, h.passes_eq hst, hvalues, htouched, hsubmitted]

theorem imprint_write (h : u.SharesData v) (hst : s.data = t.data) (name : String) (value : Json)
    (revalidate revalidate' : Bool) :
    u.imprint (notifying (u.write s name value revalidate)) =
      v.imprint (notifying (v.write t name value revalidate')) := by
  refine h.imprint_eq ?_ ?_
  · simp only [notifying, write_data, h.written_eq hst]
  · simp only [notifying, write_cleared, h.passes_eq hst]

theorem imprint_step (h : u.SharesData v) (hst : s.data = t.data) (hc : c.SameDeed d) :
    u.imprint (u.step s c) = v.imprint (v.step t d) := by
  cases hc with
  | set name value revalidate revalidate' =>
    by_cases ha : u.admits name value
    · have ha' : v.admits name value := h.admits_eq name value ▸ ha
      rw [step_set_of_admits ha, step_set_of_admits ha']
      exact h.imprint_write hst name value revalidate revalidate'
    · have ha' : ¬ v.admits name value := h.admits_eq name value ▸ ha
      rw [step_set_of_not_admits ha, step_set_of_not_admits ha']
      exact h.imprint_eq hst rfl
  | blur name =>
    have htouched := (State.data_eq_iff.1 hst).2.2.1
    refine h.imprint_eq ?_ rfl
    simp only [step, blur_data, hst, htouched]
  | clear name =>
    cases hf : u.form.field? name with
    | none =>
      rw [step_clear_of_none hf, step_clear_of_none (h.form ▸ hf)]
      exact h.imprint_eq hst rfl
    | some f =>
      rw [step_clear_of_some hf, step_clear_of_some (h.form ▸ hf)]
      exact h.imprint_write hst name f.blankValue false false
  | submit =>
    refine h.imprint_eq ?_ ?_
    · rw [step_submit, step_submit]
      exact congrArg (fun w : State ↦ { w with submitted := true }) hst
    · rw [deed?_step_submit, deed?_step_submit]
  | reset => exact h.imprint_eq (congrArg State.data h.start_eq) rfl

theorem imprint_run (h : u.SharesData v) (hc : List.Forall₂ Command.SameDeed cs ds)
    (hst : s.data = t.data) :
    (u.run s cs).map u.imprint = (v.run t ds).map v.imprint := by
  -- What carries the induction is that the data agree behind each step; the complaints may part for
  -- good.
  induction hc generalizing s t with
  | nil => rfl
  | @cons c d cs ds hcd _ ih =>
    have hstep := h.imprint_step hst hcd
    have hdata : (u.step s c).state.data = (v.step t d).state.data := congrArg Prod.fst hstep
    rw [run, run, List.map_cons, List.map_cons, hstep, ih hdata]

end SharesData

/-- Validation leaves no mark on the data, and neither does anybody who listens. -/
theorem imprint_perform_eq {u v : Session} {cs ds : List Command} {σ τ : Type} (h : u.SharesData v)
    (hc : List.Forall₂ Command.SameDeed cs ds) (a : Audience σ) (b : Audience τ) (m : σ) (n : τ) :
    u.start.data = v.start.data ∧ u.layouts u.start = v.layouts v.start ∧
      ((u.perform a u.start m cs).map Prod.fst).map u.imprint =
        ((v.perform b v.start n ds).map Prod.fst).map v.imprint := by
  have hstart : u.start.data = v.start.data := congrArg State.data h.start_eq
  refine ⟨hstart, h.layouts_eq hstart, ?_⟩
  rw [map_fst_perform, map_fst_perform]
  exact h.imprint_run hc hstart

/-- A kind of leave, and a reason that is asked for with one kind and goes with it. -/
def leave : Form :=
  ⟨none, none, none, [
    { Field.named "kind" .text with defaultValue := some (.string "sick") },
    { Field.named "reason" .text with
      defaultValue := some (.string "flu"), validation := [.ofKind .required],
      clearRules := [⟨"kind", .changed, none⟩], visibilityRules :=
        [⟨"kind", .eq, some (.string "other")⟩] }],
    none, none⟩

def lenient : Session := ⟨leave, .standard⟩

def strict : Session :=
  ⟨leave, ⟨.onChange, .jsonSchema, false, none, some fun _ ↦ [("kind", "Closed")]⟩⟩

def applying : List Command :=
  [.set "kind" (.string "other") false, .submit, .blur "reason", .reset]

def insisting : List Command :=
  [.set "kind" (.string "other") true, .submit, .blur "reason", .reset]

def nobody : Audience Unit := ⟨none, none⟩

def counter : Audience Nat := ⟨some fun n _ ↦ n + 1, some fun n _ ↦ n + 1⟩

/-- The change clears the reason in both sessions, and only one of them has anything to say about
it. -/
theorem imprint_perform_eq_leave :
    lenient.SharesData strict ∧ List.Forall₂ Command.SameDeed applying insisting ∧
    (lenient.after lenient.start (applying.take 1)).errors = [] ∧
    (strict.after strict.start (insisting.take 1)).errors =
      [("reason", "Required"), ("kind", "Closed")] ∧
    ((lenient.perform nobody lenient.start () applying).map Prod.fst).map lenient.imprint =
      ((strict.perform counter strict.start 0 insisting).map Prod.fst).map strict.imprint := by
  have h : lenient.SharesData strict := ⟨rfl, rfl⟩
  have hdeeds : List.Forall₂ Command.SameDeed applying insisting :=
    .cons (.set _ _ _ _) (.cons .submit (.cons (.blur _) (.cons .reset .nil)))
  obtain ⟨_, _, hsame⟩ := imprint_perform_eq h hdeeds nobody counter () 0
  exact ⟨h, hdeeds, by with_unfolding_all rfl, by with_unfolding_all rfl, hsame⟩

end Session

end Formwork
