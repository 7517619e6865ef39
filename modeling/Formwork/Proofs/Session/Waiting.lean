import Formwork.Proofs.Cascade.Trail
import Formwork.Proofs.Condition.Equality
import Formwork.Proofs.Form.Reordering
import Formwork.Proofs.Session.Effect

namespace Formwork

/-- All that the field waits for comes between two bags: the paths that it watches for changes have
moved, and its other conditions hold behind the move. -/
def Field.FiresBetween (f : Field) (before after : Bag) : Prop :=
  (∀ c ∈ f.clearRules, c.operator = .changed → c.sees after before) ∧
    ∀ c ∈ f.clearRules, c.operator ≠ .changed → c.holds .clear after none

def Field.Watches (f : Field) : Prop := ∃ c ∈ f.clearRules, c.operator = .changed

namespace Field

variable {f : Field} {before after : Bag}

theorem mustClear_iff (hw : f.Watches) :
    f.mustClear after (some before) ↔ f.FiresBetween before after := by
  obtain ⟨c₀, hc₀, _⟩ := hw
  have hne : f.clearRules.isEmpty = false := by
    rw [List.isEmpty_eq_false_iff]
    exact List.ne_nil_of_mem hc₀
  rw [mustClear, hne, Bool.not_false, Bool.true_and, allMet, List.all_eq_true]
  constructor
  · intro h
    refine ⟨fun c hc ho ↦ ?_, fun c hc ho ↦ ?_⟩
    · exact Condition.holds_of_changed ho after before ▸ h c hc
    · exact Condition.holds_of_ne_changed ho after (some before) ▸ h c hc
  · rintro ⟨hch, hst⟩ c hc
    by_cases ho : c.operator = .changed
    · exact Condition.holds_of_changed ho after before ▸ hch c hc ho
    · exact Condition.holds_of_ne_changed ho after (some before) ▸ hst c hc ho

theorem isDue_of_fires (hw : f.Watches) (h : f.FiresBetween before after)
    (hv : f.holdsNothing (after.resolve? f.name) = false) : f.isDue after before := by
  obtain ⟨c, hc, ho⟩ := hw
  have hs : f.seesChange after before := List.any_eq_true.2 ⟨c, hc, h.1 c hc ho⟩
  rw [isDue, hs, (mustClear_iff ⟨c, hc, ho⟩).2 h, hv]
  rfl

theorem fires_of_isDue (hw : f.Watches) (h : f.isDue after before) :
    f.FiresBetween before after := by
  simp only [isDue, Bool.and_eq_true] at h
  exact (mustClear_iff hw).1 h.1.2

theorem holdsNothing_blankValue (f : Field) : f.holdsNothing (some f.blankValue) := by
  rw [holdsNothing, Json.sameOption_self, Bool.or_true]

theorem FiresBetween.congr {after' : Bag} (h : f.FiresBetween before after)
    (he : ∀ c ∈ f.clearRules, after.resolve? c.field = after'.resolve? c.field) :
    f.FiresBetween before after' := by
  refine ⟨fun c hc ho ↦ ?_, fun c hc ho ↦ ?_⟩
  · exact Condition.sees_congr (he c hc) rfl ▸ h.1 c hc ho
  · exact Condition.holds_none_congr (he c hc) .clear ▸ h.2 c hc ho

theorem holdsNothing_of_blank {b : Bag} (h : b.get? f.name = some f.blankValue) :
    f.holdsNothing (b.resolve? f.name) := by
  by_cases hn : f.name = ""
  · rw [hn, Record.resolve?_empty]
    rfl
  · have hc : b.contains f.name := by rw [Record.contains, h, Option.isSome_some]
    rw [Record.resolve?_of_contains hn hc, h]
    exact f.holdsNothing_blankValue

end Field

namespace Session

variable {u : Session} {s t : State} {name : String} {value : Json} {cleared : List String}
  {f : Field}

def trail (u : Session) (s : State) (name : String) (value : Json) : List Bag :=
  Cascade.trail (s.values.insert name value) s.values (u.passes s name value)

theorem mem_passes_of_mem_cleared (hd : u.form.fieldNames.Nodup) (hf : f ∈ u.form.fields)
    (hc : f.name ∈ (u.passes s name value).flatten.map Field.name) :
    f ∈ (u.passes s name value).flatten := by
  obtain ⟨g, hg, he⟩ := List.mem_map.1 hc
  have hm := ((u.run_passes s name value).mem_flatten hg).1
  exact Form.eq_of_name_eq hd hf hm he ▸ hg

theorem holdsNothing_of_mem_cleared (hd : u.form.fieldNames.Nodup) (hf : f ∈ u.form.fields)
    (hc : f.name ∈ (u.passes s name value).flatten.map Field.name) (revalidate : Bool) :
    f.holdsNothing ((u.write s name value revalidate).1.values.resolve? f.name) := by
  obtain ⟨g, hg, he, hv⟩ := Cascade.exists_get?_clearAll hc (s.values.insert name value)
  obtain rfl := Form.eq_of_name_eq hd hf ((u.run_passes s name value).mem_flatten hg).1 he
  rw [write_values]
  exact Field.holdsNothing_of_blank hv

section

variable (hs : Cascade.Covers u.form.fields s.values) (hf : f ∈ u.form.fields) (hn : f.name ≠ name)
  (hc : f.name ∉ (u.passes s name value).flatten.map Field.name)

include hs hf hn hc

theorem resolve?_write_of_not_cleared (revalidate : Bool) :
    (u.write s name value revalidate).1.values.resolve? f.name = s.values.resolve? f.name :=
  have hkept := (effect_write hs name value revalidate).keeps f.name hn hc
  (Record.resolve?_congr_of_contains (hs f hf) hkept.symm).symm

theorem resolve?_of_not_cleared {a b : Bag} (hab : [a, b] <:+: u.trail s name value) :
    b.resolve? f.name = s.values.resolve? f.name := by
  refine (Record.resolve?_congr_of_contains (hs f hf) ?_).symm
  rw [Cascade.get?_of_adjacent hab hc, Record.get?_insert_of_ne s.values value hn]

end

theorem holdsNothing_write_iff (hd : u.form.fieldNames.Nodup)
    (hs : Cascade.Covers u.form.fields s.values) (hf : f ∈ u.form.fields) (hn : f.name ≠ name)
    (hw : f.Watches) (value : Json) (revalidate : Bool) :
    f.holdsNothing ((u.write s name value revalidate).1.values.resolve? f.name) ↔
      f.holdsNothing (s.values.resolve? f.name) ∨
        ∃ before after, [before, after] <:+: u.trail s name value ∧
    f.FiresBetween before after := by
  have hrun := u.run_passes s name value
  by_cases hc : f.name ∈ (u.passes s name value).flatten.map Field.name
  · refine iff_of_true (holdsNothing_of_mem_cleared hd hf hc revalidate) (.inr ?_)
    obtain ⟨a, b, hab, hdue⟩ := hrun.exists_isDue (mem_passes_of_mem_cleared hd hf hc)
    exact ⟨a, b, hab, Field.fires_of_isDue hw hdue⟩
  · rw [resolve?_write_of_not_cleared hs hf hn hc]
    refine ⟨.inl, fun h ↦ h.elim id fun ⟨a, b, hab, hfire⟩ ↦ ?_⟩
    -- A comparison at which the field fires makes it due there, unless its entry holds nothing all
    -- along.
    refine eq_true_of_ne_false fun hheld ↦ ?_
    have hdue := Field.isDue_of_fires hw hfire (resolve?_of_not_cleared hs hf hn hc hab ▸ hheld)
    rw [hrun.isDue_eq_false hab hf hn List.not_mem_nil hc] at hdue
    cases hdue

/-- Where all conditions of a field that watches for changes hold in the end, the field is empty
exactly if it was before the change, or if all that it waits for came in one step. In particular it
is if the cascade moves none of the paths that it looks at. -/
theorem holdsNothing_iff_fires_in_one_step (hd : u.form.fieldNames.Nodup) (hs : u.Reachable s)
    (ha : u.Accepts s name value (t, cleared)) (hf : f ∈ u.form.fields) (hn : f.name ≠ name)
    (hw : f.Watches) (hm : f.mustClear t.values t.previous) :
    (f.holdsNothing (t.values.resolve? f.name) ↔
      f.holdsNothing (s.values.resolve? f.name) ∨
        ∃ before after, [before, after] <:+: u.trail s name value ∧ f.FiresBetween before after) ∧
    ((∀ c ∈ f.clearRules, t.values.resolve? c.field =
      (s.values.insert name value).resolve? c.field) →
      f.holdsNothing (t.values.resolve? f.name)) := by
  obtain ⟨revalidate, he⟩ := ha.eq_write
  obtain rfl : t = (u.write s name value revalidate).1 := congrArg Prod.fst he
  have hiff := holdsNothing_write_iff hd hs.covers hf hn hw value revalidate
  refine ⟨hiff, fun hstill ↦ hiff.2 (.inr ⟨s.values, s.values.insert name value, ?_, ?_⟩)⟩
  · exact Cascade.adjacent_trail_first _ _ _
  · rw [write_previous] at hm
    exact ((Field.mustClear_iff hw).1 hm).congr hstill

def stateField : Field :=
  { Field.named "state" .text with
    defaultValue := some (.string "NY"), clearRules := [⟨"country", .changed, none⟩] }

/-- A city that is to be cleared once the country changes and there is no state. -/
def cityField : Field :=
  { Field.named "city" .text with
    defaultValue := some (.string "Troy"),
    clearRules := [⟨"country", .changed, none⟩, ⟨"state", .eq, some (.string "")⟩] }

def visit : Session where
  options := .standard
  form := ⟨none, none, none,
    [{ Field.named "country" .text with defaultValue := some (.string "us") }, stateField,
      cityField], none, none⟩

def visited : State :=
  ⟨.ofList [("city", .string "Troy"), ("country", .string "ca"), ("state", .string "")],
    some visit.start.values, [], [], false⟩

theorem visit_set :
    visit.set? visit.start "country" (.string "ca") false = some (visited, ["state"]) := by
  with_unfolding_all rfl

theorem holdsNothing_iff_fires_in_one_step_visit :
    visit.form.fieldNames.Nodup ∧
    visit.Accepts visit.start "country" (.string "ca") (visited, ["state"]) ∧
    stateField.mustClear visited.values visited.previous ∧
    (stateField.holdsNothing (visited.values.resolve? "state") ↔
      stateField.holdsNothing (visit.start.values.resolve? "state") ∨
        ∃ before after, [before, after] <:+: visit.trail visit.start "country" (.string "ca") ∧
          stateField.FiresBetween before after) := by
  have hd : visit.form.fieldNames.Nodup := by decide
  have hf : stateField ∈ visit.form.fields := .tail _ (.head _)
  have hw : stateField.Watches := ⟨⟨"country", .changed, none⟩, .head _, rfl⟩
  have hm : stateField.mustClear visited.values visited.previous := by decide
  have h := holdsNothing_iff_fires_in_one_step hd .start (.set visit_set) hf (by decide) hw hm
  exact ⟨hd, .set visit_set, hm, h.1⟩

/-- The city is not cleared: when the country changes there is still a state, and when the state is
gone the country does not change any more. -/
theorem not_cleared_whenever_all_holds :
    ¬ ∀ (u : Session) (s t : State) (name : String) (value : Json) (cleared : List String)
      (f : Field),
      u.form.fieldNames.Nodup → u.Reachable s → u.Accepts s name value (t, cleared) →
      f ∈ u.form.fields → f.name ≠ name → f.Watches → f.mustClear t.values t.previous →
      f.holdsNothing (t.values.resolve? f.name) := by
  intro h
  have hd : visit.form.fieldNames.Nodup := by decide
  have hf : cityField ∈ visit.form.fields := .tail _ (.tail _ (.head _))
  have hw : cityField.Watches := ⟨⟨"country", .changed, none⟩, .head _, rfl⟩
  have hm : cityField.mustClear visited.values visited.previous := by decide
  have hn :=
    h visit visit.start visited _ _ _ cityField hd .start (.set visit_set) hf (by decide) hw hm
  exact absurd hn (by decide)

end Session

end Formwork
