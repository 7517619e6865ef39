import Formwork.Proofs.Cascade.Moves
import Formwork.Proofs.Session.Waiting

namespace Formwork

theorem Field.mustClear_of_not_watches {f : Field} {after : Bag} (hw : ¬ f.Watches)
    (hne : f.clearRules ≠ []) (h : ∀ c ∈ f.clearRules, c.holds .clear after none) (before : Bag) :
    f.mustClear after (some before) := by
  have hall : allMet f.clearRules .clear after (some before) := by
    refine List.all_eq_true.2 fun c hc ↦ ?_
    have ho : c.operator ≠ .changed := fun ho ↦ hw ⟨c, hc, ho⟩
    rw [Condition.holds_of_ne_changed ho]
    exact h c hc
  rw [mustClear, hall, List.isEmpty_eq_false_iff.2 hne]
  rfl

namespace Session

variable {u : Session} {s t : State} {name : String} {value : Json} {cleared : List String}
  {f : Field}

theorem holdsNothing_write_of_all_hold (hd : u.form.fieldNames.Nodup)
    (hs : Cascade.Covers u.form.fields s.values) (hf : f ∈ u.form.fields) (hn : f.name ≠ name)
    (hw : ¬ f.Watches) {revalidate : Bool}
    (hall : ∀ c ∈ f.clearRules, c.holds .clear (u.write s name value revalidate).1.values none)
    (hm : f.seesChange (u.write s name value revalidate).1.values s.values) :
    f.holdsNothing ((u.write s name value revalidate).1.values.resolve? f.name) := by
  by_cases hc : f.name ∈ (u.passes s name value).flatten.map Field.name
  · exact holdsNothing_of_mem_cleared hd hf hc revalidate
  · rw [write_values] at hall hm
    obtain ⟨a, b, hab, hsees, hstill⟩ := Cascade.exists_last_change hm
    have hdue := (u.run_passes s name value).isDue_eq_false hab hf hn List.not_mem_nil hc
    have hne : f.clearRules ≠ [] := by
      obtain ⟨c, hc, _⟩ := List.any_eq_true.1 hsees
      exact List.ne_nil_of_mem hc
    -- Behind the last step that the field sees its conditions hold as they do in the end.
    have hfire : f.mustClear b (some a) := by
      refine Field.mustClear_of_not_watches hw hne (fun c hc ↦ ?_) a
      rw [← Condition.holds_none_of_sees_eq_false (hstill c hc)]
      exact hall c hc
    rw [Field.isDue, hsees, hfire, Bool.and_self, Bool.true_and, Bool.not_eq_false',
      resolve?_of_not_cleared hs hf hn hc hab] at hdue
    rw [resolve?_write_of_not_cleared hs hf hn hc]
    exact hdue

/-- No clear is missed for want of a condition on changes. -/
theorem holdsNothing_of_all_hold (hd : u.form.fieldNames.Nodup) (hs : u.Reachable s)
    (ha : u.Accepts s name value (t, cleared)) (hf : f ∈ u.form.fields) (hn : f.name ≠ name)
    (hw : ¬ f.Watches) (hall : ∀ c ∈ f.clearRules, c.holds .clear t.values none)
    (hm : t.previous.any (f.seesChange t.values)) :
    f.holdsNothing (t.values.resolve? f.name) := by
  obtain ⟨revalidate, he⟩ := ha.eq_write
  obtain rfl : t = (u.write s name value revalidate).1 := congrArg Prod.fst he
  rw [write_previous, Option.any_some] at hm
  exact holdsNothing_write_of_all_hold hd hs.covers hf hn hw hall hm

def townField : Field :=
  { Field.named "town" .text with
    defaultValue := some (.string "Troy"),
    clearRules := [⟨"state", .eq, some (.string "")⟩, ⟨"country", .neq, some (.string "us")⟩] }

/-- A form whose state goes with the country, and whose town goes where there is no state outside
one country. -/
def removal : Session where
  options := .standard
  form := ⟨none, none, none,
    [{ Field.named "country" .text with defaultValue := some (.string "us") }, stateField,
      townField], none, none⟩

def removed : State :=
  ⟨.ofList [("country", .string "ca"), ("state", .string ""), ("town", .string "")],
    some removal.start.values, [], [], false⟩

theorem holdsNothing_of_all_hold_removal :
    removal.form.fieldNames.Nodup ∧
    removal.Accepts removal.start "country" (.string "ca") (removed, ["state", "town"]) ∧
    (∀ c ∈ townField.clearRules, c.holds .clear removed.values none) ∧
    removed.previous.any (townField.seesChange removed.values) ∧
    townField.holdsNothing (removed.values.resolve? "town") := by
  have hd : removal.form.fieldNames.Nodup := by decide
  have hset : removal.set? removal.start "country" (.string "ca") false =
      some (removed, ["state", "town"]) := by
    with_unfolding_all rfl
  have hf : townField ∈ removal.form.fields := .tail _ (.tail _ (.head _))
  have hw : ¬ townField.Watches := by
    rintro ⟨c, hc, ho⟩
    simp only [townField, List.mem_cons, List.not_mem_nil, or_false] at hc
    rcases hc with rfl | rfl <;> cases ho
  have hall : ∀ c ∈ townField.clearRules, c.holds .clear removed.values none := by decide
  have hm : removed.previous.any (townField.seesChange removed.values) := by decide
  exact ⟨hd, .set hset, hall, hm,
    holdsNothing_of_all_hold hd .start (.set hset) hf (by decide) hw hall hm⟩

end Session

end Formwork
