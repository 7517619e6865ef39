import Formwork.Proofs.Session.Reachable

namespace Formwork.Session

/-- What comes of writing `value` under `name`. Where several fields share the name of a cleared
entry, it is one of them that found something there before the change and decides what is there
now. -/
structure Effect (u : Session) (s : State) (name : String) (value : Json) (t : State)
    (cleared : List String) : Prop where
  edited : t.values.get? name = some value
  clears : ∀ c ∈ cleared, c ≠ name ∧ ∃ f ∈ u.form.fields, f.name = c ∧
    f.holdsNothing (s.values.get? c) = false ∧ t.values.get? c = some f.blankValue
  keeps : ∀ k, k ≠ name → k ∉ cleared → t.values.get? k = s.values.get? k
  keys : ∀ k, t.values.contains k → s.values.contains k ∨ k = name
  previous : t.previous = some s.values

variable {u : Session} {s t : State} {name : String} {value : Json} {cleared : List String}

theorem get?_write_self (u : Session) (s : State) (name : String) (value : Json)
    (revalidate : Bool) :
    (u.write s name value revalidate).1.values.get? name = some value := by
  have hn : name ∉ (u.passes s name value).flatten.map Field.name := by
    intro h
    obtain ⟨f, hf, he⟩ := List.mem_map.1 h
    exact ((u.run_passes s name value).mem_flatten hf).2.1 he
  rw [write_values, Cascade.get?_clearAll_of_notMem hn, Record.get?_insert_self]

theorem effect_write (hs : Cascade.Covers u.form.fields s.values) (name : String) (value : Json)
    (revalidate : Bool) :
    u.Effect s name value (u.write s name value revalidate).1
      (u.write s name value revalidate).2 := by
  have hrun := u.run_passes s name value
  have hcov := hs.insert name value
  have hkeeps : ∀ k, k ≠ name → k ∉ (u.write s name value revalidate).2 →
      (u.write s name value revalidate).1.values.get? k = s.values.get? k := by
    intro k hk hc
    rw [write_cleared] at hc
    rw [write_values, Cascade.get?_clearAll_of_notMem hc,
      Record.get?_insert_of_ne s.values value hk]
  refine ⟨u.get?_write_self s name value revalidate, fun c hc ↦ ?_, hkeeps, fun k hk ↦ ?_,
    write_previous u s name value revalidate⟩
  · rw [write_cleared] at hc
    obtain ⟨f, hf, rfl, hv⟩ := Cascade.exists_get?_clearAll hc (s.values.insert name value)
    obtain ⟨hm, hn, _⟩ := hrun.mem_flatten hf
    have hheld :=
      Cascade.holdsNothing_get?_eq_false (hcov f hm) (hrun.holdsNothing_eq_false hcov hf)
    rw [Record.get?_insert_of_ne s.values value hn] at hheld
    exact ⟨hn, f, hm, rfl, hheld, write_values u s name value revalidate ▸ hv⟩
  · by_cases hn : k = name
    · exact .inr hn
    · by_cases hc : k ∈ (u.write s name value revalidate).2
      · rw [write_cleared] at hc
        obtain ⟨f, hf, rfl⟩ := List.mem_map.1 hc
        exact .inl (hs f (hrun.mem_flatten hf).1)
      · exact .inl (Record.contains_congr (hkeeps k hn hc) ▸ hk)

theorem effect_of_accepts (hs : u.Reachable s) (h : u.Accepts s name value (t, cleared)) :
    u.Effect s name value t cleared := by
  obtain ⟨revalidate, he⟩ := h.eq_write
  have hw := effect_write hs.covers name value revalidate
  rwa [← he] at hw

/-- A country, a state that goes with it, and two fields for one city, which goes with the state. -/
def journey : Session where
  options := .standard
  form := ⟨none, none, none, [
    { Field.named "country" .text with defaultValue := some (.string "us") },
    { Field.named "state" .text with
      defaultValue := some (.string "NY"), clearRules := [⟨"country", .changed, none⟩] },
    { Field.named "city" .date with clearRules := [⟨"state", .changed, none⟩] },
    { Field.named "city" .text with
      defaultValue := some (.string "Troy"), clearRules :=
        [⟨"state", .eq, some (.string "")⟩] }], none, none⟩

def abroad : State :=
  ⟨.ofList [("city", .string ""), ("country", .string "ca"), ("state", .string "")],
    some journey.start.values, [], [], false⟩

theorem effect_of_accepts_journey :
    journey.Reachable journey.start ∧
    journey.Accepts journey.start "country" (.string "ca") (abroad, ["state", "city", "city"]) ∧
    journey.Effect journey.start "country" (.string "ca") abroad ["state", "city", "city"] := by
  have h : journey.set? journey.start "country" (.string "ca") false =
      some (abroad, ["state", "city", "city"]) := by with_unfolding_all rfl
  exact ⟨.start, .set h, effect_of_accepts .start (.set h)⟩

end Formwork.Session
