import Formwork.Proofs.Cascade.Moves
import Formwork.Proofs.Session.Waiting

namespace Formwork.Session

variable {u : Session} {s t : State} {name path : String} {value : Json} {cleared : List String}
  {a b : Bag}

theorem ends_of_moved (hs : Cascade.Covers u.form.fields s.values)
    (hab : [a, b] <:+: u.trail s name value) (hm : b.resolve? path ≠ a.resolve? path)
    (revalidate : Bool) :
    a.resolve? path = s.values.resolve? path ∧
      b.resolve? path = (u.write s name value revalidate).1.values.resolve? path := by
  rw [write_values]
  refine (u.run_passes s name value).ends_of_moved (hs.insert name value) (fun h ↦ ?_) hab hm
  rw [Record.readKey_insert_of_moved h]
  exact List.mem_cons_self

theorem sees_write_of_adjacent (hs : Cascade.Covers u.form.fields s.values)
    (hab : [a, b] <:+: u.trail s name value) {c : Condition} (h : c.sees b a) (revalidate : Bool) :
    c.sees (u.write s name value revalidate).1.values s.values := by
  have hm : b.resolve? c.field ≠ a.resolve? c.field := by
    intro he
    rw [Condition.sees_eq_false he] at h
    cases h
  obtain ⟨ha, hb⟩ := ends_of_moved hs hab hm revalidate
  rwa [← Condition.sees_congr hb ha]

/-- The reasons for what was cleared, in the order of the report. Fields of one name share its
entry; it is kept where no condition of any of them saw a change. -/
structure Justified (u : Session) (s : State) (name : String) (t : State) (cleared : List String) :
    Prop where
  cause : ∀ i, (hi : i < cleared.length) →
    ∃ f ∈ u.form.fields, f.name = cleared[i] ∧ ∃ c ∈ f.clearRules,
      t.previous.any (c.sees t.values) ∧
      (c.field ∈ name :: cleared.take i ∨ pathHead c.field ∈ name :: cleared.take i)
  keeps : ∀ f ∈ u.form.fields, f.name ≠ name →
    (∀ g ∈ u.form.fields, g.name = f.name → t.previous.any (g.seesChange t.values) = false) →
    t.values.get? f.name = s.values.get? f.name ∧
    t.values.resolve? f.name = s.values.resolve? f.name

theorem cause_write (hs : Cascade.Covers u.form.fields s.values) (name : String) (value : Json)
    (revalidate : Bool) (i : Nat) (hi : i < (u.write s name value revalidate).2.length) :
    ∃ f ∈ u.form.fields, f.name = (u.write s name value revalidate).2[i] ∧ ∃ c ∈ f.clearRules,
      c.sees (u.write s name value revalidate).1.values s.values ∧
      (c.field ∈ name :: (u.write s name value revalidate).2.take i ∨
        pathHead c.field ∈ name :: (u.write s name value revalidate).2.take i) := by
  have hrun := u.run_passes s name value
  have hl : i < (u.passes s name value).flatten.length := by
    rwa [write_cleared, List.length_map] at hi
  have hsplit := (List.take_append_drop i (u.passes s name value).flatten).symm
  rw [List.drop_eq_getElem_cons hl] at hsplit
  have hrecent : ∀ k, k ∉ [name] → (s.values.insert name value).get? k = s.values.get? k := by
    intro k hk
    exact Record.get?_insert_of_ne s.values value (List.mem_singleton.not.1 hk)
  obtain ⟨a, b, hab, c, hc, hsees, hk⟩ := hrun.exists_cause hrecent hsplit
  simp only [write_cleared, List.getElem_map, ← List.map_take]
  exact ⟨_, (hrun.mem_flatten (List.getElem_mem hl)).1, rfl, c, hc,
    sees_write_of_adjacent hs hab hsees revalidate, hk⟩

theorem justified_write (hs : Cascade.Covers u.form.fields s.values) (name : String) (value : Json)
    (revalidate : Bool) :
    u.Justified s name (u.write s name value revalidate).1 (u.write s name value revalidate).2 := by
  have hcause := cause_write hs name value revalidate
  refine ⟨by simpa only [write_previous, Option.any_some] using hcause, fun f hf hn hstill ↦ ?_⟩
  have hc : f.name ∉ (u.write s name value revalidate).2 := by
    intro hc
    obtain ⟨i, hi, he⟩ := List.mem_iff_getElem.1 hc
    obtain ⟨g, hg, hgn, c, hcg, hsees, _⟩ := hcause i hi
    have hmoved : g.seesChange (u.write s name value revalidate).1.values s.values :=
      List.any_eq_true.2 ⟨c, hcg, hsees⟩
    have hg' := hstill g hg (hgn.trans he)
    rw [write_previous, Option.any_some, hmoved] at hg'
    cases hg'
  exact ⟨(effect_write hs name value revalidate).keeps f.name hn hc,
    resolve?_write_of_not_cleared hs hf hn hc revalidate⟩

theorem justified_of_accepts (hs : u.Reachable s) (h : u.Accepts s name value (t, cleared)) :
    u.Justified s name t cleared := by
  obtain ⟨revalidate, he⟩ := h.eq_write
  have hw := justified_write hs.covers name value revalidate
  rwa [← he] at hw

theorem justified_of_accepts_journey :
    journey.Reachable journey.start ∧
    journey.Accepts journey.start "country" (.string "ca") (abroad, ["state", "city", "city"]) ∧
    journey.Justified journey.start "country" abroad ["state", "city", "city"] := by
  have h : journey.set? journey.start "country" (.string "ca") false =
      some (abroad, ["state", "city", "city"]) := by with_unfolding_all rfl
  exact ⟨.start, .set h, justified_of_accepts .start (.set h)⟩

def freeState : Field := { Field.named "state" .text with defaultValue := some (.string "NY") }

/-- A country, a state that goes with it, and a field of the same name that goes with nothing. -/
def detour : Session where
  options := .standard
  form := ⟨none, none, none,
    [{ Field.named "country" .text with defaultValue := some (.string "us") }, stateField,
      freeState], none, none⟩

def detoured : State :=
  ⟨.ofList [("country", .string "ca"), ("state", .string "")], some detour.start.values,
    [], [], false⟩

/-- Nothing that the last field waits for has moved, as it waits for nothing, but its entry is that
of the other one. -/
theorem not_kept_whenever_nothing_moved :
    ¬ ∀ (u : Session) (s t : State) (name : String) (value : Json) (cleared : List String)
      (f : Field),
      u.Reachable s → u.Accepts s name value (t, cleared) → f ∈ u.form.fields → f.name ≠ name →
      t.previous.any (f.seesChange t.values) = false →
      t.values.get? f.name = s.values.get? f.name := by
  intro h
  have hset : detour.set? detour.start "country" (.string "ca") false =
      some (detoured, ["state"]) := by
    with_unfolding_all rfl
  have hf : freeState ∈ detour.form.fields := .tail _ (.tail _ (.head _))
  have hkept : some (Json.string "") = some (Json.string "NY") :=
    h detour detour.start detoured _ _ _ freeState .start (.set hset) hf (by decide) rfl
  exact absurd (Json.string.inj (Option.some.inj hkept)) (by decide)

end Formwork.Session
