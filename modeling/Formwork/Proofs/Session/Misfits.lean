import Formwork.Proofs.Cascade.Trail
import Formwork.Proofs.Condition.Support
import Formwork.Proofs.Form.Reordering
import Formwork.Proofs.Session.Substance

namespace Formwork

namespace Form

variable {form : Form} {f g h : Field}

def replace (form : Form) (g : Field) : Form :=
  { form with fields := form.fields.map fun f ↦ if f.name = g.name then g else f }

theorem mem_fields_replace (hf : f ∈ form.fields) (hn : f.name = g.name) :
    g ∈ (form.replace g).fields :=
  List.mem_map.2 ⟨f, hf, if_pos hn⟩

theorem eq_of_mem_fields_replace (hh : h ∈ (form.replace g).fields) (hn : h.name = g.name) :
    h = g := by
  obtain ⟨f, _, rfl⟩ := List.mem_map.1 hh
  by_cases hf : f.name = g.name
  · exact if_pos hf
  · rw [if_neg hf] at hn
    exact absurd hn hf

theorem substance_replace (hd : form.fieldNames.Nodup) (hf : f ∈ form.fields)
    (hs : g.substance = f.substance) :
    (form.replace g).substance = form.substance := by
  have hname : f.name = g.name := (congrArg Field.name hs.symm :)
  have hfields : ((form.replace g).fields.map Field.substance) =
      form.fields.map Field.substance := by
    rw [replace, List.map_map]
    refine List.map_congr_left fun e he ↦ ?_
    by_cases hn : e.name = g.name
    · rw [Function.comp_apply, if_pos hn, hs, eq_of_name_eq hd hf he (hn.trans hname.symm)]
    · rw [Function.comp_apply, if_neg hn]
  rw [substance, hfields]
  rfl

end Form

namespace Session

variable {u v : Session} {s : State} {f g : Field} {c : Condition} {purpose : Purpose} {i : Nat}

theorem decision_insertCondition (hi : i ≤ f.visibilityRules.length)
    (h : c.operator.isSupported .visibility = false)
    (s : State) : decision s (f.insertCondition i c .visibility) = decision s f := by
  rw [decision, decision, Field.isVisible_insertCondition hi h]
  rfl

theorem notMem_cleared_of_unsupported {name key : String} {value : Json}
    {change : State × List String} (h : ∀ g ∈ u.form.fields, g.name = key →
      ∃ c ∈ g.clearRules, c.operator.isSupported .clear = false)
    (ha : u.Accepts s name value change) : key ∉ change.2 := by
  intro hc
  obtain ⟨revalidate, rfl⟩ := ha.eq_write
  rw [write_cleared] at hc
  obtain ⟨g, hg, hn⟩ := List.mem_map.1 hc
  have hrun := u.run_passes s name value
  obtain ⟨c, hm, hs⟩ := h g (hrun.mem_flatten hg).1 hn
  obtain ⟨a, b, _, hdue⟩ := hrun.exists_isDue hg
  rw [Field.isDue_of_unsupported hm hs] at hdue
  exact Bool.false_ne_true hdue

def withField (u : Session) (g : Field) : Session := { u with form := u.form.replace g }

/-- A condition whose operator means nothing where it stands is in nobody's way, in any state that a
session gets into. It makes no difference to whether the field is visible, and among the others it
keeps the field from being disabled, unless it always is, and from being cleared. -/
theorem misfit_never_blocks (hd : u.form.fieldNames.Nodup) (hf : f ∈ u.form.fields)
    (hg : g = f.insertCondition i c purpose) (hi : i ≤ (f.conditions purpose).length)
    (hc : c.operator = .unknown ∨ c.operator = .changed ∧ purpose ≠ .clear) (hv : v = u.withField g)
    (cs : List Command) :
    g ∈ v.form.fields ∧
      match purpose with
      | .visibility =>
        v.run v.start cs = u.run u.start cs ∧
          decision (v.after v.start cs) g = decision (u.after u.start cs) f
      | .disable => (decision (v.after v.start cs) g).disabled = f.disabled
      | .clear => ∀ name value change, v.Accepts (v.after v.start cs) name value change →
        f.name ∉ change.2 := by
  have hname : g.name = f.name := hg ▸ f.insertCondition_name i c purpose
  have hm : c ∈ g.conditions purpose := hg ▸ Field.mem_conditions_insertCondition hi
  have hs : c.operator.isSupported purpose = false := Operator.isSupported_eq_false_iff.2 hc
  refine ⟨hv ▸ Form.mem_fields_replace hf hname.symm, ?_⟩
  cases purpose with
  | visibility =>
    have hsubstance : v.substance = u.substance := by
      rw [hv, withField, substance, Form.substance_replace hd hf (by rw [hg]; rfl)]
      rfl
    obtain ⟨hafter, hrun⟩ := run_eq_of_substance_eq hsubstance cs
    refine ⟨hrun, ?_⟩
    rw [hafter, hg]
    exact decision_insertCondition hi hs _
  | disable =>
    have hdisabled : g.disabled = f.disabled := by rw [hg]; rfl
    exact (g.isDisabled_of_unsupported hm hs _).trans hdisabled
  | clear =>
    intro name value change ha
    refine notMem_cleared_of_unsupported (fun e he hn ↦ ?_) ha
    rw [Form.eq_of_mem_fields_replace (hv ▸ he) (hn.trans hname.symm)]
    exact ⟨c, hm, hs⟩

/-- A region that goes with a country, and is not asked for in one country and fixed in another. -/
def region : Field :=
  { Field.named "region" .text with
    defaultValue := some (.string "NY"), visibilityRules :=
      [⟨"country", .neq, some (.string "sg")⟩],
    disableRules := [⟨"country", .eq, some (.string "ca")⟩], clearRules :=
      [⟨"country", .changed, none⟩] }

def relocation : Session where
  options := .standard
  form := ⟨none, none, none,
      [{ Field.named "country" .text with defaultValue := some (.string "us") }, region],
    none, none⟩

def toCanada : Command := .set "country" (.string "ca") false

def odd : Condition := ⟨"country", .unknown, some (.string "us")⟩

def watchful : Condition := ⟨"country", .changed, none⟩

def toldRegion : Field := region.insertCondition 0 watchful .visibility

def freeRegion : Field := region.insertCondition 1 watchful .disable

def keptRegion : Field := region.insertCondition 1 odd .clear

/-- The move leaves the region visible, disables it and clears it. With a misfit among the
conditions that decide on it the region is no less visible, it is not disabled, and it is kept. -/
theorem misfit_never_blocks_relocation :
    relocation.form.fieldNames.Nodup ∧ region ∈ relocation.form.fields ∧
    (relocation.step relocation.start toCanada).event = .changed ["region"] ∧
    decision (relocation.after relocation.start [toCanada]) region = ⟨true, true, false, none⟩ ∧
    decision
        ((relocation.withField toldRegion).after (relocation.withField toldRegion).start [toCanada])
        toldRegion =
      ⟨true, true, false, none⟩ ∧
    (decision
        ((relocation.withField freeRegion).after (relocation.withField freeRegion).start [toCanada])
        freeRegion).disabled = false ∧
    ∀ name value change,
      (relocation.withField keptRegion).Accepts
        (relocation.withField keptRegion).start name value change →
      "region" ∉ change.2 := by
  have hd : relocation.form.fieldNames.Nodup := by decide
  have hf : region ∈ relocation.form.fields := List.mem_cons_of_mem _ List.mem_cons_self
  have hdrawn : decision (relocation.after relocation.start [toCanada]) region =
      ⟨true, true, false, none⟩ := by
    with_unfolding_all rfl
  have htold : toldRegion = region.insertCondition 0 watchful .visibility := rfl
  have hfree : freeRegion = region.insertCondition 1 watchful .disable := rfl
  have hkept : keptRegion = region.insertCondition 1 odd .clear := rfl
  refine ⟨hd, hf, by with_unfolding_all rfl, hdrawn, ?_, ?_, ?_⟩
  · exact (misfit_never_blocks hd hf htold (by decide) (.inr ⟨rfl, nofun⟩) rfl
      [toCanada]).2.2.trans hdrawn
  · exact (misfit_never_blocks hd hf hfree (by decide) (.inr ⟨rfl, nofun⟩) rfl [toCanada]).2
  · exact (misfit_never_blocks hd hf hkept (by decide) (.inl rfl) rfl []).2

end Session

end Formwork
