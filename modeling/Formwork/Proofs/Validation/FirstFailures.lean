import Formwork.Proofs.Validation.Reordering
import Mathlib.Data.List.Induction

namespace Formwork.Form

structure FailsFirst (backend : Backend) (bag : Bag) (fields : List Field) (i : Nat)
    (e : String × String) : Prop where
  fails : ∃ f, fields[i]? = some f ∧ f.name = e.1 ∧
      (f.checks backend).validate (bag.get? e.1) = some e.2
  silent : ∀ j < i, ∀ g, fields[j]? = some g → g.name = e.1 →
      (g.checks backend).validate (bag.get? e.1) = none

variable {backend : Backend} {bag : Bag} {fields : List Field} {f : Field} {i : Nat}
  {e : String × String}

theorem FailsFirst.lt_length (h : FailsFirst backend bag fields i e) : i < fields.length := by
  obtain ⟨f, hf, -⟩ := h.fails
  exact (List.getElem?_eq_some_iff.1 hf).1

theorem failsFirst_concat_of_lt (hi : i < fields.length) :
    FailsFirst backend bag (fields ++ [f]) i e ↔ FailsFirst backend bag fields i e := by
  have hsame : ∀ j ≤ i, (fields ++ [f])[j]? = fields[j]? := fun j hj ↦
    List.getElem?_append_left (Nat.lt_of_le_of_lt hj hi)
  constructor
  · rintro ⟨hfails, hsilent⟩
    rw [hsame i (Nat.le_refl i)] at hfails
    exact ⟨hfails, fun j hj g hg ↦ hsilent j hj g (hsame j (Nat.le_of_lt hj) ▸ hg)⟩
  · rintro ⟨hfails, hsilent⟩
    rw [← hsame i (Nat.le_refl i)] at hfails
    exact ⟨hfails, fun j hj g hg ↦ hsilent j hj g (hsame j (Nat.le_of_lt hj) ▸ hg)⟩

theorem FailsFirst.concat (h : FailsFirst backend bag fields i e) (f : Field) :
    FailsFirst backend bag (fields ++ [f]) i e :=
  (failsFirst_concat_of_lt h.lt_length).2 h

theorem failsFirst_concat_length :
    FailsFirst backend bag (fields ++ [f]) fields.length e ↔
      (∀ g ∈ fields, g.name = e.1 → (g.checks backend).validate (bag.get? e.1) = none) ∧
        f.name = e.1 ∧ (f.checks backend).validate (bag.get? e.1) = some e.2 := by
  have hlast : (fields ++ [f])[fields.length]? = some f := List.getElem?_concat_length
  have hbefore : ∀ j < fields.length, (fields ++ [f])[j]? = fields[j]? :=
    fun _ hj ↦ List.getElem?_append_left hj
  constructor
  · rintro ⟨⟨_, hf, hfails⟩, hsilent⟩
    obtain rfl := Option.some.inj (hlast.symm.trans hf)
    refine ⟨fun g hg ↦ ?_, hfails⟩
    obtain ⟨j, hj, rfl⟩ := List.getElem_of_mem hg
    exact hsilent j hj _ ((hbefore j hj).trans (List.getElem?_eq_getElem hj))
  · rintro ⟨hsilent, hfails⟩
    refine ⟨⟨f, hlast, hfails⟩, fun j hj g hg ↦ hsilent g ?_⟩
    exact List.mem_of_getElem? ((hbefore j hj).symm.trans hg)

theorem outstanding_concat (backend : Backend) (bag : Bag) (fields : List Field) (f : Field) :
    outstanding backend bag [] (fields ++ [f]) =
      outstanding backend bag [] fields ++
        outstanding backend bag ((outstanding backend bag [] fields).map Prod.fst) [f] := by
  have hfold : ∀ gs, gs.foldl (FormChecks.complain bag) [] = FormChecks.outstanding bag [] gs := by
    intro gs
    exact FormChecks.foldl_complain bag gs []
  rw [outstanding, List.map_append, ← hfold, List.foldl_append, hfold, FormChecks.foldl_complain]
  rfl

theorem notMem_names_iff {name : String} :
    name ∉ (outstanding backend bag [] fields).map Prod.fst ↔
      ∀ g ∈ fields, g.name = name → (g.checks backend).validate (bag.get? name) = none := by
  rw [← lookup_eq_none_iff_notMem, outstanding, FormChecks.lookup_outstanding List.not_mem_nil,
    List.findSome?_eq_none_iff, List.filter_map, List.forall_mem_map]
  simp only [List.mem_filter, Function.comp_apply, beq_iff_eq, and_imp]
  exact Iff.rfl

theorem outstanding_singleton (backend : Backend) (bag : Bag) (named : List String) (f : Field) :
    outstanding backend bag named [f] =
      if f.name ∈ named then []
      else (((f.checks backend).validate (bag.get? f.name)).map (f.name, ·)).toList := by
  by_cases hn : f.name ∈ named
  · rw [outstanding_of_named hn, if_pos hn]
    rfl
  · rw [if_neg hn]
    cases hv : (f.checks backend).validate (bag.get? f.name) with
    | none => exact outstanding_of_none hn hv
    | some message => exact outstanding_of_some hn hv

theorem mem_outstanding_singleton {named : List String} :
    e ∈ outstanding backend bag named [f] ↔
      e.1 ∉ named ∧ f.name = e.1 ∧ (f.checks backend).validate (bag.get? e.1) = some e.2 := by
  obtain ⟨name, message⟩ := e
  have hsome :
      (name, message) ∈ (((f.checks backend).validate (bag.get? f.name)).map (f.name, ·)).toList ↔
      f.name = name ∧ (f.checks backend).validate (bag.get? name) = some message := by
    simp only [Option.mem_toList, Option.map_eq_some_iff, Prod.mk.injEq]
    constructor
    · rintro ⟨_, hv, rfl, rfl⟩
      exact ⟨rfl, hv⟩
    · rintro ⟨rfl, hv⟩
      exact ⟨message, hv, rfl, rfl⟩
  rw [outstanding_singleton]
  split
  · next hn => exact iff_of_false List.not_mem_nil fun h ↦ h.1 (h.2.1 ▸ hn)
  · next hn => exact hsome.trans (iff_and_self.2 fun h ↦ h.1 ▸ hn)

theorem mem_outstanding_concat :
    e ∈ outstanding backend bag [] (fields ++ [f]) ↔
      e ∈ outstanding backend bag [] fields ∨
      FailsFirst backend bag (fields ++ [f]) fields.length e := by
  rw [outstanding_concat, List.mem_append, mem_outstanding_singleton, notMem_names_iff,
    failsFirst_concat_length]

theorem mem_outstanding_iff : e ∈ outstanding backend bag [] fields ↔
    ∃ i, FailsFirst backend bag fields i e := by
  -- Complaints are added at the end of the list, so the fields are taken from their end as well.
  induction fields using List.reverseRecOn with
  | nil => exact iff_of_false List.not_mem_nil fun ⟨i, h⟩ ↦ nomatch h.lt_length
  | append_singleton fields f ih =>
    rw [mem_outstanding_concat, ih]
    constructor
    · rintro (⟨i, h⟩ | h)
      · exact ⟨i, h.concat f⟩
      · exact ⟨_, h⟩
    · rintro ⟨i, h⟩
      have hi := h.lt_length
      rw [List.length_append, List.length_singleton] at hi
      rcases Nat.lt_succ_iff_lt_or_eq.1 hi with hi | rfl
      · exact .inl ⟨i, (failsFirst_concat_of_lt hi).1 h⟩
      · exact .inr h

theorem pairwise_outstanding :
    (outstanding backend bag [] fields).Pairwise fun a b ↦
      ∃ i j, i < j ∧ FailsFirst backend bag fields i a ∧ FailsFirst backend bag fields j b := by
  induction fields using List.reverseRecOn with
  | nil => exact .nil
  | append_singleton fields f ih =>
    rw [outstanding_concat, List.pairwise_append]
    refine ⟨ih.imp ?earlier, ?last, ?across⟩
    case earlier =>
      rintro a b ⟨i, j, hij, hi, hj⟩
      exact ⟨i, j, hij, hi.concat f, hj.concat f⟩
    case last =>
      rw [outstanding_singleton]
      split
      · exact .nil
      · cases (f.checks backend).validate (bag.get? f.name) with
        | none => exact .nil
        | some message => exact List.pairwise_singleton _ _
    case across =>
      intro a ha b hb
      obtain ⟨i, hi⟩ := mem_outstanding_iff.1 ha
      rw [mem_outstanding_singleton, notMem_names_iff] at hb
      exact ⟨i, fields.length, hi.lt_length, hi.concat f, failsFirst_concat_length.2 hb⟩

/-- What is said of one name is its entry in what is said of the form. The latter has an entry for
each name that some field of the form fails under, once: that of the first such field, in the order
of the form. -/
theorem validate_lists_first_failures (form : Form) (backend : Backend) (bag : Bag) :
    (∀ name, (form.checks backend).validateField name bag =
      ((form.checks backend).validate bag).lookup name) ∧
    (((form.checks backend).validate bag).map Prod.fst).Nodup ∧
    (∀ e, e ∈ (form.checks backend).validate bag ↔ ∃ i, FailsFirst backend bag form.fields i e) ∧
    ((form.checks backend).validate bag).Pairwise fun a b ↦
      ∃ i j, i < j ∧ FailsFirst backend bag form.fields i a ∧
        FailsFirst backend bag form.fields j b := by
  refine ⟨fun name ↦ (FormChecks.lookup_validate _ name bag).symm,
    FormChecks.nodup_validate _ bag, ?_, ?_⟩
  · intro e
    rw [validate_checks, mem_outstanding_iff]
  · rw [validate_checks]
    exact pairwise_outstanding

def atLeast (length : Int) (message : String) : Rule :=
  ⟨.minLength, some (.number (.int length)), some message⟩

/-- Three fields share a name; the first of them is content with little, the others ask for more and
more. -/
def voucher : Form := ⟨none, none, none, [
  { Field.named "code" .text with validation := [atLeast 2 "Too short"] },
  { Field.named "zip" .text with validation := [.ofKind .required] },
  { Field.named "code" .text with validation := [atLeast 4 "Still too short"] },
  { Field.named "code" .text with validation := [atLeast 6 "Much too short"] }], none, none⟩

def labelled : Bag := .ofList [("code", .string "abc")]

theorem validate_lists_first_failures_voucher :
    (voucher.checks .native).validate labelled =
      [("zip", "Required"), ("code", "Still too short")] ∧
    (voucher.checks .native).validateField "code" labelled = some "Still too short" ∧
    (∃ i, FailsFirst .native labelled voucher.fields i ("code", "Still too short")) ∧
    ¬ ∃ i, FailsFirst .native labelled voucher.fields i ("code", "Much too short") := by
  have hv : (voucher.checks .native).validate labelled =
      [("zip", "Required"), ("code", "Still too short")] := by
    decide +kernel
  obtain ⟨hfield, -, hmem, -⟩ := validate_lists_first_failures voucher .native labelled
  refine ⟨hv, ?_, ?_, ?_⟩
  · rw [hfield, hv]
    rfl
  · rw [← hmem, hv]
    exact .tail _ (.head _)
  · rw [← hmem, hv]
    decide

end Formwork.Form
