import Formwork.Proofs.Form.Reordering
import Formwork.Proofs.Validation.Backends
import Formwork.Proofs.Validation.Complaints

namespace Formwork.Form

/-- The backends raise the same complaints, asking field by field, where some names have theirs
already. -/
inductive Concurs (bag : Bag) : List String → List Field → Prop
  | done {named : List String} : Concurs bag named []
  | named {named : List String} {f : Field} {rest : List Field} :
      f.name ∈ named → Concurs bag named rest → Concurs bag named (f :: rest)
  | silent {named : List String} {f : Field} {rest : List Field} :
      f.name ∉ named → f.Agrees (bag.get? f.name) →
      (f.checks .native).validate (bag.get? f.name) = none →
      Concurs bag named rest → Concurs bag named (f :: rest)
  | raised {named : List String} {f : Field} {rest : List Field} {message : String} :
      f.name ∉ named → f.Agrees (bag.get? f.name) →
      (f.checks .native).validate (bag.get? f.name) = some message →
      Concurs bag (named ++ [f.name]) rest → Concurs bag named (f :: rest)
  | covered {named : List String} {f : Field} {rest : List Field} {backend other : Backend}
      {message : String} :
      f.name ∉ named → (f.checks backend).validate (bag.get? f.name) = none →
      (f.checks other).validate (bag.get? f.name) = some message →
      outstanding backend bag named rest = (f.name, message) ::
        outstanding other bag (named ++ [f.name]) rest →
      Concurs bag named (f :: rest)

variable {form : Form} {bag : Bag} {named : List String} {f : Field} {fields : List Field}

theorem Concurs.outstanding_eq (h : Concurs bag named fields) :
    outstanding .native bag named fields = outstanding .jsonSchema bag named fields := by
  induction h with
  | done => rfl
  | named hn _ ih => rw [outstanding_of_named hn, outstanding_of_named hn, ih]
  | silent hn ha hv _ ih =>
    have hj := ((Field.validate_eq_iff _).2 ha).symm.trans hv
    rw [outstanding_of_none hn hv, outstanding_of_none hn hj, ih]
  | raised hn ha hv _ ih =>
    have hj := ((Field.validate_eq_iff _).2 ha).symm.trans hv
    rw [outstanding_of_some hn hv, outstanding_of_some hn hj, ih]
  | @covered named f rest backend other message hn hb ho he =>
    cases backend <;> cases other
    case native.native | jsonSchema.jsonSchema => exact absurd (hb.symm.trans ho) nofun
    · rw [outstanding_of_none hn hb, outstanding_of_some hn ho, he]
    · rw [outstanding_of_some hn ho, outstanding_of_none hn hb, he]

theorem concurs_of_outstanding_eq
    (h : outstanding .native bag named fields = outstanding .jsonSchema bag named fields) :
    Concurs bag named fields := by
  induction fields generalizing named with
  | nil => exact .done
  | cons f rest ih =>
    by_cases hn : f.name ∈ named
    · rw [outstanding_of_named hn, outstanding_of_named hn] at h
      exact .named hn (ih h)
    · cases hv : (f.checks .native).validate (bag.get? f.name) with
      | none =>
        rw [outstanding_of_none hn hv] at h
        cases hj : (f.checks .jsonSchema).validate (bag.get? f.name) with
        | none =>
          rw [outstanding_of_none hn hj] at h
          exact .silent hn ((Field.validate_eq_iff _).1 (hv.trans hj.symm)) hv (ih h)
        | some message =>
          rw [outstanding_of_some hn hj] at h
          exact .covered hn hv hj h
      | some message =>
        rw [outstanding_of_some hn hv] at h
        cases hj : (f.checks .jsonSchema).validate (bag.get? f.name) with
        | none =>
          rw [outstanding_of_none hn hj] at h
          exact .covered hn hj hv h.symm
        | some other =>
          rw [outstanding_of_some hn hj, List.cons.injEq, Prod.mk.injEq] at h
          obtain ⟨⟨-, rfl⟩, h⟩ := h
          exact .raised hn ((Field.validate_eq_iff _).1 (hv.trans hj.symm)) hv (ih h)

theorem validate_eq_iff_concurs :
    (form.checks .native).validate bag = (form.checks .jsonSchema).validate bag ↔
      Concurs bag [] form.fields := by
  rw [validate_checks, validate_checks]
  exact ⟨concurs_of_outstanding_eq, Concurs.outstanding_eq⟩

theorem concurs_of_agrees (h : ∀ f ∈ fields, f.Agrees (bag.get? f.name)) :
    Concurs bag named fields := by
  induction fields generalizing named with
  | nil => exact .done
  | cons f rest ih =>
    have hr : ∀ named, Concurs bag named rest := fun _ ↦ ih fun g hg ↦ h g (.tail _ hg)
    have ha := h f (.head _)
    by_cases hn : f.name ∈ named
    · exact .named hn (hr _)
    · cases hv : (f.checks .native).validate (bag.get? f.name) with
      | none => exact .silent hn ha hv (hr _)
      | some message => exact .raised hn ha hv (hr _)

theorem validateField_of_nodup (hd : form.fieldNames.Nodup) (hf : f ∈ form.fields)
    (backend : Backend) :
    (form.checks backend).validateField f.name bag =
      (f.checks backend).validate (bag.get? f.name) := by
  rw [FormChecks.validateField, checks, List.filter_map, List.findSome?_map]
  exact findSome?_of_nodup hd hf fun g ↦ (g.checks backend).validate (bag.get? f.name)

theorem agrees_of_concurs (hd : form.fieldNames.Nodup) (h : Concurs bag [] form.fields) :
    ∀ f ∈ form.fields, f.Agrees (bag.get? f.name) := by
  intro f hf
  rw [← Field.validate_eq_iff, ← validateField_of_nodup hd hf, ← validateField_of_nodup hd hf,
    ← FormChecks.lookup_validate, ← FormChecks.lookup_validate, validate_eq_iff_concurs.2 h]

/-- The backends raise the same complaints exactly where they concur on the fields of the form. If
no two fields share a name, they have to agree on the entry of each one; they do if they part over
none of its rules. -/
theorem validate_native_eq_iff (form : Form) (bag : Bag) :
    ((form.checks .native).validate bag = (form.checks .jsonSchema).validate bag ↔
      Concurs bag [] form.fields) ∧
    (form.fieldNames.Nodup → (Concurs bag [] form.fields ↔
      ∀ f ∈ form.fields, f.Agrees (bag.get? f.name))) ∧
    ((∀ f ∈ form.fields, ∀ x, f.shape.read (bag.get? f.name) = .present x →
      ∀ rule ∈ f.validation, ¬ rule.Splits f x) →
      Concurs bag [] form.fields) := by
  refine ⟨validate_eq_iff_concurs, fun hd ↦ ⟨agrees_of_concurs hd, concurs_of_agrees⟩, fun h ↦ ?_⟩
  exact concurs_of_agrees fun f hf x hx ↦ Field.settles_of_not_splits (h f hf x hx)

def cap : Rule := ⟨.max, some (.number (.int 9007199254740992)), none⟩

def capped : Form :=
  ⟨none, none, none, [{ Field.named "n" .number with validation := [cap] }], none, none⟩

theorem validate_native_eq_iff_capped :
    (capped.checks .native).validate (.ofList [("n", .number (.int 7))]) =
      (capped.checks .jsonSchema).validate (.ofList [("n", .number (.int 7))]) ∧
    ∀ f ∈ capped.fields, f.Agrees ((Record.ofList [("n", .number (.int 7))]).get? f.name) := by
  have h := validate_native_eq_iff capped (.ofList [("n", .number (.int 7))])
  have hc := h.2.2 <| by
    intro f hf x hx rule hr
    obtain rfl := List.mem_singleton.1 hf
    obtain rfl := List.mem_singleton.1 hr
    obtain rfl := Entry.present.inj (show Entry.present (.number (.int 7)) = .present x from hx)
    rw [Rule.splits_iff]
    decide +kernel
  exact ⟨h.1.2 hc, (h.2.1 (by decide)).1 hc⟩

/-- The backend that rounds takes the successor of the largest value for that value. -/
theorem not_validate_native_eq :
    ¬ ∀ (form : Form) (bag : Bag),
      (form.checks .native).validate bag = (form.checks .jsonSchema).validate bag := by
  intro h
  exact absurd (h capped (.ofList [("n", .number (.int 9007199254740993))])) (by decide +kernel)

end Formwork.Form
