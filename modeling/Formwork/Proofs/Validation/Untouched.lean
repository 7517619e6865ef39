import Formwork.Proofs.Record.Entries
import Formwork.Proofs.Validation.Reordering

namespace Formwork

/-- What rules see of a field that has not been filled in: nothing, or a value that no demand speaks
of and that does not do where one is required. Nothing at all is a fault of its own in a field of a
yes-or-no type. -/
inductive Shape.Vacant (kind : Shape) : Entry → Prop
  | empty : kind ≠ .boolean → Vacant kind .empty
  | present {v : Json} : (∀ (backend : Backend) (c : Demand), c.isMet backend v) →
      kind.suffices (.present v) = false →
      Vacant kind (.present v)

theorem FieldChecks.lastWord?_of_vacant {w : FieldChecks} {entry : Entry}
    (h : w.shape.Vacant entry) :
    w.lastWord? entry = w.required := by
  have hsuffices : w.shape.suffices entry = false := by
    cases h with
    | empty => rfl
    | present _ hsuffices => exact hsuffices
  unfold lastWord?
  split
  · next message hrequired => rw [hsuffices, if_neg Bool.false_ne_true, hrequired]
  · next hrequired =>
    split
    · next hshape =>
      cases h with
      | empty hnot => exact absurd hshape hnot
    · exact hrequired.symm

theorem FieldChecks.validate_of_vacant {w : FieldChecks} {v : Option Json}
    (h : w.shape.Vacant (w.shape.read v)) :
    w.validate v = w.required := by
  rw [validate]
  generalize w.shape.read v = entry at h
  have hlast := lastWord?_of_vacant h
  cases h with
  | empty => exact hlast
  | @present v hmet =>
    have hpasses : w.failing? (.present v) = none := by
      refine List.find?_eq_none.2 fun c _ ↦ ?_
      simp only [hmet, Bool.not_true, Bool.false_eq_true, not_false_iff]
    simp only [hpasses, hlast]

theorem Shape.vacant_read {kind : Shape} {v : Json}
    (h : (kind ≠ .boolean ∧ Json.isNothing (some v)) ∨ (kind = .choiceList ∧ v = .array []) ∨
      (kind = .boolean ∧ v = .bool false) ∨ (kind = .dateRange ∧ v = emptyRange)) :
    kind.Vacant (kind.read (some v)) := by
  rcases h with ⟨hkind, hv⟩ | ⟨rfl, rfl⟩ | ⟨rfl, rfl⟩ | ⟨rfl, rfl⟩
  · rw [read, if_pos hv]
    exact .empty hkind
  · exact .empty nofun
  · exact .present (fun _ _ ↦ rfl) rfl
  · exact .present (fun _ _ ↦ rfl) rfl

namespace Field

variable {f : Field}

theorem initialValue_cases (h : f.defaultValue = none) :
    (f.shape ≠ .boolean ∧ Json.isNothing (some f.initialValue)) ∨
    (f.shape = .choiceList ∧ f.initialValue = .array []) ∨
    (f.shape = .boolean ∧ f.initialValue = .bool false) ∨
    (f.shape = .dateRange ∧ f.initialValue = emptyRange) := by
  cases ht : f.type <;> cases hm : f.multiple <;>
    simp [shape, initialValue, holdsList, ht, hm, h, Json.isNothing]

theorem vacant_initialValue (h : f.defaultValue = none) :
    f.shape.Vacant (f.shape.read (some f.initialValue)) :=
  Shape.vacant_read (initialValue_cases h)

theorem validate_initialValue (h : f.defaultValue = none) (backend : Backend) :
    (f.checks backend).validate (some f.initialValue) = f.requirement?.map Rule.messageText :=
  FieldChecks.validate_of_vacant (vacant_initialValue h)

theorem messageText_requirement? {rule : Rule} (h : f.requirement? = some rule) :
    rule.messageText = rule.message.getD "Required" := by
  have hk : rule.kind = .required := beq_iff_eq.1 (List.find?_some h :)
  rw [Rule.messageText, if_pos hk]

end Field

namespace Form

variable {form : Form} {f : Field}

theorem get?_initialBag (hd : form.fieldNames.Nodup) (hf : f ∈ form.fields) :
    form.initialBag.get? f.name = some f.initialValue := by
  have hkeys : ((form.fields.map fun f ↦ (f.name, f.initialValue)).map Prod.fst).Nodup := by
    rwa [List.map_map]
  rw [initialBag, Record.ofList, Record.get?_insertAll_of_nodup hkeys,
    lookup_of_mem hkeys (List.mem_map_of_mem hf), Option.some_or]

/-- A fresh form is asked for what is required, in the order of its fields, and for nothing else. -/
theorem validate_initialBag (hd : form.fieldNames.Nodup)
    (hn : ∀ f ∈ form.fields, f.defaultValue = none) (backend : Backend) :
    (form.checks backend).validate form.initialBag =
        form.fields.filterMap (fun f ↦
          f.requirement?.map fun rule ↦ (f.name, rule.message.getD "Required")) ∧
      ((∀ f ∈ form.fields, ¬ f.isRequired) →
        (form.checks backend).validate form.initialBag = []) := by
  have hnames : ((form.checks backend).fields.map FieldChecks.name).Nodup := by
    rw [checks, List.map_map]
    exact hd
  have hsaid : (form.checks backend).validate form.initialBag =
      form.fields.filterMap fun f ↦ f.requirement?.map fun rule ↦
        (f.name, rule.message.getD "Required") := by
    rw [FormChecks.validate_eq, FormChecks.outstanding_eq_filterMap hnames fun _ _ ↦
      List.not_mem_nil, checks,
      List.filterMap_map]
    refine List.filterMap_congr fun f hf ↦ ?_
    have hvalid := f.validate_initialValue (hn f hf) backend
    have hentry : form.initialBag.get? (f.checks backend).name = some f.initialValue :=
      get?_initialBag hd hf
    simp only [Function.comp_apply, hentry, hvalid, Option.map_map]
    refine Option.map_congr fun rule hrule ↦ ?_
    exact congrArg (Prod.mk f.name) (Field.messageText_requirement? hrule)
  refine ⟨hsaid, fun hoptional ↦ hsaid.trans (List.filterMap_eq_nil_iff.2 fun f hf ↦ ?_)⟩
  rw [Option.not_isSome_iff_eq_none.1 (hoptional f hf), Option.map_none]

/-- One field for each value that fields start with, and rules of which only those that require
something have a say. -/
def enrolment : Form where
  id := none
  title := none
  description := none
  fields := [
    { Field.named "name" .text with validation :=
      [⟨.minLength, some (.int 3), none⟩, ⟨.required, none, some "Who?"⟩] },
    { Field.named "topics" .select with multiple := true, validation := [.ofKind .required] },
    { Field.named "dates" .daterange with validation := [.ofKind .required] },
    { Field.named "terms" .checkbox with validation := [⟨.required, none, some "Agree first"⟩] },
    { Field.named "age" .number with validation := [⟨.min, some (.int 18), none⟩] },
    Field.named "photo" .file]
  layout := none
  styling := none

theorem validate_initialBag_enrolment :
    enrolment.fieldNames.Nodup ∧ (∀ f ∈ enrolment.fields, f.defaultValue = none) ∧
    (enrolment.checks .jsonSchema).validate enrolment.initialBag =
      [("name", "Who?"), ("topics", "Required"), ("dates", "Required"),
        ("terms", "Agree first")] := by
  have hd : enrolment.fieldNames.Nodup := by decide
  have hn : ∀ f ∈ enrolment.fields, f.defaultValue = none := by
    simp only [enrolment, List.forall_mem_cons]
    exact ⟨rfl, rfl, rfl, rfl, rfl, rfl, List.forall_mem_nil _⟩
  refine ⟨hd, hn, ?_⟩
  rw [(validate_initialBag hd hn .jsonSchema).1]
  decide

end Form

end Formwork
