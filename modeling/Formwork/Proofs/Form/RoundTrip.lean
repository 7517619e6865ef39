import Formwork.Form.Encoder
import Formwork.Proofs.Form.Decoding
import Formwork.Proofs.Record.Entries

namespace Formwork

theorem RuleKind.ofName_name (k : RuleKind) : ofName k.name = k := by
  cases k <;> decide

theorem Operator.ofName_name (o : Operator) : ofName o.name = o := by
  cases o <;> decide

theorem FieldType.ofName?_name (t : FieldType) : ofName? t.name = some t := by
  cases t <;> decide

namespace Encode

@[simp]
theorem nonempty_eq_optional {α : Type} (key : String) (encode : α → Json) (as : List α) :
    nonempty key encode as =
      optional key (if as.isEmpty then none else some (.array (as.map encode))) := by
  rw [nonempty]
  split <;> rfl

@[simp]
theorem get?_insertAll_optional (r : Record) (key : String) (o : Option Json) (k : String) :
    (r.insertAll (optional key o)).get? k = if k = key then o.or (r.get? k) else r.get? k := by
  cases o with
  | none =>
    rw [Option.none_or, ite_self]
    rfl
  | some v => exact r.get?_insert key v k

end Encode

namespace Decode

section

variable {α : Type} {decode : Json → Except DecodeError α} {encode : α → Json} {as : List α}
  {members : List (String × Json)} {key : String}

theorem member_of_lookup {v : Json} {a : α} (hv : decode v = .ok a)
    (h : members.lookup key = some v) :
    member decode members key = .ok (some a) :=
  member_eq_some_iff.2 ⟨v, h, hv⟩

theorem memberD_of_lookup {v : Json} {a default : α} (hv : decode v = .ok a)
    (h : members.lookup key = some v) :
    memberD decode members key default = .ok a :=
  memberD_eq_ok_iff.2 (.inr ⟨v, h, hv⟩)

theorem memberD_optionalString {s : Option String} (h : members.lookup key = s.map .string) :
    memberD optionalString members key none = .ok s := by
  cases s with
  | none => exact memberD_eq_ok_iff.2 (.inl ⟨h, rfl⟩)
  | some s => exact memberD_of_lookup rfl h

theorem list_map_encode (h : ∀ a ∈ as, decode (encode a) = .ok a) :
    list decode (.array (as.map encode)) = .ok as := by
  refine list_eq_ok_iff.2 ⟨_, rfl, ?_⟩
  rw [List.forall₂_map_left_iff, List.forall₂_same]
  exact h

theorem memberD_list (h : ∀ a ∈ as, decode (encode a) = .ok a)
    (hl : members.lookup key = if as.isEmpty then none else some (.array (as.map encode))) :
    memberD (list decode) members key [] = .ok as := by
  cases as with
  | nil => exact memberD_eq_ok_iff.2 (.inl ⟨hl, rfl⟩)
  | cons a as => exact memberD_of_lookup (list_map_encode h) hl

theorem present?_of_lookup {o : Option Json} (ho : o ≠ some .null) (h : members.lookup key = o) :
    present? members key = o := by
  rw [present?, h]
  match o, ho with
  | none, _ => rfl
  | some .null, ho => exact absurd rfl ho
  | some (.bool _), _ | some (.number _), _ | some (.string _), _ | some (.array _),
  _ | some (.object _), _ => rfl

theorem present?_ne_null (members : List (String × Json)) (key : String) :
    present? members key ≠ some .null :=
  fun h ↦ nomatch (Option.filter_eq_some_iff.1 h).2

theorem exists_item_of_getElem? {i : Nat} {a : α}
    (h : memberD (list decode) members key [] = .ok as) (ha : as[i]? = some a) :
    ∃ items w, members.lookup key = some (.array items) ∧ items[i]? = some w ∧
      decode w = .ok a := by
  rcases memberD_eq_ok_iff.1 h with ⟨_, rfl⟩ | ⟨v, hl, hv⟩
  · cases ha
  · obtain ⟨items, rfl, hitems⟩ := list_eq_ok_iff.1 hv
    obtain ⟨hi, rfl⟩ := List.getElem?_eq_some_iff.1 ha
    have hi' : i < items.length := hitems.length_eq ▸ hi
    exact ⟨items, items[i], hl, List.getElem?_eq_getElem hi', hitems.get hi' hi⟩

theorem exists_of_mem {a : α} (h : memberD (list decode) members key [] = .ok as) (ha : a ∈ as) :
    ∃ v, decode v = .ok a := by
  obtain ⟨i, hi⟩ := List.getElem?_of_mem ha
  obtain ⟨_, w, _, _, hw⟩ := exists_item_of_getElem? h hi
  exact ⟨w, hw⟩

end

theorem get?_extras (declared : List String) (r : Record) (k : String) :
    (extras declared r.entries).get? k = if k ∈ declared then none else r.get? k := by
  rw [extras, r.get?_ofList_filter fun k ↦ !declared.contains k]
  by_cases h : k ∈ declared <;> simp [h]

theorem get?_extras_of_mem {declared : List String} {k : String} (h : k ∈ declared)
    (members : List (String × Json)) :
    (extras declared members).get? k = none := by
  have hnone : (extras declared members).contains k = false := by
    rw [extras, Record.ofList, Record.contains_insertAll, Bool.or_eq_false_iff]
    refine ⟨List.any_eq_false.2 fun e he hk ↦ ?_, rfl⟩
    have hdeclared := (List.mem_filter.1 he).2
    rw [beq_iff_eq.1 hk, List.contains_iff_mem.2 h] at hdeclared
    cases hdeclared
  exact Option.not_isSome_iff_eq_none.1 (Bool.eq_false_iff.1 hnone)

theorem extras_eq {declared : List String} {extra r : Record}
    (hx : ∀ k ∈ declared, extra.get? k = none)
    (h : ∀ k, k ∉ declared → r.get? k = extra.get? k) : extras declared r.entries = extra := by
  refine Record.eq_of_get?_eq fun k ↦ ?_
  rw [get?_extras]
  split
  · next hk => exact (hx k hk).symm
  · next hk => exact h k hk

end Decode

def Choice.Tidy (c : Choice) : Prop := ∀ k ∈ Decode.choiceKeys, c.extra.get? k = none

structure Field.Tidy (f : Field) : Prop where
  extra : ∀ k ∈ Decode.fieldKeys, f.extra.get? k = none
  options : ∀ c ∈ f.options, c.Tidy

/-- Nothing in the form would get lost or be taken for something else if it was written. -/
structure Form.Tidy (form : Form) : Prop where
  fields : ∀ f ∈ form.fields, f.Tidy
  layout : form.layout ≠ some .null
  styling : form.styling ≠ some .null

namespace Decode

theorem tidy_of_choice {v : Json} {c : Choice} (h : choice v = .ok c) : c.Tidy := by
  obtain ⟨members, _, h⟩ := choice_eq_ok_iff.1 h
  intro k hk
  rw [← h.extra]
  exact get?_extras_of_mem hk members

theorem tidy_of_field {v : Json} {f : Field} (h : field v = .ok f) : f.Tidy := by
  obtain ⟨members, _, h⟩ := field_eq_ok_iff.1 h
  refine ⟨h.extra ▸ fun k hk ↦ get?_extras_of_mem hk members, fun c hc ↦ ?_⟩
  obtain ⟨w, hw⟩ := exists_of_mem h.options hc
  exact tidy_of_choice hw

theorem tidy_of_form {members : List (String × Json)} {form : Form} (h : ReadsForm members form) :
    form.Tidy := by
  refine ⟨fun f hf ↦ ?_, h.layout ▸ present?_ne_null _ _, h.styling ▸ present?_ne_null _ _⟩
  obtain ⟨w, hw⟩ := exists_of_mem h.fields hf
  exact tidy_of_field hw

theorem rule_toJson (r : Rule) : rule r.toJson = .ok r := by
  have hkind : ruleKind (.string r.kind.name) = .ok r.kind := congrArg Except.ok r.kind.ofName_name
  refine rule_eq_ok_iff.2 (.object (member_of_lookup hkind ?_) ?_ (memberD_optionalString ?_))
  all_goals simp [Record.ofList, Encode.optionalString, Record.get?_insert, Record.get?_empty]

theorem condition_toJson (c : Condition) : condition c.toJson = .ok c := by
  have hfield : string (.string c.field) = .ok c.field := rfl
  have hop : operator (.string c.operator.name) = .ok c.operator :=
    congrArg Except.ok c.operator.ofName_name
  refine condition_eq_ok_iff.2 (.object (member_of_lookup hfield ?_) (member_of_lookup hop ?_) ?_)
  all_goals simp [Record.ofList, Record.get?_insert, Record.get?_empty]

theorem choice_toJson {c : Choice} (h : c.Tidy) : choice c.toJson = .ok c := by
  have hlabel : string (.string c.label) = .ok c.label := rfl
  refine choice_eq_ok_iff.2 ⟨_, rfl, member_of_lookup hlabel ?_, ?_, extras_eq h fun k hk ↦ ?_⟩
  · simp [Record.get?_insert]
  · simp [Record.get?_insert]
  · simp only [choiceKeys, List.mem_cons, List.not_mem_nil, or_false, not_or] at hk
    simp [Record.get?_insert, hk]

theorem field_toJson {f : Field} (h : f.Tidy) : field f.toJson = .ok f := by
  have htype : fieldType (.string f.type.name) = .ok f.type :=
    fieldType_eq_ok_iff.2 ⟨f.type.name, f.type.ofName?_name, .inl rfl⟩
  have hstring (s : String) : string (.string s) = .ok s := rfl
  have hboolean (b : Bool) : boolean (.bool b) = .ok b := rfl
  have hconditions (cs : List Condition) : ∀ c ∈ cs, condition c.toJson = .ok c :=
    fun c _ ↦ condition_toJson c
  have hextra := h.extra
  refine field_eq_ok_iff.2 ⟨_, rfl, {
    id := member_of_lookup (hstring f.id) ?_
    name := member_of_lookup (hstring f.name) ?_
    label := memberD_of_lookup (hstring f.label) ?_
    type := member_of_lookup htype ?_
    defaultValue := ?_
    validation := memberD_list (fun r _ ↦ rule_toJson r) ?_
    visibilityRules := memberD_list (hconditions f.visibilityRules) ?_
    disableRules := memberD_list (hconditions f.disableRules) ?_
    clearRules := memberD_list (hconditions f.clearRules) ?_
    multiple := memberD_of_lookup (hboolean f.multiple) ?_
    disabled := memberD_of_lookup (hboolean f.disabled) ?_
    hidden := memberD_of_lookup (hboolean f.hidden) ?_
    reserveSpace := memberD_of_lookup (hboolean f.reserveSpace) ?_
    validateOnChange := memberD_of_lookup (hboolean f.validateOnChange) ?_
    restrictInput := memberD_of_lookup (hboolean f.restrictInput) ?_
    clearable := memberD_of_lookup (hboolean f.clearable) ?_
    placeholder := memberD_optionalString ?_
    helperText := memberD_optionalString ?_
    options := memberD_list (fun c hc ↦ choice_toJson (h.options c hc)) ?_
    extra := extras_eq h.extra fun k hk ↦ ?extra }⟩
  case extra =>
    simp only [fieldKeys, List.mem_cons, List.not_mem_nil, or_false, not_or] at hk
    simp [Encode.optionalString, Record.get?_insert, hk]
  all_goals simp (disch := decide) [Encode.optionalString, Record.get?_insert, hextra]

theorem readsForm_toJson {form : Form} (h : form.Tidy) :
    ∃ members, form.toJson = .object members ∧
      members.lookup "fields" = some (.array (form.fields.map Field.toJson)) ∧
      ReadsForm members form := by
  have hfields : list field (.array (form.fields.map Field.toJson)) = .ok form.fields :=
    list_map_encode fun f hf ↦ field_toJson (h.fields f hf)
  refine ⟨_, rfl, ?_, {
    id := memberD_optionalString ?_
    title := memberD_optionalString ?_
    description := memberD_optionalString ?_
    fields := memberD_of_lookup hfields ?_
    layout := present?_of_lookup h.layout ?_
    styling := present?_of_lookup h.styling ?_ }⟩
  all_goals simp [Record.ofList, Encode.optionalString, Record.get?_insert, Record.get?_empty]

end Decode

namespace Form

variable {v : Json} {form : Form}

theorem Tidy.ofJson_toJson (h : form.Tidy) : ofJson form.toJson = .ok form := by
  obtain ⟨members, hjson, hfields, hreads⟩ := Decode.readsForm_toJson h
  exact ofJson_eq_ok_iff.2 ⟨members, _, hjson, hfields, hreads⟩

theorem tidy_of_ofJson (h : ofJson v = .ok form) : form.Tidy := by
  obtain ⟨_, _, _, _, h⟩ := ofJson_eq_ok_iff.1 h
  exact Decode.tidy_of_form h

/-- A form that has been read is the same form again if it is written and read once more. -/
theorem ofJson_toJson_of_ofJson (h : ofJson v = .ok form) :
    ofJson form.toJson = .ok form ∧ (ofJson form.toJson).map toJson = .ok form.toJson := by
  have hagain := (tidy_of_ofJson h).ofJson_toJson
  exact ⟨hagain, by rw [hagain]; rfl⟩

/-- A form that is not written the way it comes: rules and conditions in a row, a type and an
operator as objects, settings of `null`, names without a meaning and keys that nothing is declared
for. -/
def survey : Json :=
  .object [
    ("fields", .array [
      .object [
        ("defaultValue", .null),
        ("disableRules", .array [.array [.string "age", .object [("near", .null)], .null]]),
        ("grid", .int 6), ("id", .string "q1"), ("name", .string "mood"),
        ("options",
          .array [.object [("icon", .string "sun"), ("label", .string "Fine"), ("value", .int 1)]]),
        ("placeholder", .null), ("type", .object [("select", .null)]),
        ("validation", .array [.array [.string "required"],
          .array [.string "rhyme", .null, .string "Rhyme!"]])]]),
    ("layout", .null), ("title", .string "Survey"), ("version", .int 2)]

def surveyForm : Form where
  id := none
  title := some "Survey"
  description := none
  fields := [
    { Field.named "mood" .select with
      id := "q1"
      label := ""
      defaultValue := some .null
      disableRules := [⟨"age", .unknown, some .null⟩]
      options := [⟨"Fine", .int 1, .ofList [("icon", .string "sun")]⟩]
      validation := [⟨.required, none, none⟩, ⟨.unknown, some .null, some "Rhyme!"⟩]
      extra := .ofList [("grid", .int 6)] }]
  layout := none
  styling := none

theorem ofJson_toJson_of_ofJson_survey :
    ofJson survey = .ok surveyForm ∧ ofJson surveyForm.toJson = .ok surveyForm := by
  have h : ofJson survey = .ok surveyForm := by with_unfolding_all rfl
  exact ⟨h, (ofJson_toJson_of_ofJson h).1⟩

end Form

end Formwork
