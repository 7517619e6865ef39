import Formwork.Form.Grammar
import Formwork.Proofs.Form.Decoding

namespace Formwork.Decode

open Grammar

variable {α : Type} {decode : Json → Except DecodeError α} {P : Json → Prop} {v : Json}
  {members : List (String × Json)} {key : String}

def Accepts (decode : Json → Except DecodeError α) (v : Json) : Prop := ∃ a, decode v = .ok a

theorem accepts_string : Accepts string = IsText := by
  funext v
  simp only [Accepts, string_eq_ok_iff, IsText]

theorem accepts_boolean : Accepts boolean = IsFlag := by
  funext v
  simp only [Accepts, boolean_eq_ok_iff, IsFlag]

theorem accepts_optionalString : Accepts optionalString = IsTextOrNull := by
  funext v
  refine propext ⟨?_, ?_⟩
  · rintro ⟨o, h⟩
    exact (optionalString_eq_ok_iff.1 h).imp And.left fun ⟨s, hs, _⟩ ↦ ⟨s, hs⟩
  · rintro (rfl | ⟨s, rfl⟩)
    · exact ⟨none, rfl⟩
    · exact ⟨some s, rfl⟩

theorem spells_iff {name : String} :
    Spells name v ↔ v = .string name ∨ v = .object [(name, .null)] := by
  constructor
  · rintro (_ | _)
    · exact .inl rfl
    · exact .inr rfl
  · rintro (rfl | rfl)
    · exact .text
    · exact .key

theorem accepts_tag (ofName : String → α) : Accepts (tag fun name ↦ .ok (ofName name)) = IsTag := by
  funext v
  simp only [Accepts, tag_eq_ok_iff, ← spells_iff, IsTag, Except.ok.injEq, eq_iff_iff]
  exact ⟨fun ⟨_, name, _, h⟩ ↦ ⟨name, h⟩, fun ⟨name, h⟩ ↦ ⟨_, name, rfl, h⟩⟩

theorem accepts_ruleKind : Accepts ruleKind = IsTag :=
  accepts_tag RuleKind.ofName

theorem accepts_operator : Accepts operator = IsTag :=
  accepts_tag Operator.ofName

theorem exists_ofName?_iff {name : String} :
    (∃ t, FieldType.ofName? name = some t) ↔ name ∈ typeNames := by
  rw [← Option.isSome_iff_exists, FieldType.ofName?, List.find?_isSome]
  simp [FieldType.all, FieldType.name, typeNames, @eq_comm _ name]

theorem accepts_fieldType : Accepts fieldType = IsTypeTag := by
  funext v
  simp only [Accepts, fieldType_eq_ok_iff, ← spells_iff, IsTypeTag,
    ← exists_ofName?_iff, eq_iff_iff]
  exact ⟨fun ⟨t, name, ht, h⟩ ↦ ⟨name, ⟨t, ht⟩, h⟩, fun ⟨name, ⟨t, ht⟩, h⟩ ↦ ⟨t, name, ht, h⟩⟩

theorem exists_forall₂_iff {items : List Json} :
    (∃ as, List.Forall₂ (fun w a ↦ decode w = .ok a) items as) ↔ ∀ w ∈ items, Accepts decode w := by
  induction items with
  | nil => exact ⟨fun _ ↦ nofun, fun _ ↦ ⟨[], .nil⟩⟩
  | cons w items ih =>
    rw [List.forall_mem_cons, ← ih]
    constructor
    · rintro ⟨_, h⟩
      cases h with
      | cons ha has => exact ⟨⟨_, ha⟩, _, has⟩
    · rintro ⟨⟨a, ha⟩, as, has⟩
      exact ⟨a :: as, .cons ha has⟩

theorem accepts_list (hd : Accepts decode = P) : Accepts (list decode) = IsListOf P := by
  funext v
  subst hd
  refine propext ⟨?_, ?_⟩
  · rintro ⟨as, h⟩
    obtain ⟨items, rfl, hitems⟩ := list_eq_ok_iff.1 h
    exact ⟨items, rfl, exists_forall₂_iff.1 ⟨as, hitems⟩⟩
  · rintro ⟨items, rfl, h⟩
    obtain ⟨as, hitems⟩ := exists_forall₂_iff.2 h
    exact ⟨as, list_eq_ok_iff.2 ⟨items, rfl, hitems⟩⟩

theorem has_iff (hd : Accepts decode = P) :
    Has members key P ↔ ∃ a, member decode members key = .ok (some a) := by
  subst hd
  simp only [member_eq_some_iff, Has, Accepts]
  exact ⟨fun ⟨v, hv, a, ha⟩ ↦ ⟨a, v, hv, ha⟩, fun ⟨a, v, hv, ha⟩ ↦ ⟨v, hv, a, ha⟩⟩

theorem mayHave_iff (hd : Accepts decode = P) (default : α) :
    MayHave members key P ↔ ∃ a, memberD decode members key default = .ok a := by
  subst hd
  simp only [memberD_eq_ok_iff, MayHave, Accepts]
  cases members.lookup key <;> simp

theorem accepts_rule : Accepts rule = IsRule := by
  funext v
  simp only [Accepts, rule_eq_ok_iff]
  refine propext ⟨?_, ?_⟩
  · rintro ⟨r, h⟩
    cases h with
    | object hkind _ hmessage =>
      exact .object ((has_iff accepts_ruleKind).2 ⟨_, hkind⟩)
        ((mayHave_iff accepts_optionalString none).2 ⟨_, hmessage⟩)
    | kind hkind => exact .kind (accepts_ruleKind ▸ ⟨_, hkind⟩)
    | value hkind => exact .value (accepts_ruleKind ▸ ⟨_, hkind⟩)
    | message hkind hmessage =>
      exact .message (accepts_ruleKind ▸ ⟨_, hkind⟩) (accepts_optionalString ▸ ⟨_, hmessage⟩)
  · intro h
    cases h with
    | object hkind hmessage =>
      obtain ⟨kind, hkind⟩ := (has_iff accepts_ruleKind).1 hkind
      obtain ⟨message, hmessage⟩ := (mayHave_iff accepts_optionalString none).1 hmessage
      exact ⟨⟨kind, _, message⟩, .object hkind rfl hmessage⟩
    | kind hk =>
      obtain ⟨kind, hkind⟩ := accepts_ruleKind ▸ hk
      exact ⟨_, .kind hkind⟩
    | value hk =>
      obtain ⟨kind, hkind⟩ := accepts_ruleKind ▸ hk
      exact ⟨_, .value hkind⟩
    | message hk hm =>
      obtain ⟨kind, hkind⟩ := accepts_ruleKind ▸ hk
      obtain ⟨message, hmessage⟩ := accepts_optionalString ▸ hm
      exact ⟨_, .message hkind hmessage⟩

theorem accepts_condition : Accepts condition = IsCondition := by
  funext v
  simp only [Accepts, condition_eq_ok_iff]
  refine propext ⟨?_, ?_⟩
  · rintro ⟨c, h⟩
    cases h with
    | object hfield hop _ =>
      exact .object ((has_iff accepts_string).2 ⟨_, hfield⟩) ((has_iff accepts_operator).2 ⟨_, hop⟩)
    | operator hfield hop =>
      exact .operator (accepts_string ▸ ⟨_, hfield⟩) (accepts_operator ▸ ⟨_, hop⟩)
    | value hfield hop => exact .value (accepts_string ▸ ⟨_, hfield⟩) (accepts_operator ▸ ⟨_, hop⟩)
  · intro h
    cases h with
    | object hf ho =>
      obtain ⟨field, hfield⟩ := (has_iff accepts_string).1 hf
      obtain ⟨op, hop⟩ := (has_iff accepts_operator).1 ho
      exact ⟨⟨field, op, _⟩, .object hfield hop rfl⟩
    | operator hf ho =>
      obtain ⟨field, hfield⟩ := accepts_string ▸ hf
      obtain ⟨op, hop⟩ := accepts_operator ▸ ho
      exact ⟨_, .operator hfield hop⟩
    | value hf ho =>
      obtain ⟨field, hfield⟩ := accepts_string ▸ hf
      obtain ⟨op, hop⟩ := accepts_operator ▸ ho
      exact ⟨_, .value hfield hop⟩

theorem accepts_choice : Accepts choice = IsChoice := by
  funext v
  simp only [Accepts, choice_eq_ok_iff]
  refine propext ⟨?_, ?_⟩
  · rintro ⟨c, members, rfl, h⟩
    exact ⟨members, rfl, (has_iff accepts_string).2 ⟨_, h.label⟩, c.value, h.value, trivial⟩
  · rintro ⟨members, rfl, hlabel, value, hvalue, _⟩
    obtain ⟨label, hlabel⟩ := (has_iff accepts_string).1 hlabel
    exact ⟨⟨label, value, _⟩, members, rfl, hlabel, hvalue, rfl⟩

theorem fieldMembers_of_readsField {f : Field} (h : ReadsField members f) :
    FieldMembers members := by
  have hflag {key : String} {b : Bool} (hb : memberD boolean members key false = .ok b) :
      MayHave members key IsFlag := (mayHave_iff accepts_boolean false).2 ⟨b, hb⟩
  have hhint {key : String} {s : Option String}
      (hs : memberD optionalString members key none = .ok s) :
      MayHave members key IsTextOrNull := (mayHave_iff accepts_optionalString none).2 ⟨s, hs⟩
  have hconditions {key : String} {cs : List Condition}
      (hcs : memberD (list condition) members key [] = .ok cs) :
      MayHave members key (IsListOf IsCondition) :=
        (mayHave_iff (accepts_list accepts_condition) []).2 ⟨cs, hcs⟩
  refine {
    texts := ?_
    type := (has_iff accepts_fieldType).2 ⟨_, h.type⟩
    label := (mayHave_iff accepts_string "").2 ⟨_, h.label⟩
    hints := ?_
    flags := ?_
    rules := (mayHave_iff (accepts_list accepts_rule) []).2 ⟨_, h.validation⟩
    conditions := ?_
    options := (mayHave_iff (accepts_list accepts_choice) []).2 ⟨_, h.options⟩ }
  all_goals simp only [List.forall_mem_cons, List.not_mem_nil, false_imp_iff,
    implies_true, and_true]
  · exact ⟨(has_iff accepts_string).2 ⟨_, h.id⟩, (has_iff accepts_string).2 ⟨_, h.name⟩⟩
  · exact ⟨hhint h.placeholder, hhint h.helperText⟩
  · exact ⟨hflag h.multiple, hflag h.disabled, hflag h.hidden, hflag h.reserveSpace,
      hflag h.validateOnChange, hflag h.restrictInput, hflag h.clearable⟩
  · exact ⟨hconditions h.visibilityRules, hconditions h.disableRules, hconditions h.clearRules⟩

theorem exists_readsField (h : FieldMembers members) : ∃ f, ReadsField members f := by
  have hrequired := h.texts
  have hhints := h.hints
  have hflags := h.flags
  have hconditions := h.conditions
  simp only [List.forall_mem_cons, List.not_mem_nil, false_imp_iff, implies_true, and_true,
    has_iff accepts_string, mayHave_iff accepts_optionalString none,
    mayHave_iff accepts_boolean false,
    mayHave_iff (accepts_list accepts_condition) []] at hrequired hhints hflags hconditions
  obtain ⟨⟨id, hid⟩, name, hname⟩ := hrequired
  obtain ⟨⟨placeholder, hplaceholder⟩, helperText, hhelper⟩ := hhints
  obtain ⟨⟨multiple, hmultiple⟩, ⟨disabled, hdisabled⟩, ⟨hidden, hhidden⟩, ⟨reserveSpace, hreserve⟩,
    ⟨validateOnChange, hvalidate⟩, ⟨restrictInput, hrestrict⟩, clearable, hclearable⟩ := hflags
  obtain ⟨⟨visibilityRules, hvisibility⟩, ⟨disableRules, hdisable⟩, clearRules, hclear⟩ :=
    hconditions
  obtain ⟨type, htype⟩ := (has_iff accepts_fieldType).1 h.type
  obtain ⟨label, hlabel⟩ := (mayHave_iff accepts_string "").1 h.label
  obtain ⟨validation, hvalidation⟩ := (mayHave_iff (accepts_list accepts_rule) []).1 h.rules
  obtain ⟨options, hoptions⟩ := (mayHave_iff (accepts_list accepts_choice) []).1 h.options
  let f : Field := {
    id, name, label, type, validation, visibilityRules, disableRules, clearRules, multiple,
    disabled, hidden, reserveSpace, validateOnChange, restrictInput, clearable, placeholder,
    helperText, options
    defaultValue := members.lookup "defaultValue"
    extra := extras fieldKeys members }
  exact ⟨f, hid, hname, hlabel, htype, rfl, hvalidation, hvisibility, hdisable, hclear, hmultiple,
    hdisabled, hhidden, hreserve, hvalidate, hrestrict, hclearable, hplaceholder, hhelper, hoptions,
    rfl⟩

theorem accepts_field : Accepts field = IsFormField := by
  funext v
  simp only [Accepts, field_eq_ok_iff]
  refine propext ⟨?_, ?_⟩
  · rintro ⟨f, members, rfl, h⟩
    exact ⟨members, rfl, fieldMembers_of_readsField h⟩
  · rintro ⟨members, rfl, h⟩
    obtain ⟨f, hf⟩ := exists_readsField h
    exact ⟨f, members, rfl, hf⟩

theorem formMembers_of_readsForm {form : Form} (h : ReadsForm members form) {items : List Json}
    (hl : members.lookup "fields" = some (.array items)) : FormMembers members := by
  have htext {key : String} {s : Option String}
      (hs : memberD optionalString members key none = .ok s) :
      MayHave members key IsTextOrNull := (mayHave_iff accepts_optionalString none).2 ⟨s, hs⟩
  refine ⟨?_, .array items, hl, (mayHave_iff (accepts_list accepts_field) []).2 ⟨_, h.fields⟩ _ hl⟩
  simp only [List.forall_mem_cons, List.not_mem_nil, false_imp_iff, implies_true, and_true]
  exact ⟨htext h.id, htext h.title, htext h.description⟩

theorem exists_readsForm (h : FormMembers members) : ∃ form, ReadsForm members form := by
  have htexts := h.texts
  simp only [List.forall_mem_cons, List.not_mem_nil, false_imp_iff, implies_true, and_true,
    mayHave_iff accepts_optionalString none] at htexts
  obtain ⟨⟨id, hid⟩, ⟨title, htitle⟩, description, hdescription⟩ := htexts
  obtain ⟨v, hv, hfields⟩ := h.fields
  obtain ⟨fields, hfields⟩ := accepts_list accepts_field ▸ hfields
  exact ⟨⟨id, title, description, fields, _, _⟩, hid, htitle, hdescription,
    memberD_eq_ok_iff.2 (.inr ⟨v, hv, hfields⟩),
    rfl, rfl⟩

end Formwork.Decode

namespace Formwork.Form

open Grammar

variable {v : Json}

theorem exists_ofJson_iff : (∃ form, ofJson v = .ok form) ↔ IsForm v := by
  simp only [ofJson_eq_ok_iff]
  constructor
  · rintro ⟨form, members, items, rfl, hl, h⟩
    exact ⟨members, rfl, Decode.formMembers_of_readsForm h hl⟩
  · rintro ⟨members, rfl, h⟩
    obtain ⟨_, hl, items, rfl, _⟩ := h.fields
    obtain ⟨form, hform⟩ := Decode.exists_readsForm h
    exact ⟨form, members, items, rfl, hl, hform⟩

theorem exists_malformed {x : Except DecodeError Form} {e : FormError}
    (h : x.mapError FormError.malformed = .error e) :
    ∃ d, e = .malformed d := by
  cases x with
  | error d => exact ⟨d, (Except.error.inj h).symm⟩
  | ok form => cases h

theorem ofJson_eq_notObject_iff {found : Json} :
    ofJson v = .error (.notObject found) ↔ v = found ∧ ∀ members, v ≠ .object members := by
  cases v with
  | object members =>
    refine iff_of_false (fun h ↦ ?_) fun h ↦ h.2 members rfl
    simp only [ofJson] at h
    split at h
    · obtain ⟨_, he⟩ := exists_malformed h
      cases he
    · cases h
  | _ => simp [ofJson]

theorem ofJson_eq_noFields_iff :
    ofJson v = .error .noFields ↔
      ∃ members, v = .object members ∧ ∀ items, members.lookup "fields" ≠ some (.array items) := by
  cases v with
  | object members =>
    simp only [ofJson, Json.object.injEq, exists_eq_left']
    split
    · next items hitems =>
      refine iff_of_false (fun h ↦ ?_) fun hn ↦ hn items hitems
      obtain ⟨_, he⟩ := exists_malformed h
      cases he
    · next hitems => exact iff_of_true rfl hitems
  | _ => simp [ofJson]

/-- A value is the description of a form exactly if the grammar says so, and what is missing is told
apart from what is wrong. Every name is one of a rule and one of an operator. -/
theorem ofJson_outcomes (v : Json) :
    (∀ found, ofJson v = .error (.notObject found) ↔ v = found ∧ ∀ members, v ≠ .object members) ∧
    (ofJson v = .error .noFields ↔
      ∃ members, v = .object members ∧ ∀ items, members.lookup "fields" ≠ some (.array items)) ∧
    ((∃ form, ofJson v = .ok form) ↔ IsForm v) ∧
    ∀ name, (Decode.ruleKind (.string name) = .ok (.ofName name) ∧
        Decode.ruleKind (.object [(name, .null)]) = .ok (.ofName name)) ∧
      Decode.operator (.string name) = .ok (.ofName name) ∧
        Decode.operator (.object [(name, .null)]) = .ok (.ofName name) :=
  ⟨fun _ ↦ ofJson_eq_notObject_iff, ofJson_eq_noFields_iff, exists_ofJson_iff,
    fun _ ↦ ⟨⟨rfl, rfl⟩, rfl, rfl⟩⟩

end Formwork.Form
