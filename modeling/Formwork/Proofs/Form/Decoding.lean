import Formwork.Form.Decoder
import Mathlib.Data.List.Forall2

namespace Formwork.Decode

section

variable {ε α β : Type} {x : Except ε α} {b : β}

theorem bind_eq_ok_iff {f : α → Except ε β} : x >>= f = .ok b ↔ ∃ a, x = .ok a ∧ f a = .ok b := by
  cases x with
  | error e => exact ⟨nofun, fun ⟨_, h, _⟩ ↦ nomatch h⟩
  | ok a =>
    refine ⟨fun h ↦ ⟨a, rfl, h⟩, ?_⟩
    rintro ⟨_, ⟨⟩, h⟩
    exact h

theorem map_eq_ok_iff {f : α → β} : f <$> x = .ok b ↔ ∃ a, x = .ok a ∧ f a = b := by
  cases x with
  | error e => exact ⟨nofun, fun ⟨_, h, _⟩ ↦ nomatch h⟩
  | ok a =>
    refine ⟨fun h ↦ ⟨a, rfl, Except.ok.inj h⟩, ?_⟩
    rintro ⟨_, ⟨⟩, rfl⟩
    rfl

theorem pure_eq_ok_iff {a : β} : (pure a : Except ε β) = .ok b ↔ a = b :=
  ⟨Except.ok.inj, congrArg _⟩

end

section

variable {α : Type} {decode : Json → Except DecodeError α} {v : Json} {a default : α} {as : List α}
  {members : List (String × Json)} {key : String}

theorem string_eq_ok_iff {s : String} : string v = .ok s ↔ v = .string s := by
  cases v <;> simp [string]

theorem boolean_eq_ok_iff {b : Bool} : boolean v = .ok b ↔ v = .bool b := by
  cases v <;> simp [boolean]

theorem optionalString_eq_ok_iff {o : Option String} :
    optionalString v = .ok o ↔ v = .null ∧ o = none ∨ ∃ s, v = .string s ∧ o = some s := by
  cases v with
  | null => simp [optionalString, @eq_comm _ o]
  | _ => simp [optionalString, map_eq_ok_iff, string_eq_ok_iff, @eq_comm _ o]

theorem mapM_eq_ok_iff {items : List Json} :
    items.mapM decode = .ok as ↔ List.Forall₂ (fun w a ↦ decode w = .ok a) items as := by
  induction items generalizing as with
  | nil =>
    rw [List.mapM_nil, List.forall₂_nil_left_iff, pure_eq_ok_iff]
    exact eq_comm
  | cons w items ih =>
    rw [List.mapM_cons, List.forall₂_cons_left_iff, bind_eq_ok_iff]
    refine exists_congr fun a ↦ ?_
    simp only [bind_eq_ok_iff, pure_eq_ok_iff, ih, exists_and_left, @eq_comm _ as]

theorem list_eq_ok_iff :
    list decode v = .ok as ↔ ∃ items, v = .array items ∧
      List.Forall₂ (fun w a ↦ decode w = .ok a) items as := by
  cases v with
  | array items => simp only [list, mapM_eq_ok_iff, Json.array.injEq, exists_eq_left']
  | _ => exact ⟨nofun, fun ⟨_, h, _⟩ ↦ nomatch h⟩

theorem member_eq_some_iff :
    member decode members key = .ok (some a) ↔
      ∃ v, members.lookup key = some v ∧ decode v = .ok a := by
  rw [member]
  split <;> simp [map_eq_ok_iff, *]

theorem member_eq_none_iff : member decode members key = .ok none ↔ members.lookup key = none := by
  rw [member]
  split <;> simp [map_eq_ok_iff, *]

theorem memberD_eq_ok_iff :
    memberD decode members key default = .ok a ↔
      members.lookup key = none ∧ a = default ∨
        ∃ v, members.lookup key = some v ∧ decode v = .ok a := by
  rw [memberD, bind_eq_ok_iff, Option.exists]
  simp only [pure_eq_ok_iff, Option.getD_none, Option.getD_some, member_eq_none_iff,
    member_eq_some_iff, exists_eq_right, @eq_comm _ a]

theorem require_eq_ok_iff {o : Option α} : require key o = .ok a ↔ o = some a := by
  cases o <;> simp [require]

theorem tag_eq_ok_iff {ofName : String → Except DecodeError α} :
    tag ofName v = .ok a ↔ ∃ name, ofName name = .ok a ∧
      (v = .string name ∨ v = .object [(name, .null)]) := by
  unfold tag
  split
  · next name => simp
  · next name w => cases w <;> simp [bind_eq_ok_iff, Json.isNull]
  · next members h =>
    have hobject : ∀ name, members ≠ [(name, .null)] := fun name he ↦ h name .null he
    simp [hobject]
  · next hs ho _ =>
    have hstring : ∀ name, v ≠ .string name := hs
    have hobject : ∀ name, v ≠ .object [(name, .null)] := fun name he ↦ ho name .null he
    simp [hstring, hobject]

end

section

variable {members : List (String × Json)} {parts : List Json} {v : Json}

theorem fieldType_eq_ok_iff {t : FieldType} :
    fieldType v = .ok t ↔
      ∃ name, FieldType.ofName? name = some t ∧
        (v = .string name ∨ v = .object [(name, .null)]) := by
  rw [fieldType, tag_eq_ok_iff]
  refine exists_congr fun name ↦ and_congr_left fun _ ↦ ?_
  cases FieldType.ofName? name <;> simp

inductive ReadsRule : Json → Rule → Prop
  | object {members : List (String × Json)} {r : Rule} :
      member ruleKind members "type" = .ok (some r.kind) → members.lookup "value" = r.value →
      memberD optionalString members "message" none = .ok r.message → ReadsRule (.object members) r
  | kind {k : Json} {kind : RuleKind} :
      ruleKind k = .ok kind → ReadsRule (.array [k]) ⟨kind, none, none⟩
  | value {k v : Json} {kind : RuleKind} :
      ruleKind k = .ok kind → ReadsRule (.array [k, v]) ⟨kind, some v, none⟩
  | message {k v m : Json} {kind : RuleKind} {message : Option String} : ruleKind k = .ok kind →
      optionalString m = .ok message → ReadsRule (.array [k, v, m]) ⟨kind, some v, message⟩

theorem rule_eq_ok_iff {r : Rule} : rule v = .ok r ↔ ReadsRule v r := by
  constructor
  · intro h
    match v, h with
    | .object members, h =>
      simp only [rule, bind_eq_ok_iff, pure_eq_ok_iff, require_eq_ok_iff] at h
      obtain ⟨message, hmessage, _, hkind, kind, rfl, rfl⟩ := h
      exact .object hkind rfl hmessage
    | .array [k], h =>
      obtain ⟨kind, hkind, h⟩ := bind_eq_ok_iff.1 h
      cases h
      exact .kind hkind
    | .array [k, v], h =>
      obtain ⟨kind, hkind, h⟩ := bind_eq_ok_iff.1 h
      cases h
      exact .value hkind
    | .array [k, v, m], h =>
      obtain ⟨kind, hkind, h⟩ := bind_eq_ok_iff.1 h
      obtain ⟨message, hmessage, h⟩ := bind_eq_ok_iff.1 h
      cases h
      exact .message hkind hmessage
    | .array (k :: v :: m :: x :: rest), h =>
      obtain ⟨kind, hkind, h⟩ := bind_eq_ok_iff.1 h
      obtain ⟨message, hmessage, h⟩ := bind_eq_ok_iff.1 h
      obtain ⟨_, hlength, h⟩ := bind_eq_ok_iff.1 h
      simp [noMore] at hlength
  · intro h
    cases h with
    | object hkind hvalue hmessage =>
      simp only [rule, bind_eq_ok_iff, pure_eq_ok_iff, require_eq_ok_iff]
      exact ⟨r.message, hmessage, some r.kind, hkind, r.kind, rfl, hvalue ▸ rfl⟩
    | kind hkind => exact bind_eq_ok_iff.2 ⟨_, hkind, rfl⟩
    | value hkind => exact bind_eq_ok_iff.2 ⟨_, hkind, rfl⟩
    | message hkind hmessage =>
      exact bind_eq_ok_iff.2 ⟨_, hkind, bind_eq_ok_iff.2 ⟨_, hmessage, rfl⟩⟩

inductive ReadsCondition : Json → Condition → Prop
  | object {members : List (String × Json)} {c : Condition} :
      member string members "field" = .ok (some c.field) →
      member operator members "operator" = .ok (some c.operator) →
      members.lookup "value" = c.value →
      ReadsCondition (.object members) c
  | operator {f o : Json} {field : String} {op : Operator} :
      string f = .ok field → operator o = .ok op → ReadsCondition (.array [f, o]) ⟨field, op, none⟩
  | value {f o v : Json} {field : String} {op : Operator} :
      string f = .ok field → Decode.operator o = .ok op →
      ReadsCondition (.array [f, o, v]) ⟨field, op, some v⟩

theorem condition_eq_ok_iff {c : Condition} : condition v = .ok c ↔ ReadsCondition v c := by
  constructor
  · intro h
    match v, h with
    | .object members, h =>
      simp only [condition, bind_eq_ok_iff, pure_eq_ok_iff, require_eq_ok_iff] at h
      obtain ⟨_, hfield, _, hop, field, rfl, op, rfl, rfl⟩ := h
      exact .object hfield hop rfl
    | .array [f], h =>
      obtain ⟨_, _, h⟩ := bind_eq_ok_iff.1 h
      cases h
    | .array [f, o], h =>
      obtain ⟨field, hfield, h⟩ := bind_eq_ok_iff.1 h
      obtain ⟨op, hop, h⟩ := bind_eq_ok_iff.1 h
      cases h
      exact .operator hfield hop
    | .array [f, o, v], h =>
      obtain ⟨field, hfield, h⟩ := bind_eq_ok_iff.1 h
      obtain ⟨op, hop, h⟩ := bind_eq_ok_iff.1 h
      cases h
      exact .value hfield hop
    | .array (f :: o :: v :: x :: rest), h =>
      obtain ⟨_, _, h⟩ := bind_eq_ok_iff.1 h
      obtain ⟨_, _, h⟩ := bind_eq_ok_iff.1 h
      obtain ⟨_, hlength, h⟩ := bind_eq_ok_iff.1 h
      simp [noMore] at hlength
  · intro h
    cases h with
    | object hfield hop hvalue =>
      simp only [condition, bind_eq_ok_iff, pure_eq_ok_iff, require_eq_ok_iff]
      exact ⟨_, hfield, _, hop, _, rfl, _, rfl, hvalue ▸ rfl⟩
    | operator hfield hop => exact bind_eq_ok_iff.2 ⟨_, hfield, bind_eq_ok_iff.2 ⟨_, hop, rfl⟩⟩
    | value hfield hop => exact bind_eq_ok_iff.2 ⟨_, hfield, bind_eq_ok_iff.2 ⟨_, hop, rfl⟩⟩

structure ReadsChoice (members : List (String × Json)) (c : Choice) : Prop where
  label : member string members "label" = .ok (some c.label)
  value : members.lookup "value" = some c.value
  extra : extras choiceKeys members = c.extra

theorem choice_eq_ok_iff {c : Choice} :
    choice v = .ok c ↔ ∃ members, v = .object members ∧ ReadsChoice members c := by
  cases v with
  | object members =>
    simp only [choice, bind_eq_ok_iff, pure_eq_ok_iff, require_eq_ok_iff, Json.object.injEq,
      exists_eq_left']
    constructor
    · rintro ⟨_, hlabel, label, rfl, value, hvalue, rfl⟩
      exact ⟨hlabel, hvalue, rfl⟩
    · rintro ⟨hlabel, hvalue, hextra⟩
      exact ⟨_, hlabel, _, rfl, _, hvalue, hextra ▸ rfl⟩
  | _ => exact ⟨nofun, fun ⟨_, h, _⟩ ↦ nomatch h⟩

structure ReadsField (members : List (String × Json)) (f : Field) : Prop where
  id : member string members "id" = .ok (some f.id)
  name : member string members "name" = .ok (some f.name)
  label : memberD string members "label" "" = .ok f.label
  type : member fieldType members "type" = .ok (some f.type)
  defaultValue : members.lookup "defaultValue" = f.defaultValue
  validation : memberD (list rule) members "validation" [] = .ok f.validation
  visibilityRules : memberD (list condition) members "visibilityRules" [] = .ok f.visibilityRules
  disableRules : memberD (list condition) members "disableRules" [] = .ok f.disableRules
  clearRules : memberD (list condition) members "clearValueRules" [] = .ok f.clearRules
  multiple : memberD boolean members "multiple" false = .ok f.multiple
  disabled : memberD boolean members "disabled" false = .ok f.disabled
  hidden : memberD boolean members "hidden" false = .ok f.hidden
  reserveSpace : memberD boolean members "reserveSpace" false = .ok f.reserveSpace
  validateOnChange : memberD boolean members "validateOnChange" false = .ok f.validateOnChange
  restrictInput : memberD boolean members "restrictInput" false = .ok f.restrictInput
  clearable : memberD boolean members "clearable" false = .ok f.clearable
  placeholder : memberD optionalString members "placeholder" none = .ok f.placeholder
  helperText : memberD optionalString members "helperText" none = .ok f.helperText
  options : memberD (list choice) members "options" [] = .ok f.options
  extra : extras fieldKeys members = f.extra

theorem field_eq_ok_iff {f : Field} :
    field v = .ok f ↔ ∃ members, v = .object members ∧ ReadsField members f := by
  cases v with
  | object members =>
    simp only [field, bind_eq_ok_iff, pure_eq_ok_iff, require_eq_ok_iff, Json.object.injEq,
      exists_eq_left']
    constructor
    · rintro ⟨_, hclear, _, hclearable, _, hdisable, _, hdisabled, _, hhelper, _, hhidden, _, hid,
        _, hlabel, _, hmultiple, _, hname, _, hoptions, _, hplaceholder, _, hreserve, _, hrestrict,
        _, htype, _, hvalidate, _, hvalidation, _, hvisibility, _, rfl, _, rfl, _, rfl, rfl⟩
      exact ⟨hid, hname, hlabel, htype, rfl, hvalidation, hvisibility, hdisable, hclear, hmultiple,
        hdisabled, hhidden, hreserve, hvalidate, hrestrict, hclearable, hplaceholder, hhelper,
        hoptions, rfl⟩
    · intro h
      refine ⟨_, h.clearRules, _, h.clearable, _, h.disableRules, _, h.disabled, _, h.helperText, _,
        h.hidden, _, h.id, _, h.label, _, h.multiple, _, h.name, _, h.options, _, h.placeholder, _,
        h.reserveSpace, _, h.restrictInput, _, h.type, _, h.validateOnChange, _, h.validation, _,
        h.visibilityRules, _, rfl, _, rfl, _, rfl, ?_⟩
      rw [h.defaultValue, h.extra]
  | _ => exact ⟨nofun, fun ⟨_, h, _⟩ ↦ nomatch h⟩

structure ReadsForm (members : List (String × Json)) (form : Form) : Prop where
  id : memberD optionalString members "id" none = .ok form.id
  title : memberD optionalString members "title" none = .ok form.title
  description : memberD optionalString members "description" none = .ok form.description
  fields : memberD (list field) members "fields" [] = .ok form.fields
  layout : present? members "layout" = form.layout
  styling : present? members "styling" = form.styling

theorem form_eq_ok_iff {f : Form} : form members = .ok f ↔ ReadsForm members f := by
  simp only [form, bind_eq_ok_iff, pure_eq_ok_iff]
  constructor
  · rintro ⟨_, hdescription, _, hfields, _, hid, _, htitle, rfl⟩
    exact ⟨hid, htitle, hdescription, hfields, rfl, rfl⟩
  · intro h
    refine ⟨_, h.description, _, h.fields, _, h.id, _, h.title, ?_⟩
    rw [h.layout, h.styling]

end

end Formwork.Decode

namespace Formwork

theorem Form.ofJson_eq_ok_iff {v : Json} {form : Form} :
    Form.ofJson v = .ok form ↔
      ∃ members items, v = .object members ∧ members.lookup "fields" = some (.array items) ∧
        Decode.ReadsForm members form := by
  cases v with
  | object members =>
    simp only [Form.ofJson, Json.object.injEq, exists_and_left, exists_eq_left']
    split
    · next items h =>
      simp only [h, Option.some.injEq, Json.array.injEq, ← Decode.form_eq_ok_iff, exists_eq_left']
      cases Decode.form members <;> simp [Except.mapError]
    · next h => exact ⟨nofun, fun ⟨items, hl, _⟩ ↦ absurd hl (h items)⟩
  | _ => exact ⟨nofun, fun ⟨_, _, h, _⟩ ↦ nomatch h⟩

end Formwork
