import Formwork.Proofs.Pattern.Address
import Formwork.Proofs.Validation.Restriction

namespace Formwork

open Pattern (IsMailAddress IsWebAddress)

namespace Rule

variable {rule : Rule} {f : Field}

theorem demand?_of_email (hk : rule.kind = .email) (hs : f.shape = .text) (backend : Backend) :
    (rule.demand? f backend).1 = some .email := by
  simp only [demand?, hk, hs, RuleKind.appliesTo, beq_self_eq_true, Bool.not_true,
    Bool.false_eq_true, if_false]

theorem demand?_of_url (hk : rule.kind = .url) (hs : f.shape = .text) (backend : Backend) :
    (rule.demand? f backend).1 = some .url := by
  simp only [demand?, hk, hs, RuleKind.appliesTo, beq_self_eq_true, Bool.not_true,
    Bool.false_eq_true, if_false]

end Rule

namespace Field

variable {f : Field} {rule : Rule} {text : String} {c : Demand} {P : Prop}

/-- The rule lets the text pass if `P` and only then: by its check, and where no other rule is
asked. -/
structure Screens (f : Field) (rule : Rule) (text : String) (P : Prop) : Prop where
  check : ∃ c ∈ (f.checks .native).checks,
    (f.check? .native rule).1 = some c ∧ c.message = rule.messageText ∧
    (c.demand.isMet .native (.string text) = true ↔ P)
  alone : (f.withRules [rule]).Accepts .native (some (.string text)) ↔ P
  together : f.Accepts .native (some (.string text)) → P

theorem screens_of_demand? (hm : rule ∈ f.validation) (hs : f.shape = .text) (ht : text ≠ "")
    (hk : rule.kind ≠ .required) (hc : (rule.demand? f .native).1 = some c)
    (hP : c.isMet .native (.string text) = true ↔ P) : f.Screens rule text P := by
  have hcheck : (f.check? .native rule).1 = some ⟨rule.messageText, c⟩ := congrArg (Option.map _) hc
  have hread := read_of_text hs ht
  have hpasses : rule.passes f .native (.string text) = true ↔ P := by
    rw [Rule.passes_eq hc, Option.all_some]
    exact hP
  have hallows : rule.Allows f .native (.present (.string text)) ↔ P := by
    rw [← hpasses]
    exact ⟨fun h ↦ h.1 _ rfl, fun h ↦ ⟨fun _ hv ↦ Entry.present.inj hv ▸ h, fun he ↦ absurd he hk⟩⟩
  refine ⟨⟨_, List.mem_filterMap.2 ⟨rule, hm, hcheck⟩, hcheck, rfl, hP⟩, ?_, fun h ↦ ?_⟩
  · have hshape : f.shape.Allows (.present (.string text)) := ⟨nofun, fun _ ↦ nofun⟩
    refine (accepts_iff (f.withRules [rule]) .native _).trans ?_
    rw [← hallows]
    change f.shape.Allows (f.shape.read _) ∧ (∀ r ∈ [rule], r.Allows f .native (f.shape.read _)) ↔ _
    rw [hread, and_iff_right hshape, List.forall_mem_singleton]
  · have hrule := ((accepts_iff f .native _).1 h).2 rule hm
    rw [hread] at hrule
    exact hallows.1 hrule

/-- Of the texts in a field, a rule that asks for mail addresses lets pass these alone, and one that
asks for web addresses lets pass those. -/
theorem screens_addresses (hm : rule ∈ f.validation) (hs : f.shape = .text) (ht : text ≠ "") :
    (rule.kind = .email → f.Screens rule text (IsMailAddress text.toList)) ∧
      (rule.kind = .url → f.Screens rule text (IsWebAddress text.toList)) :=
  ⟨fun hk ↦ screens_of_demand? hm hs ht (hk ▸ nofun) (Rule.demand?_of_email hk hs .native)
      (Pattern.isFoundIn_mailAddress_iff text),
    fun hk ↦ screens_of_demand? hm hs ht (hk ▸ nofun) (Rule.demand?_of_url hk hs .native)
      (Pattern.isFoundIn_webAddress_iff text)⟩

def contact : Field := (named "contact" .email).withRules [.ofKind .email]

def site : Field := (named "site" .text).withRules [.ofKind .url]

theorem screens_addresses_contact :
    (contact.Accepts .native (some (.string "jane@example.com")) ∧
      ¬ contact.Accepts .native (some (.string "jane@example"))) ∧
    site.Accepts .native (some (.string "https://example.com/path?q=1")) ∧
      ¬ site.Accepts .native (some (.string "example.com")) := by
  have hmail {text : String} (ht : text ≠ "") :
      contact.Accepts .native (some (.string text)) ↔ IsMailAddress text.toList :=
    ((screens_addresses (f := contact) (.head _) rfl ht).1 rfl).alone
  have hweb {text : String} (ht : text ≠ "") :
      site.Accepts .native (some (.string text)) ↔ IsWebAddress text.toList :=
    ((screens_addresses (f := site) (.head _) rfl ht).2 rfl).alone
  have hunblank {text : String} (h : text.toList.all fun c ↦ !Text.isBlank c) :
      ∀ c ∈ text.toList, Text.isBlank c = false :=
        fun c hc ↦ (Bool.not_eq_true' _).mp (List.all_eq_true.1 h c hc)
  have hjane : IsMailAddress "jane@example.com".toList :=
    ⟨hunblank (by decide), by decide, "jane".toList, "example.com".toList, rfl, by decide,
      7, by decide⟩
  have hscheme : ∀ d ∈ "ttps".toList, d.isAlphanum = true ∨ d ∈ ['+', '.', '-'] := fun d hd ↦
    .inl (List.all_eq_true.1 (by decide : "ttps".toList.all Char.isAlphanum) d hd)
  have hexample : IsWebAddress "https://example.com/path?q=1".toList := by
    refine ⟨'h', "ttps".toList, "example.com/path?q=1".toList, rfl, by decide, hscheme, by decide,
      hunblank (by decide), ?_⟩
    rintro _ ⟨⟩
    decide
  have hdotless : ¬ IsMailAddress "jane@example".toList := by
    rintro ⟨-, -, before, behind, he, -, i, -, -, hdot⟩
    have hmem : '.' ∈ "jane@example".toList := by
      rw [he]
      exact List.mem_append_right _ (.tail _ (List.mem_of_getElem? hdot))
    exact absurd hmem (by decide)
  have hcolonless : ¬ IsWebAddress "example.com".toList := by
    rintro ⟨c, scheme, rest, he, -⟩
    have hmem : ':' ∈ "example.com".toList := by
      rw [he]
      exact List.mem_append_right _ (.head _)
    exact absurd hmem (by decide)
  exact ⟨⟨(hmail (by decide)).2 hjane, mt (hmail (by decide)).1 hdotless⟩,
    (hweb (by decide)).2 hexample,
    mt (hweb (by decide)).1 hcolonless⟩

end Field

end Formwork
