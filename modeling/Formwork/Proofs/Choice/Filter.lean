import Formwork.Proofs.Unicode.Lowercase
import Mathlib.Data.List.Infix

namespace Formwork

open Unicode

variable {choices : List Choice} {query : String} {c : Choice} {before behind : List Char}

theorem isWithin_iff (needle cs : List Char) : isWithin needle cs ↔ needle <:+: cs := by
  induction cs with
  | nil => rw [isWithin, List.isEmpty_iff, List.infix_nil]
  | cons c cs ih =>
    rw [isWithin, Bool.or_eq_true, List.isPrefixOf_iff_prefix, ih, List.infix_cons_iff]

theorem mem_matchingChoices :
    c ∈ matchingChoices choices query ↔
      c ∈ choices ∧ (lowercase query).toList <:+: (lowercase c.label).toList := by
  rw [matchingChoices, List.mem_filter, Choice.matchesQuery, isWithin_iff]

theorem infix_lowercase (h : c.label.toList = before ++ query.toList ++ behind) :
    lowercaseWithin before.reverse query.toList behind <:+: (lowercase c.label).toList := by
  rw [toList_lowercase, h, lowercaseWithin_append, lowercaseWithin_append, List.append_nil,
    List.append_nil]
  exact List.infix_append _ _ _

theorem mem_matchingChoices_of_sigmasAgree (hc : c ∈ choices)
    (h : c.label.toList = before ++ query.toList ++ behind)
    (hs : SigmasAgree query.toList before.reverse behind [] []) :
    c ∈ matchingChoices choices query := by
  have hsame : lowercaseWithin before.reverse query.toList behind = (lowercase query).toList := by
    rw [toList_lowercase, lowercaseWithin_eq_iff]
    exact hs
  exact mem_matchingChoices.2 ⟨hc, hsame ▸ infix_lowercase h⟩

structure Finds (choices : List Choice) (query : String) : Prop where
  sublist : (matchingChoices choices query).Sublist choices
  found_iff : ∀ c ∈ choices,
    c ∈ matchingChoices choices query ↔ (lowercase query).toList <:+: (lowercase c.label).toList
  /-- A label with the query in it is missed only if, at every such place, one of the query's
  capital sigmas ends a word in one of the two texts and not in the other. -/
  missed : ∀ c ∈ choices, c ∉ matchingChoices choices query →
    ∀ before behind, c.label.toList = before ++ query.toList ++ behind →
      ¬ SigmasAgree query.toList before.reverse behind [] []
  /-- Of a label that is being typed, this happens only to a part that ends with a capital sigma
  within a word. -/
  typed : ∀ c ∈ choices, c ∉ matchingChoices choices query →
    ∀ behind, c.label.toList = query.toList ++ behind →
      ∃ xs ys, query.toList = xs ++ 'Σ' :: ys ∧ startsCased xs.reverse ∧ CaseIgnored ys ∧
        startsCased behind
  plain : 'Σ' ∉ query.toList → ∀ c ∈ choices, query.toList <:+: c.label.toList →
      c ∈ matchingChoices choices query

/-- The filter finds every label with the query in it, but for those in which a capital sigma of the
query is turned to another letter than in the query. -/
theorem finds_matchingChoices (choices : List Choice) (query : String) : Finds choices query where
  sublist := List.filter_sublist
  found_iff := fun c hc ↦ mem_matchingChoices.trans (and_iff_right hc)
  missed :=
    fun c hc hmissed before behind h hs ↦ hmissed (mem_matchingChoices_of_sigmasAgree hc h hs)
  typed := by
    intro c hc hmissed behind h
    have hplace : c.label.toList = [] ++ query.toList ++ behind := h
    exact not_sigmasAgree_iff_of_prefix.1 fun hs ↦ hmissed
      (mem_matchingChoices_of_sigmasAgree hc hplace hs)
  plain := by
    intro hplain c hc ⟨before, behind, h⟩
    refine mem_matchingChoices_of_sigmasAgree hc h.symm fun xs ys hq ↦ ?_
    exact absurd (hq ▸ List.mem_append_right xs (.head ys)) hplain

/-- A capital sigma that is typed last becomes a final one, which the longer word does not have. -/
theorem not_found_whenever_literal :
    ¬ ∀ (choices : List Choice) (query : String), ∀ c ∈ choices, query.toList <:+: c.label.toList →
      c ∈ matchingChoices choices query := by
  intro h
  have hfound := h [⟨"ΝΗΣΟΣ", .null, .empty⟩] "ΝΗΣ" ⟨"ΝΗΣΟΣ", .null, .empty⟩ (.head _) (by decide)
  have hmatches : Choice.matchesQuery ⟨"ΝΗΣΟΣ", .null, .empty⟩ "ΝΗΣ" := (List.mem_filter.1 hfound).2
  exact absurd hmatches (by decide +kernel)

end Formwork
