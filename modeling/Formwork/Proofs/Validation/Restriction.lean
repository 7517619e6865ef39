import Formwork.Proofs.Validation.RuleLists

namespace Formwork

namespace Rule

variable {rule : Rule} {f : Field}

theorem demand?_of_pattern {source : String} {p : Pattern} (hk : rule.kind = .pattern)
    (hs : f.shape = .text) (hv : rule.value = some (.string source))
    (hp : Pattern.parse? source = some p) :
    (rule.demand? f .native).1 = some (.pattern p .unicode) := by
  simp only [demand?, hk, hs, RuleKind.appliesTo, beq_self_eq_true, Bool.not_true,
    Bool.false_eq_true, if_false, readPattern?, hv, hp]

theorem demand?_of_not_applies (h : rule.kind.appliesTo f.shape = false) (backend : Backend) :
    (rule.demand? f backend).1 = none := by
  unfold demand?
  split
  · rfl
  · rfl
  · rw [h]
    rfl

theorem passes_of_not_applies (h : rule.kind.appliesTo f.shape = false) (backend : Backend)
    (v : Json) :
    rule.passes f backend v := by
  rw [passes_eq (demand?_of_not_applies h backend), Option.all_none]

end Rule

namespace Field

variable {f : Field} {text : String}

theorem string?_eq_some_iff {v : Json} {s : String} : v.string? = some s ↔ v = .string s := by
  cases v <;> simp [Json.string?]

theorem inputPattern?_eq_some_iff {p : Pattern} :
    f.inputPattern? = some p ↔
      ∃ rule source, f.validation.find? (·.kind == .pattern) = some rule ∧
        rule.value = some (.string source) ∧ Pattern.parse? source = some p := by
  simp only [inputPattern?, Option.bind_eq_bind, Option.bind_eq_some_iff, string?_eq_some_iff]
  constructor
  · rintro ⟨rule, hrule, _, hvalue, source, rfl, hp⟩
    exact ⟨rule, source, hrule, hvalue, hp⟩
  · rintro ⟨rule, source, hrule, hvalue, hp⟩
    exact ⟨rule, hrule, _, hvalue, source, rfl, hp⟩

theorem acceptsText_eq_false_iff :
    f.acceptsText text = false ↔
      (f.restrictInput ∧ text ≠ "") ∧
        ∃ p, f.inputPattern? = some p ∧ p.search .unicode text = .absent := by
  have hgate : (!f.restrictInput || text.isEmpty) = false ↔ f.restrictInput ∧ text ≠ "" := by
    simp only [Bool.or_eq_false_iff, Bool.not_eq_false', String.isEmpty_eq_false_iff]
  rw [← hgate, acceptsText]
  cases !f.restrictInput || text.isEmpty with
  | true => exact iff_of_false Bool.noConfusion fun h ↦ Bool.noConfusion h.1
  | false =>
    rw [if_neg Bool.false_ne_true, and_iff_right rfl]
    cases f.inputPattern? with
    | none => exact iff_of_false Bool.noConfusion nofun
    | some p => simp only [Option.some.injEq, exists_eq_left', bne_eq_false_iff_eq]

def withoutPatterns (f : Field) : Field := f.withRules (f.validation.filter (·.kind != .pattern))

theorem checks_withoutPatterns (h : f.shape ≠ .text) (backend : Backend) :
    f.withoutPatterns.checks backend = f.checks backend := by
  have hchecks : f.withoutPatterns.validation.filterMap (fun rule ↦ (f.check? backend rule).1) =
      f.validation.filterMap fun rule ↦ (f.check? backend rule).1 := by
    rw [withoutPatterns, withRules, List.filterMap_filter]
    refine List.filterMap_congr fun rule _ ↦ ?_
    split
    · rfl
    · next hk =>
      have hk : rule.kind = .pattern := by simpa using hk
      have happlies : rule.kind.appliesTo f.shape = false := by
        rw [hk]
        exact beq_eq_false_iff_ne.2 h
      exact (congrArg (Option.map _) (Rule.demand?_of_not_applies happlies backend)).symm
  have hfirst : f.withoutPatterns.requirement? = f.requirement? := by
    rw [requirement?, withoutPatterns, withRules, List.find?_filter]
    refine congrArg (List.find? · f.validation) (funext fun rule ↦ ?_)
    cases rule.kind <;> rfl
  rw [checks, checks, hfirst]
  exact congrArg (FieldChecks.mk f.name f.shape backend · _) hchecks

theorem read_of_ne_empty (h : text ≠ "") (kind : Shape) :
    kind.read (some (.string text)) = kind.readValue (.string text) :=
  if_neg fun hn ↦ h (String.isEmpty_iff.1 hn)

theorem read_of_text (hs : f.shape = .text) (ht : text ≠ "") :
    f.shape.read (some (.string text)) = .present (.string text) := by
  rw [read_of_ne_empty ht, hs]
  rfl

theorem accepts_of_shape (hs : f.shape = .choice ∨ f.shape = .any) (ht : text ≠ "")
    (backend : Backend) :
    f.Accepts backend (some (.string text)) := by
  have hread : f.shape.read (some (.string text)) = .present (.string text) := by
    rw [read_of_ne_empty ht]
    rcases hs with hs | hs <;> rw [hs] <;> rfl
  have happlies : ∀ kind : RuleKind, kind.appliesTo f.shape = false := fun kind ↦ by
    rcases hs with hs | hs <;> rw [hs] <;> cases kind <;> rfl
  have hsuffices : f.shape.suffices (.present (.string text)) := by
    rcases hs with hs | hs <;> rw [hs] <;> rfl
  rw [accepts_iff, hread]
  exact ⟨Shape.allows_of_suffices hsuffices, fun rule _ ↦
    ⟨fun v _ ↦ Rule.passes_of_not_applies (happlies rule.kind) backend v, fun _ ↦ hsuffices⟩⟩

theorem not_accepts_of_shape (hs : f.shape = .boolean ∨ f.shape = .dateRange ∨
    f.shape = .choiceList) (ht : text ≠ "")
    (backend : Backend) : ¬ f.Accepts backend (some (.string text)) := by
  have hread : f.shape.read (some (.string text)) = .misshapen := by
    rw [read_of_ne_empty ht]
    rcases hs with hs | hs | hs <;> rw [hs] <;> rfl
  rw [accepts_iff, hread]
  exact fun h ↦ h.1.1 rfl

theorem not_accepts_of_unmet {rule : Rule} (hm : rule ∈ f.validation) (hs : f.shape = .text)
    (ht : text ≠ "") {backend : Backend} (hp : rule.passes f backend (.string text) = false) :
    ¬ f.Accepts backend (some (.string text)) := by
  rw [accepts_iff, read_of_text hs ht]
  exact fun h ↦ Bool.eq_false_iff.1 hp ((h.2 rule hm).1 _ rfl)

/-- Of a text that is refused the field has a complaint, unless it is one that knows no patterns and
may still hold the text: a single choice or any value then has none, and a number is asked about its
other rules. What refuses the text is in any case the pattern of the first rule that asks for one,
which has to be well-formed. -/
theorem complains_of_refused (h : f.acceptsText text = false) :
    ((∃ message, (f.checks .native).validate (some (.string text)) = some message) ↔
      f.shape ≠ .choice ∧ f.shape ≠ .any ∧
        (f.shape = .number →
          ∃ message, (f.withoutPatterns.checks .native).validate (some (.string text)) =
            some message)) ∧
    ∃ rule source p, f.validation.find? (·.kind == .pattern) = some rule ∧
      rule.value = some (.string source) ∧ Pattern.parse? source = some p ∧
      p.search .unicode text = .absent := by
  obtain ⟨⟨-, ht⟩, p, hp, hunmet⟩ := acceptsText_eq_false_iff.1 h
  obtain ⟨rule, source, hfirst, hvalue, hparse⟩ := inputPattern?_eq_some_iff.1 hp
  refine ⟨?_, rule, source, p, hfirst, hvalue, hparse, hunmet⟩
  rw [← Option.ne_none_iff_exists', ← Option.ne_none_iff_exists']
  cases hs : f.shape with
  | choice =>
    exact iff_of_false (not_not_intro (accepts_of_shape (.inl hs) ht .native)) fun h ↦ h.1 rfl
  | any =>
    exact iff_of_false (not_not_intro (accepts_of_shape (.inr hs) ht .native)) fun h ↦ h.2.1 rfl
  | number =>
    rw [checks_withoutPatterns (hs ▸ nofun)]
    exact ⟨fun hv ↦ ⟨nofun, nofun, fun _ ↦ hv⟩, fun hv ↦ hv.2.2 rfl⟩
  | text =>
    -- What is entered and what is checked later go by the same pattern here.
    have hm : rule ∈ f.validation := List.mem_of_find?_eq_some hfirst
    have hk : rule.kind = .pattern := beq_iff_eq.1 (List.find?_some hfirst :)
    have hpasses : rule.passes f .native (.string text) = false := by
      rw [Rule.passes_eq (Rule.demand?_of_pattern hk hs hvalue hparse), Option.all_some,
        Demand.isMet_pattern, hunmet]
      rfl
    exact iff_of_true (not_accepts_of_unmet hm hs ht hpasses) ⟨nofun, nofun, nofun⟩
  | boolean => exact iff_of_true (not_accepts_of_shape (.inl hs) ht .native) ⟨nofun, nofun, nofun⟩
  | dateRange =>
    exact iff_of_true (not_accepts_of_shape (.inr (.inl hs)) ht .native) ⟨nofun, nofun, nofun⟩
  | choiceList =>
    exact iff_of_true (not_accepts_of_shape (.inr (.inr hs)) ht .native) ⟨nofun, nofun, nofun⟩

def restricted (name : String) (type : FieldType) (source : String) (rules : List Rule) : Field :=
  { named name type with
    restrictInput := true
    validation := ⟨.pattern, some (.string source), none⟩ :: rules }

def share : Field :=
  restricted "share" .number "^[0-9]{1,3}$" [⟨.max, some (.int 100), some "Too much"⟩]

def zip : Field := restricted "zip" .text "^[0-9]*$" [needed, fourLong]

theorem complains_of_refused_zip :
    (zip.acceptsText "12a" = false ∧
      ∃ message, (zip.checks .native).validate (some (.string "12a")) = some message) ∧
    share.acceptsText "1000" = false ∧
      ∃ message, (share.checks .native).validate (some (.string "1000")) = some message := by
  have hzip : zip.acceptsText "12a" = false := by decide +kernel
  have hshare : share.acceptsText "1000" = false := by decide +kernel
  have hmuch : (share.withoutPatterns.checks .native).validate (some (.string "1000")) =
      some "Too much" := by
    decide +kernel
  refine ⟨⟨hzip, ?_⟩, hshare, ?_⟩
  · exact (complains_of_refused hzip).1.2 ⟨nofun, nofun, nofun⟩
  · exact (complains_of_refused hshare).1.2 ⟨nofun, nofun, fun _ ↦ ⟨_, hmuch⟩⟩

/-- A single choice is restricted by a pattern that is never asked about it later. -/
theorem not_complains_whenever_refused :
    ¬ ∀ (f : Field) (text : String), f.acceptsText text = false →
      ∃ message, (f.checks .native).validate (some (.string text)) = some message := by
  intro h
  have hrefused : (restricted "size" .select "^[0-9]+$" []).acceptsText "M" = false := by
    decide +kernel
  have hsilent : ((restricted "size" .select "^[0-9]+$" []).checks .native).validate
      (some (.string "M")) = none := by
    decide +kernel
  obtain ⟨message, hm⟩ := h _ _ hrefused
  exact nomatch hsilent.symm.trans hm

end Field

end Formwork
