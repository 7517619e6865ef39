import Formwork.Pattern.Basic
import Formwork.Proofs.Pattern.Language
import Mathlib.Data.List.Count

namespace Formwork.Pattern

variable {a : Alphabet} {c d : Char} {cs w : List Char}

theorem CharSet.contains_negate (s : CharSet) :
    (CharSet.negate s).contains a c = !s.contains a c := rfl

theorem CharSet.contains_union (s t : CharSet) :
    (CharSet.union s t).contains a c = (s.contains a c || t.contains a c) :=
  rfl

theorem CharSet.contains_range {first last : Char} :
    (CharSet.range first last).contains a c = true ↔ first ≤ c ∧ c ≤ last := by
  have hrange : (CharSet.range first last).contains a c =
      (decide (first ≤ c) && decide (c ≤ last)) := rfl
  rw [hrange, Bool.and_eq_true, decide_eq_true_iff, decide_eq_true_iff]

theorem CharSet.contains_char : (CharSet.char d).contains a c = true ↔ c = d := by
  rw [char, contains_range]
  exact ⟨fun h ↦ Char.le_antisymm h.2 h.1, fun h ↦ h ▸ ⟨Char.le_refl c, Char.le_refl c⟩⟩

theorem CharSet.contains_unionAll {ss : List CharSet} :
    (unionAll ss).contains a c = true ↔ ∃ s ∈ ss, s.contains a c = true := by
  have hfold (t : CharSet) : (ss.foldl .union t).contains a c = true ↔
      t.contains a c = true ∨ ∃ s ∈ ss, s.contains a c = true := by
    induction ss generalizing t with
    | nil => simp
    | cons s ss ih =>
      rw [List.foldl_cons, ih, contains_union, Bool.or_eq_true, or_assoc]
      simp only [List.mem_cons, exists_eq_or_imp]
  exact (hfold .none).trans (or_iff_right Bool.false_ne_true)

theorem contains_oneOf {text : String} : (oneOf text).contains a c = true ↔ c ∈ text.toList := by
  rw [oneOf, CharSet.contains_unionAll]
  simp only [List.mem_map, exists_exists_and_eq_and, CharSet.contains_char, exists_eq_right']

theorem contains_nonspace : (CharSet.negate (.shorthand .space)).contains .unicode c = true ↔
    Text.isBlank c = false := by
  rw [CharSet.contains_negate, Bool.not_eq_true']
  exact Iff.rfl

theorem contains_negate_union_space {s : CharSet} :
    (CharSet.negate (.union (.shorthand .space) s)).contains .unicode c = true ↔
      Text.isBlank c = false ∧ ¬ s.contains .unicode c = true := by
  rw [CharSet.contains_negate, Bool.not_eq_true', CharSet.contains_union, Bool.or_eq_false_iff,
    Bool.not_eq_true]
  exact Iff.rfl

theorem contains_mailChar : mailChar.contains .unicode c = true ↔
    Text.isBlank c = false ∧ c ≠ '@' :=
  contains_negate_union_space.trans (and_congr_right' (not_congr CharSet.contains_char))

theorem contains_hostChar : hostChar.contains .unicode c = true ↔
    Text.isBlank c = false ∧ c ∉ ['/', '?', '#'] :=
  contains_negate_union_space.trans (and_congr_right' (not_congr contains_oneOf))

theorem contains_asciiLetter : asciiLetter.contains a c = true ↔ c.isAlpha = true := by
  have hupper : (CharSet.range 'A' 'Z').contains a c = true ↔ c.isUpper = true :=
    CharSet.contains_range.trans decide_eq_true_iff.symm
  have hlower : (CharSet.range 'a' 'z').contains a c = c.isLower := rfl
  have halpha : c.isAlpha = (c.isUpper || c.isLower) := rfl
  rw [asciiLetter, CharSet.contains_union, halpha, Bool.or_eq_true, Bool.or_eq_true, hupper, hlower]

theorem contains_schemeChar : schemeChar.contains a c = true ↔
    c.isAlphanum = true ∨ c ∈ ['+', '.', '-'] := by
  have hdigit : (CharSet.range '0' '9').contains a c = c.isDigit := rfl
  have halphanum : c.isAlphanum = (c.isAlpha || c.isDigit) := rfl
  rw [schemeChar, CharSet.contains_unionAll, halphanum, Bool.or_eq_true]
  simp only [List.exists_mem_cons_iff, List.not_mem_nil, false_and, exists_false, or_false,
    contains_asciiLetter, contains_oneOf, hdigit, or_assoc]
  exact Iff.rfl

theorem mem_language_one_pow {s : CharSet} {k : Nat} :
    w ∈ (Regular.one s).language a ^ k ↔ w.length = k ∧ ∀ c ∈ w, s.contains a c = true := by
  induction k generalizing w with
  | zero =>
    rw [pow_zero, Language.mem_one, List.length_eq_zero_iff]
    exact (and_iff_left_of_imp fun h ↦ h ▸ List.forall_mem_nil _).symm
  | succ k ih =>
    rw [pow_succ', Language.mem_mul]
    constructor
    · rintro ⟨_, ⟨c, rfl, hc⟩, v, hv, rfl⟩
      obtain ⟨hlen, hall⟩ := ih.1 hv
      exact ⟨congrArg (· + 1) hlen, List.forall_mem_cons.2 ⟨hc, hall⟩⟩
    · rintro ⟨hlen, hall⟩
      obtain ⟨c, v, rfl⟩ := List.exists_cons_of_length_eq_add_one hlen
      obtain ⟨hc, hall⟩ := List.forall_mem_cons.1 hall
      exact ⟨[c], ⟨c, rfl, hc⟩, v, ih.2 ⟨Nat.succ.inj hlen, hall⟩, rfl⟩

theorem mem_language_run {s : CharSet} {low : Nat} {greedy : Bool} :
    w ∈ (Regular.iterate (.one s) low none greedy).language a ↔
      low ≤ w.length ∧ ∀ c ∈ w, s.contains a c = true := by
  constructor
  · rintro ⟨k, hlow, -, hk⟩
    obtain ⟨rfl, hall⟩ := mem_language_one_pow.1 hk
    exact ⟨hlow, hall⟩
  · rintro ⟨hlow, hall⟩
    exact ⟨w.length, hlow, nofun, mem_language_one_pow.2 ⟨rfl, hall⟩⟩

theorem mem_language_some1 {s : CharSet} :
    w ∈ (some1 s).language a ↔ w ≠ [] ∧ ∀ c ∈ w, s.contains a c = true :=
  mem_language_run.trans (and_congr_left' List.length_pos_iff)

theorem mem_language_some0 {s : CharSet} :
    w ∈ (some0 s).language a ↔ ∀ c ∈ w, s.contains a c = true :=
  mem_language_run.trans (and_iff_right (Nat.zero_le _))

theorem mem_language_one_mul {s : CharSet} {L : Language Char} :
    w ∈ (Regular.one s).language a * L ↔ ∃ c, s.contains a c = true ∧ ∃ v ∈ L, w = c :: v := by
  rw [Language.mem_mul]
  constructor
  · rintro ⟨_, ⟨c, rfl, hc⟩, v, hv, rfl⟩
    exact ⟨c, hc, v, hv, rfl⟩
  · rintro ⟨c, hc, v, hv, rfl⟩
    exact ⟨[c], ⟨c, rfl, hc⟩, v, hv, rfl⟩

theorem mem_language_char_mul {L : Language Char} :
    w ∈ (Regular.one (.char d)).language a * L ↔ ∃ v ∈ L, w = d :: v := by
  simp only [mem_language_one_mul, CharSet.contains_char, exists_eq_left]

def IsMailPart (cs : List Char) : Prop := cs ≠ [] ∧ ∀ c ∈ cs, Text.isBlank c = false ∧ c ≠ '@'

/-- No white space, one at sign with text before it, and behind it a dot that is neither the first
character nor the last. -/
structure IsMailAddress (cs : List Char) : Prop where
  unblank : ∀ c ∈ cs, Text.isBlank c = false
  count_at : cs.count '@' = 1
  parts : ∃ before behind, cs = before ++ '@' :: behind ∧ before ≠ [] ∧
    ∃ i, 0 < i ∧ i + 1 < behind.length ∧ behind[i]? = some '.'

theorem isFoundIn_mailAddress_iff_parts (t : String) : mailAddress.isFoundIn .unicode t = true ↔
    ∃ x y z, t.toList = x ++ '@' :: (y ++ '.' :: z) ∧ IsMailPart x ∧ IsMailPart y ∧
      IsMailPart z := by
  have hedgeless :
      ∀ r ∈ [some1 mailChar, .one (.char '@'), some1 mailChar, .one (.char '.'), some1 mailChar],
      r.IsEdgeless := by
    simp [some1, Regular.IsEdgeless]
  have hpart {w : List Char} : w ∈ (some1 mailChar).language .unicode ↔ IsMailPart w := by
    simp only [mem_language_some1, contains_mailChar, IsMailPart]
  refine (Regular.isFoundIn_concatAll_iff hedgeless t).trans ?_
  simp only [List.map_cons, List.map_nil, List.prod_cons, List.prod_nil, mul_one,
    mem_language_char_mul, Language.mem_mul (l := (some1 _).language _), hpart]
  constructor
  · rintro ⟨x, hx, _, ⟨_, ⟨y, hy, _, ⟨z, hz, rfl⟩, rfl⟩, rfl⟩, he⟩
    exact ⟨x, y, z, he.symm, hx, hy, hz⟩
  · rintro ⟨x, y, z, he, hx, hy, hz⟩
    exact ⟨x, hx, _, ⟨_, ⟨y, hy, _, ⟨z, hz, rfl⟩, rfl⟩, rfl⟩, he.symm⟩

theorem isMailAddress_iff_parts : IsMailAddress cs ↔
    ∃ x y z, cs = x ++ '@' :: (y ++ '.' :: z) ∧ IsMailPart x ∧ IsMailPart y ∧ IsMailPart z := by
  constructor
  · rintro ⟨hblank, hcount, x, behind, rfl, hx, i, hi, hlt, hdot⟩
    -- The one at sign is the one between the two parts.
    rw [List.count_append, List.count_cons_self] at hcount
    have hx0 : '@' ∉ x := List.count_eq_zero.1 (by omega)
    have hb0 : '@' ∉ behind := List.count_eq_zero.1 (by omega)
    have hsplit : behind = behind.take i ++ '.' :: behind.drop (i + 1) := by
      obtain ⟨hi', hdot⟩ := List.getElem?_eq_some_iff.1 hdot
      rw [← hdot, ← List.drop_eq_getElem_cons hi', List.take_append_drop]
    have hpart : ∀ w : List Char, w ≠ [] → (∀ c ∈ w, c ∈ x ∨ c ∈ behind) → IsMailPart w := by
      intro w hw hsub
      refine ⟨hw, fun c hc ↦ ⟨?_, fun he ↦ ?_⟩⟩
      · exact hblank c (List.mem_append.2 ((hsub c hc).imp_right (.tail _)))
      · exact (hsub c hc).elim (fun h ↦ hx0 (he ▸ h)) fun h ↦ hb0 (he ▸ h)
    refine ⟨x, behind.take i, behind.drop (i + 1), by rw [← hsplit], ?_, ?_, ?_⟩
    · exact hpart x hx fun c ↦ .inl
    · refine hpart _ (List.length_pos_iff.1 ?_) fun c hc ↦ .inr (List.mem_of_mem_take hc)
      rw [List.length_take]
      omega
    · refine hpart _ (List.length_pos_iff.1 ?_) fun c hc ↦ .inr (List.mem_of_mem_drop hc)
      rw [List.length_drop]
      omega
  · rintro ⟨x, y, z, rfl, ⟨hx, hxs⟩, ⟨hy, hys⟩, ⟨hz, hzs⟩⟩
    have hcount : ∀ w : List Char, (∀ c ∈ w, Text.isBlank c = false ∧ c ≠ '@') →
        w.count '@' = 0 := by
      intro w hw
      exact List.count_eq_zero.2 fun h ↦ (hw _ h).2 rfl
    refine ⟨?_, ?_, x, y ++ '.' :: z, rfl, hx, y.length, List.length_pos_iff.2 hy, ?_, ?_⟩
    · have hat : Text.isBlank '@' = false := by decide
      have hdot : Text.isBlank '.' = false := by decide
      simp only [List.forall_mem_append, List.forall_mem_cons]
      exact ⟨fun c hc ↦ (hxs c hc).1, hat, fun c hc ↦ (hys c hc).1, hdot, fun c hc ↦ (hzs c hc).1⟩
    · have hne : '.' ≠ '@' := by decide
      rw [List.count_append, List.count_cons_self, List.count_append, List.count_cons_of_ne hne,
        hcount x hxs, hcount y hys, hcount z hzs]
    · have hlen := List.length_pos_iff.2 hz
      rw [List.length_append, List.length_cons]
      omega
    · rw [List.getElem?_append_right le_rfl, Nat.sub_self]
      rfl

/-- The pattern of mail addresses takes these and no others. -/
theorem isFoundIn_mailAddress_iff (t : String) :
    mailAddress.isFoundIn .unicode t = true ↔ IsMailAddress t.toList :=
  (isFoundIn_mailAddress_iff_parts t).trans isMailAddress_iff_parts.symm

/-- A letter with more of what schemes are made of, a colon with two slashes, and a rest without
white space that begins with none of the characters that begin paths, queries and fragments. -/
def IsWebAddress (cs : List Char) : Prop :=
  ∃ c scheme rest, cs = c :: scheme ++ ':' :: '/' :: '/' :: rest ∧ c.isAlpha = true ∧
    (∀ d ∈ scheme, d.isAlphanum = true ∨ d ∈ ['+', '.', '-']) ∧ rest ≠ [] ∧
      (∀ d ∈ rest, Text.isBlank d = false) ∧
    ∀ d, rest.head? = some d → d ∉ ['/', '?', '#']

theorem mem_language_rest :
    w ∈ (some1 hostChar).language .unicode * (some0
      (.negate (.shorthand .space))).language .unicode ↔
      w ≠ [] ∧ (∀ d ∈ w, Text.isBlank d = false) ∧ ∀ d, w.head? = some d → d ∉ ['/', '?', '#'] := by
  simp only [Language.mem_mul, mem_language_some1, mem_language_some0, contains_hostChar,
    contains_nonspace]
  constructor
  · rintro ⟨u, ⟨hu, hhost⟩, v, hv, rfl⟩
    obtain ⟨d, u, rfl⟩ := List.exists_cons_of_ne_nil hu
    refine ⟨nofun, List.forall_mem_append.2 ⟨fun c hc ↦ (hhost c hc).1, hv⟩, ?_⟩
    rintro _ ⟨⟩
    exact (hhost d (.head _)).2
  · rintro ⟨hw, hblank, hhead⟩
    obtain ⟨d, v, rfl⟩ := List.exists_cons_of_ne_nil hw
    obtain ⟨hd, hv⟩ := List.forall_mem_cons.1 hblank
    exact ⟨[d], ⟨nofun, List.forall_mem_singleton.2 ⟨hd, hhead d rfl⟩⟩, v, hv, rfl⟩

/-- The pattern of web addresses takes these and no others. -/
theorem isFoundIn_webAddress_iff (t : String) :
    webAddress.isFoundIn .unicode t = true ↔ IsWebAddress t.toList := by
  have hedgeless : ∀ r ∈ [.one asciiLetter, some0 schemeChar, .one (.char ':'), .one (.char '/'),
      .one (.char '/'), some1 hostChar, some0 (.negate (.shorthand .space))], r.IsEdgeless := by
    simp [some1, some0, Regular.IsEdgeless]
  have hscheme {w : List Char} : w ∈ (some0 schemeChar).language .unicode ↔
      ∀ d ∈ w, d.isAlphanum = true ∨ d ∈ ['+', '.', '-'] := by
    simp only [mem_language_some0, contains_schemeChar]
  have hletter {L : Language Char} : t.toList ∈ (Regular.one asciiLetter).language .unicode * L ↔
      ∃ c, c.isAlpha = true ∧ ∃ v ∈ L, t.toList = c :: v := by
    simp only [mem_language_one_mul, contains_asciiLetter]
  refine (Regular.isFoundIn_concatAll_iff hedgeless t).trans ?_
  simp only [List.map_cons, List.map_nil, List.prod_cons, List.prod_nil, mul_one]
  rw [hletter]
  simp only [Language.mem_mul (l := (some0 schemeChar).language _), mem_language_char_mul,
    mem_language_rest, hscheme]
  constructor
  · rintro ⟨c, hc, _, ⟨scheme, hs, _, ⟨_, ⟨_, ⟨rest, hr, rfl⟩, rfl⟩, rfl⟩, rfl⟩, he⟩
    exact ⟨c, scheme, rest, he, hc, hs, hr⟩
  · rintro ⟨c, scheme, rest, he, hc, hs, hr⟩
    exact ⟨c, hc, _, ⟨scheme, hs, _, ⟨_, ⟨_, ⟨rest, hr, rfl⟩, rfl⟩, rfl⟩, rfl⟩, he⟩

end Formwork.Pattern
