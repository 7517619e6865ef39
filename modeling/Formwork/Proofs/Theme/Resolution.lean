import Formwork.Proofs.Text.Trim
import Formwork.Theme.Basic
import Mathlib.Data.List.Forall2

namespace Formwork

open Text

namespace Text

variable {s padded : String} {ps : List String}

def Pads (s padded : String) : Prop :=
  ∃ l r, AllBlank l ∧ AllBlank r ∧ padded.toList = l ++ s.toList ++ r

theorem toList_trim (s : String) : (trim s).toList = trimChars s.toList := String.toList_ofList

theorem Pads.trim_eq (h : Pads s padded) : trim padded = trim s := by
  obtain ⟨l, r, hl, hr, h⟩ := h
  rw [trim, trim, h, trimChars_append hl _ hr]

/-- The second text is the first one without the white space around it. -/
def Trims (s t : String) : Prop := Trimmed t.toList ∧ Pads t s

theorem trims_iff {t : String} : Trims s t ↔ trim s = t := by
  constructor
  · rintro ⟨ht, hp⟩
    rw [hp.trim_eq, trim, trimChars_of_trimmed ht, String.ofList_toList]
  · rintro rfl
    rw [Trims, Pads, toList_trim]
    exact ⟨trimmed_trimChars _, exists_blank_append_trimChars _⟩

theorem trim_eq_empty_iff : trim s = "" ↔ AllBlank s.toList := by
  rw [← String.toList_eq_nil_iff, toList_trim, trimChars_eq_nil_iff]

theorem trimmed_intercalate (hps : ps ≠ []) (h : ∀ p ∈ ps, p ≠ "" ∧ Trimmed p.toList) :
    " ".intercalate ps ≠ "" ∧ Trimmed (" ".intercalate ps).toList := by
  induction ps with
  | nil => exact absurd rfl hps
  | cons p ps ih =>
    cases ps with
    | nil =>
      rw [String.intercalate_singleton]
      exact h p (.head _)
    | cons q ps =>
      have hp := h p (.head _)
      have hrest := ih nofun fun p hp ↦ h p (.tail _ hp)
      have hchars : (" ".intercalate (p :: q :: ps)).toList =
          p.toList ++ [' '] ++ (" ".intercalate (q :: ps)).toList := by
        rw [String.intercalate_cons_cons, String.toList_append, String.toList_append]
        rfl
      have hne : p.toList ≠ [] := mt String.toList_eq_nil_iff.1 hp.1
      have hne' : (" ".intercalate (q :: ps)).toList ≠ [] := mt String.toList_eq_nil_iff.1 hrest.1
      refine ⟨fun he ↦ ?_, ?_, ?_⟩
      · rw [← String.toList_eq_nil_iff, hchars] at he
        exact hne' (List.append_eq_nil_iff.1 he).2
      · rw [hchars, List.append_assoc, List.head?_append_of_ne_nil _ hne]
        exact hp.2.1
      · rw [hchars, List.getLast?_append_of_ne_nil _ hne']
        exact hrest.2.2

end Text

theorem Slot.mem_all (slot : Slot) : slot ∈ all := by cases slot <;> decide

theorem lookup_filterMap {α β : Type} [DecidableEq α] (f : α → Option β) (l : List α) (a : α) :
    (l.filterMap fun x ↦ (f x).map fun b ↦ (x, b)).lookup a = if a ∈ l then f a else none := by
  induction l with
  | nil => rfl
  | cons x l ih =>
    by_cases hx : a = x
    · subst hx
      rw [if_pos (.head _)]
      cases hf : f a with
      | none =>
        rw [List.filterMap_cons_none (by rw [hf]; rfl), ih, hf, ite_self]
      | some b => rw [List.filterMap_cons_some (by rw [hf]; rfl), List.lookup_cons_self]
    · have hmem : a ∈ x :: l ↔ a ∈ l := by rw [List.mem_cons, or_iff_right hx]
      simp only [hmem, ← ih]
      cases hf : f x with
      | none => rw [List.filterMap_cons_none (by rw [hf]; rfl)]
      | some b =>
        rw [List.filterMap_cons_some (by rw [hf]; rfl), List.lookup_cons, beq_false_of_ne hx]

theorem map_fst_filterMap {α β : Type} (f : α → Option β) (l : List α) :
    (l.filterMap fun x ↦ (f x).map fun b ↦ (x, b)).map Prod.fst =
      l.filter fun x ↦ (f x).isSome := by
  induction l with
  | nil => rfl
  | cons x l ih => cases h : f x <;> simp [h, ih]

namespace Theme

variable {t : Theme} {component : String} {state : WidgetState} {overrides : Overrides}
  {useGlobal : Bool} {slot : Slot} {cs cs' : List String}

def nonblank (cs : List String) : List String := cs.filter fun s ↦ ¬ AllBlank s.toList

theorem parts_eq (cs : List String) : parts cs = (nonblank cs).map trim := by
  rw [parts, nonblank, List.filter_map]
  congr 1
  refine List.filter_congr fun s _ ↦ ?_
  rw [Bool.eq_iff_iff]
  simp [← trim_eq_empty_iff]

theorem parts_congr (h : List.Forall₂ Pads cs cs') : parts cs' = parts cs := by
  have hmap : cs'.map trim = cs.map trim := by
    induction h with
    | nil => rfl
    | cons h _ ih => rw [List.map_cons, List.map_cons, h.trim_eq, ih]
  rw [parts, parts, hmap]

/-- What is said of a slot: by the layer for all widgets if that counts, by the one of the
component, and for the single widget. -/
def said (t : Theme) (component : String) (state : WidgetState) (overrides : Overrides)
    (useGlobal : Bool) (slot : Slot) : List String :=
  (if useGlobal then
    (t.global.bind fun l ↦ (l.get? slot).map fun style ↦ style.resolve state).toList
  else []) ++
  ((t.component? component).bind fun l ↦
    (l.get? slot).map fun style ↦ style.resolve state).toList ++
  (overrides.get? slot).toList

theorem contributions_eq (t : Theme) (component : String) (state : WidgetState)
    (overrides : Overrides) (useGlobal : Bool) (slot : Slot) :
    t.contributions component state overrides useGlobal slot =
      t.said component state overrides useGlobal slot := by
  have htoList (a b c : Option String) :
      [a, b, c].filterMap id = a.toList ++ b.toList ++ c.toList := by
    cases a <;> cases b <;> cases c <;> rfl
  rw [contributions, htoList, said]
  cases useGlobal <;> rfl

theorem mem_said_iff {s : String} :
    s ∈ t.said component state overrides useGlobal slot ↔
      (useGlobal ∧ ∃ l style, t.global = some l ∧ l.get? slot = some style ∧
        style.resolve state = s) ∨
      (∃ l style, t.component? component = some l ∧ l.get? slot = some style ∧
        style.resolve state = s) ∨
      overrides.get? slot = some s := by
  have hlayer (layer : Option Layer) :
      s ∈ (layer.bind fun l ↦ (l.get? slot).map fun style ↦ style.resolve state).toList ↔
        ∃ l style, layer = some l ∧ l.get? slot = some style ∧ style.resolve state = s := by
    simp only [Option.mem_toList, Option.bind_eq_some_iff, Option.map_eq_some_iff, exists_and_left]
  rw [said, List.append_assoc, List.mem_append, List.mem_append, hlayer, Option.mem_toList]
  cases useGlobal with
  | true => rw [if_pos rfl, hlayer, and_iff_right rfl]
  | false => exact or_congr_left (iff_of_false List.not_mem_nil (Bool.false_ne_true ·.1))

theorem slotClass?_eq_some_iff {c : String} :
    t.slotClass? component state overrides useGlobal slot = some c ↔
      nonblank (t.said component state overrides useGlobal slot) ≠ [] ∧
        c = " ".intercalate
          ((nonblank (t.said component state overrides useGlobal slot)).map trim) := by
  rw [slotClass?, contributions_eq, parts_eq]
  cases nonblank (t.said component state overrides useGlobal slot) with
  | nil => exact iff_of_false nofun fun h ↦ h.1 rfl
  | cons s rest => exact Option.some_inj.trans (eq_comm.trans (and_iff_right nofun).symm)

theorem lookup_resolve (t : Theme) (component : String) (state : WidgetState)
    (overrides : Overrides) (useGlobal : Bool) (slot : Slot) :
    (t.resolve component state overrides useGlobal).lookup slot =
      t.slotClass? component state overrides useGlobal slot := by
  rw [resolve, lookup_filterMap, if_pos slot.mem_all]

theorem lookup_resolve_congr {t' : Theme} {overrides' : Overrides}
    (h : parts (t'.said component state overrides' useGlobal slot) =
      parts (t.said component state overrides useGlobal slot)) :
    (t'.resolve component state overrides' useGlobal).lookup slot =
      (t.resolve component state overrides useGlobal).lookup slot := by
  rw [lookup_resolve, lookup_resolve, slotClass?, slotClass?, contributions_eq, contributions_eq, h]

theorem map_fst_resolve (t : Theme) (component : String) (state : WidgetState)
    (overrides : Overrides) (useGlobal : Bool) :
    (t.resolve component state overrides useGlobal).map Prod.fst =
      Slot.all.filter fun slot ↦ (t.slotClass? component state overrides useGlobal slot).isSome :=
  map_fst_filterMap _ _

theorem nonblank_ne_nil_iff : nonblank cs ≠ [] ↔ ∃ s ∈ cs, ¬ AllBlank s.toList := by
  rw [nonblank, ne_eq, List.filter_eq_nil_iff]
  simp only [decide_eq_true_eq, not_forall, exists_prop, not_not]

theorem isSome_slotClass?_iff :
    (t.slotClass? component state overrides useGlobal slot).isSome ↔
      ∃ s ∈ t.said component state overrides useGlobal slot, ¬ AllBlank s.toList := by
  rw [Option.isSome_iff_exists, ← nonblank_ne_nil_iff]
  simp only [slotClass?_eq_some_iff, exists_and_left, exists_eq, and_true]

theorem trimmed_of_slotClass? {c : String}
    (h : t.slotClass? component state overrides useGlobal slot = some c) :
    c ≠ "" ∧ Trimmed c.toList := by
  obtain ⟨hne, rfl⟩ := slotClass?_eq_some_iff.1 h
  refine trimmed_intercalate (mt List.map_eq_nil_iff.1 hne) fun p hp ↦ ?_
  obtain ⟨s, hs, rfl⟩ := List.mem_map.1 hp
  have hblank : ¬ AllBlank s.toList := of_decide_eq_true (List.mem_filter.1 hs).2
  refine ⟨mt trim_eq_empty_iff.1 hblank, ?_⟩
  rw [toList_trim]
  exact trimmed_trimChars _

theorem forall₂_trims_iff {ps : List String} : List.Forall₂ Trims cs ps ↔ cs.map trim = ps := by
  have hrel : Trims = fun s p ↦ trim s = p := funext fun s ↦ funext fun p ↦ propext trims_iff
  rw [hrel, ← List.forall₂_map_left_iff, List.forall₂_eq_eq_eq]

/-- Two themes and overrides say the same of a slot of a component: in the layer for all widgets if
it counts, in that of the component, and in the overrides. -/
structure Agree (component : String) (useGlobal : Bool) (slot : Slot) (t t' : Theme)
    (overrides overrides' : Overrides) : Prop where
  global : useGlobal → (t'.global.bind fun l ↦ l.get? slot) = t.global.bind fun l ↦ l.get? slot
  component : ((t'.component? component).bind fun l ↦ l.get? slot) =
      (t.component? component).bind fun l ↦ l.get? slot
  overrides : overrides'.get? slot = overrides.get? slot

theorem Agree.said_eq {t' : Theme} {overrides' : Overrides}
    (h : Agree component useGlobal slot t t' overrides overrides') (state : WidgetState) :
    t'.said component state overrides' useGlobal slot =
      t.said component state overrides useGlobal slot := by
  have hstyle (layer : Option Layer) :
      (layer.bind fun l ↦ (l.get? slot).map fun style ↦ style.resolve state) =
        (layer.bind fun l ↦ l.get? slot).map fun style ↦ style.resolve state := by
    cases layer <;> rfl
  rw [said, said]
  simp only [hstyle, h.component, h.overrides]
  cases useGlobal with
  | true => rw [h.global rfl]
  | false => rfl

structure Resolves (t : Theme) (component : String) (state : WidgetState) (overrides : Overrides)
    (useGlobal : Bool) : Prop where
  ordered : ((t.resolve component state overrides useGlobal).map Prod.fst).Sublist Slot.all
  present_iff : ∀ slot, slot ∈ (t.resolve component state overrides useGlobal).map Prod.fst ↔
    (useGlobal ∧ ∃ l style, t.global = some l ∧ l.get? slot = some style ∧
      ¬ AllBlank (style.resolve state).toList) ∨
    (∃ l style, t.component? component = some l ∧ l.get? slot = some style ∧
      ¬ AllBlank (style.resolve state).toList) ∨
    ∃ s, overrides.get? slot = some s ∧ ¬ AllBlank s.toList
  class_eq : ∀ slot c, (t.resolve component state overrides useGlobal).lookup slot = some c ↔
    nonblank (t.said component state overrides useGlobal slot) ≠ [] ∧
    ∃ ps, List.Forall₂ Trims (nonblank (t.said component state overrides useGlobal slot)) ps ∧
      c = " ".intercalate ps
  trimmed : ∀ e ∈ t.resolve component state overrides useGlobal, e.2 ≠ "" ∧ Trimmed e.2.toList
  /-- Other slots and other components do not matter. -/
  unaffected : ∀ slot (t' : Theme) (overrides' : Overrides),
    Agree component useGlobal slot t t' overrides overrides' →
    (t'.resolve component state overrides' useGlobal).lookup slot =
      (t.resolve component state overrides useGlobal).lookup slot
  /-- Nor does white space around what is said of a slot. -/
  padded : ∀ slot (t' : Theme) (overrides' : Overrides),
    List.Forall₂ Pads (t.said component state overrides useGlobal slot)
      (t'.said component state overrides' useGlobal slot) →
    (t'.resolve component state overrides' useGlobal).lookup slot =
      (t.resolve component state overrides useGlobal).lookup slot

/-- Slots are resolved to what the three layers say of them, trimmed and strung together. -/
theorem resolves (t : Theme) (component : String) (state : WidgetState) (overrides : Overrides)
    (useGlobal : Bool) : Resolves t component state overrides useGlobal where
  ordered := by
    rw [map_fst_resolve]
    exact List.filter_sublist
  present_iff := by
    intro slot
    rw [map_fst_resolve, List.mem_filter, and_iff_right slot.mem_all, isSome_slotClass?_iff]
    simp only [mem_said_iff]
    constructor
    · rintro ⟨s, ⟨hg, l, style, hl, hs, rfl⟩ | ⟨l, style, hl, hs, rfl⟩ | ho, hb⟩
      · exact .inl ⟨hg, l, style, hl, hs, hb⟩
      · exact .inr (.inl ⟨l, style, hl, hs, hb⟩)
      · exact .inr (.inr ⟨s, ho, hb⟩)
    · rintro (⟨hg, l, style, hl, hs, hb⟩ | ⟨l, style, hl, hs, hb⟩ | ⟨s, ho, hb⟩)
      · exact ⟨_, .inl ⟨hg, l, style, hl, hs, rfl⟩, hb⟩
      · exact ⟨_, .inr (.inl ⟨l, style, hl, hs, rfl⟩), hb⟩
      · exact ⟨s, .inr (.inr ho), hb⟩
  class_eq := by
    intro slot c
    rw [lookup_resolve, slotClass?_eq_some_iff]
    simp only [forall₂_trims_iff, exists_eq_left']
  trimmed := by
    intro e he
    obtain ⟨slot, -, he⟩ := List.mem_filterMap.1 he
    obtain ⟨c, hc, rfl⟩ := Option.map_eq_some_iff.1 he
    exact trimmed_of_slotClass? hc
  unaffected := by
    intro slot t' overrides' h
    apply lookup_resolve_congr
    rw [h.said_eq state]
  padded := by
    intro slot t' overrides' h
    apply lookup_resolve_congr
    exact parts_congr h

/-- A layer for all widgets and one for text inputs, whose style tells of errors. -/
def plainTheme : Theme where
  global := some [(.input, .fixed "\tbase "), (.label, .fixed "  ")]
  components := [("textInput", [(.input, .computed fun s ↦ if s.error then " invalid" else "")])]

theorem resolves_plainTheme :
    (plainTheme.resolve "textInput" { WidgetState.idle with error := true }
        [(.input, "wide\u00a0")] true).lookup .input =
      some "base invalid wide" ∧
    (plainTheme.resolve "textInput" .idle [(.input, "wide\u00a0")] false).lookup .input =
      some "wide" ∧
    .label ∉ (plainTheme.resolve "textInput" .idle [(.input, "wide\u00a0")] true).map Prod.fst := by
  have hall :=
    resolves plainTheme "textInput" { WidgetState.idle with error := true }
      [(.input, "wide\u00a0")] true
  have halone := resolves plainTheme "textInput" .idle [(.input, "wide\u00a0")] false
  have hidle := resolves plainTheme "textInput" .idle [(.input, "wide\u00a0")] true
  refine ⟨(hall.class_eq .input _).2 ⟨?_, _, forall₂_trims_iff.2 rfl, ?_⟩,
    (halone.class_eq .input _).2 ⟨?_, _, forall₂_trims_iff.2 rfl, ?_⟩, fun hl ↦ ?_⟩
  · decide +kernel
  · decide +kernel
  · decide +kernel
  · decide +kernel
  · rcases (hidle.present_iff .label).1 hl with
      ⟨-, l, style, hg, hs, hb⟩ | ⟨l, style, hc, hs, -⟩ | ⟨s, ho, -⟩
    · cases hg
      cases hs
      exact hb (by decide)
    · cases hc
      cases hs
    · cases ho

end Theme

end Formwork
