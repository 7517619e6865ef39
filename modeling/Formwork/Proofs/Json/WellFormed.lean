import Formwork.Json.Reader
import Formwork.Proofs.Form.Decoding
import Formwork.Proofs.Record.Entries

namespace Formwork.Json

mutual

def decidableWellFormed : (v : Json) → Decidable v.WellFormed
  | .array items => decidableWellFormedItems items
  | .object members => @instDecidableAnd _ _ inferInstance (decidableWellFormedMembers members)
  | .null | .bool _ | .number _ | .string _ => .isTrue trivial

def decidableWellFormedItems : (items : List Json) → Decidable (WellFormedItems items)
  | [] => .isTrue trivial
  | v :: items => @instDecidableAnd _ _ (decidableWellFormed v) (decidableWellFormedItems items)

def decidableWellFormedMembers :
    (members : List (String × Json)) → Decidable (WellFormedMembers members)
  | [] => .isTrue trivial
  | (_, v) :: members =>
    @instDecidableAnd _ _ (decidableWellFormed v) (decidableWellFormedMembers members)

end

instance (v : Json) : Decidable v.WellFormed := decidableWellFormed v

variable {v w : Json} {items : List Json} {members : List (String × Json)} {k : String}
  {cs rest : List Char}

theorem wellFormedItems_iff : WellFormedItems items ↔ ∀ w ∈ items, w.WellFormed := by
  induction items with
  | nil => exact iff_of_true trivial (List.forall_mem_nil _)
  | cons v items ih => rw [WellFormedItems, ih, List.forall_mem_cons]

theorem wellFormedMembers_iff : WellFormedMembers members ↔ ∀ e ∈ members, e.2.WellFormed := by
  induction members with
  | nil => exact iff_of_true trivial (List.forall_mem_nil _)
  | cons e members ih => rw [WellFormedMembers, ih, List.forall_mem_cons]

theorem wellFormed_of_lookup (h : WellFormedMembers members) (hl : members.lookup k = some w) :
    w.WellFormed :=
  wellFormedMembers_iff.1 h (k, w) (mem_of_lookup hl)

theorem wellFormedMembers_insertEntry (h : WellFormedMembers members) (hv : v.WellFormed) :
    WellFormedMembers (insertEntry k v members) := by
  refine wellFormedMembers_iff.2 fun e he ↦ ?_
  rcases mem_insertEntry he with rfl | he
  · exact hv
  · exact wellFormedMembers_iff.1 h e he

theorem wellFormed_of_readWord {word : List Char} (hv : v.WellFormed)
    (h : readWord v word cs = .ok (w, rest)) :
    w.WellFormed := by
  induction word generalizing cs with
  | nil =>
    cases h
    exact hv
  | cons c word ih =>
    cases cs with
    | nil => cases h
    | cons d cs =>
      rw [readWord] at h
      split at h
      · exact ih h
      · cases h

theorem wellFormed_of_readNumber {negative : Bool} (h : readNumber negative cs = .ok (v, rest)) :
    v.WellFormed := by
  simp only [readNumber, Decode.bind_eq_ok_iff] at h
  obtain ⟨⟨whole, cs⟩, _, ⟨fraction, cs⟩, _, ⟨power, cs⟩, _, h⟩ := h
  dsimp only at h
  split at h
  · cases h
    trivial
  · split at h
    · cases h
      trivial
    · obtain ⟨x, _, h⟩ := Decode.bind_eq_ok_iff.1 h
      cases h
      trivial

/-- What is read with some fuel is well-formed, if what has been read before is. -/
structure ReadsWellFormed (fuel : Nat) : Prop where
  value {depth : Nat} {cs rest : List Char} {v : Json} :
    readValue depth fuel cs = .ok (v, rest) → v.WellFormed
  items {depth : Nat} {items : List Json} {cs rest : List Char} {v : Json} : WellFormedItems items →
    readItems depth items fuel cs = .ok (v, rest) → v.WellFormed
  members {depth : Nat} {r : Record} {cs rest : List Char}
    {v : Json} : WellFormedMembers r.entries →
    readMembers depth r fuel cs = .ok (v, rest) → v.WellFormed

theorem readsWellFormed_zero : ReadsWellFormed 0 where
  value h := by cases h
  items _ h := by cases h
  members _ h := by cases h

variable {fuel depth : Nat}

theorem ReadsWellFormed.value_succ (ih : ReadsWellFormed fuel)
    (h : readValue depth (fuel + 1) cs = .ok (v, rest)) :
    v.WellFormed := by
  rw [readValue] at h
  cases hcs : skipSpace cs with
  | nil =>
    rw [hcs] at h
    cases h
  | cons c cs =>
    simp only [hcs] at h
    by_cases hnull : c = 'n'
    · rw [if_pos hnull] at h
      exact wellFormed_of_readWord (v := .null) trivial h
    rw [if_neg hnull] at h
    by_cases htrue : c = 't'
    · rw [if_pos htrue] at h
      exact wellFormed_of_readWord (v := .bool true) trivial h
    rw [if_neg htrue] at h
    by_cases hfalse : c = 'f'
    · rw [if_pos hfalse] at h
      exact wellFormed_of_readWord (v := .bool false) trivial h
    rw [if_neg hfalse] at h
    by_cases hminus : c = '-'
    · rw [if_pos hminus] at h
      exact wellFormed_of_readNumber h
    rw [if_neg hminus] at h
    by_cases hdigit : c.isDigit
    · rw [if_pos hdigit] at h
      exact wellFormed_of_readNumber h
    rw [if_neg hdigit] at h
    by_cases hquote : c = '"'
    · rw [if_pos hquote] at h
      obtain ⟨⟨s, cs⟩, _, h⟩ := Decode.bind_eq_ok_iff.1 h
      cases h
      trivial
    rw [if_neg hquote] at h
    split at h
    · split at h
      · cases h
      · split at h
        · cases h
          trivial
        · have hnil : WellFormedItems [] := trivial
          exact ih.items hnil h
    · split at h
      · split at h
        · cases h
        · split at h
          · cases h
            exact ⟨.nil, trivial⟩
          · have hempty : WellFormedMembers Record.empty.entries := trivial
            exact ih.members hempty h
      · cases h

theorem ReadsWellFormed.items_succ (ih : ReadsWellFormed fuel) (hi : WellFormedItems items)
    (h : readItems depth items (fuel + 1) cs = .ok (v, rest)) : v.WellFormed := by
  rw [readItems] at h
  obtain ⟨⟨w, cs⟩, hw, h⟩ := Decode.bind_eq_ok_iff.1 h
  have hall : WellFormedItems (w :: items) := ⟨ih.value hw, hi⟩
  dsimp only at h
  split at h
  · cases h
  · exact ih.items hall h
  · cases h
    exact wellFormedItems_iff.2 fun u hu ↦ wellFormedItems_iff.1 hall u (List.mem_reverse.1 hu)
  · cases h

theorem ReadsWellFormed.members_succ {r : Record} (ih : ReadsWellFormed fuel)
    (hr : WellFormedMembers r.entries)
    (h : readMembers depth r (fuel + 1) cs = .ok (v, rest)) : v.WellFormed := by
  rw [readMembers] at h
  split at h
  · cases h
  · obtain ⟨⟨key, cs⟩, _, h⟩ := Decode.bind_eq_ok_iff.1 h
    dsimp only at h
    split at h
    · cases h
    · obtain ⟨⟨w, cs⟩, hw, h⟩ := Decode.bind_eq_ok_iff.1 h
      have hall : WellFormedMembers (r.insert key w).entries :=
        wellFormedMembers_insertEntry hr (ih.value hw)
      dsimp only at h
      split at h
      · cases h
      · exact ih.members hall h
      · cases h
        exact ⟨(r.insert key w).sorted, hall⟩
      · cases h
    · cases h
  · cases h

theorem readsWellFormed (fuel : Nat) : ReadsWellFormed fuel := by
  induction fuel with
  | zero => exact readsWellFormed_zero
  | succ fuel ih => exact ⟨ih.value_succ, ih.items_succ, ih.members_succ⟩

theorem wellFormed_of_parse {text : String} (h : parse text = .ok v) : v.WellFormed := by
  rw [parse, parseChars] at h
  obtain ⟨⟨w, cs⟩, hw, h⟩ := Decode.bind_eq_ok_iff.1 h
  dsimp only at h
  split at h
  · cases h
    exact (readsWellFormed _).value hw
  · cases h

end Formwork.Json
