import Formwork.Proofs.Session.Run

namespace Formwork

namespace Field

theorem acceptsText_empty (f : Field) : f.acceptsText "" := by
  have h : !f.restrictInput || "".isEmpty := Bool.or_eq_true_iff.2 (.inr rfl)
  rw [acceptsText, if_pos h]

theorem eq_empty_of_blankValue {f : Field} {text : String} (h : f.blankValue = .string text) :
    text = "" := by
  rw [blankValue] at h
  split at h
  · cases h
  · split at h <;> cases h
    rfl

end Field

namespace Session

def Admissible (u : Session) (b : Bag) : Prop := ∀ e ∈ b.entries, u.admits e.1 e.2

instance (u : Session) (b : Bag) : Decidable (u.Admissible b) :=
  inferInstanceAs (Decidable (∀ e ∈ b.entries, u.admits e.1 e.2))

variable {u : Session} {s t : State} {c : Command} {e : String × Json}

/-- What a field is cleared to is admitted under every name, also under that of a field of another
type. -/
theorem admits_blankValue (u : Session) (name : String) (f : Field) :
    u.admits name f.blankValue := by
  unfold admits
  split
  · next g text _ hb =>
    rw [Field.eq_empty_of_blankValue hb]
    exact g.acceptsText_empty
  · rfl

theorem admits_or_mem_of_write {name : String} {value : Json} {revalidate : Bool}
    (ha : u.admits name value) (he : e ∈ (u.write s name value revalidate).1.values.entries) :
    u.admits e.1 e.2 ∨ e ∈ s.values.entries := by
  rw [write_values] at he
  rcases Cascade.mem_entries_clearAll he with ⟨f, _, rfl⟩ | he
  · exact .inl (u.admits_blankValue f.name f)
  · rcases Record.mem_entries_insert he with rfl | he
    · exact .inl ha
    · exact .inr he

theorem Leads.admits_or_mem (h : u.Leads s c t) (he : e ∈ t.values.entries) :
    u.admits e.1 e.2 ∨ e ∈ s.values.entries ∨ e ∈ u.initial.entries := by
  cases h with
  | set ha => exact (admits_or_mem_of_write ha he).imp_right .inl
  | clear _ => exact (admits_or_mem_of_write (u.admits_blankValue _ _) he).imp_right .inl
  | blur name => exact .inr (.inl (u.blur_values s name ▸ he))
  | refuse _ => exact .inr (.inl he)
  | ignore _ => exact .inr (.inl he)
  | submit => exact .inr (.inl he)
  | reset => exact .inr (.inr he)

/-- An entry that would be refused has been there since the start, or since the last reset. -/
theorem Reachable.admits_or_mem_initial (h : u.Reachable s) (he : e ∈ s.values.entries) :
    u.admits e.1 e.2 ∨ e ∈ u.initial.entries := by
  induction h with
  | start => exact .inr he
  | step c _ ih =>
    rcases (u.leads_step _ c).admits_or_mem he with ha | hold | hi
    · exact .inl ha
    · exact ih hold
    · exact .inr hi
  | validate _ ih => exact ih he

theorem admissible_of_reachable (hi : u.Admissible u.initial) (hs : u.Reachable s) :
    u.Admissible s.values :=
  fun e he ↦ (hs.admits_or_mem_initial he).elim id (hi e)

def onNewShop : List Condition := [⟨"shop", .changed, none⟩]

/-- A card whose number consists of digits and goes with the shop, and a date that shares its
entry. -/
def giftCard : Session where
  options := .standard
  form := ⟨none, none, none, [
    { Field.named "shop" .text with defaultValue := some (.string "north") },
    { Field.named "card" .text with
      restrictInput := true, validation :=
        [⟨.pattern, some (.string "^[0-9]+$"), none⟩], clearRules := onNewShop },
    { Field.named "card" .date with defaultValue := some (.string "12"), clearRules := onNewShop }],
    none, none⟩

def redeeming : List Command :=
  [.set "card" (.string "7") false, .set "card" (.string "7x") true,
    .set "shop" (.string "south") false]

theorem admissible_of_reachable_giftCard :
    giftCard.Admissible giftCard.initial ∧
    giftCard.Reachable (giftCard.after giftCard.start redeeming) ∧
    giftCard.Admissible (giftCard.after giftCard.start redeeming).values ∧
    Json.sameOption ((giftCard.after giftCard.start (redeeming.take 2)).values.get? "card")
      (some (.string "7")) ∧
    Json.sameOption ((giftCard.after giftCard.start redeeming).values.get? "card")
      (some .null) := by
  have hi : giftCard.Admissible giftCard.initial := by decide +kernel
  have hs : giftCard.Reachable (giftCard.after giftCard.start redeeming) :=
    Reachable.start.after redeeming
  exact ⟨hi, hs, admissible_of_reachable hi hs, by decide +kernel, by decide +kernel⟩

end Session

end Formwork
