import Formwork.Choice.Lookup
import Mathlib.Data.List.Nodup

namespace Formwork.Lookup

/-- What may be done with a lookup. A ticket may be answered at any time after its query, several
times, or never. -/
inductive Move
  | ask (query : String)
  | receive (t : Ticket) (answer : Option (List Choice))
  | consult (provider : String → Option (List Choice)) (query : String)

def step (l : Lookup) : Move → Lookup
  | .ask query => (l.ask query).2
  | .receive t answer => (l.receive t answer).2
  | .consult provider query => l.consult provider query

def ticket? (l : Lookup) : Move → Option Ticket
  | .ask query | .consult _ query => some (l.ask query).1
  | .receive _ _ => none

def taken? (l : Lookup) : Move → Option (Option (List Choice))
  | .ask _ => none
  | .receive t answer => if (l.receive t answer).1 then some answer else none
  | .consult provider query =>
    let (t, l) := l.ask query
    if (l.receive t (provider query)).1 then some (provider query) else none

def after (l : Lookup) (ms : List Move) : Lookup := ms.foldl step l

def tickets (l : Lookup) : List Move → List Ticket
  | [] => []
  | m :: ms => (l.ticket? m).toList ++ (l.step m).tickets ms

def answers (l : Lookup) : List Move → List (Option (List Choice))
  | [] => []
  | m :: ms => (l.taken? m).toList ++ (l.step m).answers ms

variable {l : Lookup} {m : Move} {ms : List Move} {t : Ticket}

theorem isLatest_iff : l.isLatest t ↔ t.number = l.asked := beq_iff_eq

theorem receive_of_isLatest (h : l.isLatest t) (answer : Option (List Choice)) :
    l.receive t answer = (true, { l with choices := answer.getD [] }) :=
  if_pos h

theorem receive_of_not_isLatest (h : ¬ l.isLatest t) (answer : Option (List Choice)) :
    l.receive t answer = (false, l) :=
  if_neg h

theorem receive_fst (l : Lookup) (t : Ticket) (answer : Option (List Choice)) :
    (l.receive t answer).1 = l.isLatest t := by
  cases h : l.isLatest t with
  | true => rw [receive_of_isLatest h]
  | false => rw [receive_of_not_isLatest (Bool.eq_false_iff.1 h)]

theorem isLatest_ask (l : Lookup) (query : String) : (l.ask query).2.isLatest (l.ask query).1 :=
  isLatest_iff.2 rfl

theorem consult_eq (l : Lookup) (provider : String → Option (List Choice)) (query : String) :
    l.consult provider query = ⟨l.asked + 1, (provider query).getD []⟩ :=
  congrArg Prod.snd (receive_of_isLatest (l.isLatest_ask query) (provider query))

theorem number_of_ticket? (h : l.ticket? m = some t) : t.number = l.asked + 1 := by
  cases m with
  | ask query | consult provider query => exact congrArg Ticket.number (Option.some.inj h).symm
  | receive t answer => cases h

theorem asked_receive (l : Lookup) (t : Ticket) (answer : Option (List Choice)) :
    (l.receive t answer).2.asked = l.asked := by
  by_cases h : l.isLatest t
  · rw [receive_of_isLatest h]
  · rw [receive_of_not_isLatest h]

theorem asked_step (l : Lookup) (m : Move) :
    (l.step m).asked = l.asked + (l.ticket? m).toList.length := by
  cases m with
  | ask query => rfl
  | receive t answer => exact l.asked_receive t answer
  | consult provider query =>
    rw [step, consult_eq]
    rfl

theorem choices_step (l : Lookup) (m : Move) :
    (l.step m).choices = (l.taken? m).elim l.choices fun answer ↦ answer.getD [] := by
  cases m with
  | ask query => rfl
  | receive t answer =>
    rw [step, taken?, receive_fst]
    by_cases h : l.isLatest t
    · rw [receive_of_isLatest h, if_pos h]
      rfl
    · rw [receive_of_not_isLatest h, if_neg h]
      rfl
  | consult provider query =>
    have htaken : l.taken? (.consult provider query) = some (provider query) :=
      if_pos ((receive_fst _ _ _).trans (l.isLatest_ask query))
    rw [step, consult_eq, htaken]
    rfl

theorem asked_after (l : Lookup) (ms : List Move) :
    (l.after ms).asked = l.asked + (l.tickets ms).length := by
  induction ms generalizing l with
  | nil => rfl
  | cons m ms ih =>
    have hafter : l.after (m :: ms) = (l.step m).after ms := rfl
    rw [hafter, ih, asked_step, tickets, List.length_append, Nat.add_assoc]

theorem choices_after (l : Lookup) (ms : List Move) :
    (l.after ms).choices = (l.answers ms).getLast?.elim l.choices fun answer ↦ answer.getD [] := by
  induction ms generalizing l with
  | nil => rfl
  | cons m ms ih =>
    have hafter : l.after (m :: ms) = (l.step m).after ms := rfl
    rw [hafter, ih, choices_step, answers, List.getLast?_append]
    cases ((l.step m).answers ms).getLast? with
    | some answer => rfl
    | none => cases l.taken? m <;> rfl

theorem map_number_tickets (l : Lookup) (ms : List Move) :
    (l.tickets ms).map Ticket.number = List.range' (l.asked + 1) (l.tickets ms).length := by
  induction ms generalizing l with
  | nil => rfl
  | cons m ms ih =>
    rw [tickets, List.map_append, ih, asked_step]
    cases h : l.ticket? m with
    | none => rfl
    | some t =>
      rw [Option.toList_some, List.map_singleton, number_of_ticket? h]
      rfl

theorem nodup_number_tickets (l : Lookup) (ms : List Move) :
    ((l.tickets ms).map Ticket.number).Nodup := by
  rw [map_number_tickets]
  exact List.nodup_range' 1

theorem after_append (l : Lookup) (ms ns : List Move) :
    l.after (ms ++ ns) = (l.after ms).after ns :=
  List.foldl_append

theorem number_le_asked (h : t ∈ l.tickets ms) : t.number ≤ (l.after ms).asked := by
  have hm : t.number ∈ List.range' (l.asked + 1) (l.tickets ms).length :=
    l.map_number_tickets ms ▸ List.mem_map_of_mem h
  have hlt := (List.mem_range'_1.1 hm).2
  rw [asked_after]
  omega

theorem isLatest_after_iff (h : t ∈ l.tickets ms) :
    (l.after ms).isLatest t ↔ (l.tickets ms).getLast? = some t := by
  have hnumbers := l.map_number_tickets ms
  have hne := List.ne_nil_of_mem h
  have hlast := List.getLast?_eq_some_getLast hne
  have hnumber : ((l.tickets ms).getLast hne).number = (l.after ms).asked := by
    have hend := congrArg List.getLast? hnumbers
    rw [List.getLast?_map, hlast, List.getLast?_range',
      if_neg (mt List.length_eq_zero_iff.1 hne)] at hend
    rw [asked_after, Option.some.inj hend, Nat.add_right_comm, Nat.add_sub_cancel]
  rw [isLatest_iff, hlast, ← hnumber, Option.some.injEq]
  exact ⟨fun he ↦ List.inj_on_of_nodup_map (l.nodup_number_tickets ms)
    (List.getLast_mem hne) h he.symm, fun he ↦ he ▸ rfl⟩

structure Current (ms : List Move) : Prop where
  distinct : ((start.tickets ms).map Ticket.number).Nodup
  accepts : ∀ t ∈ start.tickets ms, ∀ answer,
    ((start.after ms).receive t answer).1 ↔ (start.tickets ms).getLast? = some t
  choices : (start.after ms).choices = ((start.answers ms).getLast?.join).getD []
  refuses : ∀ t answer, ¬ ((start.after ms).receive t answer).1 →
    ((start.after ms).receive t answer).2 = start.after ms
  outdated : ∀ t ∈ start.tickets ms, (start.tickets ms).getLast? ≠ some t → ∀ ns answer,
    (start.after (ms ++ ns)).receive t answer = (false, start.after (ms ++ ns))

/-- The last query wins, in whatever order queries are asked and answered. -/
theorem current_after (ms : List Move) : Current ms where
  distinct := start.nodup_number_tickets ms
  accepts := fun t h answer ↦ by rw [receive_fst, isLatest_after_iff h]
  choices := by
    rw [choices_after]
    cases (start.answers ms).getLast? with
    | none => rfl
    | some answer => rfl
  refuses := by
    intro t answer h
    rw [receive_fst] at h
    rw [receive_of_not_isLatest h]
  outdated := by
    intro t h hlast ns answer
    refine receive_of_not_isLatest (fun hlatest ↦ ?_) answer
    -- The number of the ticket is below the count of queries here, and that count never falls.
    have hle := number_le_asked h
    have hne : t.number ≠ (start.after ms).asked :=
      fun he ↦ hlast ((isLatest_after_iff h).1 (isLatest_iff.2 he))
    have hlater := (start.after ms).asked_after ns
    rw [isLatest_iff, after_append] at hlatest
    omega

example (first second : List Choice) :
    (start.after [.ask "o", .ask "os",
      .receive ⟨1, "o"⟩ (some first), .receive ⟨2, "os"⟩ (some second),
      .receive ⟨1, "o"⟩ none]).choices = second := rfl

end Formwork.Lookup
