import Formwork.Pattern.Search
import Formwork.Proofs.Pattern.Matches
import Mathlib.Data.Prod.Lex
import Mathlib.Order.WellFounded

namespace Formwork.Pattern

variable {a : Alphabet} {text : Array Char} {size p q : Nat}

theorem Repeats.le {R : Nat → Nat → Prop} (h : ∀ {p q}, R p q → p ≤ q) {k : Nat}
    (hk : Repeats R k p q) : p ≤ q := by
  induction k generalizing p with
  | zero => exact hk.le
  | succ k ih =>
    obtain ⟨m, hm, hk⟩ := hk
    exact (h hm).trans (ih hk)

theorem Regular.Matches.le {r : Regular} (h : r.Matches a text p q) : p ≤ q := by
  induction r generalizing p q with
  | empty => exact h.le
  | fail => exact h.elim
  | one s =>
    obtain ⟨-, -, -, rfl⟩ := Regular.past_eq_some_iff.1 h
    exact Nat.le_succ p
  | edge e => exact h.2.le
  | concat m n ihm ihn =>
    obtain ⟨o, hm, hn⟩ := h
    exact (ihm hm).trans (ihn hn)
  | alternate m n ihm ihn => exact h.elim ihm ihn
  | iterate body low high greedy ih =>
    obtain ⟨k, -, -, hk⟩ := h
    exact hk.le ih

theorem length_le_of_takeBytes? {n : Nat} {cs ds : List Char} (h : takeBytes? n cs = some ds) :
    ds.length ≤ cs.length := by
  induction cs generalizing n ds with
  | nil =>
    rw [takeBytes?, Option.ite_none_right_eq_some] at h
    exact (congrArg List.length (Option.some.inj h.2)).ge
  | cons c cs ih =>
    rw [takeBytes?] at h
    split at h
    · exact Option.some.inj h ▸ Nat.zero_le _
    rw [Option.ite_none_left_eq_some] at h
    obtain ⟨ds, hds, rfl⟩ := Option.map_eq_some_iff.1 h.2
    exact Nat.succ_le_succ (ih hds)

theorem add_le_of_repetition? {ignoreCase : Bool} {first last length : Nat} (hp : p ≤ text.size)
    (h : repetition? text ignoreCase first last p = some length) : p + length ≤ text.size := by
  simp only [repetition?] at h
  split at h
  · exact nomatch h
  · next found hfound =>
    have hle := (length_le_of_takeBytes? hfound).trans_eq
      (Array.length_toList.trans Array.size_extract)
    obtain ⟨-, h⟩ := Option.ite_none_right_eq_some.1 h
    obtain rfl := Option.some.inj h
    omega

/-- The most turns that are left to a repetition. -/
def turnsLeft (size low : Nat) (high : Option Nat) (count : Nat) (since : Option Nat) : Nat :=
  match high, since with
  | some high, _ => high - count
  | none, none => low - count + (size + 1)
  | none, some p => low - count + (size - p)

/-- The most steps that a search can take before it takes back a choice or is past the node. -/
def Node.cost (size : Nat) : Node → Nat
  | .empty | .whole _ | .edge _ | .reference .. | .captured _ => 1
  | .concat m n | .alternate m n => m.cost size + n.cost size + 1
  | .iterate body low high _ => turnsLeft size low high 0 none * (body.cost size + 1) + 2
  | .group _ body | .atomic body | .look _ _ body => body.cost size + 2
  | .conditional condition yes no => condition.cost size + yes.cost size + no.cost size + 2

def Task.cost (size : Nat) : Task → Nat
  | .find n => n.cost size
  | .again body low high _ count since =>
    turnsLeft size low high count since * (body.cost size + 1) + 1
  | .close _ | .commit | .refuse _ | .goTo _ => 1
  | .seek n => n.cost size + 1

def cost (size : Nat) : List Task → Nat
  | [] => 0
  | t :: ts => t.cost size + cost size ts

theorem Node.cost_pos (n : Node) : 0 < n.cost size := by
  cases n <;> exact Nat.succ_pos _

/-- Whether a search that is at a place comes to each of the tasks at a place that suits it. -/
def Suits (size : Nat) : List Task → Nat → Prop
  | .again _ _ high _ count since :: ts, p =>
    (∀ h ∈ high, count ≤ h) ∧ (∀ o ∈ since, o ≤ p) ∧ Suits size ts p
  | .goTo q :: ts, _ => q ≤ size ∧ Suits size ts q
  | .find _ :: ts, p | .close _ :: ts, p | .commit :: ts, p => Suits size ts p
  | .refuse _ :: _, _ | .seek _ :: _, _ | [], _ => True

theorem Suits.mono {ts : List Task} (h : Suits size ts p) (hpq : p ≤ q) : Suits size ts q := by
  induction ts with
  | nil => trivial
  | cons t ts ih =>
    cases t with
    | find | close | commit => exact ih h
    | again body low high greedy count since =>
      obtain ⟨hcount, hsince, h⟩ := h
      exact ⟨hcount, fun o ho ↦ (hsince o ho).trans hpq, ih h⟩
    | goTo => exact h
    | refuse | seek => trivial

def Moment.Fits (size : Nat) (m : Moment) : Prop :=
  m.position ≤ size ∧ Suits size m.tasks m.position

namespace Search

variable {s s' : Search} {tasks : List Task}

theorem not_isOver_iff {high since : Option Nat} {count : Nat} :
    ¬ isOver p high count since ↔ high ≠ some count ∧ (high = none → since ≠ some p) := by
  simp only [isOver, Bool.or_eq_true, Bool.and_eq_true, beq_iff_eq, Option.isNone_iff_eq_none,
    not_or, not_and, ne_eq]

theorem lt_of_not_isOver {high since : Option Nat} {count : Nat}
    (hover : ¬ isOver p high count since) (hcount : ∀ h ∈ high, count ≤ h) :
    ∀ h ∈ high, count < h := by
  rintro h rfl
  refine (hcount h rfl).lt_of_ne fun he ↦ ?_
  exact (not_isOver_iff.1 hover).1 (congrArg some he.symm)

theorem turnsLeft_lt_of_low {low count : Nat} {high since : Option Nat}
    (hcount : ∀ h ∈ high, count < h) (hlow : count < low) :
    turnsLeft size low high (count + 1) since < turnsLeft size low high count since := by
  cases high with
  | some high => exact Nat.sub_succ_lt_self _ _ (hcount high rfl)
  | none =>
    have hlt := Nat.sub_succ_lt_self _ _ hlow
    cases since <;> exact Nat.add_lt_add_right hlt _

theorem turnsLeft_lt {low count : Nat} {high since : Option Nat}
    (hover : ¬ isOver p high count since) (hp : p ≤ size) (hcount : ∀ h ∈ high, count < h)
    (hsince : ∀ o ∈ since, o ≤ p) :
    turnsLeft size low high (count + 1) (some p) < turnsLeft size low high count since := by
  cases high with
  | some high => exact Nat.sub_succ_lt_self _ _ (hcount high rfl)
  | none =>
    cases since with
    | none =>
      simp only [turnsLeft]
      omega
    | some o =>
      have ho : o < p := (hsince o rfl).lt_of_ne fun he ↦
        (not_isOver_iff.1 hover).2 rfl (congrArg some he)
      simp only [turnsLeft]
      omega

theorem turn_lt {t u : Nat} (h : t < u) (b c : Nat) :
    b + (t * (b + 1) + 1 + c) < u * (b + 1) + 1 + c := by
  have hturn : (t + 1) * (b + 1) ≤ u * (b + 1) := Nat.mul_le_mul_right _ h
  rw [Nat.succ_mul] at hturn
  omega

structure Fits (s : Search) (size : Nat) : Prop where
  now : s.now.Fits size
  choices : ∀ m ∈ s.choices, m.Fits size

/-- Choices that can still be taken back come first, then what is left to do before that. -/
def rank (s : Search) (size : Nat) : Nat ×ₗ Nat := toLex (s.patience, cost size s.now.tasks)

theorem rank_lt (hpatience : s'.patience = s.patience)
    (hcost : cost size s'.now.tasks < cost size s.now.tasks) : s'.rank size < s.rank size :=
  Prod.Lex.toLex_lt_toLex.2 (.inr ⟨hpatience, hcost⟩)

/-- Whether a step ends the search or leaves less ahead of it. -/
def Advances (s : Search) (size : Nat) : Outcome → Prop
  | .ended _ => True
  | .ongoing s' => s'.Fits size ∧ s'.rank size < s.rank size

theorem Fits.cut (h : s.Fits size) (height : Nat) : (s.cut height).Fits size :=
  ⟨h.now, fun m hm ↦ h.choices m (List.mem_of_mem_drop hm)⟩

@[simp] theorem now_keep (s : Search) (m : Moment) : (s.keep m).now = s.now := rfl

@[simp] theorem tasks_mark (s : Search) : s.mark.now.tasks = s.now.tasks := rfl

theorem Fits.mark (h : s.Fits size) : s.mark.Fits size := ⟨h.now, h.choices⟩

theorem Fits.advances_back (h : s.Fits size) : s.Advances size s.back := by
  rw [back]
  split
  · trivial
  · trivial
  · next m ms patience hchoices hpatience =>
    have hfits := List.forall_mem_cons.1 (hchoices ▸ h.choices)
    refine ⟨⟨hfits.1, hfits.2⟩, Prod.Lex.toLex_lt_toLex.2 (.inl ?_)⟩
    exact hpatience ▸ Nat.lt_succ_self patience

theorem Fits.advances_proceedAt (h : s.Fits size) (hp : p ≤ size) (hsuits : Suits size tasks p)
    (hcost : cost size tasks < cost size s.now.tasks) : s.Advances size (s.proceedAt p tasks) :=
  ⟨⟨⟨hp, hsuits⟩, h.choices⟩, rank_lt rfl hcost⟩

theorem Fits.advances_proceed (h : s.Fits size) (hsuits : Suits size tasks s.now.position)
    (hcost : cost size tasks < cost size s.now.tasks) : s.Advances size (s.proceed tasks) :=
  h.advances_proceedAt h.now.1 hsuits hcost

theorem Fits.keep {m : Moment} (h : s.Fits size) (hm : m.Fits size) : (s.keep m).Fits size :=
  ⟨h.now, List.forall_mem_cons.2 ⟨hm, h.choices⟩⟩

theorem Fits.advances_choose {first second : List Task} (h : s.Fits size)
    (hfirst : Suits size first s.now.position) (hsecond : Suits size second s.now.position)
    (hcost : cost size first < cost size s.now.tasks) :
    s.Advances size (s.choose first second) :=
  have hkeep : (s.keep { s.now with tasks := second }).Fits size := h.keep ⟨h.now.1, hsecond⟩
  hkeep.advances_proceed hfirst hcost

theorem Fits.advances_find (h : s.Fits text.size) {n : Node} (hs : s.now.tasks = .find n :: tasks) :
    s.Advances text.size (s.find a text tasks n) := by
  have hp : s.now.position ≤ text.size := h.now.1
  have hsuits : Suits text.size tasks s.now.position := by
    have := h.now.2
    rwa [hs] at this
  have hcost : cost text.size s.now.tasks = n.cost text.size + cost text.size tasks := by
    rw [hs, cost, Task.cost]
  have hskip : s.Advances text.size (s.proceed tasks) :=
    h.advances_proceed hsuits (hcost ▸ Nat.lt_add_of_pos_left n.cost_pos)
  cases n with
  | empty => exact hskip
  | whole r =>
    rw [find]
    split
    · next q hq =>
      have hmatch := (r.follows_ends.mem_singleton hp).1 (List.mem_of_mem_head? hq)
      refine h.advances_proceedAt (r.follows_ends.le hp hmatch) (hsuits.mono hmatch.le) ?_
      exact hcost ▸ Nat.lt_add_of_pos_left Nat.one_pos
    · exact h.advances_back
  | edge e =>
    rw [find]
    split
    · exact hskip
    · exact h.advances_back
  | concat m n =>
    refine h.advances_proceed hsuits ?_
    simp only [hcost, cost, Task.cost, Node.cost]
    omega
  | alternate m n =>
    refine h.advances_choose hsuits hsuits ?_
    simp only [hcost, cost, Task.cost, Node.cost]
    omega
  | iterate body low high greedy =>
    refine h.advances_proceed ⟨fun _ _ ↦ Nat.zero_le _, nofun, hsuits⟩ ?_
    simp only [hcost, cost, Task.cost, Node.cost]
    omega
  | group n body =>
    refine ⟨⟨⟨hp, hsuits⟩, h.choices⟩, rank_lt rfl ?_⟩
    simp only [hcost, cost, Task.cost, Node.cost]
    omega
  | atomic body =>
    refine h.mark.advances_proceed hsuits ?_
    simp only [tasks_mark, hcost, cost, Task.cost, Node.cost]
    omega
  | look back negated body =>
    rw [find]
    split
    · split
      · exact hskip
      · exact h.advances_back
    · have hstart : s.now.position - back ≤ text.size := (Nat.sub_le _ _).trans hp
      extract_lets start
      split
      · have hkeep : (s.keep { s.now with tasks }).Fits text.size := h.keep ⟨hp, hsuits⟩
        refine hkeep.advances_proceedAt hstart trivial ?_
        simp only [now_keep, hcost, cost, Task.cost, Node.cost]
        omega
      · refine h.advances_proceedAt hstart ⟨hp, hsuits⟩ ?_
        simp only [hcost, cost, Task.cost, Node.cost]
        omega
  | reference n ignoreCase =>
    rw [find]
    split
    · split
      · next length hlength =>
        have hsuits' := hsuits.mono (Nat.le_add_right s.now.position length)
        refine h.advances_proceedAt (add_le_of_repetition? hp hlength) hsuits' ?_
        exact hcost ▸ Nat.lt_add_of_pos_left Nat.one_pos
      · exact h.advances_back
    · exact h.advances_back
  | captured n =>
    rw [find]
    split
    · exact hskip
    · exact h.advances_back
  | conditional condition yes no =>
    refine h.mark.advances_choose hsuits hsuits ?_
    simp only [tasks_mark, hcost, cost, Task.cost, Node.cost]
    omega

theorem Fits.advances_again {body : Node} {low count : Nat} {high since : Option Nat}
    {greedy : Bool} (h : s.Fits text.size)
    (hs : s.now.tasks = .again body low high greedy count since :: tasks) :
    s.Advances text.size (s.step a text) := by
  have hp : s.now.position ≤ text.size := h.now.1
  have hnow := h.now.2
  rw [hs] at hnow
  obtain ⟨hcount, hsince, hsuits⟩ := hnow
  have hcost : cost text.size s.now.tasks =
      turnsLeft text.size low high count since * (body.cost text.size + 1) + 1 +
        cost text.size tasks := by
    rw [hs, cost, Task.cost]
  have hskip : cost text.size tasks < cost text.size s.now.tasks :=
    hcost ▸ Nat.lt_add_of_pos_left (Nat.succ_pos _)
  rw [step, hs]
  dsimp only
  split
  · exact h.advances_proceed hsuits hskip
  · next hover =>
    have hlt := lt_of_not_isOver hover hcount
    split
    · next hlow =>
      refine h.advances_proceed ⟨hlt, hsince, hsuits⟩ ?_
      exact hcost ▸ turn_lt (turnsLeft_lt_of_low hlt hlow) _ _
    · have hsuits' : Suits text.size (.find body ::
          .again body low high greedy (count + 1) (some s.now.position) :: tasks) s.now.position :=
        ⟨hlt, fun o ho ↦ (Option.some.inj ho).ge, hsuits⟩
      split
      · refine h.advances_choose hsuits' hsuits ?_
        exact hcost ▸ turn_lt (turnsLeft_lt hover hp hlt hsince) _ _
      · exact h.advances_choose hsuits hsuits' hskip

theorem Fits.advances_step (h : s.Fits text.size) : s.Advances text.size (s.step a text) := by
  have hp : s.now.position ≤ text.size := h.now.1
  have hnow := h.now.2
  cases hs : s.now.tasks with
  | nil =>
    rw [step, hs]
    trivial
  | cons t tasks =>
    rw [hs] at hnow
    have hcost : cost text.size s.now.tasks = t.cost text.size + cost text.size tasks := by
      rw [hs, cost]
    cases t with
    | find n =>
      rw [step, hs]
      exact h.advances_find hs
    | close n =>
      rw [step, hs]
      exact ⟨⟨⟨hp, hnow⟩, h.choices⟩, rank_lt rfl (hcost ▸ Nat.lt_add_of_pos_left Nat.one_pos)⟩
    | again => exact h.advances_again hs
    | commit =>
      have hlt : cost text.size tasks < cost text.size s.now.tasks :=
        hcost ▸ Nat.lt_add_of_pos_left Nat.one_pos
      rw [step, hs]
      dsimp only
      split
      · next height marks _ => exact ⟨⟨⟨hp, hnow⟩, (h.cut height).choices⟩, rank_lt rfl hlt⟩
      · exact h.advances_proceed hnow hlt
    | refuse height =>
      rw [step, hs]
      exact (h.cut height).advances_back
    | goTo q =>
      rw [step, hs]
      exact h.advances_proceedAt hnow.1 hnow.2 (hcost ▸ Nat.lt_add_of_pos_left Nat.one_pos)
    | seek n =>
      have hlt : cost text.size [.find n] < cost text.size s.now.tasks := by
        simp only [hcost, cost, Task.cost]
        omega
      rw [step, hs]
      dsimp only
      split
      · next hnext =>
        have hkeep := h.keep (m := { s.now with
          position := s.now.position + 1, tasks := [.seek n] }) ⟨hnext, trivial⟩
        exact hkeep.advances_proceed trivial hlt
      · exact h.advances_proceed trivial hlt

theorem Fits.exists_run?_eq_some (h : s.Fits text.size) : ∃ f, s.run? a text = some f := by
  induction hr : s.rank text.size using WellFoundedLT.induction generalizing s with
  | ind r ih =>
    have hstep := h.advances_step (a := a)
    rw [run?]
    split
    · exact ⟨_, rfl⟩
    · next s' hs =>
      rw [hs] at hstep
      exact ih _ (hr ▸ hstep.2) hstep.1 rfl

theorem fits_start (n : Node) (size : Nat) : (start n).Fits size :=
  ⟨⟨Nat.zero_le _, trivial⟩, nofun⟩

end Search

/-- Every search ends, so that nothing but its steps decides what a node is said to do. -/
theorem Node.run?_start (n : Node) (hn : ∀ r, n ≠ .whole r) (t : String) :
    (Search.start n).run? a t.toList.toArray = some (n.search a t) := by
  obtain ⟨f, hf⟩ := (Search.fits_start n t.toList.toArray.size).exists_run?_eq_some (a := a)
  rw [hf]
  cases n with
  | whole r => exact absurd rfl (hn r)
  | _ => simp only [search, hf, Option.getD_some]

end Formwork.Pattern
