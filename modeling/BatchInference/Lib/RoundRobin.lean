/-
Weighted round robin, round by round.

In the round that is going on every lane is served up to the credit it has left, and up to
its weight in every later round; within a round the lanes take turns in their order. So
the round of an item is a quotient, and what is served before it is a sum over the lanes.
-/

import Mathlib.Algebra.BigOperators.Group.List.Basic
import Mathlib.Algebra.GroupWithZero.Nat

set_option autoImplicit false

structure Lane (Item : Type) where
  weight : Nat
  credit : Nat
  items : List Item

namespace Lane

variable {Item : Type}

/-- How many items may have been served after so many rounds. -/
def given (lane : Lane Item) : Nat → Nat
  | 0 => 0
  | rounds + 1 => lane.credit + rounds * lane.weight

/-- What is served in the round with this number. -/
def share (lane : Lane Item) (round : Nat) : List Item :=
  (lane.items.take (lane.given (round + 1))).drop (lane.given round)

/-- The lane in a new round. -/
def refill (lane : Lane Item) : Lane Item := { lane with credit := lane.weight }

/-- The lane without its first item, which cost one credit. -/
def serve (lane : Lane Item) : Lane Item :=
  { lane with
    credit := lane.credit - 1
    items := lane.items.tail }

/-- The round in which the item at this position is served. -/
def roundOf (lane : Lane Item) (position : Nat) : Nat :=
  if position < lane.credit then 0 else (position - lane.credit) / lane.weight + 1

variable {lane : Lane Item} {item : Item} {rest : List Item}

theorem given_succ_of_spent (spent : lane.credit = 0) (rounds : Nat) :
    lane.given (rounds + 1) = lane.refill.given rounds := by
  cases rounds with
  | zero => simp [given, spent]
  | succ rounds =>
      simp only [given, refill, spent, Nat.add_mul, Nat.one_mul]
      omega

theorem given_mono (lane : Lane Item) (rounds : Nat) :
    lane.given rounds ≤ lane.given (rounds + 1) := by
  cases rounds with
  | zero => exact Nat.zero_le _
  | succ rounds =>
      simp only [given]
      have more : rounds * lane.weight ≤ (rounds + 1) * lane.weight :=
        Nat.mul_le_mul_right _ (Nat.le_succ rounds)
      omega

theorem le_given (weighted : 1 ≤ lane.weight) (rounds : Nat) :
    rounds ≤ lane.given (rounds + 1) := by
  have more : rounds * 1 ≤ rounds * lane.weight := Nat.mul_le_mul_left rounds weighted
  simp only [given]
  omega

theorem roundOf_spec (weighted : 1 ≤ lane.weight) (position : Nat) :
    lane.given (lane.roundOf position) ≤ position ∧
      position < lane.given (lane.roundOf position + 1) := by
  unfold roundOf
  by_cases early : position < lane.credit
  · rw [if_pos early]
    simpa [given] using early
  · rw [if_neg early]
    have least := Nat.div_mul_le_self (position - lane.credit) lane.weight
    have most := Nat.lt_div_mul_add (a := position - lane.credit) weighted
    simp only [given, Nat.add_mul, Nat.one_mul]
    omega

theorem share_of_spent (spent : lane.credit = 0) (round : Nat) :
    lane.share (round + 1) = lane.refill.share round := by
  unfold share
  rw [given_succ_of_spent spent, given_succ_of_spent spent]
  rfl

theorem share_zero_of_spent (spent : lane.credit = 0) : lane.share 0 = [] := by
  simp [share, given, spent]

theorem share_nil (empty : lane.items = []) (round : Nat) : lane.share round = [] := by
  simp [share, empty]

/-- Late rounds have nothing left to serve. -/
theorem share_late {round : Nat} (late : lane.items.length ≤ lane.given round) :
    lane.share round = [] := by
  unfold share
  rw [List.drop_eq_nil_iff]
  exact Nat.le_trans (List.length_take_le' _ _) late

theorem given_serve (credit : 0 < lane.credit) (rounds : Nat) :
    lane.given (rounds + 1) = lane.serve.given (rounds + 1) + 1 := by
  simp only [given, serve]
  omega

theorem share_serve_zero (shape : lane.items = item :: rest) (credit : 0 < lane.credit) :
    lane.share 0 = item :: lane.serve.share 0 := by
  unfold share
  rw [given_serve credit, shape]
  simp [given, serve, shape]

theorem share_serve_succ (shape : lane.items = item :: rest) (credit : 0 < lane.credit)
    (round : Nat) : lane.share (round + 1) = lane.serve.share (round + 1) := by
  unfold share
  rw [given_serve credit, given_serve credit, shape]
  simp [serve, shape]

theorem length_share (lane : Lane Item) (round : Nat) :
    min lane.items.length (lane.given round) + (lane.share round).length =
      min lane.items.length (lane.given (round + 1)) := by
  have more := lane.given_mono round
  unfold share
  rw [List.length_drop, List.length_take]
  omega

theorem getElem?_share {round position : Nat} (read : lane.items[position]? = some item)
    (least : lane.given round ≤ position) (most : position < lane.given (round + 1)) :
    (lane.share round)[position - lane.given round]? = some item := by
  unfold share
  rw [List.getElem?_drop, List.getElem?_take_of_lt (by omega), Nat.add_sub_cancel' least]
  exact read

end Lane

namespace RoundRobin

variable {Item : Type} {lanes before after : List (Lane Item)} {lane : Lane Item} {item : Item}
  {rest : List Item}

/-- One round. -/
def turns (lanes : List (Lane Item)) (round : Nat) : List Item :=
  lanes.flatMap (fun lane => lane.share round)

/-- The first rounds, one after the other. -/
def served (lanes : List (Lane Item)) (rounds : Nat) : List Item :=
  (List.range rounds).flatMap (turns lanes)

/-- How many items are served before the one at this position of the lane. -/
def ahead (before after : List (Lane Item)) (lane : Lane Item) (position : Nat) : Nat :=
  (before.map (fun other => min other.items.length
      (other.given (lane.roundOf position + 1)))).sum +
    (after.map (fun other => min other.items.length (other.given (lane.roundOf position)))).sum +
    position

theorem served_succ (lanes : List (Lane Item)) (rounds : Nat) :
    served lanes (rounds + 1) =
      turns lanes 0 ++ (List.range rounds).flatMap (fun round => turns lanes (round + 1)) := by
  unfold served
  rw [List.range_succ_eq_map, List.flatMap_cons, List.flatMap_map]

theorem turns_append (lanes lanes' : List (Lane Item)) (round : Nat) :
    turns (lanes ++ lanes') round = turns lanes round ++ turns lanes' round :=
  List.flatMap_append

theorem turns_cons (lane : Lane Item) (lanes : List (Lane Item)) (round : Nat) :
    turns (lane :: lanes) round = lane.share round ++ turns lanes round :=
  List.flatMap_cons

theorem turns_eq_nil {round : Nat} (nothing : ∀ lane ∈ lanes, lane.share round = []) :
    turns lanes round = [] :=
  List.flatMap_eq_nil_iff.mpr nothing

/-- Lanes without items take no turns. -/
theorem served_filter (lanes : List (Lane Item)) (rounds : Nat) :
    served (lanes.filter (fun lane => !lane.items.isEmpty)) rounds = served lanes rounds := by
  unfold served
  congr 1
  funext round
  induction lanes with
  | nil => rfl
  | cons lane lanes ih =>
      cases listed : lane.items with
      | nil =>
          rw [List.filter_cons_of_neg (by simp [listed]), ih, turns_cons,
            Lane.share_nil listed, List.nil_append]
      | cons item rest =>
          rw [List.filter_cons_of_pos (by simp [listed]), turns_cons, turns_cons, ih]

theorem served_eq_nil (empty : ∀ lane ∈ lanes, lane.items = []) (rounds : Nat) :
    served lanes rounds = [] := by
  unfold served
  rw [List.flatMap_eq_nil_iff]
  exact fun round _ => turns_eq_nil (fun lane member => Lane.share_nil (empty lane member) round)

/-- The first lane with credit is served next. -/
theorem served_serve (poor : ∀ lane ∈ before, lane.credit = 0) (shape : lane.items = item :: rest)
    (credit : 0 < lane.credit) (rounds : Nat) :
    served (before ++ lane :: after) (rounds + 1) =
      item :: served (before ++ lane.serve :: after) (rounds + 1) := by
  have first : turns before 0 = [] :=
    turns_eq_nil (fun lane member => Lane.share_zero_of_spent (poor lane member))
  have later : ∀ round, turns (before ++ lane :: after) (round + 1) =
      turns (before ++ lane.serve :: after) (round + 1) := by
    intro round
    rw [turns_append, turns_append, turns_cons, turns_cons, Lane.share_serve_succ shape credit]
  rw [served_succ, served_succ, turns_append, turns_append, turns_cons, turns_cons, first,
    Lane.share_serve_zero shape credit]
  simp only [List.nil_append, List.cons_append, later]

/-- Where nobody has credit, the next round is the first. -/
theorem served_refill (spent : ∀ lane ∈ lanes, lane.credit = 0)
    (weighted : ∀ lane ∈ lanes, 1 ≤ lane.weight) {rounds : Nat}
    (enough : ∀ lane ∈ lanes, lane.items.length ≤ rounds) :
    served lanes (rounds + 1) = served (lanes.map Lane.refill) (rounds + 1) := by
  have first : turns lanes 0 = [] :=
    turns_eq_nil (fun lane member => Lane.share_zero_of_spent (spent lane member))
  have later : ∀ round, turns lanes (round + 1) = turns (lanes.map Lane.refill) round := by
    intro round
    unfold turns
    rw [List.flatMap_map]
    exact List.flatMap_congr (fun lane member => Lane.share_of_spent (spent lane member) round)
  have last : turns (lanes.map Lane.refill) rounds = [] := by
    apply turns_eq_nil
    intro lane member
    obtain ⟨old, listed, rfl⟩ := List.mem_map.mp member
    apply Lane.share_late
    rw [← Lane.given_succ_of_spent (spent old listed)]
    exact Nat.le_trans (enough old listed) (Lane.le_given (weighted old listed) rounds)
  rw [served_succ, first, List.nil_append]
  simp only [later]
  unfold served
  rw [List.range_succ, List.flatMap_append, List.flatMap_singleton, last, List.append_nil]

/-! ### Positions -/

theorem length_turns (lanes : List (Lane Item)) (round : Nat) :
    (lanes.map (fun lane => min lane.items.length (lane.given round))).sum +
        (turns lanes round).length =
      (lanes.map (fun lane => min lane.items.length (lane.given (round + 1)))).sum := by
  induction lanes with
  | nil => rfl
  | cons lane lanes ih =>
      have here := lane.length_share round
      rw [turns_cons, List.length_append, List.map_cons, List.map_cons, List.sum_cons,
        List.sum_cons]
      omega

theorem length_served (lanes : List (Lane Item)) (rounds : Nat) :
    (served lanes rounds).length =
      (lanes.map (fun lane => min lane.items.length (lane.given rounds))).sum := by
  induction rounds with
  | zero =>
      symm
      apply List.sum_eq_zero
      intro number member
      obtain ⟨lane, _, rfl⟩ := List.mem_map.mp member
      exact Nat.min_zero _
  | succ rounds ih =>
      rw [← length_turns, ← ih]
      unfold served
      rw [List.range_succ, List.flatMap_append, List.flatMap_singleton, List.length_append]

/-- An item is served right after those that are ahead of it. -/
theorem getElem?_served (weighted : 1 ≤ lane.weight) {position rounds : Nat}
    (read : lane.items[position]? = some item) (enough : lane.roundOf position < rounds) :
    (served (before ++ lane :: after) rounds)[ahead before after lane position]? = some item := by
  obtain ⟨least, most⟩ := lane.roundOf_spec weighted position
  unfold ahead
  generalize lane.roundOf position = round at enough least most ⊢
  obtain ⟨more, rfl⟩ := Nat.exists_eq_add_of_lt enough
  have inside := (List.getElem?_eq_some_iff.mp read).1
  have turn := Lane.getElem?_share read least most
  have earlier := length_served (before ++ lane :: after) round
  have front := length_turns before round
  rw [List.map_append, List.map_cons, List.sum_append, List.sum_cons] at earlier
  have split : served (before ++ lane :: after) (round + more + 1) =
      served (before ++ lane :: after) round ++ (turns before round ++ (lane.share round ++
        (turns after round ++ (List.range more).flatMap
          (fun later => turns (before ++ lane :: after) (round + 1 + later))))) := by
    unfold served
    rw [Nat.add_assoc, Nat.add_comm more 1, ← Nat.add_assoc, List.range_add, List.range_succ,
      List.flatMap_append, List.flatMap_append, List.flatMap_singleton, List.flatMap_map,
      turns_append, turns_cons]
    simp only [List.append_assoc]
  have within := (List.getElem?_eq_some_iff.mp turn).1
  rw [split, List.getElem?_append_right (by omega), List.getElem?_append_right (by omega),
    List.getElem?_append_left (by omega), ← turn]
  congr 1
  omega

end RoundRobin
