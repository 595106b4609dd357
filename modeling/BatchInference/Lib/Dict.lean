/-
Insertion-ordered dictionaries.

The entries stand in the order in which their keys were first inserted, and
replacing a value keeps the place of its key. Distinctness of the keys is a
field, so a dictionary with a repeated key cannot be built. `total` adds up a
quantity over the entries; the lemmas about it say how one update changes a sum.
-/

import Mathlib.Algebra.BigOperators.Group.List.Basic
import Mathlib.Algebra.Order.BigOperators.Group.List
import Mathlib.Algebra.Order.Group.Multiset
import Mathlib.Algebra.Order.Group.Nat
import Mathlib.Data.List.Nodup
import Mathlib.Tactic.Abel

set_option autoImplicit false

structure Dict (Key Value : Type) where
  entries : List (Key × Value)
  distinct : (entries.map Prod.fst).Nodup

namespace Dict

variable {Key Value Other : Type}

def empty : Dict Key Value :=
  { entries := []
    distinct := List.nodup_nil }

def keys (d : Dict Key Value) : List Key := d.entries.map Prod.fst

def values (d : Dict Key Value) : List Value := d.entries.map Prod.snd

def size (d : Dict Key Value) : Nat := d.entries.length

/-- Keep the entries that satisfy the test, in their order. -/
def keep (test : Key → Value → Bool) (d : Dict Key Value) : Dict Key Value :=
  { entries := d.entries.filter (fun entry => test entry.1 entry.2)
    distinct := d.distinct.sublist (List.filter_sublist.map Prod.fst) }

/-- Change every value, keeping keys and order. -/
def mapValues (change : Value → Other) (d : Dict Key Value) : Dict Key Other :=
  { entries := d.entries.map (fun entry => (entry.1, change entry.2))
    distinct := by
      rw [List.map_map]
      exact d.distinct }

/-- The first entry, in insertion order, that satisfies the test. -/
def find? (test : Value → Bool) (d : Dict Key Value) : Option (Key × Value) :=
  d.entries.find? (fun entry => test entry.2)

variable [DecidableEq Key]

def get? (d : Dict Key Value) (key : Key) : Option Value :=
  (d.entries.find? (fun entry => entry.1 = key)).map Prod.snd

def contains (d : Dict Key Value) (key : Key) : Bool := (d.get? key).isSome

def erase (key : Key) (d : Dict Key Value) : Dict Key Value :=
  d.keep (fun other _ => other ≠ key)

private theorem replaced_keys (entries : List (Key × Value)) (key : Key) (value : Value) :
    (entries.map (fun entry => if entry.1 = key then (key, value) else entry)).map Prod.fst =
      entries.map Prod.fst := by
  rw [List.map_map]
  apply List.map_congr_left
  intro entry _member
  by_cases same : entry.1 = key
  · simp only [Function.comp_apply, same, if_true]
  · simp only [Function.comp_apply, if_neg same]

/-- Replace the value of a known key in place, or append a new key. -/
def set (key : Key) (value : Value) (d : Dict Key Value) : Dict Key Value :=
  if known : key ∈ d.keys then
    { entries := d.entries.map (fun entry => if entry.1 = key then (key, value) else entry)
      distinct := by
        rw [replaced_keys]
        exact d.distinct }
  else
    { entries := d.entries ++ [(key, value)]
      distinct := by
        rw [List.map_append, List.nodup_append]
        refine ⟨d.distinct, List.nodup_singleton _, ?_⟩
        intro other member new newMember same
        rw [List.map_cons, List.map_nil, List.mem_singleton] at newMember
        rw [same, newMember] at member
        exact known member }

/-! ### Reading -/

/-- An entry is listed exactly when its key reads its value. -/
theorem mem_entries_iff (d : Dict Key Value) (key : Key) (value : Value) :
    (key, value) ∈ d.entries ↔ d.get? key = some value := by
  obtain ⟨entries, distinct⟩ := d
  simp only [get?]
  induction entries with
  | nil => simp
  | cons head tail ih =>
      obtain ⟨headKey, headValue⟩ := head
      rw [List.map_cons, List.nodup_cons] at distinct
      by_cases same : headKey = key
      · subst same
        have absent : (headKey, value) ∉ tail :=
          fun member => distinct.1 (List.mem_map.mpr ⟨_, member, rfl⟩)
        simp [absent, eq_comm]
      · simp only [List.mem_cons, Prod.mk.injEq, same, Ne.symm same, false_and, false_or,
          List.find?_cons, decide_false]
        exact ih distinct.2

theorem mem_keys_iff (d : Dict Key Value) (key : Key) :
    key ∈ d.keys ↔ ∃ value, d.get? key = some value := by
  simp only [keys, List.mem_map, Prod.exists, exists_and_right, exists_eq_right,
    mem_entries_iff]

theorem not_mem_keys_iff (d : Dict Key Value) (key : Key) :
    key ∉ d.keys ↔ d.get? key = none := by
  rw [mem_keys_iff, Option.eq_none_iff_forall_ne_some]
  simp only [ne_eq, not_exists]

theorem mem_values_iff (d : Dict Key Value) (value : Value) :
    value ∈ d.values ↔ ∃ key, d.get? key = some value := by
  simp only [values, List.mem_map, Prod.exists, mem_entries_iff]
  constructor
  · rintro ⟨key, found, read, rfl⟩
    exact ⟨key, read⟩
  · rintro ⟨key, read⟩
    exact ⟨key, value, read, rfl⟩

theorem filterMap_get?_keys (d : Dict Key Value) : d.keys.filterMap d.get? = d.values := by
  unfold keys values
  rw [List.filterMap_map, ← List.filterMap_eq_map]
  apply List.filterMap_congr
  intro entry member
  exact (d.mem_entries_iff entry.1 entry.2).mp member

@[simp] theorem get?_empty (key : Key) : (empty : Dict Key Value).get? key = none := rfl

theorem get?_set (d : Dict Key Value) (key other : Key) (value : Value) :
    (d.set key value).get? other = if other = key then some value else d.get? other := by
  apply Option.ext
  intro found
  rw [← mem_entries_iff]
  unfold set
  split
  · rename_i known
    simp only [List.mem_map, Prod.exists]
    constructor
    · rintro ⟨entryKey, entryValue, member, same⟩
      by_cases atKey : entryKey = key
      · rw [if_pos atKey, Prod.mk.injEq] at same
        simp [same.1.symm, same.2]
      · rw [if_neg atKey, Prod.mk.injEq] at same
        obtain ⟨rfl, rfl⟩ := same
        rw [if_neg atKey, ← mem_entries_iff]
        exact member
    · intro read
      by_cases atKey : other = key
      · subst atKey
        obtain ⟨old, oldRead⟩ := (d.mem_keys_iff other).mp known
        rw [if_pos rfl, Option.some.injEq] at read
        exact ⟨other, old, (d.mem_entries_iff other old).mpr oldRead, by simp [read]⟩
      · rw [if_neg atKey, ← mem_entries_iff] at read
        exact ⟨other, found, read, by simp [atKey]⟩
  · rename_i unknown
    simp only [List.mem_append, List.mem_singleton, Prod.mk.injEq, mem_entries_iff]
    by_cases atKey : other = key
    · subst atKey
      rw [(d.not_mem_keys_iff other).mp unknown]
      simp [eq_comm]
    · simp [atKey]

@[simp] theorem get?_set_same (d : Dict Key Value) (key : Key) (value : Value) :
    (d.set key value).get? key = some value := by
  rw [get?_set, if_pos rfl]

theorem get?_set_other (d : Dict Key Value) {key other : Key} (value : Value)
    (different : other ≠ key) : (d.set key value).get? other = d.get? other := by
  rw [get?_set, if_neg different]

theorem get?_keep (d : Dict Key Value) (test : Key → Value → Bool) (key : Key) :
    (d.keep test).get? key = (d.get? key).filter (test key) := by
  apply Option.ext
  intro value
  rw [← mem_entries_iff, Option.filter_eq_some_iff, ← mem_entries_iff]
  simp only [keep, List.mem_filter]

theorem get?_erase (d : Dict Key Value) (key other : Key) :
    (d.erase key).get? other = if other = key then none else d.get? other := by
  unfold erase
  rw [get?_keep]
  by_cases same : other = key
  · simp [same]
  · cases d.get? other <;> simp [same]

theorem get?_mapValues (d : Dict Key Value) (change : Value → Other) (key : Key) :
    (d.mapValues change).get? key = (d.get? key).map change := by
  apply Option.ext
  intro value
  rw [← mem_entries_iff, Option.map_eq_some_iff]
  simp only [mapValues, List.mem_map, Prod.exists, Prod.mk.injEq, mem_entries_iff]
  constructor
  · rintro ⟨entryKey, old, read, rfl, changed⟩
    exact ⟨old, read, changed⟩
  · rintro ⟨old, read, changed⟩
    exact ⟨key, old, read, rfl, changed⟩

/-! ### The listing after an update -/

theorem keys_set_of_mem (d : Dict Key Value) {key : Key} (value : Value)
    (known : key ∈ d.keys) : (d.set key value).keys = d.keys := by
  unfold set keys at *
  rw [dif_pos known]
  exact replaced_keys d.entries key value

theorem entries_set_of_get?_none (d : Dict Key Value) {key : Key} (value : Value)
    (absent : d.get? key = none) : (d.set key value).entries = d.entries ++ [(key, value)] := by
  unfold set
  rw [dif_neg ((d.not_mem_keys_iff key).mpr absent)]

/-- Replacing a value changes the listing at its own place only. -/
theorem entries_set_of_split (d : Dict Key Value) {key : Key} {old : Value} (value : Value)
    {before after : List (Key × Value)} (split : d.entries = before ++ (key, old) :: after) :
    (d.set key value).entries = before ++ (key, value) :: after := by
  have distinct := d.distinct
  have known : key ∈ d.keys := by
    unfold keys
    rw [split]
    simp
  rw [split, List.map_append, List.map_cons, List.nodup_append, List.nodup_cons] at distinct
  obtain ⟨_, ⟨notAfter, _⟩, apart⟩ := distinct
  have unchanged : ∀ part : List (Key × Value), key ∉ part.map Prod.fst →
      part.map (fun entry => if entry.1 = key then (key, value) else entry) = part := by
    intro part absent
    rw [List.map_congr_left (g := id), List.map_id]
    intro entry member
    have different : entry.1 ≠ key :=
      fun same => absent (same ▸ List.mem_map.mpr ⟨entry, member, rfl⟩)
    simp [different]
  unfold set
  rw [dif_pos known]
  simp only [split, List.map_append, List.map_cons, if_true]
  rw [unchanged after notAfter, unchanged before]
  intro member
  exact apart key member key List.mem_cons_self rfl

private theorem passed_of_mem_keep (d : Dict Key Value) (test : Key → Value → Bool)
    {entry : Key × Value} (member : entry ∈ d.entries) (kept : entry.1 ∈ (d.keep test).keys) :
    test entry.1 entry.2 = true := by
  obtain ⟨value, keptRead⟩ := ((d.keep test).mem_keys_iff entry.1).mp kept
  rw [get?_keep, Option.filter_eq_some_iff] at keptRead
  have read := (d.mem_entries_iff entry.1 entry.2).mp member
  rw [read, Option.some.injEq] at keptRead
  obtain ⟨rfl, passed⟩ := keptRead
  exact passed

/-- Dropping entries keeps the order of any two keys that stay. -/
theorem pair_sublist_keep (d : Dict Key Value) (test : Key → Value → Bool) {first second : Key}
    (ordered : [first, second].Sublist d.keys) (firstKept : first ∈ (d.keep test).keys)
    (secondKept : second ∈ (d.keep test).keys) :
    [first, second].Sublist (d.keep test).keys := by
  obtain ⟨pair, pairSublist, pairKeys⟩ := List.sublist_map_iff.mp ordered
  obtain ⟨a, tail, rfl, rfl, tailKeys⟩ := List.map_eq_cons_iff.mp pairKeys.symm
  obtain ⟨b, last, rfl, rfl, lastKeys⟩ := List.map_eq_cons_iff.mp tailKeys
  rw [List.map_eq_nil_iff] at lastKeys
  subst lastKeys
  have aPassed := d.passed_of_mem_keep test (pairSublist.subset List.mem_cons_self) firstKept
  have bPassed := d.passed_of_mem_keep test
    (pairSublist.subset (List.mem_cons_of_mem _ List.mem_cons_self)) secondKept
  have filtered := (pairSublist.filter (fun entry => test entry.1 entry.2)).map Prod.fst
  simp only [List.filter_cons, aPassed, bPassed, if_true, List.filter_nil, List.map_cons,
    List.map_nil] at filtered
  exact filtered

/-! ### Sums over the entries -/

section Total

variable {M : Type} [AddCommMonoid M]

/-- The sum of a quantity over all entries. -/
def total (amount : Key → Value → M) (d : Dict Key Value) : M :=
  (d.entries.map (fun entry => amount entry.1 entry.2)).sum

omit [DecidableEq Key] in
@[simp] theorem total_empty (amount : Key → Value → M) :
    total amount (empty : Dict Key Value) = 0 := rfl

private theorem exists_split (d : Dict Key Value) {key : Key} {value : Value}
    (read : d.get? key = some value) :
    ∃ before after, d.entries = before ++ (key, value) :: after :=
  List.append_of_mem ((d.mem_entries_iff key value).mpr read)

theorem total_set_of_get?_none (amount : Key → Value → M) (d : Dict Key Value) {key : Key}
    (value : Value) (absent : d.get? key = none) :
    total amount (d.set key value) = total amount d + amount key value := by
  unfold total
  rw [d.entries_set_of_get?_none value absent]
  simp

/-- Replacing a value exchanges its amount for the new one. -/
theorem total_set_of_get?_some (amount : Key → Value → M) (d : Dict Key Value) {key : Key}
    {old : Value} (value : Value) (read : d.get? key = some old) :
    total amount (d.set key value) + amount key old = total amount d + amount key value := by
  obtain ⟨before, after, split⟩ := exists_split d read
  unfold total
  rw [d.entries_set_of_split value split, split]
  simp only [List.map_append, List.map_cons, List.sum_append, List.sum_cons]
  abel

theorem total_erase_of_get?_some (amount : Key → Value → M) (d : Dict Key Value) {key : Key}
    {old : Value} (read : d.get? key = some old) :
    total amount (d.erase key) + amount key old = total amount d := by
  obtain ⟨before, after, split⟩ := exists_split d read
  have distinct := d.distinct
  rw [split, List.map_append, List.map_cons, List.nodup_append, List.nodup_cons] at distinct
  obtain ⟨_, ⟨notAfter, _⟩, apart⟩ := distinct
  have kept : ∀ part : List (Key × Value), key ∉ part.map Prod.fst →
      part.filter (fun entry => entry.1 ≠ key) = part := by
    intro part absent
    apply List.filter_eq_self.mpr
    intro entry member
    simpa using fun same : entry.1 = key =>
      absent (same ▸ List.mem_map.mpr ⟨entry, member, rfl⟩)
  have notBefore : key ∉ before.map Prod.fst :=
    fun member => apart key member key List.mem_cons_self rfl
  unfold total erase keep
  simp only [split, List.filter_append, List.filter_cons, ne_eq, not_true_eq_false,
    decide_false, Bool.false_eq_true, if_false]
  rw [kept before notBefore, kept after notAfter]
  simp only [List.map_append, List.map_cons, List.sum_append, List.sum_cons]
  abel

omit [DecidableEq Key] in
/-- Dropping entries without an amount changes no sum. -/
theorem total_keep (amount : Key → Value → M) (d : Dict Key Value) (test : Key → Value → Bool)
    (dropped : ∀ key value, (key, value) ∈ d.entries → test key value = false →
      amount key value = 0) :
    total amount (d.keep test) = total amount d := by
  unfold total keep
  simp only
  generalize d.entries = entries at dropped
  induction entries with
  | nil => rfl
  | cons head tail ih =>
      have tailDropped := ih (fun key value member => dropped key value (.tail head member))
      cases passed : test head.1 head.2 with
      | true =>
          simp only [List.filter_cons, passed, if_true, List.map_cons, List.sum_cons, tailDropped]
      | false =>
          simp only [List.filter_cons, passed, Bool.false_eq_true, if_false, List.map_cons,
            List.sum_cons, tailDropped, dropped head.1 head.2 List.mem_cons_self passed, zero_add]

omit [DecidableEq Key] in
theorem total_mapValues (amount : Key → Other → M) (d : Dict Key Value)
    (change : Value → Other) :
    total amount (d.mapValues change) = total (fun key value => amount key (change value)) d := by
  unfold total mapValues
  rw [List.map_map]
  rfl

omit [DecidableEq Key] in
theorem total_congr {amount amount' : Key → Value → M} (d : Dict Key Value)
    (same : ∀ key value, (key, value) ∈ d.entries → amount key value = amount' key value) :
    total amount d = total amount' d := by
  unfold total
  congr 1
  apply List.map_congr_left
  intro entry member
  exact same entry.1 entry.2 member

omit [DecidableEq Key] in
theorem total_eq_zero {amount : Key → Value → M} (d : Dict Key Value)
    (none : ∀ key value, (key, value) ∈ d.entries → amount key value = 0) :
    total amount d = 0 := by
  unfold total
  apply List.sum_eq_zero
  intro part member
  obtain ⟨entry, entryMember, rfl⟩ := List.mem_map.mp member
  exact none entry.1 entry.2 entryMember

/-- A sum over a dictionary, taken over another one that has its keys. -/
theorem total_of_keys {d : Dict Key Value} {d' : Dict Key Other} (amount : Key → Value → M)
    (inside : ∀ key ∈ d.keys, key ∈ d'.keys) :
    total amount d = total (fun key _ => ((d.get? key).map (amount key)).getD 0) d' := by
  have own : total amount d = (d.keys.map (fun key => ((d.get? key).map (amount key)).getD 0)).sum := by
    unfold total keys
    rw [List.map_map]
    congr 1
    apply List.map_congr_left
    intro entry member
    simp [(d.mem_entries_iff entry.1 entry.2).mp member]
  have kept : total (fun key _ => ((d.get? key).map (amount key)).getD 0)
      (d'.keep (fun key _ => decide (key ∈ d.keys))) =
        total (fun key _ => ((d.get? key).map (amount key)).getD 0) d' := by
    apply total_keep
    intro key value _ outside
    rw [decide_eq_false_iff_not, not_mem_keys_iff] at outside
    rw [outside]
    rfl
  have same : d.keys.Perm (d'.keep (fun key _ => decide (key ∈ d.keys))).keys := by
    refine (List.perm_ext_iff_of_nodup d.distinct (d'.keep _).distinct).mpr ?_
    intro key
    change key ∈ d.keys ↔ key ∈ (d'.keep _).keys
    rw [mem_keys_iff (d'.keep _)]
    simp only [get?_keep, Option.filter_eq_some_iff, decide_eq_true_eq]
    constructor
    · intro listed
      obtain ⟨value, read⟩ := (d'.mem_keys_iff key).mp (inside key listed)
      exact ⟨value, read, listed⟩
    · rintro ⟨_, _, listed⟩
      exact listed
  rw [own, ← kept, (same.map _).sum_eq]
  unfold total keys
  rw [List.map_map]
  rfl

theorem mem_total {Item : Type} (amount : Key → Value → Multiset Item) (d : Dict Key Value)
    (item : Item) :
    item ∈ total amount d ↔ ∃ key value, d.get? key = some value ∧ item ∈ amount key value := by
  have listed : item ∈ total amount d ↔ ∃ entry ∈ d.entries, item ∈ amount entry.1 entry.2 := by
    unfold total
    induction d.entries with
    | nil => simp
    | cons head tail ih =>
        simp only [List.map_cons, List.sum_cons, Multiset.mem_add, ih, List.mem_cons,
          exists_eq_or_imp]
  rw [listed]
  constructor
  · rintro ⟨entry, member, inside⟩
    exact ⟨entry.1, entry.2, (d.mem_entries_iff _ _).mp member, inside⟩
  · rintro ⟨key, value, read, inside⟩
    exact ⟨(key, value), (d.mem_entries_iff key value).mpr read, inside⟩

end Total

/-! ### Counting entries -/

/-- The number of entries whose value passes the test. -/
def count (test : Value → Bool) (d : Dict Key Value) : Nat :=
  d.total (fun _ value => if test value then 1 else 0)

omit [DecidableEq Key] in
@[simp] theorem count_empty (test : Value → Bool) :
    (empty : Dict Key Value).count test = 0 := rfl

omit [DecidableEq Key] in
theorem count_eq_countP (test : Value → Bool) (d : Dict Key Value) :
    d.count test = d.values.countP test := by
  unfold count total values
  induction d.entries with
  | nil => rfl
  | cons entry rest ih =>
      rw [List.map_cons, List.sum_cons, List.map_cons, List.countP_cons, ih, add_comm]

theorem count_set_of_get?_none (test : Value → Bool) (d : Dict Key Value) {key : Key}
    (value : Value) (absent : d.get? key = none) :
    (d.set key value).count test = d.count test + if test value then 1 else 0 :=
  total_set_of_get?_none _ d value absent

theorem count_set_of_get?_some (test : Value → Bool) (d : Dict Key Value) {key : Key}
    {old : Value} (value : Value) (read : d.get? key = some old) :
    (d.set key value).count test + (if test old then 1 else 0) =
      d.count test + if test value then 1 else 0 :=
  total_set_of_get?_some _ d value read

theorem count_erase_of_get?_some (test : Value → Bool) (d : Dict Key Value) {key : Key}
    {old : Value} (read : d.get? key = some old) :
    (d.erase key).count test + (if test old then 1 else 0) = d.count test :=
  total_erase_of_get?_some _ d read

omit [DecidableEq Key] in
/-- Dropping entries that fail the test anyway changes no count. -/
theorem count_keep (test : Value → Bool) (d : Dict Key Value) (kept : Key → Value → Bool)
    (dropped : ∀ key value, kept key value = false → test value = false) :
    (d.keep kept).count test = d.count test := by
  apply total_keep
  intro key value _member out
  rw [dropped key value out]
  rfl

omit [DecidableEq Key] in
theorem count_mapValues (test : Other → Bool) (d : Dict Key Value) (change : Value → Other) :
    (d.mapValues change).count test = d.count (fun value => test (change value)) :=
  total_mapValues _ d change

omit [DecidableEq Key] in
theorem size_keep (test : Value → Bool) (d : Dict Key Value) :
    (d.keep (fun _ value => test value)).size = d.count test := by
  unfold size keep count total
  simp only
  induction d.entries with
  | nil => rfl
  | cons head tail ih =>
      cases passed : test head.2 with
      | true =>
          simp only [List.filter_cons, passed, if_true, List.length_cons, List.map_cons,
            List.sum_cons, ih]
          omega
      | false =>
          simp only [List.filter_cons, passed, Bool.false_eq_true, if_false, List.map_cons,
            List.sum_cons, ih, zero_add]

omit [DecidableEq Key] in
theorem map_total {M N : Type} [AddCommMonoid M] [AddCommMonoid N] (f : M →+ N)
    (amount : Key → Value → M) (d : Dict Key Value) :
    f (total amount d) = total (fun key value => f (amount key value)) d := by
  unfold total
  rw [map_list_sum, List.map_map]
  rfl

theorem total_mono {amount amount' : Key → Value → Nat} (d : Dict Key Value)
    (each : ∀ key value, d.get? key = some value → amount key value ≤ amount' key value) :
    total amount d ≤ total amount' d := by
  unfold total
  apply List.sum_le_sum
  intro entry member
  exact each entry.1 entry.2 ((d.mem_entries_iff _ _).mp member)

/-- A sum whose terms are bounded where the test passes and vanish elsewhere. -/
theorem total_le_mul_count (amount : Key → Value → Nat) (bound : Nat) (test : Value → Bool)
    (d : Dict Key Value)
    (each : ∀ key value, d.get? key = some value →
      amount key value ≤ if test value then bound else 0) :
    total amount d ≤ bound * d.count test := by
  have pointwise : ∀ entry ∈ d.entries,
      amount entry.1 entry.2 ≤ if test entry.2 then bound else 0 :=
    fun entry member => each entry.1 entry.2 ((d.mem_entries_iff _ _).mp member)
  unfold count total
  generalize d.entries = entries at pointwise
  induction entries with
  | nil => exact Nat.zero_le _
  | cons head tail ih =>
      have rest := ih (fun entry member => pointwise entry (.tail head member))
      have first := pointwise head List.mem_cons_self
      simp only [List.map_cons, List.sum_cons, Nat.mul_add] at rest ⊢
      cases passed : test head.2 with
      | true =>
          simp only [passed, if_true, Nat.mul_one] at first ⊢
          omega
      | false =>
          simp only [passed, Bool.false_eq_true, if_false, Nat.mul_zero] at first ⊢
          omega

theorem count_mono {test weaker : Value → Bool} (d : Dict Key Value)
    (implied : ∀ key value, d.get? key = some value → test value = true →
      weaker value = true) :
    d.count test ≤ d.count weaker := by
  have pointwise : ∀ entry ∈ d.entries, test entry.2 = true → weaker entry.2 = true :=
    fun entry member => implied entry.1 entry.2 ((d.mem_entries_iff _ _).mp member)
  unfold count total
  generalize d.entries = entries at pointwise
  induction entries with
  | nil => exact le_refl _
  | cons head tail ih =>
      have rest := ih (fun entry member => pointwise entry (.tail head member))
      have first := pointwise head List.mem_cons_self
      simp only [List.map_cons, List.sum_cons] at rest ⊢
      cases passed : test head.2 with
      | true =>
          simp only [first passed, if_true]
          omega
      | false =>
          simp only [Bool.false_eq_true, if_false]
          omega

theorem count_congr {test test' : Value → Bool} (d : Dict Key Value)
    (same : ∀ key value, d.get? key = some value → test value = test' value) :
    d.count test = d.count test' := by
  apply total_congr
  intro key value member
  rw [same key value ((d.mem_entries_iff key value).mp member)]

theorem count_pos (test : Value → Bool) (d : Dict Key Value) {key : Key} {value : Value}
    (read : d.get? key = some value) (passed : test value = true) : 0 < d.count test := by
  have gone := count_erase_of_get?_some test d read
  rw [if_pos passed] at gone
  omega

theorem count_eq_zero (test : Value → Bool) (d : Dict Key Value)
    (none : ∀ key value, d.get? key = some value → test value = false) : d.count test = 0 := by
  apply total_eq_zero
  intro key value member
  rw [none key value ((d.mem_entries_iff key value).mp member)]
  rfl

theorem exists_of_count_pos (test : Value → Bool) (d : Dict Key Value)
    (positive : 0 < d.count test) : ∃ key value, d.get? key = some value ∧ test value = true := by
  by_contra nobody
  have zero : d.count test = 0 := by
    apply count_eq_zero
    intro key value found
    cases passed : test value with
    | false => rfl
    | true => exact (nobody ⟨key, value, found, passed⟩).elim
  omega

end Dict
