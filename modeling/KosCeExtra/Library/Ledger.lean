import Mathlib.Data.Multiset.UnionInter
import Mathlib.Data.Multiset.MapFold
import Mathlib.Data.Multiset.AddSub

/-!
# Exactly-once bookkeeping

A `Ledger` says of every item ever entered whether it is still open, has been
taken by someone, or is settled.  Items move forward only, one at a time, and
an item is entered once.  A system whose steps are ledger steps or leave the
ledger alone settles no item twice, and has settled every item exactly once
as soon as nothing is open or taken.
-/

namespace KosCeExtra

structure Ledger (α : Type) where
  opened : Multiset α
  taken : Multiset α
  settled : Multiset α

namespace Ledger

variable {α : Type}

/-- Every item entered so far. -/
def entered (ledger : Ledger α) : Multiset α :=
  ledger.opened + ledger.taken + ledger.settled

/-- No item was entered twice, and each one is in one place. -/
def Valid (ledger : Ledger α) : Prop :=
  ledger.entered.Nodup

/-- A new item is entered as open. -/
structure Enters (item : α) (ledger next : Ledger α) : Prop where
  fresh : item ∉ ledger.entered
  opened : next.opened = item ::ₘ ledger.opened
  taken : next.taken = ledger.taken
  settled : next.settled = ledger.settled

/-- An open item is taken. -/
structure Takes (item : α) (ledger next : Ledger α) : Prop where
  opened : ledger.opened = item ::ₘ next.opened
  taken : next.taken = item ::ₘ ledger.taken
  settled : next.settled = ledger.settled

/-- A taken item is settled. -/
structure Settles (item : α) (ledger next : Ledger α) : Prop where
  opened : next.opened = ledger.opened
  taken : ledger.taken = item ::ₘ next.taken
  settled : next.settled = item ::ₘ ledger.settled

def empty : Ledger α :=
  ⟨0, 0, 0⟩

theorem valid_empty : (empty : Ledger α).Valid :=
  Multiset.nodup_zero

variable {item : α} {ledger next : Ledger α}

theorem Enters.entered_eq (enters : Enters item ledger next) :
    next.entered = item ::ₘ ledger.entered := by
  rw [entered, enters.opened, enters.taken, enters.settled]
  simp [entered]

theorem Takes.entered_eq (takes : Takes item ledger next) :
    next.entered = ledger.entered := by
  rw [entered, entered, takes.opened, takes.taken, takes.settled]
  simp

theorem Settles.entered_eq (settles : Settles item ledger next) :
    next.entered = ledger.entered := by
  rw [entered, entered, settles.opened, settles.taken, settles.settled]
  simp

theorem Enters.valid (enters : Enters item ledger next)
    (valid : ledger.Valid) : next.Valid := by
  rw [Valid, enters.entered_eq]
  exact Multiset.nodup_cons.mpr ⟨enters.fresh, valid⟩

theorem Takes.valid (takes : Takes item ledger next)
    (valid : ledger.Valid) : next.Valid := by
  rwa [Valid, takes.entered_eq]

theorem Settles.valid (settles : Settles item ledger next)
    (valid : ledger.Valid) : next.Valid := by
  rwa [Valid, settles.entered_eq]

/-- Nothing open is taken or settled. -/
theorem Valid.opened_disjoint (valid : ledger.Valid)
    (isOpen : item ∈ ledger.opened) :
    item ∉ ledger.taken + ledger.settled := by
  rw [Valid, entered, Multiset.add_assoc] at valid
  exact Multiset.disjoint_left.mp (Multiset.nodup_add.mp valid).2.2 isOpen

variable [DecidableEq α]

theorem Valid.settled_count_le_one (valid : ledger.Valid) (item : α) :
    ledger.settled.count item ≤ 1 :=
  (Multiset.count_le_of_le item (Multiset.le_add_left _ _)).trans
    (Multiset.nodup_iff_count_le_one.mp valid item)

/-- An item that is neither open nor taken has been settled exactly once. -/
theorem Valid.settled_count_eq_one (valid : ledger.Valid)
    (member : item ∈ ledger.entered) (closed : item ∉ ledger.opened)
    (released : item ∉ ledger.taken) : ledger.settled.count item = 1 := by
  have once : ledger.entered.count item = 1 :=
    Multiset.count_eq_one_of_mem valid member
  have notOpened := Multiset.count_eq_zero.mpr closed
  have notTaken := Multiset.count_eq_zero.mpr released
  simp only [entered, Multiset.count_add] at once
  omega

end Ledger

end KosCeExtra
