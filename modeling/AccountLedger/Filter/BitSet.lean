/-
**Sets of positions.**

A set of natural numbers is a binary tree: the root stands for zero, and the two subtrees hold, each
counted from zero again, the odd and the even positive numbers.  A set with few members is small,
however large they are.

Main definitions:

* `BitSet` — a finite set of positions;
* `BitSet.mem`, `BitSet.insert` — membership, and one more member;
* `BitSet.insertAll` — several more members.

Main results:

* `BitSet.mem_insert`, `BitSet.mem_insertAll` — the members after an insertion.
-/

set_option relaxedAutoImplicit false
set_option autoImplicit false

namespace AccountLedger

/-- A finite set of natural numbers. -/
inductive BitSet
  | empty
  | node (zero : Bool) (odds evens : BitSet)
  deriving DecidableEq, Repr

namespace BitSet

/-- Is a number a member? -/
def mem : BitSet → Nat → Bool
  | empty, _ => false
  | node zero _ _, 0 => zero
  | node _ odds evens, n + 1 => if n % 2 = 0 then odds.mem (n / 2) else evens.mem (n / 2)

/-- Is zero a member? -/
def zero : BitSet → Bool
  | empty => false
  | node zero _ _ => zero

/-- The odd members, counted from zero. -/
def odds : BitSet → BitSet
  | empty => empty
  | node _ odds _ => odds

/-- The positive even members, counted from zero. -/
def evens : BitSet → BitSet
  | empty => empty
  | node _ _ evens => evens

/-- The set with one more member. -/
def insert (s : BitSet) : Nat → BitSet
  | 0 => node true s.odds s.evens
  | n + 1 =>
      if n % 2 = 0 then node s.zero (s.odds.insert (n / 2)) s.evens
      else node s.zero s.odds (s.evens.insert (n / 2))
termination_by n => n

/-- The set with several more members. -/
def insertAll (s : BitSet) (ns : List Nat) : BitSet := ns.foldl insert s

/-! ### Membership -/

@[simp] theorem mem_empty (n : Nat) : empty.mem n = false := rfl

theorem mem_zero (s : BitSet) : s.mem 0 = s.zero := by
  cases s <;> rfl

theorem mem_succ (s : BitSet) (n : Nat) :
    s.mem (n + 1) = if n % 2 = 0 then s.odds.mem (n / 2) else s.evens.mem (n / 2) := by
  cases s with
  | empty => simp [odds, evens]
  | node => rfl

/-- **The members after an insertion.** -/
theorem mem_insert (s : BitSet) (n k : Nat) : (s.insert n).mem k = (k == n || s.mem k) := by
  induction n using Nat.strongRecOn generalizing s k with
  | ind n ih =>
      cases n with
      | zero =>
          rw [insert]
          cases k with
          | zero => rfl
          | succ k => simp [mem_succ s, mem]
      | succ n =>
          rw [insert]
          cases k with
          | zero => split <;> simp [mem, mem_zero]
          | succ k =>
              split
              · next hn =>
                  rw [mem, mem_succ]
                  split
                  · next hk =>
                      -- Both numbers are odd.
                      rw [ih (n / 2) (by omega)]
                      congr 1
                      rw [Bool.eq_iff_iff, beq_iff_eq, beq_iff_eq]
                      omega
                  · next hk =>
                      -- The numbers differ in parity.
                      have : (k + 1 == n + 1) = false := by
                        rw [beq_eq_false_iff_ne]
                        omega
                      rw [this, Bool.false_or]
              · next hn =>
                  rw [mem, mem_succ]
                  split
                  · next hk =>
                      -- The numbers differ in parity.
                      have : (k + 1 == n + 1) = false := by
                        rw [beq_eq_false_iff_ne]
                        omega
                      rw [this, Bool.false_or]
                  · next hk =>
                      -- Both numbers are even.
                      rw [ih (n / 2) (by omega)]
                      congr 1
                      rw [Bool.eq_iff_iff, beq_iff_eq, beq_iff_eq]
                      omega

/-- The members after several insertions. -/
theorem mem_insertAll (s : BitSet) (ns : List Nat) (k : Nat) :
    (s.insertAll ns).mem k = (ns.contains k || s.mem k) := by
  induction ns generalizing s with
  | nil => rfl
  | cons n ns ih =>
      rw [insertAll, List.foldl_cons, ← insertAll, ih, mem_insert, List.contains_cons]
      cases k == n <;> cases ns.contains k <;> rfl

end BitSet

end AccountLedger
