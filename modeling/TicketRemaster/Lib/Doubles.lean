import Mathlib.Algebra.Order.Ring.Int
set_option autoImplicit false

/-! Double precision numbers and their sums, which round to the nearest double and to even in a tie.
A finite double is an integer multiple of the smallest positive one. -/

namespace Doubles

/-- The two zeros are one here. -/
inductive Double where
  | finite (units : Int)
  | infinity (negative : Bool)
  | nan
  deriving DecidableEq, Repr

/-- The number 1, in units of the smallest positive double. -/
def one : Int := 2^1074

theorem one_pos : 0 < one := Int.pow_pos (by decide)

section Rounding

/-- How far apart doubles of this magnitude are. -/
def spacing (n : Nat) : Nat := 2^(n.log2-52)

def nearest (n : Nat) : Nat :=
  let q := n/spacing n
  let r := n%spacing n
  if 2*r < spacing n ∨ 2*r = spacing n ∧ q%2 = 0 then q*spacing n else (q+1)*spacing n

def round (k : Int) : Double :=
  if nearest k.natAbs < 2^(1024+1074) then .finite (k.sign*nearest k.natAbs)
  else .infinity (decide (k < 0))

theorem nearest_pos {n : Nat} (hn : 0 < n) : 0 < nearest n := by
  have hspacing : 0 < spacing n := Nat.pow_pos (by decide)
  have hle : spacing n ≤ n :=
    (Nat.pow_le_pow_right (by decide) (Nat.sub_le _ _)).trans (Nat.log2_self_le hn.ne')
  have hq : 0 < n/spacing n := Nat.div_pos hle hspacing
  unfold nearest
  dsimp only
  split
  · exact Nat.mul_pos hq hspacing
  · exact Nat.mul_pos (Nat.succ_pos _) hspacing

end Rounding

namespace Double

def neg : Double → Double
  | .finite k => .finite (-k)
  | .infinity negative => .infinity !negative
  | .nan => .nan

def add : Double → Double → Double
  | .finite a,.finite b => round (a+b)
  | .infinity s,.infinity s' => if s = s' then .infinity s else .nan
  | .infinity s,.finite _ | .finite _,.infinity s => .infinity s
  | .nan,_ | _,.nan => .nan

def sub (x y : Double) : Double := x.add y.neg

/-- The integer as a double, unless it is too large for one. -/
def ofInt (n : Int) : Option Double :=
  match round (n*one) with
  | .finite k => some (.finite k)
  | _ => none

/-- The number is at most `num/den`. -/
def AtMost (num : Int) (den : Nat) : Double → Prop
  | .finite k => k*den ≤ num*one
  | .infinity negative => negative
  | .nan => False

def nonpos : Double → Bool
  | .finite k => k ≤ 0
  | .infinity negative => negative
  | .nan => false

theorem round_nonpos {k : Int} (h : (round k).nonpos) : k ≤ 0 := by
  by_contra hk
  have hk : 0 < k := not_le.mp hk
  have hpos : 0 < nearest k.natAbs := nearest_pos (Int.natAbs_pos.mpr hk.ne')
  unfold round at h
  split at h
  · rw [Int.sign_eq_one_of_pos hk] at h
    simp only [nonpos,decide_eq_true_eq] at h
    omega
  · simp only [nonpos,decide_eq_true_eq] at h
    omega

/-- A sum that is not positive has a summand that is not. -/
theorem add_nonpos {x : Double} {b : Int} (hb : 0 ≤ b) (h : (x.add (.finite b)).nonpos) :
    x.nonpos := by
  cases x with
  | finite a =>
    have hsum : a+b ≤ 0 := round_nonpos h
    simp only [nonpos,decide_eq_true_eq]
    omega
  | infinity s => exact h
  | nan => exact h

/-- A difference that is not positive has not been rounded to be so. -/
theorem sub_nonpos {x : Double} {n : Int} {num : Int} {den : Nat}
    (hn : n*den ≤ num) (h : (x.sub (.finite (n*one))).nonpos) : x.AtMost num den := by
  cases x with
  | finite k =>
    have hk : k ≤ n*one := by
      have hdiff : k+-(n*one) ≤ 0 := round_nonpos h
      omega
    calc k*den ≤ n*one*den := Int.mul_le_mul_of_nonneg_right hk (Int.natCast_nonneg den)
      _ = n*den*one := Int.mul_right_comm n one den
      _ ≤ num*one := Int.mul_le_mul_of_nonneg_right hn one_pos.le
  | infinity s => exact h
  | nan => cases h

theorem ofInt_nonneg {n : Int} (hn : 0 ≤ n) {x : Double} (h : ofInt n = some x) :
    ∃ k, 0 ≤ k ∧ x = .finite k := by
  unfold ofInt round at h
  split at h
  · rename_i k hk
    split at hk
    · cases hk
      cases h
      refine ⟨_,Int.mul_nonneg (Int.sign_nonneg_iff.mpr ?_) (Int.natCast_nonneg _),rfl⟩
      exact Int.mul_nonneg hn one_pos.le
    · cases hk
  · cases h

theorem AtMost.mono {x : Double} {num num' : Int} {den : Nat} (h : x.AtMost num den)
    (hle : num ≤ num') : x.AtMost num' den := by
  cases x with
  | finite k => exact Int.le_trans h (Int.mul_le_mul_of_nonneg_right hle one_pos.le)
  | infinity s => exact h
  | nan => exact h

end Double

end Doubles
