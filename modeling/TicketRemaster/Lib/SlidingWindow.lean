import Mathlib.Algebra.Order.Monoid.Unbundled.Basic
import Mathlib.Data.List.TakeWhile
set_option autoImplicit false

/-! Failed attempts within a span of time that no success interrupts. A log lists the attempts
with their outcome, the newest first. -/

namespace SlidingWindow

variable {T : Type} [LinearOrder T]

/-- The attempts are listed from the newest to the oldest, all of them past. -/
structure Chronological (now : T) (log : List (T × Bool)) : Prop where
  sorted : log.Pairwise (fun e e' => e'.1 ≤ e.1)
  past : ∀ e ∈ log, e.1 ≤ now

section Chronological

variable {now now' : T} {log : List (T × Bool)} {ok : Bool}

theorem Chronological.later (h : Chronological now log) (hn : now ≤ now') :
    Chronological now' log := ⟨h.sorted,fun e he => (h.past e he).trans hn⟩

theorem Chronological.cons (h : Chronological now log) : Chronological now ((now,ok) :: log) where
  sorted := List.pairwise_cons.mpr ⟨h.past,h.sorted⟩
  past := by
    intro e he
    rcases List.mem_cons.mp he with rfl | he
    · exact le_refl now
    · exact h.past e he

end Chronological

variable [Add T]

/-- The instant lies in the span of length `W` that begins at `s`. -/
def Within (W s t : T) : Prop := s ≤ t ∧ t < s+W

instance (W s t : T) : Decidable (Within W s t) := inferInstanceAs (Decidable (_ ∧ _))

/-- No span of length `W` without a success has more than `n` failures. -/
def Bounded (n : Nat) (W : T) (log : List (T × Bool)) : Prop :=
  ∀ s, (∀ e ∈ log, e.2 = true → ¬ Within W s e.1) →
    log.countP (fun e => !e.2 && Within W s e.1) ≤ n

/-- The failures since the last success that are younger than `W`. -/
def recent (W now : T) (log : List (T × Bool)) : Nat :=
  (log.takeWhile (fun e => !e.2)).countP (fun e => now < e.1+W)

variable {n : Nat} {W now now' t : T} {log : List (T × Bool)}

theorem bounded_nil : Bounded n W [] := fun _ _ => Nat.zero_le n

@[simp] theorem recent_nil : recent W now [] = 0 := rfl

@[simp] theorem recent_success : recent W now ((t,true) :: log) = 0 := rfl

theorem recent_failure_le : recent W now ((t,false) :: log) ≤ recent W now log+1 := by
  simp only [recent,Bool.not_false,List.takeWhile_cons_of_pos,List.countP_cons]
  split <;> omega

theorem recent_antitone (h : now ≤ now') : recent W now' log ≤ recent W now log := by
  refine List.countP_mono_left fun e _ he => ?_
  simp only [decide_eq_true_eq] at he ⊢
  exact h.trans_lt he

theorem Bounded.success (h : Bounded n W log) : Bounded n W ((t,true) :: log) := by
  intro s hs
  rw [List.countP_cons_of_neg (by simp)]
  exact h s fun e he => hs e (List.mem_cons_of_mem _ he)

variable [AddRightMono T]

theorem recent_expired (h : Chronological t log) (hn : t+W ≤ now) : recent W now log = 0 := by
  refine List.countP_eq_zero.mpr fun e he => ?_
  have hpast := h.past e ((List.takeWhile_sublist _).mem he)
  simpa using (add_le_add_left hpast W).trans hn

/-- In a span that reaches up to now without a success, only recent failures lie. -/
theorem count_le_recent {s : T} (h : Chronological now log) (hnow : now < s+W)
    (hs : ∀ e ∈ log, e.2 = true → ¬ Within W s e.1) :
    log.countP (fun e => !e.2 && Within W s e.1) ≤ recent W now log := by
  induction log with
  | nil => exact le_refl 0
  | cons e log ih =>
    obtain ⟨hfirst,hsorted⟩ := List.pairwise_cons.mp h.sorted
    have hpast := h.past e List.mem_cons_self
    cases hok : e.2 with
    | true =>
      have hbefore : e.1 < s := by
        by_contra hge
        exact hs e List.mem_cons_self hok ⟨not_lt.mp hge,hpast.trans_lt hnow⟩
      have hnone : (e :: log).countP (fun e => !e.2 && Within W s e.1) = 0 := by
        refine List.countP_eq_zero.mpr fun e' he' => ?_
        have he : e'.1 < s := by
          rcases List.mem_cons.mp he' with rfl | he'
          · exact hbefore
          · exact (hfirst e' he').trans_lt hbefore
        simp [Within,not_le.mpr he]
      rw [hnone]
      exact Nat.zero_le _
    | false =>
      have hrest := ih ⟨hsorted,fun e' he' => h.past e' (List.mem_cons_of_mem _ he')⟩
        (fun e' he' => hs e' (List.mem_cons_of_mem _ he'))
      have hage : Within W s e.1 → now < e.1+W :=
        fun hw => hnow.trans_le (add_le_add_left hw.1 W)
      simp only [recent,hok,Bool.not_false,List.takeWhile_cons_of_pos,List.countP_cons,
        Bool.true_and] at hrest ⊢
      by_cases hw : Within W s e.1
      · simpa [hw,hage hw] using hrest
      · simp only [hw,decide_false,Bool.false_eq_true,if_false]
        exact hrest.trans (Nat.le_add_right _ _)

/-- One more failure is within the bound as long as fewer than `n` are recent. -/
theorem Bounded.failure (h : Bounded n W log) (hlog : Chronological now log)
    (hn : recent W now log < n) : Bounded n W ((now,false) :: log) := by
  intro s hs
  have hrest : ∀ e ∈ log, e.2 = true → ¬ Within W s e.1 :=
    fun e he => hs e (List.mem_cons_of_mem _ he)
  by_cases hw : Within W s now
  · have hcount := count_le_recent hlog hw.2 hrest
    rw [List.countP_cons_of_pos (by simpa using hw)]
    omega
  · rw [List.countP_cons_of_neg (by simpa using hw)]
    exact h s hrest

end SlidingWindow
