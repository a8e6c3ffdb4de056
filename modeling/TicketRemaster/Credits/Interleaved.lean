import Mathlib.Algebra.BigOperators.Group.Finset.Piecewise
import Mathlib.Data.Fintype.BigOperators
import TicketRemaster.Credits.Effects
set_option autoImplicit false

/-! Balances under every interleaving of requests that move credits: nothing is lost as long as
each write of a balance comes before any other since its own read. -/

namespace TicketRemaster.Credits

open Resumption SeatInventory
open scoped BigOperators

variable {ι : Type}

/-- The call does not fail, and a write of a balance still finds it as the request has read it. -/
structure Current (cfg : SeatConfig) (w : World) (past : ι → List (Entry Platform)) (k : ι)
    (e : Env) (q : Call) : Prop where
  succeeds : callFails ⟨q,(World.perform cfg e w q).1⟩ = false
  asRead : findsAsRead w (past k) q

instance (cfg : SeatConfig) (w : World) (past : ι → List (Entry Platform)) (k : ι) (e : Env)
    (q : Call) : Decidable (Current cfg w past k e q) :=
  decidable_of_iff (callFails ⟨q,(World.perform cfg e w q).1⟩ = false ∧ findsAsRead w (past k) q)
    ⟨fun h => ⟨h.1,h.2⟩,fun h => ⟨h.succeeds,h.asRead⟩⟩

section Runs

variable [Fintype ι] {cfg : SeatConfig} {w₀ w : World} {past : ι → List (Entry Platform)}
  {req : ι → CreditRequest}

/-- Every balance has been moved by what the requests have moved it by, all in all. -/
structure Balanced (w₀ w : World) (past : ι → List (Entry Platform)) : Prop where
  rooted : Rooted w₀ w
  balance (u : UserId) : w.credits.lookup u =
    (w₀.credits.lookup u).map (· + ∑ i, (account u (past i)).moved)

theorem balanced_start (w₀ : World) : Balanced w₀ w₀ (fun _ : ι => []) := by
  refine ⟨.refl w₀,fun u => ?_⟩
  simp [account,Account.untouched]

theorem delta_none (w : World) (u : UserId) (req : CreditRequest) : delta w u req none = 0 := by
  cases req with
  | confirmTopup userId p => cases p <;> rfl
  | _ => rfl

variable [DecidableEq ι]

theorem sum_moved (past : ι → List (Entry Platform)) (k : ι) (entry : Entry Platform) (u : UserId) :
    ∑ i, (account u (Function.update past k (entry :: past k) i)).moved =
      ∑ i, (account u (past i)).moved +
        ((account u (entry :: past k)).moved-(account u (past k)).moved) := by
  have hupdate : (fun i => (account u (Function.update past k (entry :: past k) i)).moved) =
      Function.update (fun i => (account u (past i)).moved) k
        (account u (entry :: past k)).moved := by
    funext i
    by_cases hi : i = k
    · subst hi; simp
    · simp [hi]
  rw [hupdate,Finset.sum_update_of_mem (Finset.mem_univ k),
    Finset.sum_eq_add_sum_sdiff_singleton_of_mem (Finset.mem_univ k)
      (fun i => (account u (past i)).moved)]
  ring

theorem balanced_keeps (cfg : SeatConfig) (w₀ : World) (req : ι → CreditRequest) :
    Keeps (World.server cfg ι) (Current cfg) (fun i => Sound w₀ (req i)) (fun _ => Answers w₀)
      (Balanced w₀) := by
  intro w past k e q hb _ hc hq
  refine ⟨perform_answers hb.rooted hc.asRead hc.succeeds,hb.rooted.perform hq,fun u => ?_⟩
  refine (perform_credits hq hc.asRead hc.succeeds u).trans ?_
  rw [hb.balance u,Option.map_map,sum_moved]
  congr 1
  funext b
  simp [add_assoc,World.server]

abbrev CreditConfig (ι : Type) : Type := Config ι Platform Unhandled CreditAnswer World

end Runs

section LostUpdate

/-- User 2 has 100 credits and has paid for 50 and for 30 more. -/
def twicePaidWorld : World :=
  { paidWorld with
    paymentIntents := (AList.singleton 7 ⟨true,some (2,50)⟩).insert 8 ⟨true,some (2,30)⟩ }

def twoTopups : Bool → CreditRequest
  | true => .confirmTopup 2 (some 7)
  | false => .confirmTopup 2 (some 8)

def afterPayments : CreditConfig Bool :=
  .start twicePaidWorld (fun i => (twoTopups i).handler)

/-- The second confirmation comes after the first. -/
def oneByOne : CreditConfig Bool :=
  afterPayments.schedule (World.server ⟨3,3,false⟩ Bool)
    (fun w past k e q => decide (Current ⟨3,3,false⟩ w past k e q))
    (calls true 5 none ++ calls false 5 none)

/-- No call fails. -/
def noFailure (w : World) (_ : Bool → List (Entry Platform)) (_ : Bool) (e : Env) (q : Call) :
    Bool := e.fault.isNone && !callFails ⟨q,(World.perform ⟨3,3,false⟩ e w q).1⟩

/-- Both confirmations read the balance before either writes it. -/
def overlapping : CreditConfig Bool :=
  afterPayments.schedule (World.server ⟨3,3,false⟩ Bool) noFailure
    (calls true 3 none ++ calls false 3 none ++ calls true 2 none ++ calls false 2 none)

end LostUpdate

end TicketRemaster.Credits
