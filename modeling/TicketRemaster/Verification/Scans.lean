import Mathlib.Data.Fintype.Option
import TicketRemaster.Verification.Exclusion
import TicketRemaster.Verification.Qr
set_option autoImplicit false

/-! Scans alone: any number of them side by side, with codes that the owner keeps asking for anew.
The lock alone then keeps their check-ins apart. -/

namespace TicketRemaster.Verification

open Resumption SeatInventory

inductive DoorRequest where
  | scan (staff : Staff) (qrHash : Option QrHash)
  | getQr (qrTtl : Time) (userId : UserId) (ticketId : TicketId)
  deriving DecidableEq, Repr

namespace DoorRequest

/-- The verdict of a scan; a code that is asked for has none. -/
def handler (v : VerifyConfig) : DoorRequest → Handler (Option Verdict)
  | .scan staff qrHash => some <$> Verification.scan v staff qrHash
  | .getQr qrTtl userId ticketId => (fun _ => none) <$> Verification.getQr qrTtl userId ticketId

/-- The scan, or one that finds nothing. -/
def asCheckIn : DoorRequest → CheckInRequest
  | .scan staff qrHash => .scan staff qrHash
  | .getQr _ _ _ => .scan ⟨0,none,none⟩ none

@[simp] theorem asCheckIn_isScan (r : DoorRequest) : r.asCheckIn.isScan = true := by
  cases r <;> rfl

end DoorRequest

/-- What holds when a request at the door has answered. -/
def Answers (verdict : Option Verdict) (h : List (Entry Platform)) : Prop :=
  ∀ c, verdict = some (.success c) → (progress h).entered = some c.ticketId

theorem getQr_orderly (req : CheckInRequest) (qrTtl : Time) (userId : UserId) (i : TicketId) :
    Handler.Orderly req (getQr qrTtl userId i) (fun _ _ => True) [] := by
  refine callService_orderly rfl (fun ticket => ?_) (fun code _ => ?_)
  case refine_2 =>
    dsimp only
    split <;> trivial
  dsimp only
  split
  · trivial
  · split
    · trivial
    · refine datetimeNow_orderly fun generatedAt => ?_
      refine callService_orderly trivial (fun v => ?_) (fun code _ => trivial)
      refine lookup_orderly (q := .getEvent _) trivial (fun _ _ => rfl) fun event h' _ => ?_
      exact lookup_orderly (q := .getVenue _) trivial (fun _ _ => rfl) fun venue h'' _ => trivial

theorem door_orderly (v : VerifyConfig) (r : DoorRequest) :
    Handler.Orderly r.asCheckIn (r.handler v) Answers [] := by
  cases r with
  | scan staff qrHash =>
    refine Prog.follows_map.mpr ((scan_orderly rfl qrHash).mono ?_ (fun _ _ hf => hf))
    intro verdict h hv c hc
    exact hv c (Option.some.inj hc)
  | getQr qrTtl userId i =>
    refine Prog.follows_map.mpr ((getQr_orderly _ qrTtl userId i).mono ?_ (fun _ _ hf => hf))
    intro answer h _ c hc
    cases hc

section Door

variable {ι : Type}

/-- As all that check in are scans, the lock keeps them apart. -/
theorem Unhindered.apart {w : World} {past : ι → List (Entry Platform)} {e : Env}
    (h : Unhindered w past e) (req : ι → DoorRequest) (k : ι) (q : Call) :
    Apart (fun i => (req i).asCheckIn) w past k e q :=
  ⟨h,fun _ _ _ _ _ _ => ⟨DoorRequest.asCheckIn_isScan _,DoorRequest.asCheckIn_isScan _⟩⟩

variable [DecidableEq ι]

/-- However scans and requests for new codes run side by side, one scan of a ticket succeeds at
most. -/
theorem scanned_once (cfg : SeatConfig) (v : VerifyConfig) (req : ι → DoorRequest) (w : World)
    (c : Config ι Platform Unhandled (Option Verdict) World)
    (hrun : Config.Reach (World.server cfg ι) (fun w past _ e _ => Unhindered w past e)
      (Config.start w (fun i => (req i).handler v)) c) :
    ∀ j k a b, c.result j = some (some (.success a)) → c.result k = some (some (.success b)) →
      a.ticketId = b.ticketId → j = k := by
  have hstart : (Config.start w (fun i => (req i).handler v)).Disciplined
      (fun k => Orderly (req k).asCheckIn) (fun _ => Answered) (fun _ => Answers)
      (fun _ _ _ => False)
      (fun w past => Exclusive (fun i => (req i).asCheckIn) w (progress ∘ past)) :=
    Config.disciplined_start (exclusive_start _ w) (fun i => door_orderly v (req i))
  have hc := hstart.reach (exclusive_keeps _)
    (Config.reach_mono (fun _ _ k _ q h => h.apart req k q) hrun)
  intro j k a b hj hk hab
  have hj' := hc.result hj a rfl
  have hk' := hc.result hk b rfl
  rw [← hab] at hk'
  exact hc.1.once j k a.ticketId hj' hk'

end Door

section NewCode

/-- Two scans of the ticket, with the code it has and with the one that its owner asks for. -/
def twoCodes : Option Bool → DoorRequest
  | some true => .scan ⟨70,none,none⟩ (some (.uuidHex 9))
  | some false => .scan ⟨71,none,none⟩ (some (.sha256 5 1 1 1 (seconds 1)))
  | none => .getQr (seconds 60) 1 5

def atTheGate : Config (Option Bool) Platform Unhandled (Option Verdict) World :=
  .start unscannedWorld (fun i => (twoCodes i).handler ⟨seconds 60,seconds 300,seconds 5,3⟩)

/-- The first scan reads the ticket under the old code, and waits for its lock while the second
scan, with the new code, checks the ticket in. -/
def oldCodeFirst : Config (Option Bool) Platform Unhandled (Option Verdict) World :=
  atTheGate.schedule (World.server ⟨3,3,false⟩ (Option Bool))
    (fun w past _ e _ => decide (Unhindered w past e))
    (List.flatten (List.map (fun r => List.replicate r.2 (r.1,⟨seconds 1,0,0,true,true,none⟩))
      [(some true,1),(none,5),(some false,14),(some true,14)]))

theorem scanned_once_oldCodeFirst :
    oldCodeFirst.result (some false) = some (some (.success ⟨5,seconds 1,"Concert",0,1,1⟩)) ∧
      oldCodeFirst.result (some true) = some (some
        (refuse "ALREADY_CHECKED_IN" "This ticket has already been used." 409)) ∧
      ∀ j k a b, oldCodeFirst.result j = some (some (.success a)) →
        oldCodeFirst.result k = some (some (.success b)) → a.ticketId = b.ticketId → j = k := by
  refine ⟨by decide +kernel,by decide +kernel,?_⟩
  exact scanned_once ⟨3,3,false⟩ ⟨seconds 60,seconds 300,seconds 5,3⟩ twoCodes unscannedWorld _
    (Config.reach_schedule (fun _ _ _ _ _ h => of_decide_eq_true h) _ _)

end NewCode

end TicketRemaster.Verification
