import TicketRemaster.Transfer.Rows
set_option autoImplicit false

/-! A transfer whose party is marked as verified while its OTP is still awaited: every handler
refuses to go on with it, so it never completes. -/

namespace TicketRemaster.Transfer

open Resumption SeatInventory

/-- A request, and how the outside answers its calls. -/
structure Turn where
  request : Request
  answers : List (Entry Platform) → Env

def Turn.serve (cfg : SeatConfig) (x : Turn) (w : World) : World :=
  (runAlone cfg x.request.handler x.answers w).state

/-- Serve requests one after the other. -/
def serveAll (cfg : SeatConfig) : List Turn → World → World
  | [], w => w
  | x :: rest, w => serveAll cfg rest (x.serve cfg w)

section Runs

variable {cfg : SeatConfig} {w : World} {i : TransferId}
  {R : Option TicketRemaster.Transfer → Prop}

theorem endsIn_serve {E : List (Entry Platform) → Env → Prop} {x : Turn}
    (hp : Handler.EndsIn cfg E i R x.request.handler [] w) (hx : ∀ h, E h (x.answers h)) :
    R ((x.serve cfg w).transfers.lookup i) := runAlone_ends hp hx

/-- What every turn keeps, a run keeps. -/
theorem serveAll_keeps {J : World → Prop} {C : Turn → Prop}
    (hstep : ∀ x w, C x → J w → J (x.serve cfg w)) (turns : List Turn) (hC : ∀ x ∈ turns, C x)
    (hw : J w) : J (serveAll cfg turns w) := by
  induction turns generalizing w with
  | nil => exact hw
  | cons x rest ih =>
    have hrest : ∀ y ∈ rest, C y := fun y hy => hC y (List.mem_cons_of_mem _ hy)
    exact ih hrest (hstep x w (hC x List.mem_cons_self) hw)

end Runs

/-- The flags are those of a transfer that awaits the OTP which its status says. -/
def Awaits (t : TicketRemaster.Transfer) : Prop :=
  (t.status = .pendingBuyerOtp ∧ t.buyerOtpVerified = false ∧ t.sellerOtpVerified = false) ∨
    (t.status = .pendingSellerOtp ∧ t.buyerOtpVerified = true ∧ t.sellerOtpVerified = false)

/-- Nothing leads on from such a row. -/
inductive Dead (t : TicketRemaster.Transfer) : Prop where
  | buyerVerified : t.status = .pendingBuyerOtp → t.buyerOtpVerified → Dead t
  | buyerUnverified : t.status = .pendingSellerOtp → ¬ t.buyerOtpVerified → Dead t
  | sellerVerified : t.status = .pendingBuyerOtp ∨ t.status = .pendingSellerOtp →
      t.sellerOtpVerified → Dead t
  | ended : t.status ∉ [TransferStatus.pendingSellerAcceptance,.pendingBuyerOtp,.pendingSellerOtp,
      .completed] → Dead t

def DeadRow (r : Option TicketRemaster.Transfer) : Prop := ∃ t, r = some t ∧ Dead t

section Handlers

variable {cfg : SeatConfig} {E : List (Entry Platform) → Env → Prop} {h : List (Entry Platform)}
  {w : World} {i : TransferId} {u : UserId} {t : TicketRemaster.Transfer}

theorem Dead.not_completed (ht : Dead t) : t.status ≠ .completed := by
  intro hs
  cases ht <;> simp_all

theorem dead_of_not_awaits (hp : t.status = .pendingBuyerOtp ∨ t.status = .pendingSellerOtp)
    (ht : ¬ Awaits t) : Dead t := by
  by_cases hseller : t.sellerOtpVerified
  · exact .sellerVerified hp hseller
  · have hflag : t.sellerOtpVerified = false := by simpa using hseller
    rcases hp with hs | hs
    · refine .buyerVerified hs (not_not.mp fun hbuyer => ht (.inl ⟨hs,?_,hflag⟩))
      simpa using hbuyer
    · exact .buyerUnverified hs fun hbuyer => ht (.inr ⟨hs,hbuyer,hflag⟩)

theorem dead_outlivesExpiry : OutlivesExpiry DeadRow :=
  fun t _ _ _ => ⟨_,rfl,.ended (by simp [World.expire])⟩

/-- A PATCH that sets neither a flag nor, except to `cancelled`, the status. -/
theorem Dead.patched {p : TransferPatch} (ht : Dead t) (hbuyer : p.buyerOtpVerified = none)
    (hseller : p.sellerOtpVerified = none)
    (hstatus : p.status = none ∨ p.status = some .cancelled) : Dead (World.setTransfer p t) := by
  rcases hstatus with hs | hs
  · cases ht with
    | buyerVerified hpending hflag =>
      exact .buyerVerified (by simp [World.setTransfer,hs,hpending])
        (by simp [World.setTransfer,hbuyer,hflag])
    | buyerUnverified hpending hflag =>
      exact .buyerUnverified (by simp [World.setTransfer,hs,hpending])
        (by simpa [World.setTransfer,hbuyer] using hflag)
    | sellerVerified hpending hflag =>
      exact .sellerVerified (by simpa [World.setTransfer,hs] using hpending)
        (by simp [World.setTransfer,hseller,hflag])
    | ended hended => exact .ended (by simpa [World.setTransfer,hs] using hended)
  · exact .ended (by simp [World.setTransfer,hs])

theorem dead_patch {p : TransferPatch} (hbuyer : p.buyerOtpVerified = none)
    (hseller : p.sellerOtpVerified = none)
    (hstatus : p.status = none ∨ p.status = some .cancelled) :
    Leaves cfg i DeadRow (.http (.patchTransfer i p)) := by
  refine leaves_patch dead_outlivesExpiry fun _ t ht => ?_
  obtain ⟨t,hrow,ht⟩ := ht
  cases hrow
  exact ⟨_,rfl,ht.patched hbuyer hseller hstatus⟩

/-- A seller marked as verified stays so, whatever becomes of the buyer. -/
def SellerMarked (r : Option TicketRemaster.Transfer) : Prop :=
  ∃ t, r = some t ∧ t.sellerOtpVerified ∧ t.status ∈ [TransferStatus.pendingBuyerOtp,
    .pendingSellerOtp,.expired]

theorem SellerMarked.dead {r : Option TicketRemaster.Transfer} (hr : SellerMarked r) :
    DeadRow r := by
  obtain ⟨t,rfl,hflag,hstatus⟩ := hr
  refine ⟨t,rfl,?_⟩
  simp only [List.mem_cons,List.not_mem_nil,or_false] at hstatus
  rcases hstatus with hs | hs | hs
  · exact .sellerVerified (.inl hs) hflag
  · exact .sellerVerified (.inr hs) hflag
  · exact .ended (by simp [hs])

theorem sellerMarked_outlivesExpiry : OutlivesExpiry SellerMarked := by
  rintro t now - ⟨t',ht',hflag,-⟩
  cases ht'
  exact ⟨_,rfl,hflag,by simp [World.expire]⟩

theorem askSeller_marked (hr : SellerMarked (w.transfers.lookup i)) :
    Handler.EndsIn cfg E i SellerMarked (askSeller u i t) h w := by
  refine calls_endIn
    (askSeller_calls (leaves_reads sellerMarked_outlivesExpiry) ?_ fun sid => ?_) hr
  · refine leaves_patch sellerMarked_outlivesExpiry fun _ t => ?_
    rintro ⟨t',ht',hflag,hstatus⟩
    cases ht'
    exact ⟨_,rfl,by simpa [World.setTransfer] using hflag,
      by simpa [World.setTransfer] using hstatus⟩
  · refine leaves_patch sellerMarked_outlivesExpiry fun _ t => ?_
    rintro ⟨t',ht',hflag,-⟩
    cases ht'
    exact ⟨_,rfl,by simpa [World.setTransfer] using hflag,by simp [World.setTransfer]⟩

theorem buyerVerify_dead (otp : Option Nat) (hr : DeadRow (w.transfers.lookup i)) :
    Handler.EndsIn cfg E i DeadRow (buyerVerify u i otp) h w := by
  cases otp with
  | none => exact hr
  | some otp =>
    refine readRow_always dead_outlivesExpiry hr (fun _ _ _ hr => hr) (fun t w' ht hrow _ => ?_)
      (fun _ _ hr => hr)
    obtain ⟨t,ht',hdead⟩ := ht
    cases ht'
    have hend : DeadRow (w'.transfers.lookup i) := ⟨t,hrow,hdead⟩
    simp only
    split
    · exact hend
    · split
      · exact hend
      · split
        · exact hend
        · rename_i hguard
          simp only [not_or,not_not] at hguard
          obtain ⟨hpending,hflag⟩ := hguard
          -- The guard does not look at the seller's flag, so the buyer may still be verified.
          have hmarked : SellerMarked (w'.transfers.lookup i) := by
            refine ⟨t,hrow,?_,by simp [hpending]⟩
            cases hdead <;> simp_all
          have hread : ∀ q, Call.Reads q → Leaves cfg i SellerMarked q :=
            leaves_reads sellerMarked_outlivesExpiry
          refine endsIn_mono (R := SellerMarked) ?_ fun _ hr => hr.dead
          refine ask_endsIn (hread _ (.inl rfl)) hmarked fun buyer reply w₁ hr₁ => ?_
          cases buyer with
          | error code => exact hr₁
          | ok buyer =>
            refine ask_endsIn (hread _ (.inl rfl)) hr₁ fun verified reply w₂ hr₂ => ?_
            split
            · exact askSeller_marked hr₂
            · exact hr₂

theorem sellerAccept_dead (hr : DeadRow (w.transfers.lookup i)) :
    Handler.EndsIn cfg E i DeadRow (sellerAccept u i) h w := by
  refine readRow_always dead_outlivesExpiry hr (fun _ _ _ hr => hr) (fun t w' ht hrow _ => ?_)
    (fun _ _ hr => hr)
  obtain ⟨t,ht',hdead⟩ := ht
  cases ht'
  have hend : DeadRow (w'.transfers.lookup i) := ⟨t,hrow,hdead⟩
  simp only
  split
  · exact hend
  · split
    · exact hend
    · rename_i hguard
      have hpending := not_not.mp hguard
      cases hdead <;> simp_all

theorem sellerReject_dead (hr : DeadRow (w.transfers.lookup i)) :
    Handler.EndsIn cfg E i DeadRow (sellerReject u i) h w :=
  calls_endIn (sellerReject_calls (leaves_reads dead_outlivesExpiry)
    (dead_patch rfl rfl (.inr rfl)) (fun _ => leaves_other (by simp [Call.writes,Http.writes]))
    (fun _ => leaves_other (by simp [Call.writes,Http.writes]))) hr

theorem cancelTransfer_dead (hr : DeadRow (w.transfers.lookup i)) :
    Handler.EndsIn cfg E i DeadRow (cancelTransfer u i) h w :=
  calls_endIn (cancelTransfer_calls (leaves_reads dead_outlivesExpiry)
    (dead_patch rfl rfl (.inr rfl)) (fun _ => leaves_other (by simp [Call.writes,Http.writes]))
    (fun _ => leaves_other (by simp [Call.writes,Http.writes]))) hr

theorem sellerVerify_dead (otp : Option Nat) (hr : DeadRow (w.transfers.lookup i)) :
    Handler.EndsIn cfg E i DeadRow (sellerVerify u i otp) h w := by
  refine Prog.always_bind.mpr ?_
  cases otp with
  | none => exact hr
  | some otp =>
    refine readRow_always dead_outlivesExpiry hr (fun _ _ _ hr => hr) (fun t w' ht hrow _ => ?_)
      (fun _ _ hr => hr)
    obtain ⟨t,ht',hdead⟩ := ht
    cases ht'
    have hend : DeadRow (w'.transfers.lookup i) := ⟨t,hrow,hdead⟩
    simp only
    split
    · exact hend
    · split
      · exact hend
      · split
        · exact hend
        · rename_i hguard
          simp only [not_or,not_not] at hguard
          obtain ⟨hpending,hseller,hbuyer⟩ := hguard
          cases hdead <;> simp_all

theorem resendOtp_dead (hr : DeadRow (w.transfers.lookup i)) :
    Handler.EndsIn cfg E i DeadRow (resendOtp u i) h w :=
  calls_endIn (resendOtp_calls (leaves_reads dead_outlivesExpiry)
    (fun _ => dead_patch rfl rfl (.inl rfl)) (fun _ => dead_patch rfl rfl (.inl rfl))) hr

/-- No request leads on from a dead end, whoever makes it and however its calls are answered. -/
theorem handler_dead (req : Request) (hr : DeadRow (w.transfers.lookup i)) :
    Handler.EndsIn cfg E i DeadRow req.handler [] w := by
  by_cases hreq : req.names = some i
  · cases req with
    | initiate u l => cases hreq
    | buyerVerify u j otp => cases hreq; exact endsIn_map (buyerVerify_dead otp hr)
    | sellerAccept u j => cases hreq; exact endsIn_map (sellerAccept_dead hr)
    | sellerReject u j => cases hreq; exact endsIn_map (sellerReject_dead hr)
    | sellerVerify u j otp => cases hreq; exact endsIn_map (sellerVerify_dead otp hr)
    | resendOtp u j => cases hreq; exact endsIn_map (resendOtp_dead hr)
    | cancelTransfer u j => cases hreq; exact endsIn_map (cancelTransfer_dead hr)
    | getTransfer u j =>
      exact endsIn_map (calls_endIn (reads_calls (getTransfer_reads u j)
        (leaves_reads dead_outlivesExpiry)) hr)
    | timeoutMessage j l =>
      exact endsIn_map (calls_endIn (onTimeoutMessage_allowed (leaves_reads dead_outlivesExpiry)
        (leaves_refused rfl) (leaves_other (by simp [Call.writes,Http.writes]))) hr)
  · cases hn : req.names with
    | none =>
      cases req with
      | initiate u l =>
        have hnever : OutlivesExpiry fun _ => False := fun _ _ _ hf => hf
        refine endsIn_map (initiate_endsIn u l dead_outlivesExpiry hnever ?_ ?_ ?_ hr)
        · rintro t - - - ⟨t',ht',-⟩
          cases ht'
        · exact fun _ _ hf => hf
        · exact fun _ hf => hf.elim
      | _ => cases hn
    | some j =>
      exact calls_endIn (elsewhere_leaves dead_outlivesExpiry hn fun hj => hreq (by rw [hn,hj])) hr

/-- No sequence of requests completes the transfer. -/
def DeadEnd (cfg : SeatConfig) (w : World) (i : TransferId) : Prop :=
  ∀ turns, statusOf (serveAll cfg turns w) i ≠ some .completed

theorem dead_deadEnd (ht : w.transfers.lookup i = some t) (hdead : Dead t) : DeadEnd cfg w i := by
  intro turns hcompleted
  have hrun : DeadRow ((serveAll cfg turns w).transfers.lookup i) :=
    serveAll_keeps (J := fun w => DeadRow (w.transfers.lookup i)) (C := fun _ => True)
      (fun x w _ hw => endsIn_serve (E := fun _ _ => True) (handler_dead x.request hw)
        fun _ => trivial) turns (fun _ _ => trivial) ⟨t,ht,hdead⟩
  obtain ⟨t',hrow,hdead'⟩ := hrun
  rw [statusOf,hrow] at hcompleted
  exact hdead'.not_completed (Option.some.inj hcompleted)

end Handlers

end TicketRemaster.Transfer
