import TicketRemaster.Transfer.Parties
set_option autoImplicit false

/-! When a pending transfer can still be completed: as long as its flags match its status. They do
unless a verification loses a call between the OTP and the new status. -/

namespace TicketRemaster.Transfer

open Resumption SeatInventory

def acceptedOtp : Entry Platform → Bool
  | ⟨.http (.verifyOtp _ _ _),.ok true⟩ => true
  | _ => false

def writesStatus : Call → Bool
  | .http (.patchTransfer _ p) => p.status.isSome
  | _ => false

/-- The OTP has been accepted, and the status that follows from it is still to be written. -/
def Critical (h : List (Entry Platform)) : Prop :=
  h.any acceptedOtp = true ∧ h.any (fun x => writesStatus x.1) = false

/-- No call fails between the acceptance of an OTP and the write of the new status. -/
def Unbroken (h : List (Entry Platform)) (e : Env) : Prop := Critical h → e.fault = none

/-- The flags are what the status says of the OTPs that have been verified. -/
def FlagsMatch (t : TicketRemaster.Transfer) : Prop :=
  match t.status with
  | .pendingSellerAcceptance | .pendingBuyerOtp =>
      t.buyerOtpVerified = false ∧ t.sellerOtpVerified = false
  | .pendingSellerOtp => t.buyerOtpVerified = true ∧ t.sellerOtpVerified = false
  | _ => True

/-- The row of a transfer that seller `s` has to accept or verify. -/
def InStep (s : UserId) (r : Option TicketRemaster.Transfer) : Prop :=
  ∀ t, r = some t → t.sellerId = s → FlagsMatch t

/-- The transfer has come to an end that no request leads on from. -/
def Done (r : Option TicketRemaster.Transfer) : Prop :=
  ∃ t, r = some t ∧ t.status ∈ [TransferStatus.completed,.failed,.expired]

section Rows

variable {cfg : SeatConfig} {i : TransferId} {s : UserId} {t : TicketRemaster.Transfer}

theorem FlagsMatch.awaits (ht : FlagsMatch t)
    (hp : t.status = .pendingBuyerOtp ∨ t.status = .pendingSellerOtp) : Awaits t := by
  rcases hp with hs | hs <;> simp only [FlagsMatch,hs] at ht
  · exact .inl ⟨hs,ht⟩
  · exact .inr ⟨hs,ht⟩

theorem inStep_outlivesExpiry : OutlivesExpiry (InStep s) := by
  rintro t now - - t' ht' -
  cases ht'
  simp [FlagsMatch,World.expire]

theorem done_outlivesExpiry : OutlivesExpiry Done :=
  fun t _ _ _ => ⟨_,rfl,by simp [World.expire]⟩

theorem Done.inStep {r : Option TicketRemaster.Transfer} (hr : Done r) : InStep s r := by
  rintro t rfl -
  obtain ⟨t',ht',hstatus⟩ := hr
  cases ht'
  simp only [List.mem_cons,List.not_mem_nil,or_false] at hstatus
  rcases hstatus with hs | hs | hs <;> simp [FlagsMatch,hs]

/-- A transfer whose OTPs are all still to come. -/
def Unflagged (r : Option TicketRemaster.Transfer) : Prop :=
  ∃ t, r = some t ∧ t.buyerOtpVerified = false ∧ t.sellerOtpVerified = false ∧
    t.status ≠ .pendingSellerOtp

theorem Unflagged.inStep {r : Option TicketRemaster.Transfer} (hr : Unflagged r) :
    InStep s r := by
  rintro t rfl -
  obtain ⟨t',ht',hbuyer,hseller,hstatus⟩ := hr
  cases ht'
  unfold FlagsMatch
  split
  · exact ⟨hbuyer,hseller⟩
  · exact ⟨hbuyer,hseller⟩
  · contradiction
  · trivial

theorem unflagged_outlivesExpiry : OutlivesExpiry Unflagged := by
  rintro t now - ⟨t',ht',hbuyer,hseller,-⟩
  cases ht'
  exact ⟨_,rfl,hbuyer,hseller,by simp [World.expire]⟩

theorem unflagged_asked (sid : Sid) (hr : Unflagged (some t)) :
    Unflagged (some (World.setTransfer
      { buyerVerificationSid := some sid, status := some .pendingBuyerOtp } t)) := by
  obtain ⟨t',ht',hbuyer,hseller,-⟩ := hr
  cases ht'
  exact ⟨_,rfl,by simpa [World.setTransfer] using hbuyer,by simpa [World.setTransfer] using hseller,
    by simp [World.setTransfer]⟩

end Rows

section Rules

variable {cfg : SeatConfig} {α : Type} {E : List (Entry Platform) → Env → Prop}
  {h : List (Entry Platform)} {w : World} {i : TransferId} {e : Env}
  {Q : α → List (Entry Platform) → World → Prop}
  {X : Unhandled → List (Entry Platform) → World → Prop}

theorem Critical.cons {q : Call} (hh : Critical h) (hq : writesStatus q = false) (a : q.Ans) :
    Critical (⟨q,a⟩ :: h) := by
  refine ⟨?_,?_⟩
  · rw [List.any_cons,hh.1,Bool.or_true]
  · rw [List.any_cons,hh.2,hq,Bool.or_false]

/-- A lookup changes nothing, whether it fails or not. -/
theorem look_always {q : Http} {f : Except String q.Val → Handler α} (hq : q.writes = none)
    (hok : ∀ v, Handler.Always cfg E Q X (f (.ok v)) (⟨.http q,.ok v⟩ :: h) w)
    (herr : ∀ code, Handler.Always cfg E Q X (f (.error code)) (⟨.http q,.error code⟩ :: h) w)
    (hraised : ∀ h', X .client h' w) :
    Handler.Always cfg E Q X (callService q >>= f) h w := by
  refine callService_always (fun e v w' _ hp => ?_) (fun e code w' _ hp => ?_)
    (fun e w' _ hp => ?_)
  · rw [World.perform_read hq hp]
    exact hok v
  · rw [World.perform_read hq hp]
    exact herr code
  · rw [World.perform_read hq hp]
    exact hraised _

/-- In the critical part of a request a lookup tells the truth. -/
theorem critical_look {q : Http} {f : Except String q.Val → Handler α} (hh : Critical h)
    (hq : q.writes = none)
    (hok : ∀ v, (∃ e, (w.serve e q).1 = .ok v) →
      Handler.Always cfg Unbroken Q X (f (.ok v)) (⟨.http q,.ok v⟩ :: h) w)
    (herr : ∀ err, (∃ e, (w.serve e q).1 = .error err) →
      Handler.Always cfg Unbroken Q X (f (.error err.code)) (⟨.http q,.error err.code⟩ :: h) w) :
    Handler.Always cfg Unbroken Q X (callService q >>= f) h w := by
  refine served_always (fun e he => he hh) (fun e v w' _ hs => ?_) (fun e err w' _ hs => ?_)
  · obtain rfl : w' = w := by
      have hw := World.serve_read (e := e) (w := w) hq
      rwa [hs] at hw
    exact hok v ⟨e,by rw [hs]⟩
  · obtain rfl : w' = w := by
      have hw := World.serve_read (e := e) (w := w) hq
      rwa [hs] at hw
    exact herr err ⟨e,by rw [hs]⟩

/-- Unless the PATCH fails, it leads from one condition on the row to the other. -/
def Turns (i : TransferId) (p : TransferPatch) (R R' : Option TicketRemaster.Transfer → Prop) :
    Prop :=
  ∀ (e : Env) (w : World), R (w.transfers.lookup i) →
    R' ((w.serve e (.patchTransfer i p)).2.transfers.lookup i)

theorem patch_turns {R R' : Option TicketRemaster.Transfer → Prop} {p : TransferPatch}
    (hthere : ∀ r, R r → ∃ t, r = some t) (hp : p ≠ {}) (hfields : p.otherFields = false)
    (hset : ∀ t, R (some t) → R' (some (World.setTransfer p t)))
    (hexpire : ∀ t, R (some t) → R' (some (World.expire t))) : Turns i p R R' := by
  intro e w hr
  obtain ⟨t,ht⟩ := hthere _ hr
  rw [ht] at hr
  simp only [World.serve,World.patchTransfer,hp,hfields,ht]
  cases World.autoExpires t e.time
  · simpa using hset t hr
  · simpa using hexpire t hr

/-- In the critical part of a request a PATCH goes through, or finds the transfer expired. -/
theorem critical_patch {p : TransferPatch} {R R' : Option TicketRemaster.Transfer → Prop}
    {f : Handler α} (hh : Critical h) (hturn : Turns i p R R') (hr : R (w.transfers.lookup i))
    (hf : ∀ reply w', R' (w'.transfers.lookup i) → World.Frame (some .transfers) w w' →
      Handler.Always cfg Unbroken Q X f (⟨.http (.patchTransfer i p),reply⟩ :: h) w') :
    Handler.Always cfg Unbroken Q X (callService (.patchTransfer i p) >>= fun _ => f) h w := by
  have hafter : ∀ e a w', w.serve e (.patchTransfer i p) = (a,w') →
      R' (w'.transfers.lookup i) ∧ World.Frame (some .transfers) w w' := by
    intro e a w' hs
    have hrow := hturn e w hr
    have hframe : World.Frame (some .transfers) w (w.serve e (.patchTransfer i p)).2 :=
      World.serve_frame e w (.patchTransfer i p)
    rw [hs] at hrow hframe
    exact ⟨hrow,hframe⟩
  refine served_always (fun e he => he hh) (fun e v w' _ hs => ?_) (fun e err w' _ hs => ?_)
  · exact hf _ w' (hafter e _ w' hs).1 (hafter e _ w' hs).2
  · exact hf _ w' (hafter e _ w' hs).1 (hafter e _ w' hs).2

end Rules

section Buyer

variable {cfg : SeatConfig} {E : List (Entry Platform) → Env → Prop} {h : List (Entry Platform)}
  {w : World} {i : TransferId} {s u : UserId} {t : TicketRemaster.Transfer}

/-- The seller's OTP has not been verified. -/
def SellerUnmarked (r : Option TicketRemaster.Transfer) : Prop :=
  ∃ t, r = some t ∧ t.sellerOtpVerified = false

theorem flag_turns : Turns i { buyerOtpVerified := some true } SellerUnmarked SellerUnmarked := by
  refine patch_turns (fun _ hr => ?_) (by simp) rfl (fun t hr => ?_) (fun t hr => ?_)
  · obtain ⟨t,rfl,-⟩ := hr
    exact ⟨t,rfl⟩
  · obtain ⟨t',ht',hflag⟩ := hr
    cases ht'
    exact ⟨_,rfl,by simpa [World.setTransfer] using hflag⟩
  · obtain ⟨t',ht',hflag⟩ := hr
    cases ht'
    exact ⟨_,rfl,hflag⟩

theorem status_turns (sid : Sid) : Turns i {
    buyerOtpVerified := some true
    sellerVerificationSid := some sid
    status := some .pendingSellerOtp } SellerUnmarked (InStep s) := by
  refine patch_turns (fun _ hr => ?_) (by simp) rfl (fun t hr => ?_) (fun t hr => ?_)
  · obtain ⟨t,rfl,-⟩ := hr
    exact ⟨t,rfl⟩
  · obtain ⟨t',ht',hflag⟩ := hr
    cases ht'
    intro t' ht' _
    cases ht'
    simpa [FlagsMatch,World.setTransfer] using hflag
  · intro t' ht' _
    cases ht'
    simp [FlagsMatch,World.expire]

/-- From the accepted OTP on, a buyer's request gets to the new status. -/
theorem askSeller_inStep (hh : Critical h) (hr : SellerUnmarked (w.transfers.lookup i))
    (hseller : (w.users.lookup t.sellerId).isSome) :
    Handler.EndsIn cfg Unbroken i (InStep s) (askSeller u i t) h w := by
  obtain ⟨seller,hrow⟩ := Option.isSome_iff_exists.mp hseller
  refine critical_patch hh flag_turns hr fun reply w₁ hr₁ hf₁ => ?_
  have hh₁ := hh.cons (q := .http (.patchTransfer i { buyerOtpVerified := some true })) rfl reply
  refine critical_look hh₁ rfl (fun seller _ => ?_) (fun err herr => ?_)
  · refine critical_look (hh₁.cons rfl _) rfl (fun sid _ => ?_) (fun err herr => ?_)
    · refine critical_patch ((hh₁.cons rfl _).cons rfl _) (status_turns (s := s) sid) hr₁
        fun reply w₂ hr₂ _ => ?_
      refine calls_endIn (reads_calls ?_ (leaves_reads inStep_outlivesExpiry)) hr₂
      refine reads_bind (loadEnrichedTransfer_reads _ _) fun _ => ?_
      refine reads_bind (publishSellerNotification_reads _ _) fun _ => ?_
      exact reads_bind (broadcastTransferNotification_reads _ _) fun _ => reads_ret _
    · obtain ⟨e,hs⟩ := herr
      cases hs
  · obtain ⟨e,hs⟩ := herr
    simp [World.serve,World.getUser,hf₁.users,hrow,World.found] at hs

/-- The row of another seller's transfer. -/
def OtherSeller (s : UserId) (r : Option TicketRemaster.Transfer) : Prop :=
  ∃ t, r = some t ∧ t.sellerId ≠ s

theorem OtherSeller.inStep {r : Option TicketRemaster.Transfer} (hr : OtherSeller s r) :
    InStep s r := by
  rintro t rfl hs
  obtain ⟨t',ht',hne⟩ := hr
  cases ht'
  exact absurd hs hne

/-- Nothing changes the seller of a transfer. -/
theorem otherSeller_endsIn {α : Type} (p : Handler α)
    (hr : OtherSeller s (w.transfers.lookup i)) : Handler.EndsIn cfg E i (InStep s) p h w := by
  refine endsIn_mono (R := OtherSeller s) (calls_endIn (p.calls_true.mono (fun q _ => ?_)
    fun _ _ => trivial) hr) fun _ hr => hr.inStep
  rintro e w ⟨t,ht,hne⟩
  have hchange := perform_change cfg e w i q
  rw [ht] at hchange
  obtain ⟨t',ht',hdeal⟩ := hchange.lasts
  exact ⟨t',ht',by rw [hdeal.seller]; exact hne⟩

theorem buyerVerify_inStep (otp : Option Nat) (hr : InStep s (w.transfers.lookup i))
    (hseller : (w.users.lookup s).isSome) :
    Handler.EndsIn cfg Unbroken i (InStep s) (buyerVerify u i otp) [] w := by
  cases otp with
  | none => exact hr
  | some otp =>
    refine readRow_always inStep_outlivesExpiry hr (fun _ _ _ hr => hr)
      (fun t w' ht hrow hframe => ?_) (fun _ _ hr => hr)
    by_cases hs : t.sellerId = s
    · have hend : InStep s (w'.transfers.lookup i) := by rwa [hrow]
      have hknown : (w'.users.lookup t.sellerId).isSome := by rwa [hframe.users,hs]
      simp only
      split
      · exact hend
      · split
        · exact hend
        · split
          · exact hend
          · rename_i hguard
            simp only [not_or,not_not] at hguard
            have hmatch := ht t rfl hs
            simp only [FlagsMatch,hguard.1] at hmatch
            refine look_always rfl (fun buyer => ?_) (fun _ => hend) (fun _ => hend)
            refine look_always rfl (fun verified => ?_) (fun _ => hend) (fun _ => hend)
            cases verified with
            | false => exact hend
            | true => exact askSeller_inStep ⟨rfl,rfl⟩ ⟨t,hrow,hmatch.2⟩ hknown
    · exact otherSeller_endsIn _ ⟨t,hrow,hs⟩

end Buyer

section Seller

variable {cfg : SeatConfig} {h : List (Entry Platform)} {w : World} {i : TransferId}
  {s u : UserId} {t : TicketRemaster.Transfer} {a : Saga}

/-- There is a transfer. -/
def There (r : Option TicketRemaster.Transfer) : Prop := ∃ t, r = some t

theorem there_leaves (q : Call) : Leaves cfg i There q := by
  rintro e w ⟨t,ht⟩
  have hchange := perform_change cfg e w i q
  rw [ht] at hchange
  obtain ⟨t',ht',-⟩ := hchange.lasts
  exact ⟨t',ht'⟩

theorem marked_turns : Turns i { sellerOtpVerified := some true } There There :=
  patch_turns (fun _ hr => hr) (by simp) rfl (fun _ _ => ⟨_,rfl⟩) (fun _ _ => ⟨_,rfl⟩)

/-- A PATCH that ends the transfer. -/
theorem end_turns {p : TransferPatch} {status : TransferStatus} (hp : p.status = some status)
    (hfields : p.otherFields = false)
    (hstatus : status ∈ [TransferStatus.completed,.failed,.expired]) : Turns i p There Done := by
  refine patch_turns (fun _ hr => hr) (fun hempty => by simp [hempty] at hp) hfields (fun t _ => ?_)
    (fun t _ => ⟨_,rfl,by simp [World.expire]⟩)
  exact ⟨_,rfl,by simpa [World.setTransfer,hp] using hstatus⟩

theorem done_patch {p : TransferPatch} {status : TransferStatus} (hp : p.status = some status)
    (hstatus : status ∈ [TransferStatus.completed,.failed,.expired]) :
    Leaves cfg i Done (.http (.patchTransfer i p)) :=
  leaves_patch done_outlivesExpiry fun _ t _ =>
    ⟨_,rfl,by simpa [World.setTransfer,hp] using hstatus⟩

theorem request_leaves (now : Time) (step : SagaStep) :
    Leaves cfg a.transferId Done (.http (a.request now step)) := by
  cases step with
  | transferCompleted => exact done_patch rfl (by simp)
  | _ => exact leaves_other (by simp [Saga.request,Call.writes,Http.writes])

/-- What a step finds, and what it leaves, while no status has been written. -/
theorem critical_attempt {β : Type} {Q : β → List (Entry Platform) → World → Prop}
    {X : Unhandled → List (Entry Platform) → World → Prop} {f : Option Unhandled → Handler β}
    {R : Option TicketRemaster.Transfer → Prop} {now : Time} {step : SagaStep} (hh : Critical h)
    (hr : ∀ e, R ((w.serve e (a.request now step)).2.transfers.lookup a.transferId))
    (hf : ∀ failed reply w', R (w'.transfers.lookup a.transferId) →
      Handler.Always cfg Unbroken Q X (f failed) (⟨.http (a.request now step),reply⟩ :: h) w') :
    Handler.Always cfg Unbroken Q X (a.attempt now step >>= f) h w := by
  refine Prog.always_bind.mpr (Prog.always_bind.mpr (Prog.always_handle.mpr ?_))
  refine served_always (fun e he => he hh) (fun e v w' _ hs => ?_) (fun e err w' _ hs => ?_)
  · refine hf none _ w' ?_
    have hrow := hr e
    rwa [hs] at hrow
  · refine hf (some .runtimeError) _ w' ?_
    have hrow := hr e
    rwa [hs] at hrow

theorem there_serve (e : Env) (q : Http) (hr : There (w.transfers.lookup i)) :
    There ((w.serve e q).2.transfers.lookup i) := by
  have hchange := serve_change (e := e) (w := w) (i := i) (q := q)
  obtain ⟨t,ht⟩ := hr
  rw [ht] at hchange
  obtain ⟨t',ht',-⟩ := hchange.lasts
  exact ⟨t',ht'⟩

/-- Where a saga stops: the transfer has ended, or a step has failed and the status is yet to be
written. -/
theorem forward_ends {steps completed : List SagaStep} (hmem : .transferCompleted ∈ steps)
    (hh : Critical h) (hr : There (w.transfers.lookup a.transferId)) :
    Handler.Always cfg Unbroken
      (fun r h' w' => Done (w'.transfers.lookup a.transferId) ∨
        r.1 ≠ none ∧ Critical h' ∧ There (w'.transfers.lookup a.transferId))
      (fun _ _ w' => Done (w'.transfers.lookup a.transferId)) (a.forward steps completed) h w := by
  induction steps generalizing completed h w with
  | nil => cases hmem
  | cons step rest ih =>
    by_cases hstep : step = .transferCompleted
    · subst hstep
      refine datetimeNow_always fun e _ => ?_
      refine critical_attempt (R := Done) (hh.cons rfl _) (fun e' => ?_)
        fun failed reply w' hd => ?_
      · exact end_turns rfl rfl (by simp) e' w hr
      · cases failed with
        | some exc => exact .inl hd
        | none =>
          refine Prog.Always.mono (calls_endIn (forward_calls (leaves_reads done_outlivesExpiry)
            fun now step _ => request_leaves now step) hd) (fun _ _ _ hd => .inl hd)
            (fun _ _ _ hd => hd)
    · have hwrites : ∀ now, writesStatus (.http (a.request now step)) = false := by
        intro now
        cases step <;> first | rfl | contradiction
      have hrest : .transferCompleted ∈ rest := by
        rcases List.mem_cons.mp hmem with hs | hs
        · exact absurd hs.symm hstep
        · exact hs
      have hattempt : Handler.Always cfg Unbroken
          (fun r h' w' => Done (w'.transfers.lookup a.transferId) ∨
            r.1 ≠ none ∧ Critical h' ∧ There (w'.transfers.lookup a.transferId))
          (fun _ _ w' => Done (w'.transfers.lookup a.transferId))
          (a.attempt 0 step >>= a.goOn step rest completed) h w := by
        refine critical_attempt (R := There) hh (fun e => there_serve e _ hr)
          fun failed reply w' hr' => ?_
        cases failed with
        | none => exact ih hrest (hh.cons (hwrites 0) reply) hr'
        | some exc => exact .inr ⟨by simp,hh.cons (hwrites 0) reply,hr'⟩
      cases step with
      | transferCompleted => contradiction
      | _ => exact hattempt

theorem undo_leaves (c : SagaStep × Http × String) (hc : c ∈ a.compensations) :
    writesStatus (.http c.2.1) = false := by
  simp only [Saga.compensations,List.mem_cons,List.not_mem_nil,or_false] at hc
  rcases hc with rfl | rfl | rfl | rfl | rfl | rfl <;> rfl

theorem done_rollBack {completed : List SagaStep} :
    (a.rollBack completed).Calls (Leaves cfg a.transferId Done) (fun _ => True) :=
  rollBack_calls (fun c hc _ => compensation_leaves c hc) (done_patch rfl (by simp))
    fun _ => leaves_other (by simp [Call.writes])

theorem rollBack_ends {completed : List SagaStep} (hh : Critical h)
    (hr : There (w.transfers.lookup a.transferId)) :
    Handler.EndsIn cfg Unbroken a.transferId Done (a.rollBack completed) h w := by
  have hcompensate : (compensate completed a.compensations).Calls
      (fun q => writesStatus q = false) (fun _ => False) :=
    compensate_calls fun c hc _ => undo_leaves c hc
  refine Prog.always_bind.mpr ((hcompensate.always
    (J := fun h w => Critical h ∧ There (w.transfers.lookup a.transferId)) ?_ ⟨hh,hr⟩).mono ?_ ?_)
  · exact fun q hq h e w _ hJ => ⟨hJ.1.cons hq _,there_leaves q e w hJ.2⟩
  · rintro errors h w ⟨hh,hr⟩
    refine critical_patch hh (end_turns rfl rfl (by simp)) hr fun reply w' hd _ => ?_
    refine calls_endIn (Prog.calls_ite ?_ trivial) hd
    exact ⟨leaves_other (by simp [Call.writes]),fun _ => trivial⟩
  · exact fun exc h w hJ => hJ.1.elim

theorem executeSaga_ends (hh : Critical h) (hr : There (w.transfers.lookup a.transferId)) :
    Handler.EndsIn cfg Unbroken a.transferId Done (executeSaga a) h w := by
  refine Prog.always_bind.mpr ((forward_ends (by simp [sagaSteps]) hh hr).mono ?_
    fun _ _ _ hd => hd)
  rintro ⟨failed,completed⟩ h w hend
  cases failed with
  | none =>
    rcases hend with hd | ⟨hfailed,-⟩
    · exact hd
    · exact absurd rfl hfailed
  | some exc =>
    refine Prog.always_bind.mpr (Prog.Always.mono (?_ : Handler.EndsIn cfg Unbroken a.transferId
      Done (a.rollBack completed) h w) (fun _ _ _ hd => hd) (fun _ _ _ hd => hd))
    rcases hend with hd | ⟨-,hh,hr⟩
    · exact calls_endIn done_rollBack hd
    · exact rollBack_ends hh hr

theorem settle_ends (t : TicketRemaster.Transfer) (hh : Critical h)
    (hr : There (w.transfers.lookup a.transferId)) :
    Handler.EndsIn cfg Unbroken a.transferId Done (settle t a) h w := by
  have hreads : ∀ q, Call.Reads q → Leaves cfg a.transferId Done q :=
    leaves_reads done_outlivesExpiry
  have hreport : ∀ (settled : Bool) h w, Done (w.transfers.lookup a.transferId) →
      Handler.EndsIn cfg Unbroken a.transferId Done (if settled then reportSettled t a
        else pure (.error "INTERNAL_ERROR" "Transfer failed — no credits were charged." 500))
        h w := by
    intro settled h w hd
    cases settled with
    | false => exact hd
    | true => exact calls_endIn (reads_calls (reportSettled_reads t a) hreads) hd
  refine Prog.always_bind.mpr (Prog.always_handle.mpr (Prog.always_bind.mpr
    (Prog.always_bind.mpr ((executeSaga_ends hh hr).mono ?_ ?_))))
  · intro _ h w hd
    have hnotify : Handler.EndsIn cfg Unbroken a.transferId Done (do
        let payload ← buildTransferNotificationPayload "transfer_completed" {
          transferId := some a.transferId
          listingId := some a.listingId
          buyerId := some a.buyerId
          sellerId := some a.sellerId
          ticketId := a.ticketId
          status := some .completed }
        broadcastNotification (.transferUpdate payload)
        broadcastNotification (.ticketUpdate
          ⟨a.ticketId,a.buyerId,a.sellerId,a.transferId,payload.event⟩) : Handler Unit) h w := by
      refine calls_endIn (reads_calls ?_ hreads) hd
      refine reads_bind (buildTransferNotificationPayload_reads _ _) fun _ => ?_
      exact reads_bind (broadcastNotification_reads _) fun _ => broadcastNotification_reads _
    exact hnotify.mono (fun _ h w hd => hreport true h w hd) (fun _ h w hd => hreport false h w hd)
  · exact fun _ h w hd => hreport false h w hd

/-- What `confirm_seller` leaves: a saga to run, or a transfer that has failed. -/
def Confirmed (i : TransferId)
    (r : Except (Response SettledTransfer) (TicketRemaster.Transfer × Saga))
    (h : List (Entry Platform)) (w : World) : Prop :=
  match r with
  | .ok x => x.2.transferId = i ∧ Critical h ∧ There (w.transfers.lookup i)
  | .error _ => Done (w.transfers.lookup i)

theorem readBalances_ends {listing : Option Listing}
    {X : Unhandled → List (Entry Platform) → World → Prop} (hh : Critical h)
    (hr : There (w.transfers.lookup i)) (hseller : (w.credits.lookup u).isSome) :
    Handler.Always cfg Unbroken (Confirmed i) X (readBalances u i t listing) h w := by
  obtain ⟨b,hb⟩ := Option.isSome_iff_exists.mp hseller
  have hfail : Turns i { status := some .failed } There Done := end_turns rfl rfl (by simp)
  refine critical_look hh rfl (fun buyerCredit _ => ?_) (fun err _ => ?_)
  · have hh₁ : Critical (⟨.http (.getCredits t.buyerId),.ok buyerCredit⟩ :: h) := hh.cons rfl _
    simp only
    split
    · exact critical_patch hh₁ hfail hr fun _ _ hd _ => hd
    · refine critical_look hh₁ rfl (fun sellerCredit _ => ?_) (fun err herr => ?_)
      · exact ⟨rfl,hh₁.cons rfl _,hr⟩
      · obtain ⟨e,hs⟩ := herr
        simp [World.serve,World.getCredits,hb] at hs
  · exact critical_patch (hh.cons rfl _) hfail hr fun _ _ hd _ => hd

theorem confirmSeller_ends {X : Unhandled → List (Entry Platform) → World → Prop}
    (hh : Critical h) (hr : There (w.transfers.lookup i))
    (hseller : (w.credits.lookup u).isSome) :
    Handler.Always cfg Unbroken (Confirmed i) X (confirmSeller u i t) h w := by
  refine critical_patch hh marked_turns hr fun reply w₁ hr₁ hf₁ => Prog.always_bind.mpr ?_
  have hh₁ := hh.cons (q := .http (.patchTransfer i { sellerOtpVerified := some true })) rfl reply
  have hseller₁ : (w₁.credits.lookup u).isSome := by rwa [hf₁.credits (by simp)]
  refine critical_look hh₁ rfl (fun listing _ => ?_) (fun err _ => ?_)
  · exact readBalances_ends (hh₁.cons rfl _) hr₁ hseller₁
  · exact readBalances_ends (hh₁.cons rfl _) hr₁ hseller₁

theorem sellerVerify_inStep (otp : Option Nat) (hr : InStep s (w.transfers.lookup i))
    (hseller : (w.credits.lookup s).isSome) :
    Handler.EndsIn cfg Unbroken i (InStep s) (sellerVerify u i otp) [] w := by
  refine Prog.always_bind.mpr ?_
  cases otp with
  | none => exact hr
  | some otp =>
    refine readRow_always inStep_outlivesExpiry hr (fun _ _ _ hr => hr)
      (fun t w' ht hrow hframe => ?_) (fun _ _ hr => hr)
    by_cases hs : t.sellerId = s
    · have hend : InStep s (w'.transfers.lookup i) := by rwa [hrow]
      simp only
      split
      · exact hend
      · rename_i howner
        have hknown : (w'.credits.lookup u).isSome := by
          rwa [hframe.credits (by simp),← not_not.mp howner,hs]
        split
        · exact hend
        · split
          · exact hend
          · refine look_always rfl (fun seller => ?_) (fun _ => hend) (fun _ => hend)
            refine look_always rfl (fun verified => ?_) (fun _ => hend) (fun _ => hend)
            cases verified with
            | false => exact hend
            | true =>
              refine (confirmSeller_ends ⟨rfl,rfl⟩ ⟨t,hrow⟩ hknown).mono ?_ fun _ _ _ hx => hx
              intro r h w hconfirmed
              cases r with
              | error answer => exact hconfirmed.inStep
              | ok x =>
                obtain ⟨t,a⟩ := x
                obtain ⟨rfl,hh,hr⟩ := hconfirmed
                exact endsIn_mono (settle_ends t hh hr) fun _ hd => hd.inStep
    · exact Prog.always_bind.mp (otherSeller_endsIn _ ⟨t,hrow,hs⟩)

end Seller

section Requests

variable {cfg : SeatConfig} {E : List (Entry Platform) → Env → Prop} {w w₀ : World}
  {i : TransferId} {s u : UserId} {h : List (Entry Platform)}

theorem sellerAccept_inStep (hr : InStep s (w.transfers.lookup i)) :
    Handler.EndsIn cfg E i (InStep s) (sellerAccept u i) h w := by
  refine readRow_always inStep_outlivesExpiry hr (fun _ _ _ hr => hr) (fun t w' ht hrow _ => ?_)
    (fun _ _ hr => hr)
  by_cases hs : t.sellerId = s
  · have hend : InStep s (w'.transfers.lookup i) := by rwa [hrow]
    simp only
    split
    · exact hend
    · split
      · exact hend
      · rename_i hguard
        have hpending := not_not.mp hguard
        have hmatch := ht t rfl hs
        simp only [FlagsMatch,hpending] at hmatch
        have hunflagged : Unflagged (w'.transfers.lookup i) :=
          ⟨t,hrow,hmatch.1,hmatch.2,by simp [hpending]⟩
        have hreads : ∀ q, Call.Reads q → Leaves cfg i Unflagged q :=
          leaves_reads unflagged_outlivesExpiry
        refine endsIn_mono (calls_endIn ?_ hunflagged) fun _ hr => hr.inStep
        refine ask_calls (hreads _ (.inl rfl)) fun buyer => ?_
        cases buyer with
        | error code => trivial
        | ok buyer =>
          refine ask_calls (hreads _ (.inl rfl)) fun sid => ?_
          cases sid with
          | error code => trivial
          | ok sid =>
            refine ask_calls (leaves_patch unflagged_outlivesExpiry fun _ t ht =>
              unflagged_asked sid ht) fun _ => reads_calls ?_ hreads
            refine reads_bind (loadEnrichedTransfer_reads _ _) fun _ => ?_
            exact reads_bind (broadcastTransferNotification_reads _ _) fun _ => reads_ret _
  · exact otherSeller_endsIn _ ⟨t,hrow,hs⟩

theorem inStep_cancel : Leaves cfg i (InStep s)
    (.http (.patchTransfer i { status := some .cancelled })) := by
  refine leaves_patch inStep_outlivesExpiry fun _ t _ t' ht' _ => ?_
  cases ht'
  simp [FlagsMatch,World.setTransfer]

theorem inStep_resend {p : TransferPatch} (hstatus : p.status = none)
    (hbuyer : p.buyerOtpVerified = none) (hseller : p.sellerOtpVerified = none) :
    Leaves cfg i (InStep s) (.http (.patchTransfer i p)) := by
  refine leaves_patch inStep_outlivesExpiry fun _ t ht t' ht' hs => ?_
  cases ht'
  simpa [FlagsMatch,World.setTransfer,hstatus,hbuyer,hseller] using ht t rfl hs

/-- A turn without a failure in its critical part keeps the flags in step with the status. -/
theorem handler_inStep (req : Request) (hr : InStep s (w.transfers.lookup i))
    (huser : (w.users.lookup s).isSome) (hcredits : (w.credits.lookup s).isSome) :
    Handler.EndsIn cfg Unbroken i (InStep s) req.handler [] w := by
  have hreads : ∀ q, Call.Reads q → Leaves cfg i (InStep s) q := leaves_reads inStep_outlivesExpiry
  have hlisting : ∀ l status, Leaves cfg i (InStep s) (.http (.updateListing l status)) :=
    fun l status => leaves_other (by simp [Call.writes,Http.writes])
  have hticket : ∀ k p, Leaves cfg i (InStep s) (.http (.updateTicket k p)) :=
    fun k p => leaves_other (by simp [Call.writes,Http.writes])
  by_cases hreq : req.names = some i
  · cases req with
    | initiate u l => cases hreq
    | buyerVerify u j otp => cases hreq; exact endsIn_map (buyerVerify_inStep otp hr huser)
    | sellerAccept u j => cases hreq; exact endsIn_map (sellerAccept_inStep hr)
    | sellerReject u j =>
      cases hreq
      exact endsIn_map (calls_endIn (sellerReject_calls hreads inStep_cancel
        (fun _ => hlisting _ _) fun _ => hticket _ _) hr)
    | sellerVerify u j otp => cases hreq; exact endsIn_map (sellerVerify_inStep otp hr hcredits)
    | resendOtp u j =>
      cases hreq
      exact endsIn_map (calls_endIn (resendOtp_calls hreads
        (fun _ => inStep_resend rfl rfl rfl) fun _ => inStep_resend rfl rfl rfl) hr)
    | cancelTransfer u j =>
      cases hreq
      exact endsIn_map (calls_endIn (cancelTransfer_calls hreads inStep_cancel
        (fun _ => hlisting _ _) fun _ => hticket _ _) hr)
    | getTransfer u j =>
      exact endsIn_map (calls_endIn (reads_calls (getTransfer_reads u j) hreads) hr)
    | timeoutMessage j l =>
      exact endsIn_map (calls_endIn (onTimeoutMessage_allowed hreads (leaves_refused rfl)
        (hlisting _ _)) hr)
  · cases hn : req.names with
    | none =>
      cases req with
      | initiate u l =>
        refine endsIn_map (initiate_endsIn u l inStep_outlivesExpiry unflagged_outlivesExpiry
          ?_ ?_ (fun _ hr => hr.inStep) hr)
        · exact fun t hbuyer hseller hstatus _ => ⟨t,rfl,hbuyer,hseller,by simp [hstatus]⟩
        · exact fun sid t ht => unflagged_asked sid ht
      | _ => cases hn
    | some j =>
      exact calls_endIn (elsewhere_leaves inStep_outlivesExpiry hn fun hj => hreq (by rw [hn,hj]))
        hr

end Requests

section Runs

variable {cfg : SeatConfig} {w₀ : World} {i : TransferId} {t : TicketRemaster.Transfer}

/-- Without a failure in a critical part, every pending transfer awaits what its status says. -/
theorem unbroken_awaits {turns : List Turn} (h₀ : w₀.transfers = ∅) (ho : InOrder w₀)
    (hunbroken : ∀ x ∈ turns, ∀ h, Unbroken h (x.answers h))
    (ht : (serveAll cfg turns w₀).transfers.lookup i = some t)
    (hp : t.status = .pendingBuyerOtp ∨ t.status = .pendingSellerOtp) : Awaits t := by
  obtain ⟨r₀,hr₀,hseller⟩ := (serveAll_carried turns h₀).transfers i t ht
  have hcredits : (w₀.credits.lookup t.sellerId).isSome := by
    rw [← hseller]
    exact ho.seller _ _ hr₀
  have huser : (w₀.users.lookup t.sellerId).isSome := ho.account _ hcredits
  have hstart : InStep t.sellerId (w₀.transfers.lookup i) := by
    intro t' ht'
    rw [h₀] at ht'
    cases ht'
  have hrun : Carried w₀ (serveAll cfg turns w₀) ∧
      InStep t.sellerId ((serveAll cfg turns w₀).transfers.lookup i) := by
    refine serveAll_keeps (J := fun w => Carried w₀ w ∧ InStep t.sellerId (w.transfers.lookup i))
      (C := fun x => ∀ h, Unbroken h (x.answers h)) (fun x w hx hw => ⟨serve_carried x hw.1,?_⟩)
      turns hunbroken ⟨carried_start h₀,hstart⟩
    refine endsIn_serve (handler_inStep x.request hw.2 ?_ ?_) hx
    · rw [hw.1.accounts.users]
      exact huser
    · rw [hw.1.accounts.credits]
      exact hcredits
  exact (hrun.2 t ht rfl).awaits hp

/-- In a state reached by any requests, with any failures, a pending transfer whose buyer can pay
and whose listing is active can be completed in time if and only if its flags match its status, and
is a dead end otherwise. It can be completed as long as no call fails between the acceptance of an
OTP and the write of the new status. -/
theorem pending_completes_iff (cfg : SeatConfig) (w₀ : World) (turns : List Turn) (i : TransferId)
    (t : TicketRemaster.Transfer) (h₀ : w₀.transfers = ∅) (ho : InOrder w₀)
    (ht : (serveAll cfg turns w₀).transfers.lookup i = some t)
    (hp : t.status = .pendingBuyerOtp ∨ t.status = .pendingSellerOtp)
    (hfunds : ∃ b, (serveAll cfg turns w₀).credits.lookup t.buyerId = some b ∧
      t.creditAmount ≤ b)
    (hactive : ∃ l, (serveAll cfg turns w₀).listings.lookup t.listingId = some l ∧
      l.status = .active) :
    (CanComplete cfg (serveAll cfg turns w₀) i t ↔ Awaits t) ∧
      (¬ Awaits t → DeadEnd cfg (serveAll cfg turns w₀) i) ∧
      ((∀ x ∈ turns, ∀ h, Unbroken h (x.answers h)) →
        CanComplete cfg (serveAll cfg turns w₀) i t) := by
  have hsettle : Settleable (serveAll cfg turns w₀) t :=
    (serveAll_carried turns h₀).settleable ho ht hfunds hactive
  have hdead : ¬ Awaits t → DeadEnd cfg (serveAll cfg turns w₀) i :=
    fun hno => dead_deadEnd ht (dead_of_not_awaits hp hno)
  have hcompletes : Awaits t → CanComplete cfg (serveAll cfg turns w₀) i t :=
    fun hawaits => hawaits.canComplete ht hsettle
  refine ⟨⟨fun hc => ?_,hcompletes⟩,hdead,fun hunbroken => ?_⟩
  · by_contra hno
    exact (hdead hno).not_canComplete hc
  · exact hcompletes (unbroken_awaits h₀ ho hunbroken ht hp)

end Runs

section Unsent

/-- User 1 has listed ticket 5 as listing 6. -/
def listed : World := (Resale.serveCalm (.listTicket 1 (some 5) none) 6 Resale.freshWorld).state

/-- User 2 opens transfer 8 of it. -/
def opening : Turn := ⟨.initiate 2 (some 6),Resale.calm 8⟩

theorem listed_inOrder : InOrder listed := by
  have haccounts : ∀ x ∈ listed.credits.entries, (listed.users.lookup x.1).isSome := by
    decide +kernel
  have hlistings : ∀ x ∈ listed.listings.entries, (listed.credits.lookup x.2.sellerId).isSome ∧
      (listed.tickets.lookup x.2.ticketId).isSome := by
    decide +kernel
  refine ⟨fun u hu => ?_,fun l r hr => ?_,fun l r hr => ?_⟩
  · obtain ⟨b,hb⟩ := Option.isSome_iff_exists.mp hu
    exact haccounts ⟨u,b⟩ (List.of_mem_dlookup hb)
  · exact (hlistings ⟨l,r⟩ (List.of_mem_dlookup hr)).1
  · exact (hlistings ⟨l,r⟩ (List.of_mem_dlookup hr)).2

theorem pending_completes_iff_opened :
    CanComplete ⟨3,3,false⟩ (serveAll ⟨3,3,false⟩ [opening] listed) 8 pendingTransfer :=
  (pending_completes_iff ⟨3,3,false⟩ listed [opening] 8 pendingTransfer rfl listed_inOrder
    (by decide +kernel) (.inl rfl) ⟨100,by decide +kernel,by decide +kernel⟩
    ⟨⟨5,1,30,.active,0⟩,by decide +kernel,rfl⟩).1.mpr (.inl ⟨rfl,rfl,rfl⟩)

/-- The SMS gateway fails once the seller has been looked up. -/
def gatewayDown (h : List (Entry Platform)) : Env where
  time := 0
  uuid := 9
  hex := 9
  redisUp := true
  otpVerified := true
  fault := match h with
    | ⟨.http (.getUser 1),_⟩ :: _ => some ⟨false,some "SERVICE_UNAVAILABLE"⟩
    | _ => none

/-- The buyer's OTP is right, but the seller gets none. -/
def otpUnsent : World :=
  serveAll ⟨3,3,false⟩ [opening,⟨.buyerVerify 2 8 (some 5),gatewayDown⟩] listed

/-- The buyer is marked as verified, and their OTP is still awaited. -/
def markedTransfer : TicketRemaster.Transfer := { pendingTransfer with buyerOtpVerified := true }

theorem interrupted_verification_dead_end : listed.transfers = ∅ ∧ InOrder listed ∧
    otpUnsent.transfers.lookup 8 = some markedTransfer ∧
    markedTransfer.status = .pendingBuyerOtp ∧ World.isTransferExpired markedTransfer 0 = false ∧
    otpUnsent.credits.lookup 2 = some 100 ∧ markedTransfer.creditAmount = 30 ∧
    otpUnsent.listings.lookup 6 = some ⟨5,1,30,.active,0⟩ ∧
    ¬ CanComplete ⟨3,3,false⟩ otpUnsent 8 markedTransfer ∧ DeadEnd ⟨3,3,false⟩ otpUnsent 8 := by
  have hrow : otpUnsent.transfers.lookup 8 = some markedTransfer := by decide +kernel
  have hdead : DeadEnd ⟨3,3,false⟩ otpUnsent 8 := dead_deadEnd hrow (.buyerVerified rfl rfl)
  exact ⟨rfl,listed_inOrder,hrow,rfl,by decide +kernel,by decide +kernel,rfl,by decide +kernel,
    hdead.not_canComplete,hdead⟩

end Unsent

end TicketRemaster.Transfer
