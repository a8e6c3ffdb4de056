import TicketRemaster.Resale.Consistency
import TicketRemaster.Verification.Calls
set_option autoImplicit false

/-! For whom the code was made that a scan accepts. A code stays on its ticket when the ticket
changes hands, and is then accepted for the new owner until it is too old. -/

namespace TicketRemaster.Resale

open Resumption SeatInventory Transfer Verification Relation

/-- The user whose code it is: the one in the hashed data, or for a code made with a ticket the
user it was issued to. -/
def generatedFor (first : Nat → UserId) : QrHash → UserId
  | .uuidHex n => first n
  | .sha256 _ userId _ _ _ => userId

/-- The code on the ticket is too old to be accepted. -/
def codeExpired (qrTtl now : Time) (t : Ticket) : Bool :=
  t.qrTimestamp.any (fun ts => qrTtl < now-ts)

/-- Every code is made for the owner of its ticket, or too old. -/
def CodesOwned (first : Nat → UserId) (qrTtl now : Time) (w : World) : Prop :=
  ∀ i t h, w.tickets.lookup i = some t → t.qrHash = some h →
    generatedFor first h = t.ownerId ∨ codeExpired qrTtl now t

structure SameCode (t t' : Ticket) : Prop where
  hash : t'.qrHash = t.qrHash
  timestamp : t'.qrTimestamp = t.qrTimestamp

/-- A new code for the owner that the ticket has and keeps. -/
def Recoded (i : TicketId) (t t' : Ticket) : Prop :=
  t'.ownerId = t.ownerId ∧
    ∃ eventId venueId now, t'.qrHash = some (.sha256 i t.ownerId eventId venueId now)

/-- Every ticket was there before, and its code has become what `R` allows. -/
def CodesChange (R : TicketId → Ticket → Ticket → Prop) (w w' : World) : Prop :=
  ∀ i t', w'.tickets.lookup i = some t' → ∃ t, w.tickets.lookup i = some t ∧ R i t t'

/-- The calls that write no code. -/
def KeepsCodes : Call → Prop
  | .http (.createTicket _) => False
  | .http (.updateTicket _ p) => p.qrHash = none ∧ p.qrTimestamp = none
  | _ => True

section Calls

variable {cfg : SeatConfig} {e : Env} {w₀ w : World} {α : Type}

theorem codesStay_refl (w : World) : CodesChange (fun _ => SameCode) w w :=
  fun _ t' ht' => ⟨t',ht',rfl,rfl⟩

theorem codesStay_perform {q : Call} (hq : KeepsCodes q)
    (h : CodesChange (fun _ => SameCode) w₀ w) :
    CodesChange (fun _ => SameCode) w₀ (World.perform cfg e w q).2 := by
  by_cases hw : q.writes = some .tickets
  · cases q with
    | http q =>
      rcases World.perform_http_cases cfg e w q with hkeep | hserve
      · rwa [hkeep]
      · rw [hserve]
        cases q with
        | createTicket data => exact hq.elim
        | updateTicket j p =>
          rcases World.serve_updateTicket_cases (w := w) e j p with hkeep | ⟨i,t,-,ht,hw'⟩
          · rwa [hkeep]
          · intro k t' hk
            rw [hw'] at hk
            rcases Table.lookup_insert_cases hk with ⟨rfl,rfl⟩ | ⟨-,hold⟩
            · obtain ⟨t₀,ht₀,hsame⟩ := h k t ht
              refine ⟨t₀,ht₀,?_,?_⟩
              · simpa [World.patchTicket,hq.1] using hsame.hash
              · simpa [World.patchTicket,hq.2] using hsame.timestamp
            · exact h k t' hold
        | _ => simp [Call.writes,Http.writes] at hw
    | _ => simp [Call.writes] at hw
  · intro k t' hk
    rw [(World.perform_frame q).tickets hw] at hk
    exact h k t' hk

/-- A handler that writes no code leaves all codes where they are. -/
theorem codesStay_always {E : List (Entry Platform) → Env → Prop} {p : Handler α}
    {h : List (Entry Platform)} (hp : p.Calls KeepsCodes (fun _ => True)) :
    Handler.Always cfg E (fun _ _ w' => CodesChange (fun _ => SameCode) w w')
      (fun _ _ w' => CodesChange (fun _ => SameCode) w w') p h w :=
  (hp.always (J := fun _ w' => CodesChange (fun _ => SameCode) w w')
    (fun _ hq _ _ _ _ hJ => codesStay_perform hq hJ) (codesStay_refl w)).mono
    (fun _ _ _ hJ => hJ) (fun _ _ _ hJ => hJ.2)

theorem keepsCodes_reads (q : Call) (hq : q.Reads) : KeepsCodes q := by
  rcases hq with hq | ⟨i,rfl⟩
  · cases q with
    | http q => cases q <;> trivial
    | _ => trivial
  · trivial

theorem listTicket_calls {P : Call → Prop} {u : UserId} {ticketId : Option TicketId}
    {price : Option Credits} (hr : ∀ q, Call.Reads q → P q)
    (hticket : ∀ j s, P (.http (.updateTicket j { status := some s })))
    (hcreate : ∀ d, P (.http (.createListing d))) :
    (Marketplace.listTicket u ticketId price).Calls P (fun _ => True) := by
  cases ticketId with
  | none => trivial
  | some i =>
    refine ask_calls (hr _ (.inl rfl)) fun ticket => ?_
    cases ticket with
    | error code => simp only; split <;> trivial
    | ok ticket =>
      simp only
      split
      · trivial
      · split
        · trivial
        · refine ask_calls (hticket _ _) fun answer => ?_
          cases answer with
          | error code => trivial
          | ok _ =>
            refine ask_calls (hcreate _) fun listing => ?_
            cases listing with
            | error code => exact ask_calls (hticket _ _) fun _ => trivial
            | ok listing => trivial

theorem delist_calls {P : Call → Prop} {u : UserId} {l : ListingId}
    (hr : ∀ q, Call.Reads q → P q) (hlisting : ∀ s, P (.http (.updateListing l s)))
    (hticket : ∀ j s, P (.http (.updateTicket j { status := some s }))) :
    (Marketplace.delist u l).Calls P (fun _ => True) := by
  refine ask_calls (hr _ (.inl rfl)) fun listing => ?_
  cases listing with
  | error code => simp only; split <;> trivial
  | ok listing =>
    simp only
    split
    · trivial
    · split
      · trivial
      · refine ask_calls (hlisting _) fun answer => ?_
        cases answer with
        | error code => trivial
        | ok _ => exact ask_calls (hticket _ _) fun _ => trivial

theorem request_codesStay {v : VerifyConfig} {req : Request}
    (hreq : ∀ u i, req ≠ .getQr u i) : (req.handler v).Calls KeepsCodes (fun _ => True) := by
  have hr := keepsCodes_reads
  cases req with
  | initiate u l =>
    exact Prog.calls_bind (initiate_calls hr (fun _ => trivial) fun _ _ => trivial)
      fun _ => trivial
  | buyerVerify u i otp =>
    exact Prog.calls_bind (buyerVerify_calls hr trivial fun _ => trivial) fun _ => trivial
  | sellerAccept u i =>
    exact Prog.calls_bind (sellerAccept_calls hr fun _ => trivial) fun _ => trivial
  | sellerReject u i =>
    exact Prog.calls_bind (sellerReject_calls hr trivial (fun _ => trivial) fun _ => ⟨rfl,rfl⟩)
      fun _ => trivial
  | sellerVerify u i otp =>
    refine Prog.calls_bind (sellerVerify_calls hr trivial trivial (fun a _ now step => ?_)
      fun a c hc => ?_) fun _ => trivial
    · cases step
      case ticketTransferred => exact ⟨rfl,rfl⟩
      all_goals trivial
    · simp only [Saga.compensations,List.mem_cons,List.not_mem_nil,or_false] at hc
      rcases hc with rfl | rfl | rfl | rfl | rfl | rfl
      case inr.inl => exact ⟨rfl,rfl⟩
      all_goals trivial
  | resendOtp u i =>
    exact Prog.calls_bind (resendOtp_calls hr (fun _ => trivial) fun _ => trivial) fun _ => trivial
  | cancelTransfer u i =>
    exact Prog.calls_bind (cancelTransfer_calls hr trivial (fun _ => trivial) fun _ => ⟨rfl,rfl⟩)
      fun _ => trivial
  | listTicket u ticketId price =>
    exact Prog.calls_bind (listTicket_calls hr (fun _ _ => ⟨rfl,rfl⟩) fun _ => trivial)
      fun _ => trivial
  | delist u l =>
    exact Prog.calls_bind (delist_calls hr (fun _ => trivial) fun _ _ => ⟨rfl,rfl⟩)
      fun _ => trivial
  | scan staff qrHash =>
    exact Prog.calls_bind (scan_calls hr (fun _ => trivial) (fun _ => ⟨rfl,rfl⟩)
      (fun _ _ _ => trivial) fun _ _ => trivial) fun _ => trivial
  | manualVerify staff ticketId =>
    exact Prog.calls_bind (manualVerify_calls hr (fun _ => trivial) fun _ => ⟨rfl,rfl⟩)
      fun _ => trivial
  | getQr u i => exact absurd rfl (hreq u i)

end Calls

/-- What a complete request does to a ticket's code. -/
def Follows (i : TicketId) (t t' : Ticket) : Prop := SameCode t t' ∨ Recoded i t t'

section Requests

variable {cfg : SeatConfig} {v : VerifyConfig} {w w₁ w' : World} {h : List (Entry Platform)}

theorem CodesChange.follows (hs : CodesChange (fun _ => SameCode) w w') :
    CodesChange Follows w w' := by
  intro i t' ht'
  obtain ⟨t,ht,hsame⟩ := hs i t' ht'
  exact ⟨t,ht,.inl hsame⟩

/-- The patch of `get_qr` puts a code for the owner on the ticket. -/
theorem getQr_patch (e : Env) (now : Time) {u : UserId} {i : TicketId} {t : Ticket}
    (ht : w.tickets.lookup i = some t) (hu : t.ownerId = u) :
    CodesChange Follows w (w.serve e (.updateTicket (some i) {
      qrHash := some (.sha256 i u t.eventId t.venueId now), qrTimestamp := some now })).2 := by
  rcases World.serve_updateTicket_cases e (some i) {
    qrHash := some (.sha256 i u t.eventId t.venueId now), qrTimestamp := some now }
    with hw | ⟨j,t₁,hj,ht₁,hw⟩
  · rw [hw]
    exact (codesStay_refl w).follows
  · cases hj
    obtain rfl : t₁ = t := Option.some.inj (ht₁.symm.trans ht)
    intro k t' hk
    rw [hw] at hk
    rcases Table.lookup_insert_cases hk with ⟨rfl,rfl⟩ | ⟨-,hold⟩
    · exact ⟨t₁,ht,.inr ⟨rfl,t₁.eventId,t₁.venueId,now,by rw [hu]; rfl⟩⟩
    · exact ⟨t',hold,.inl ⟨rfl,rfl⟩⟩

theorem getQr_follows (u : UserId) (i : TicketId) :
    Handler.Always cfg Healthy (fun _ _ w' => CodesChange Follows w w')
      (fun _ _ w' => CodesChange Follows w w') (getQr v.qrTtl u i) h w := by
  have hkeep : ∀ {α : Type} {a : α} {h}, Handler.Always cfg Healthy
      (fun _ _ w' => CodesChange Follows w w') (fun _ _ w' => CodesChange Follows w w')
      (pure a : Handler α) h w := (codesStay_refl w).follows
  refine getTicket_always (fun _ => hkeep) (fun t ht => ?_)
  simp only
  split
  · exact hkeep
  · rename_i howner
    split
    · exact hkeep
    · refine datetimeNow_always fun e₀ _ => ?_
      have hpatch := fun e => getQr_patch e e₀.time ht (not_not.mp howner)
      refine healthy_always (fun e a w₁ he hs => ?_) (fun e err w₁ he hs => ?_)
      · have hw₁ := hpatch e
        rw [hs] at hw₁
        exact safeGet_always rfl fun event _ => safeGet_always rfl fun venue _ => hw₁
      · have hw₁ := hpatch e
        rw [hs] at hw₁
        exact hw₁

theorem request_follows (req : Request) {ω : List (Entry Platform) → Env}
    (hω : ∀ h, Healthy h (ω h)) : CodesChange Follows w (req.run cfg v ω w).state := by
  have hrun : Handler.Always cfg Healthy (fun _ _ w' => CodesChange Follows w w')
      (fun _ _ w' => CodesChange Follows w w') (req.handler v) [] w := by
    by_cases hreq : ∃ u i, req = .getQr u i
    · obtain ⟨u,i,rfl⟩ := hreq
      exact Prog.always_bind.mpr (getQr_follows u i)
    · refine (codesStay_always (request_codesStay fun u i heq => hreq ⟨u,i,heq⟩)).mono ?_ ?_ <;>
        exact fun _ _ _ hs => hs.follows
  have hmeets := hrun.exec ω hω
  cases hr : (req.run cfg v ω w).result with
  | ok r => exact hmeets.ok hr
  | error exc => exact hmeets.error hr

/-- One complete, healthy request after another, with a clock that does not run backwards; the
condition sees the states before and after the request, and the time at its end. -/
inductive ServesAt (cfg : SeatConfig) (v : VerifyConfig) (C : World → Time → World → Prop)
    (s : Time × World) : Time × World → Prop where
  | request (req : Request) (ω : List (Entry Platform) → Env) (now : Time)
      (hω : ∀ h, Healthy h (ω h)) (hfrom : ∀ h, s.1 ≤ (ω h).time) (hto : ∀ h, (ω h).time ≤ now)
      (hC : C s.2 now (req.run cfg v ω s.2).state) :
      ServesAt cfg v C s (now,(req.run cfg v ω s.2).state)

/-- A ticket changes hands only when its code is too old by then. -/
def HandsOverExpired (v : VerifyConfig) (w : World) (now : Time) (w' : World) : Prop :=
  ∀ i t t', w.tickets.lookup i = some t → w'.tickets.lookup i = some t' →
    t'.ownerId ≠ t.ownerId → codeExpired v.qrTtl now t

theorem codeExpired_later {qrTtl now now' : Time} {t : Ticket} (hn : now ≤ now')
    (h : codeExpired qrTtl now t) : codeExpired qrTtl now' t := by
  unfold codeExpired at h ⊢
  cases hts : t.qrTimestamp with
  | none => rw [hts] at h; cases h
  | some ts =>
    rw [hts,Option.any_some,decide_eq_true_eq] at h
    rw [Option.any_some,decide_eq_true_eq]
    exact h.trans_le (sub_le_sub_right hn ts)

theorem CodesOwned.step {first : Nat → UserId} {s s' : Time × World}
    (hc : CodesOwned first v.qrTtl s.1 s.2) (hs : ServesAt cfg v (HandsOverExpired v) s s') :
    CodesOwned first v.qrTtl s'.1 s'.2 := by
  cases hs with
  | request req ω now hω hfrom hto hC =>
    have hnow : s.1 ≤ now := (hfrom []).trans (hto [])
    intro i t' h ht' hh
    obtain ⟨t,ht,hsame | ⟨howner,eventId,venueId,at',hnew⟩⟩ := request_follows req hω i t' ht'
    · have hexpired : codeExpired v.qrTtl now t → codeExpired v.qrTtl now t' := by
        unfold codeExpired
        rw [hsame.timestamp]
        exact id
      rcases hc i t h ht (hsame.hash.symm.trans hh) with howned | hold
      · by_cases howner : t'.ownerId = t.ownerId
        · exact .inl (howned.trans howner.symm)
        · exact .inr (hexpired (hC i t t' ht ht' howner))
      · exact .inr (hexpired (codeExpired_later hnow hold))
    · rw [hnew] at hh
      cases hh
      exact .inl howner.symm

/-- What a successful scan of a code has found. -/
def Accepted (qrTtl now : Time) (w : World) (h : QrHash) (verdict : Verdict) : Prop :=
  ∀ c, verdict = .success c → ∃ t, w.tickets.lookup c.ticketId = some t ∧ t.qrHash = some h ∧
    codeExpired qrTtl now t = false ∧ c.ownerId = t.ownerId

/-- A healthy call, not before the instant. -/
def HealthyFrom (now : Time) (_ : List (Entry Platform)) (e : Env) : Prop :=
  e.fault = none ∧ now ≤ e.time

/-- What the check of the age says: that the code is not too old, or a refusal. -/
def Aged (qrTtl now : Time) (t : Ticket) (refusal : Option Verdict) : Prop :=
  (refusal = none → codeExpired qrTtl now t = false) ∧ ∀ c, refusal ≠ some (.success c)

theorem refusal_aged {qrTtl now : Time} {t : Ticket} {staff : Staff} {i : TicketId}
    {s : LogStatus} {code message : String} {status : Nat} :
    (do log staff i s; pure (some (refuse code message status)) :
      Handler (Option Verdict)).Returns (Aged qrTtl now t) :=
  Prog.returns_bind fun _ => ⟨fun hnone => (by cases hnone),fun c hc => (by cases hc)⟩

theorem checkQrTimestamp_always {now : Time} {staff : Staff} {i : TicketId} {t : Ticket} :
    Handler.Always cfg (HealthyFrom now) (fun refusal _ _ => Aged v.qrTtl now t refusal)
      (fun _ _ _ => True) (checkQrTimestamp v staff i t.qrTimestamp) h w := by
  unfold checkQrTimestamp
  cases hts : t.qrTimestamp with
  | none => exact ⟨fun _ => by simp [codeExpired,hts],fun c hc => by cases hc⟩
  | some ts =>
    refine datetimeNow_always fun e₁ he₁ => ?_
    split
    · exact refusal_aged.always
    · refine datetimeNow_always fun e₂ he₂ => ?_
      split
      · exact refusal_aged.always
      · rename_i hyoung
        refine ⟨fun _ => ?_,fun c hc => by cases hc⟩
        rw [codeExpired,hts,Option.any_some,decide_eq_false_iff_not]
        exact fun hold => hyoung (hold.trans_le (sub_le_sub_right he₂.2 ts))

theorem scan_accepted (cfg : SeatConfig) (v : VerifyConfig) (w : World) {now : Time}
    (staff : Staff) (qrHash : QrHash) :
    Handler.Always cfg (HealthyFrom now) (fun verdict _ _ => Accepted v.qrTtl now w qrHash verdict)
      (fun _ _ _ => True) (scan v staff (some qrHash)) h w := by
  refine served_always (fun _ he => he.1) (fun e r w₁ he hs => ?_)
    (fun e err w₁ he hs c hc => by cases hc)
  obtain ⟨hrow,hhash⟩ : w.tickets.lookup r.1 = some r.2 ∧ r.2.qrHash = some qrHash := by
    simp only [World.serve,World.getTicketByQrHash,World.found] at hs
    split at hs
    · rename_i hfind
      cases hs
      obtain ⟨entry,hentry,rfl⟩ := Option.map_eq_some_iff.mp hfind
      have hmatch := List.find?_some hentry
      exact ⟨Table.findRow_lookup hfind,by simpa using hmatch⟩
    · cases hs
  refine Prog.always_bind.mpr ((Prog.always_true _).mono (fun token h' w' _ => ?_)
    (fun _ _ _ _ => trivial))
  cases token with
  | none => exact fun c hc => by cases hc
  | some token =>
    have hlocked : Handler.Always cfg (HealthyFrom now)
        (fun verdict _ _ => Accepted v.qrTtl now w qrHash verdict) (fun _ _ _ => True)
        (scanLocked v staff r.1 r.2) h' w' := by
      refine Prog.always_bind.mpr (checkQrTimestamp_always.mono (fun refusal h'' w'' hq => ?_)
        (fun _ _ _ hx => hx))
      cases refusal with
      | some refusal => exact fun c hc => absurd (congrArg some hc) (hq.2 c)
      | none =>
        have hchecked : (checkTicket staff r.1 r.2).Returns (Names r.1 r.2) := checkTicket_names
        refine hchecked.always.mono (fun verdict _ _ hnames c hc => ?_) (fun _ _ _ hx => hx)
        obtain ⟨hi,hu⟩ := hnames c hc
        rw [hi]
        exact ⟨r.2,hrow,hhash,hq.1 rfl,hu⟩
    refine Prog.always_ensuring.mpr (hlocked.mono (fun verdict h'' w'' hv => ?_)
      (fun _ _ _ _ => (Prog.always_true _).mono (fun _ _ _ _ => trivial) (fun _ _ _ _ => trivial)))
    exact (Prog.always_true _).mono (fun _ _ _ _ => hv) (fun _ _ _ _ => trivial)

end Requests

/-- As long as tickets change hands only with a code that is too old, a scan that succeeds has
been given a code made for the owner of the ticket, whom the answer names. -/
theorem scanned_code_is_owners (cfg : SeatConfig) (v : VerifyConfig) (first : Nat → UserId)
    (now₀ now : Time) (w₀ w : World) (h₀ : ∀ i t h, w₀.tickets.lookup i = some t →
      t.qrHash = some h → generatedFor first h = t.ownerId)
    (hrun : ReflTransGen (ServesAt cfg v (HandsOverExpired v)) (now₀,w₀) (now,w)) (staff : Staff)
    (qrHash : QrHash) (ω : List (Entry Platform) → Env) (hω : ∀ h, Healthy h (ω h))
    (hnow : ∀ h, now ≤ (ω h).time) (c : CheckedIn)
    (hc : ((scan v staff (some qrHash)).exec (World.server cfg Unit) () ω [] w).result =
      .ok (.success c)) :
    ∃ t, w.tickets.lookup c.ticketId = some t ∧ generatedFor first qrHash = t.ownerId ∧
      c.ownerId = t.ownerId := by
  have howned : CodesOwned first v.qrTtl now w := by
    have hstart : CodesOwned first v.qrTtl now₀ w₀ := fun i t h ht hh => .inl (h₀ i t h ht hh)
    suffices hall : ∀ s, ReflTransGen (ServesAt cfg v (HandsOverExpired v)) (now₀,w₀) s →
        CodesOwned first v.qrTtl s.1 s.2 from hall _ hrun
    intro s hs
    induction hs with
    | refl => exact hstart
    | tail _ hstep ih => exact ih.step hstep
  have haccepted := (scan_accepted (h := []) cfg v w staff qrHash).exec ω
    (fun h => ⟨hω h,hnow h⟩)
  obtain ⟨t,ht,hh,hyoung,hu⟩ := haccepted.ok hc c rfl
  rcases howned _ t qrHash ht hh with hfor | hold
  · exact ⟨t,ht,hfor,hu⟩
  · rw [hyoung] at hold
    cases hold

section Resold

/-- Everything is healthy, at the given time, and the next row gets this id. -/
def calmAt (now : Time) (id : Nat) (h : List (Entry Platform)) : Env :=
  { calm id h with time := now }

def servedAt (req : Request) (now : Time) (id : Nat) (w : World) : World :=
  (req.run ⟨3,3,false⟩ ⟨seconds 60,seconds 300,seconds 5,3⟩ (calmAt now id) w).state

def ReachesAt (C : World → Time → World → Prop) : Time × World → Time × World → Prop :=
  ReflTransGen (ServesAt ⟨3,3,false⟩ ⟨seconds 60,seconds 300,seconds 5,3⟩ C)

theorem ReachesAt.serve {C : World → Time → World → Prop} {s : Time × World} {now : Time}
    {w : World} (h : ReachesAt C s (now,w)) (req : Request) (now' : Time) (id : Nat)
    (hn : now ≤ now') (hC : C w now' (servedAt req now' id w)) :
    ReachesAt C s (now',servedAt req now' id w) :=
  h.tail (.request req (calmAt now' id) now' (fun _ => rfl) (fun _ => hn) (fun _ => le_refl _) hC)

theorem handsOverExpired_entries {v : VerifyConfig} {w w' : World} {now : Time}
    (hall : ∀ e ∈ w.tickets.entries, ∀ e' ∈ w'.tickets.entries, e.1 = e'.1 →
      e'.2.ownerId ≠ e.2.ownerId → codeExpired v.qrTtl now e.2) :
    HandsOverExpired v w now w' := fun i t t' ht ht' howner =>
  hall ⟨i,t⟩ (AList.mem_lookup_iff.mp ht) ⟨i,t'⟩ (AList.mem_lookup_iff.mp ht') rfl howner

/-- User 1 asks for the code of the ticket at time 0. -/
def coded : World := servedAt (.getQr 1 5) 0 0 freshWorld

/-- User 1 lists the ticket as listing 6, and user 2 opens transfer 8 of it. -/
def onSaleAt (now : Time) : World :=
  servedAt (.initiate 2 (some 6)) now 8 (servedAt (.listTicket 1 (some 5) none) now 6 coded)

/-- Both users confirm, and the ticket is handed over. -/
def resoldAt (now : Time) : World :=
  servedAt (.sellerVerify 1 8 (some 0)) now 0
    (servedAt (.buyerVerify 2 8 (some 0)) now 20 (onSaleAt now))

def scanAt (now : Time) (qrHash : QrHash) (w : World) : Except Unhandled Verdict :=
  ((scan ⟨seconds 60,seconds 300,seconds 5,3⟩ staff (some qrHash)).exec
    (World.server ⟨3,3,false⟩ Unit) () (calmAt now 0) [] w).result

theorem resold_reaches {C : World → Time → World → Prop} {now : Time} (hn : 0 ≤ now)
    (h₁ : C freshWorld 0 coded)
    (h₂ : C coded now (servedAt (.listTicket 1 (some 5) none) now 6 coded))
    (h₃ : C (servedAt (.listTicket 1 (some 5) none) now 6 coded) now (onSaleAt now))
    (h₄ : C (onSaleAt now) now (servedAt (.buyerVerify 2 8 (some 0)) now 20 (onSaleAt now)))
    (h₅ : C (servedAt (.buyerVerify 2 8 (some 0)) now 20 (onSaleAt now)) now (resoldAt now)) :
    ReachesAt C (0,freshWorld) (now,resoldAt now) :=
  ((((ReachesAt.serve .refl (.getQr 1 5) 0 0 (le_refl _) h₁).serve _ _ _ hn h₂).serve _ _ _
    (le_refl _) h₃).serve _ _ _ (le_refl _) h₄).serve _ _ _ (le_refl _) h₅

/-- The ticket is sold when its first code is too old, and user 2 asks for a new one. -/
theorem scanned_code_is_owners_renewed : ∃ t,
    (servedAt (.getQr 2 5) (seconds 100) 0 (resoldAt (seconds 100))).tickets.lookup 5 = some t ∧
      generatedFor (fun _ => 0) (.sha256 5 2 1 1 (seconds 100)) = t.ownerId ∧ 2 = t.ownerId := by
  have hrun : ReachesAt (HandsOverExpired ⟨seconds 60,seconds 300,seconds 5,3⟩) (0,freshWorld)
      (seconds 100,servedAt (.getQr 2 5) (seconds 100) 0 (resoldAt (seconds 100))) := by
    refine ReachesAt.serve (resold_reaches (by decide) ?_ ?_ ?_ ?_ ?_) (.getQr 2 5) _ _
      (le_refl _) ?_
    all_goals exact handsOverExpired_entries (by decide +kernel)
  exact scanned_code_is_owners ⟨3,3,false⟩ ⟨seconds 60,seconds 300,seconds 5,3⟩ (fun _ => 0) 0
    (seconds 100) freshWorld _
    (fun i t h ht hh => by
      have hnone : ∀ e ∈ freshWorld.tickets.entries, e.2.qrHash = none := by decide
      cases (hnone ⟨i,t⟩ (AList.mem_lookup_iff.mp ht)).symm.trans hh)
    hrun staff _ (calmAt (seconds 100) 0) (fun _ => rfl) (fun _ => le_refl _)
    ⟨5,seconds 100,"Concert",0,1,2⟩ (by decide +kernel)

/-- The code of user 1 lets in the ticket of user 2. -/
theorem old_code_admits_new_owner :
    ReachesAt (fun _ _ _ => True) (0,freshWorld) (seconds 1,resoldAt (seconds 1)) ∧
      scanAt (seconds 1) (.sha256 5 1 1 1 0) (resoldAt (seconds 1)) =
        .ok (.success ⟨5,seconds 1,"Concert",0,1,2⟩) ∧
      ((resoldAt (seconds 1)).tickets.lookup 5).map (·.ownerId) = some 2 ∧
      ∀ first, generatedFor first (.sha256 5 1 1 1 0) ≠ 2 :=
  ⟨resold_reaches (by decide) trivial trivial trivial trivial trivial,by decide +kernel,
    by decide +kernel,fun _ => show (1 : UserId) ≠ 2 by decide⟩

end Resold

end TicketRemaster.Resale
