import TicketRemaster.Verification.Calls
import TicketRemaster.Verification.Exclusion
import TicketRemaster.Verification.Qr
set_option autoImplicit false

/-! What a scan that succeeds tells about the code it was given: that it was the last one persisted
for its ticket, and how old it was. Scans, requests for codes and creations of tickets run side by
side. -/

namespace TicketRemaster.Verification

open Resumption SeatInventory

inductive CodeRequest where
  | scan (staff : Staff) (qrHash : Option QrHash)
  | getQr (qrTtl : Time) (userId : UserId) (ticketId : TicketId)
  | create (data : NewTicket)
  deriving DecidableEq

/-- The verdict of a scan; the other requests have none. -/
def CodeRequest.handler (v : VerifyConfig) : CodeRequest → Handler (Option Verdict)
  | .scan staff qrHash => some <$> Verification.scan v staff qrHash
  | .getQr qrTtl userId ticketId => (fun _ => none) <$> Verification.getQr qrTtl userId ticketId
  | .create data => (fun _ => none) <$> callService (.createTicket data)

section Persisted

variable {ι : Type}

def code (ticket : Ticket) : Option (QrHash × Option Time) :=
  ticket.qrHash.map (·,ticket.qrTimestamp)

/-- The code that a step persists for the ticket: that of a new ticket, or of an update that has
taken effect. -/
def persists (i : TicketId) (m : Moved Platform ι World) : Option (QrHash × Option Time) :=
  match m.op with
  | .http (.createTicket _) =>
      if m.before.tickets.lookup i = none then (m.after.tickets.lookup i).bind code else none
  | .http (.updateTicket j data) =>
      if j = some i ∧
          m.after.tickets.lookup i = (m.before.tickets.lookup i).map (World.patchTicket data) then
        data.qrHash.map (·,data.qrTimestamp)
      else none
  | _ => none

def lastPersisted (w₀ : World) (i : TicketId) :
    List (Moved Platform ι World) → Option (QrHash × Option Time)
  | [] => (w₀.tickets.lookup i).bind code
  | m :: log => (persists i m).or (lastPersisted w₀ i log)

/-- No hash is without its timestamp. -/
def Stamped (w : World) : Prop :=
  ∀ i t, w.tickets.lookup i = some t → t.qrHash.isSome → t.qrTimestamp.isSome

/-- The tickets hold the codes that were persisted last. -/
structure Holds (w₀ : World) (s : Logged Platform ι World) : Prop where
  stamped : Stamped s.state
  last : ∀ i t, s.state.tickets.lookup i = some t → code t = lastPersisted w₀ i s.log

/-- A hash and its timestamp are written together. -/
def WritesTogether : Call → Prop
  | .http (.updateTicket _ data) => data.qrHash.isSome = data.qrTimestamp.isSome
  | _ => True

variable {cfg : SeatConfig} {e : Env} {w₀ w : World} {s : Logged Platform ι World} {k : ι}
  {i : TicketId}

/-- A call leaves the code of a ticket as it is, or persists one with its timestamp. -/
def CodeStep (i : TicketId) (m : Moved Platform ι World) : Prop :=
  (persists i m = none ∧ ∀ t', m.after.tickets.lookup i = some t' →
    ∃ t, m.before.tickets.lookup i = some t ∧ t'.qrHash = t.qrHash ∧
      t'.qrTimestamp = t.qrTimestamp) ∨
  ∃ h ts, persists i m = some (h,some ts) ∧ ∀ t', m.after.tickets.lookup i = some t' →
    t'.qrHash = some h ∧ t'.qrTimestamp = some ts

theorem codeStep_same {m : Moved Platform ι World} (hm : persists i m = none)
    (hrow : m.after.tickets.lookup i = m.before.tickets.lookup i) : CodeStep i m :=
  .inl ⟨hm,fun t' ht' => ⟨t',hrow ▸ ht',rfl,rfl⟩⟩

theorem createTicket_codeStep {data : NewTicket} {w' : World}
    (h : w' = w ∨ w' = (w.serve e (.createTicket data)).2) :
    CodeStep i ⟨k,.http (.createTicket data),w,w'⟩ := by
  have hcases : w' = w ∨ w.tickets.lookup e.uuid = none ∧ w' =
      { w with tickets := w.tickets.insert e.uuid (World.newTicketRow e.time e.hex data) } := by
    rcases h with rfl | rfl
    · exact .inl rfl
    · exact World.serve_createTicket_cases e data
  rcases hcases with rfl | ⟨hnew,rfl⟩
  · refine codeStep_same ?_ rfl
    simp only [persists]
    split
    · rename_i hnone
      rw [hnone]
      rfl
    · rfl
  · by_cases hi : i = e.uuid
    · subst hi
      refine .inr ⟨.uuidHex e.hex,e.time,?_,fun t' ht' => ?_⟩
      · simp [persists,hnew,code,World.newTicketRow]
      · simp only [AList.lookup_insert,Option.some.injEq] at ht'
        subst ht'
        exact ⟨rfl,rfl⟩
    · have hrow : (w.tickets.insert e.uuid (World.newTicketRow e.time e.hex data)).lookup i =
          w.tickets.lookup i := AList.lookup_insert_ne hi
      refine codeStep_same ?_ hrow
      simp only [persists]
      split
      · rename_i hnone
        rw [hrow,hnone]
        rfl
      · rfl

theorem updateTicket_codeStep {j : Option TicketId} {data : TicketPatch} {w' : World}
    (hdata : data.qrHash.isSome = data.qrTimestamp.isSome)
    (h : w' = w ∨ w' = (w.serve e (.updateTicket j data)).2) :
    CodeStep i ⟨k,.http (.updateTicket j data),w,w'⟩ := by
  have hrow : w'.tickets.lookup i = w.tickets.lookup i ∨
      j = some i ∧ w'.tickets.lookup i = (w.tickets.lookup i).map (World.patchTicket data) := by
    rcases h with rfl | rfl
    · exact .inl rfl
    · rcases World.serve_updateTicket_cases e j data with hsame | ⟨i',t,rfl,ht,hw⟩
      · rw [hsame]
        exact .inl rfl
      · rw [hw]
        by_cases hi : i = i'
        · subst hi
          exact .inr ⟨rfl,by simp [ht]⟩
        · exact .inl (AList.lookup_insert_ne hi)
  by_cases htook : j = some i ∧
      w'.tickets.lookup i = (w.tickets.lookup i).map (World.patchTicket data)
  · cases hhash : data.qrHash with
    | none =>
      have hts : data.qrTimestamp = none := by simpa [hhash] using hdata
      refine .inl ⟨by simp [persists,hhash],fun t' ht' => ?_⟩
      obtain ⟨t,ht,rfl⟩ := Option.map_eq_some_iff.mp (htook.2.symm.trans ht')
      exact ⟨t,ht,by simp [World.patchTicket,hhash],by simp [World.patchTicket,hts]⟩
    | some hash =>
      obtain ⟨ts,hts⟩ : ∃ ts, data.qrTimestamp = some ts :=
        Option.isSome_iff_exists.mp (by rw [← hdata,hhash]; rfl)
      refine .inr ⟨hash,ts,by simp only [persists,if_pos htook,hhash,hts,Option.map_some],
        fun t' ht' => ?_⟩
      obtain ⟨t,ht,rfl⟩ := Option.map_eq_some_iff.mp (htook.2.symm.trans ht')
      exact ⟨by simp [World.patchTicket,hhash],by simp [World.patchTicket,hts]⟩
  · exact codeStep_same (by simp only [persists,if_neg htook]) (hrow.resolve_right htook)

theorem perform_codeStep {q : Call} (hq : WritesTogether q) :
    CodeStep i ⟨k,q,w,(World.perform cfg e w q).2⟩ := by
  have hquiet : q.writes ≠ some .tickets → persists i (⟨k,q,w,(World.perform cfg e w q).2⟩ :
      Moved Platform ι World) = none → CodeStep i ⟨k,q,w,(World.perform cfg e w q).2⟩ :=
    fun hw hm => codeStep_same hm (by rw [(World.perform_frame q).tickets hw])
  cases q with
  | http q =>
    cases q with
    | createTicket data => exact createTicket_codeStep (World.perform_http_cases cfg e w _)
    | updateTicket j data => exact updateTicket_codeStep hq (World.perform_http_cases cfg e w _)
    | _ => exact hquiet (by simp [Call.writes,Http.writes]) rfl
  | _ => exact hquiet (by simp [Call.writes]) rfl


theorem holds_step {q : Call} (hq : WritesTogether q) (hs : Holds w₀ s) :
    Holds w₀ ((World.server cfg ι).logged.serve k e s q).2 := by
  constructor
  · intro i t' ht' hhash
    rcases perform_codeStep (k := k) hq with ⟨-,hrow⟩ | ⟨h,ts,-,hrow⟩
    · obtain ⟨t,ht,hh,hts⟩ := hrow t' ht'
      rw [hts]
      exact hs.stamped i t ht (hh ▸ hhash)
    · rw [(hrow t' ht').2]
      rfl
  · intro i t' ht'
    rcases perform_codeStep (k := k) hq with ⟨hm,hrow⟩ | ⟨h,ts,hm,hrow⟩
    · obtain ⟨t,ht,hh,hts⟩ := hrow t' ht'
      have hcode : code t' = code t := by rw [code,code,hh,hts]
      exact hcode.trans ((hs.last i t ht).trans (congrArg (Option.or · _) hm).symm)
    · obtain ⟨hh,hts⟩ := hrow t' ht'
      have hcode : code t' = some (h,some ts) := by rw [code,hh,hts]; rfl
      exact hcode.trans (congrArg (Option.or · (lastPersisted w₀ i s.log)) hm).symm

end Persisted

section Reads

/-- The scan has read the ticket by the hash, and has found the code in time if it is stamped. -/
def InTime (v : VerifyConfig) (hash : QrHash) (i : TicketId) (h : List (Entry Platform)) : Prop :=
  ∃ ticket, ⟨.http (.getTicketByQrHash hash),.ok (i,ticket)⟩ ∈ h ∧
    ∀ ts, ticket.qrTimestamp = some ts → ∃ newer older now₁ now₂,
      h = newer ++ ⟨.now,now₂⟩ :: ⟨.now,now₁⟩ :: older ∧ ts ≤ now₁+v.clockSkew ∧ now₂-ts ≤ v.qrTtl

theorem InTime.cons {v : VerifyConfig} {hash : QrHash} {i : TicketId} {h : List (Entry Platform)}
    (hin : InTime v hash i h) (x : Entry Platform) : InTime v hash i (x :: h) := by
  obtain ⟨ticket,hread,hts⟩ := hin
  refine ⟨ticket,.tail _ hread,fun ts hstamp => ?_⟩
  obtain ⟨newer,older,now₁,now₂,rfl,hskew,hage⟩ := hts ts hstamp
  exact ⟨x :: newer,older,now₁,now₂,rfl,hskew,hage⟩

def Checked (v : VerifyConfig) : CodeRequest → Option Verdict → List (Entry Platform) → Prop
  | .scan _ (some hash),verdict,h => ∀ s, verdict = some (.success s) → InTime v hash s.ticketId h
  | _,_,_ => True

variable {v : VerifyConfig} {staff : Staff} {hash : QrHash} {i : TicketId} {α : Type}
  {h : List (Entry Platform)}

abbrev Handler.Together (fin : α → List (Entry Platform) → Prop) (p : Handler α)
    (h : List (Entry Platform)) : Prop :=
  p.Follows (fun _ => WritesTogether) (fun _ _ _ => True) fin (fun _ _ => True) h

theorem reads_together {q : Call} (hq : Call.Reads q) : WritesTogether q := by
  rcases hq with hread | ⟨j,rfl⟩
  · cases q with
    | http q => cases q <;> trivial
    | _ => trivial
  · trivial

/-- Calls that write no hash keep what stays true as the history grows. -/
theorem calls_together {p : Handler α} {J : List (Entry Platform) → Prop}
    (hp : p.Calls WritesTogether (fun _ => True)) (hJ : ∀ x h, J h → J (x :: h)) (hh : J h) :
    Handler.Together (fun _ => J) p h :=
  (hp.follows (fun _ _ hq _ => hq) (fun _ _ _ _ hh => hJ _ _ hh) hh).mono (fun _ _ hh => hh)
    fun _ _ _ => trivial

/-- A code that passes the check of its time is in time; one that does not is no success. -/
def TimeChecked (v : VerifyConfig) (hash : QrHash) (i : TicketId) :
    Option Verdict → List (Entry Platform) → Prop
  | none,h => InTime v hash i h
  | some verdict,_ => verdict.isSuccess = false

theorem checkQrTimestamp_together {ticket : Ticket}
    (hread : ⟨.http (.getTicketByQrHash hash),.ok (i,ticket)⟩ ∈ h) :
    Handler.Together (TimeChecked v hash i) (checkQrTimestamp v staff i ticket.qrTimestamp) h := by
  have hrefuse : ∀ {s : LogStatus} {verdict : Verdict} {h}, verdict.isSuccess = false →
      Handler.Together (TimeChecked v hash i) (do log staff i s; pure (some verdict)) h := by
    intro s verdict h hv
    have hlog : Handler.Together (fun _ _ => True) (log staff i s) h :=
      calls_together (log_calls (fun _ => trivial) s) (fun _ _ _ => trivial) trivial
    exact Prog.follows_bind.mpr (hlog.mono (fun _ _ _ => hv) fun _ _ _ => trivial)
  cases hstamp : ticket.qrTimestamp with
  | none => exact ⟨ticket,hread,fun ts hts => by rw [hstamp] at hts; cases hts⟩
  | some ts =>
    refine ⟨trivial,fun now₁ _ => Prog.follows_ite (fun _ => hrefuse rfl) fun hskew => ?_⟩
    refine ⟨trivial,fun now₂ _ => Prog.follows_ite (fun _ => hrefuse rfl) fun hage => ?_⟩
    refine ⟨ticket,.tail _ (.tail _ hread),fun ts' hts' => ?_⟩
    cases hstamp.symm.trans hts'
    exact ⟨[],h,now₁,now₂,rfl,not_lt.mp hskew,not_lt.mp hage⟩

def SuccessInTime (v : VerifyConfig) (hash : QrHash) (verdict : Verdict)
    (h : List (Entry Platform)) : Prop :=
  ∀ s, verdict = .success s → InTime v hash s.ticketId h

theorem refusal_inTime {verdict : Verdict} (hv : verdict.isSuccess = false) :
    SuccessInTime v hash verdict h := by
  rintro s rfl
  cases hv

theorem scanLocked_together {ticket : Ticket}
    (hread : ⟨.http (.getTicketByQrHash hash),.ok (i,ticket)⟩ ∈ h) :
    Handler.Together (SuccessInTime v hash) (scanLocked v staff i ticket) h := by
  refine Prog.follows_bind.mpr ((checkQrTimestamp_together hread).mono ?_ fun _ _ _ => trivial)
  intro refusal h hchecked
  cases refusal with
  | some verdict => exact refusal_inTime hchecked
  | none =>
    have hcalls : (checkTicket staff i ticket).Calls WritesTogether (fun _ => True) :=
      checkTicket_calls (fun _ => reads_together) (fun _ => trivial) rfl
    have hkeeps : Handler.Together (fun _ => InTime v hash i) (checkTicket staff i ticket) h :=
      calls_together hcalls (fun x _ hin => hin.cons x) hchecked
    refine ((hkeeps.both checkTicket_names.follows).weaken fun _ _ hq => hq.1).mono ?_
      fun _ _ _ => trivial
    rintro verdict h ⟨hin,hnames⟩ s hs
    rwa [(hnames s hs).1]

theorem scan_together : Handler.Together (SuccessInTime v hash) (scan v staff (some hash)) [] := by
  refine ⟨trivial,fun found _ => ?_⟩
  cases found with
  | error code => exact refusal_inTime rfl
  | raised => trivial
  | ok row =>
    obtain ⟨i,ticket⟩ := row
    have hlock : Handler.Together
        (fun _ h => ⟨.http (.getTicketByQrHash hash),.ok (i,ticket)⟩ ∈ h) (acquireScanLock v i)
        [⟨.http (.getTicketByQrHash hash),.ok (i,ticket)⟩] :=
      calls_together (acquireScanLock_calls (fun _ => reads_together) fun _ _ => trivial)
        (fun _ _ hread => .tail _ hread) (.head _)
    change Handler.Together _ (acquireScanLock v i >>= _) _
    refine Prog.follows_bind.mpr (hlock.mono (fun token h hread => ?_) fun _ _ _ => trivial)
    cases token with
    | none => exact refusal_inTime rfl
    | some token =>
      have hrelease : ∀ {h} {J : List (Entry Platform) → Prop}, (∀ x h, J h → J (x :: h)) → J h →
          Handler.Together (fun _ => J) (releaseScanLock i token) h := fun hJ hh =>
        calls_together (releaseScanLock_calls (fun _ => reads_together) (fun _ => trivial) token)
          hJ hh
      refine Prog.follows_ensuring.mpr ((scanLocked_together hread).mono ?_ ?_)
      · intro verdict h hin
        exact hrelease (fun x h hin s hs => (hin s hs).cons x) hin
      · exact fun _ _ _ => hrelease (fun _ _ _ => trivial) trivial

theorem getQr_together {qrTtl : Time} {userId : UserId} :
    (getQr qrTtl userId i).Calls WritesTogether (fun _ => True) := by
  refine ask_calls trivial fun answer => ?_
  cases answer with
  | error code => exact Prog.calls_ite trivial trivial
  | ok ticket =>
    refine Prog.calls_ite trivial (Prog.calls_ite trivial ⟨trivial,fun now => ?_⟩)
    refine ask_calls rfl fun updated => ?_
    cases updated with
    | error code => trivial
    | ok updated =>
      refine Prog.calls_bind (safeGet_calls trivial) fun _ => ?_
      exact Prog.calls_bind (safeGet_calls trivial) fun _ => trivial

theorem codeRequest_together (r : CodeRequest) :
    Handler.Together (Checked v r) (r.handler v) [] := by
  have hcalls : ∀ {p : Handler (Option Verdict)} {r}, (∀ verdict h, Checked v r verdict h) →
      p.Calls WritesTogether (fun _ => True) → Handler.Together (Checked v r) p [] :=
    fun hr hp => (calls_together hp (J := fun _ => True) (fun _ _ _ => trivial) trivial).mono
      (fun _ _ _ => hr _ _) fun _ _ _ => trivial
  cases r with
  | scan staff qrHash =>
    cases qrHash with
    | none => exact trivial
    | some hash =>
      refine Prog.follows_map.mpr (scan_together.mono ?_ fun _ _ _ => trivial)
      intro verdict h hin s hs
      exact hin s (Option.some.inj hs)
  | getQr qrTtl userId i =>
    exact hcalls (fun _ _ => trivial) (Prog.calls_bind getQr_together fun _ => trivial)
  | create data =>
    exact hcalls (fun _ _ => trivial)
      (Prog.calls_bind (callService_calls trivial trivial) fun _ => trivial)

end Reads

section Runs

variable {ι : Type}

/-- When participant `j` read the ticket by the hash, the hash and this timestamp were what had
been persisted for it last. -/
def ReadLast (w₀ : World) (log : List (Moved Platform ι World)) (j : ι) (hash : QrHash)
    (i : TicketId) (qrTimestamp : Option Time) : Prop :=
  ∃ newer m older ts, log = newer ++ m :: older ∧ m.who = j ∧
    m.op = .http (.getTicketByQrHash hash) ∧ qrTimestamp = some ts ∧
    lastPersisted w₀ i older = some (hash,some ts)

/-- The tickets hold what was persisted last, and every scan has read it so. -/
structure Latest (w₀ : World) (s : Logged Platform ι World) (past : ι → List (Entry Platform)) :
    Prop where
  holds : Holds w₀ s
  read : ∀ j hash i ticket, ⟨.http (.getTicketByQrHash hash),.ok (i,ticket)⟩ ∈ past j →
    ReadLast w₀ s.log j hash i ticket.qrTimestamp

variable {cfg : SeatConfig} {e : Env} {w₀ w : World} {s : Logged Platform ι World} {j k : ι}
  {hash : QrHash} {i : TicketId} {ticket : Ticket}

theorem ReadLast.cons {log : List (Moved Platform ι World)} {qrTimestamp : Option Time}
    (h : ReadLast w₀ log j hash i qrTimestamp) (m : Moved Platform ι World) :
    ReadLast w₀ (m :: log) j hash i qrTimestamp := by
  obtain ⟨newer,m',older,ts,rfl,hrest⟩ := h
  exact ⟨m :: newer,m',older,ts,rfl,hrest⟩

/-- A hash that is found is the stored one, hence the one persisted last. -/
theorem readLast_now {w' : World} (hs : Holds w₀ s)
    (h : World.perform cfg e s.state (.http (.getTicketByQrHash hash)) = (.ok (i,ticket),w')) :
    ReadLast w₀ (⟨k,.http (.getTicketByQrHash hash),s.state,w'⟩ :: s.log) k hash i
      ticket.qrTimestamp := by
  have hserve := World.perform_ok h
  simp only [World.serve,World.getTicketByQrHash,World.found] at hserve
  split at hserve
  · rename_i row hrow
    cases hserve
    have hlookup := Table.findRow_lookup hrow
    have hhash : ticket.qrHash = some hash := of_decide_eq_true (Table.findRow_satisfies hrow)
    obtain ⟨ts,hts⟩ := Option.isSome_iff_exists.mp
      (hs.stamped i ticket hlookup (by rw [hhash]; rfl))
    refine ⟨[],_,s.log,ts,rfl,rfl,rfl,hts,?_⟩
    rw [← hs.last i ticket hlookup,code,hhash,hts]
    rfl
  · cases hserve

variable [DecidableEq ι]

theorem latest_keeps :
    Keeps (World.server cfg ι).logged (fun _ _ _ _ _ => True) (fun _ _ => WritesTogether)
      (fun _ _ _ _ => True) (Latest w₀) := by
  intro s past k e q hs _ _ hq
  refine ⟨trivial,holds_step hq hs.holds,fun j hash i ticket hread => ?_⟩
  by_cases hj : j = k
  · subst hj
    rw [Function.update_self] at hread
    rcases List.mem_cons.mp hread with hnew | hold
    · obtain ⟨rfl,hans⟩ := Sigma.mk.inj_iff.mp hnew
      exact readLast_now hs.holds (Prod.ext (eq_of_heq hans).symm rfl)
    · exact (hs.read j hash i ticket hold).cons _
  · rw [Function.update_of_ne hj] at hread
    exact (hs.read j hash i ticket hread).cons _

/-- However scans, requests for codes and creations run side by side: the hash that a scan
succeeds for was the last one persisted for the ticket when the scan read it, and its timestamp
keeps to the limits at the scan's readings of the clock. -/
theorem success_latest_inTime (cfg : SeatConfig) (v : VerifyConfig) (req : ι → CodeRequest)
    (w : World) (hw : Stamped w)
    (c : Config ι Platform Unhandled (Option Verdict) (Logged Platform ι World))
    (hrun : Config.Reach (World.server cfg ι).logged Config.anyStep
      (Config.start ⟨w,[]⟩ (fun j => (req j).handler v)) c)
    (j : ι) (staff : Staff) (hash : QrHash) (s : CheckedIn) (hreq : req j = .scan staff (some hash))
    (hs : c.result j = some (some (.success s))) :
    ∃ ts newer m older, c.shared.log = newer ++ m :: older ∧ m.who = j ∧
      m.op = .http (.getTicketByQrHash hash) ∧
      lastPersisted w s.ticketId older = some (hash,some ts) ∧
      ∃ newer' older' now₁ now₂, c.past j = newer' ++ ⟨.now,now₂⟩ :: ⟨.now,now₁⟩ :: older' ∧
        ts ≤ now₁+v.clockSkew ∧ now₂-ts ≤ v.qrTtl ∧
        (now₁ ≤ now₂ → ts ≤ now₂+v.clockSkew ∧ now₁-ts ≤ v.qrTtl) := by
  have hstart : (Config.start ⟨w,[]⟩ (fun j => (req j).handler v)).Disciplined
      (fun _ _ => WritesTogether) (fun _ _ _ _ => True) (fun j => Checked v (req j))
      (fun _ _ _ => True) (Latest w) :=
    Config.disciplined_start
      ⟨⟨hw,fun _ _ ht => by simp [lastPersisted,ht]⟩,fun _ _ _ _ hread => nomatch hread⟩
      fun j => codeRequest_together (req j)
  have hc := hstart.reach latest_keeps hrun
  have hin := hc.result hs
  rw [hreq] at hin
  obtain ⟨ticket,hread,htime⟩ := hin s rfl
  obtain ⟨newer,m,older,ts,hlog,hwho,hop,hts,hlast⟩ := hc.1.read j hash s.ticketId ticket hread
  obtain ⟨newer',older',now₁,now₂,hpast,hskew,hage⟩ := htime ts hts
  refine ⟨ts,newer,m,older,hlog,hwho,hop,hlast,newer',older',now₁,now₂,hpast,hskew,hage,?_⟩
  exact fun hclock => ⟨hskew.trans (Int.add_le_add_right hclock _),
    (Int.sub_le_sub_right hclock _).trans hage⟩

/-- A ticket is created, its owner asks for a code, and the code is scanned. -/
def threeRequests : Option Bool → CodeRequest
  | some true => .create ⟨4,1,1,1,30,.active⟩
  | none => .getQr (seconds 60) 1 5
  | some false => .scan ⟨71,none,none⟩ (some (.sha256 5 1 1 1 (seconds 1)))

def soldOut : World := { unscannedWorld with tickets := ∅ }

abbrev CodeRun := Config (Option Bool) Platform Unhandled (Option Verdict)
  (Logged Platform (Option Bool) World)

def codeScanned : CodeRun :=
  Config.schedule (World.server ⟨3,3,false⟩ (Option Bool)).logged (fun _ _ _ _ _ => true)
    (.start ⟨soldOut,[]⟩ fun j => (threeRequests j).handler ⟨seconds 60,seconds 300,seconds 5,3⟩)
    (List.flatten (List.map (fun r => List.replicate r.2 (r.1,⟨seconds 1,5,9,true,true,none⟩))
      [(some true,1),(none,5),(some false,14)]))

theorem success_latest_inTime_codeScanned :
    ∃ ts newer m older, codeScanned.shared.log = newer ++ m :: older ∧ m.who = some false ∧
      m.op = .http (.getTicketByQrHash (.sha256 5 1 1 1 (seconds 1))) ∧
      lastPersisted soldOut 5 older = some (.sha256 5 1 1 1 (seconds 1),some ts) ∧
      ∃ newer' older' now₁ now₂,
        codeScanned.past (some false) = newer' ++ ⟨.now,now₂⟩ :: ⟨.now,now₁⟩ :: older' ∧
        ts ≤ now₁+seconds 300 ∧ now₂-ts ≤ seconds 60 ∧
        (now₁ ≤ now₂ → ts ≤ now₂+seconds 300 ∧ now₁-ts ≤ seconds 60) :=
  success_latest_inTime ⟨3,3,false⟩ ⟨seconds 60,seconds 300,seconds 5,3⟩ threeRequests soldOut
    (fun _ _ ht => nomatch ht) codeScanned (Config.reach_schedule (fun _ _ _ _ _ _ => trivial) _ _)
    (some false) ⟨71,none,none⟩ _ ⟨5,seconds 1,"Concert",0,1,1⟩ rfl (by decide +kernel)

end Runs

end TicketRemaster.Verification
