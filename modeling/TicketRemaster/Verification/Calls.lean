import TicketRemaster.Transfer.Calls
import TicketRemaster.Verification.Handlers
set_option autoImplicit false

/-! The calls that the check-ins can make beside their lookups, whatever the answers are, and what
a success reports. -/

namespace TicketRemaster.Verification

open Resumption Transfer

section Calls

variable {P : Call → Prop} {cfg : VerifyConfig} {staff : Staff} {i : TicketId}

theorem log_calls (hlog : ∀ d, P (.http (.createTicketLog d))) (s : LogStatus) :
    (log staff i s).Calls P (fun _ => True) := ask_calls (hlog _) fun _ => trivial

theorem now_calls (hr : ∀ q, Call.Reads q → P q) : datetimeNow.Calls P (fun _ => True) :=
  reads_calls datetimeNow_reads hr

theorem acquireScanLock_calls (hr : ∀ q, Call.Reads q → P q)
    (hset : ∀ token ttl, P (.lockSet i token ttl)) :
    (acquireScanLock cfg i).Calls P (fun _ => True) := by
  have hattempts : ∀ token n, (lockAttempts cfg i token n).Calls P (fun _ => True) := by
    intro token n
    induction n with
    | zero => trivial
    | succ n ih =>
      refine ⟨hset _ _,fun acquired => ?_⟩
      match acquired with
      | some true => trivial
      | some false => exact ih
      | none => exact ih
  refine ⟨hr _ (.inl rfl),fun up => ?_⟩
  cases up with
  | true => exact ⟨hr _ (.inl rfl),fun token => hattempts token _⟩
  | false => trivial

theorem releaseScanLock_calls (hr : ∀ q, Call.Reads q → P q)
    (hrelease : ∀ token, P (.lockRelease i token)) (token : LockToken) :
    (releaseScanLock i token).Calls P (fun _ => True) := by
  cases token with
  | noLock => trivial
  | held token =>
    refine ⟨hr _ (.inl rfl),fun up => ?_⟩
    cases up with
    | true => exact ⟨hrelease _,fun _ => trivial⟩
    | false => trivial

theorem checkQrTimestamp_calls (cfg : VerifyConfig) (staff : Staff) (i : TicketId)
    (hr : ∀ q, Call.Reads q → P q) (hlog : ∀ d, P (.http (.createTicketLog d)))
    (qrTimestamp : Option Time) :
    (checkQrTimestamp cfg staff i qrTimestamp).Calls P (fun _ => True) := by
  cases qrTimestamp with
  | none => trivial
  | some ts =>
    refine Prog.calls_bind (now_calls hr) fun now => ?_
    split
    · exact Prog.calls_bind (log_calls hlog _) fun _ => trivial
    · refine Prog.calls_bind (now_calls hr) fun now => ?_
      split
      · exact Prog.calls_bind (log_calls hlog _) fun _ => trivial
      · trivial

theorem checkTicket_calls {ticket : Ticket} (hr : ∀ q, Call.Reads q → P q)
    (hlog : ∀ d, P (.http (.createTicketLog d)))
    (hused : P (.http (.updateTicket (some i) { status := some .used }))) :
    (checkTicket staff i ticket).Calls P (fun _ => True) := by
  have hrefuse : ∀ s r, (do log staff i s; pure r : Handler Verdict).Calls P (fun _ => True) :=
    fun s r => Prog.calls_bind (log_calls hlog s) fun _ => trivial
  have hmark : ∀ event seat, (markUsed staff i ticket event seat).Calls P (fun _ => True) := by
    intro event seat
    refine ask_calls hused fun _ => Prog.calls_bind (log_calls hlog _) fun _ => ?_
    exact Prog.calls_bind (now_calls hr) fun _ => trivial
  have hlookup : ∀ {q : Http}, q.writes = none → (safeGet q).Calls P (fun _ => True) :=
    fun hq => safeGet_calls (hr _ (.inl hq))
  refine ask_calls (hr _ (.inl rfl)) fun event => ?_
  cases event with
  | error code => exact hrefuse _ _
  | ok event =>
    refine Prog.calls_bind (hlookup rfl) fun invData => ?_
    split
    · exact hrefuse _ _
    · split
      · exact hrefuse _ _
      · split
        · exact hrefuse _ _
        · refine Prog.calls_bind (hlookup rfl) fun logs => ?_
          split
          · exact hrefuse _ _
          · unfold checkPlace
            split
            · exact Prog.calls_bind (hlookup rfl) fun _ => hrefuse _ _
            · split
              · split
                · exact hrefuse _ _
                · exact hmark _ _
              · exact hmark _ _

theorem manualVerify_calls {ticketId : Option TicketId} (hr : ∀ q, Call.Reads q → P q)
    (hlog : ∀ d, P (.http (.createTicketLog d)))
    (hused : ∀ j, P (.http (.updateTicket (some j) { status := some .used }))) :
    (manualVerify staff ticketId).Calls P (fun _ => True) := by
  cases ticketId with
  | none => trivial
  | some j =>
    refine ask_calls (hr _ (.inl rfl)) fun ticket => ?_
    cases ticket with
    | error code => trivial
    | ok ticket => exact checkTicket_calls hr hlog (hused j)

theorem scan_calls {qrHash : Option QrHash} (hr : ∀ q, Call.Reads q → P q)
    (hlog : ∀ d, P (.http (.createTicketLog d)))
    (hused : ∀ j, P (.http (.updateTicket (some j) { status := some .used })))
    (hset : ∀ j token ttl, P (.lockSet j token ttl))
    (hrelease : ∀ j token, P (.lockRelease j token)) :
    (scan cfg staff qrHash).Calls P (fun _ => True) := by
  cases qrHash with
  | none => trivial
  | some qrHash =>
    refine ask_calls (hr _ (.inl rfl)) fun found => ?_
    cases found with
    | error code => trivial
    | ok found =>
      refine Prog.calls_bind (acquireScanLock_calls hr (hset _)) fun token => ?_
      cases token with
      | none => trivial
      | some token =>
        refine Prog.calls_ensuring (Prog.calls_bind (checkQrTimestamp_calls _ _ _ hr hlog _) ?_)
          (releaseScanLock_calls hr (hrelease _) token)
        intro refusal
        cases refusal with
        | some refusal => trivial
        | none => exact checkTicket_calls hr hlog (hused _)

end Calls

section Success

variable {staff : Staff} {i : TicketId} {ticket : Ticket}

/-- If the verdict is a success, it names the ticket and its owner. -/
def Names (i : TicketId) (ticket : Ticket) (verdict : Verdict) : Prop :=
  ∀ c, verdict = .success c → c.ticketId = i ∧ c.ownerId = ticket.ownerId

theorem refuse_names {code message : String} {status : Nat} :
    (pure (refuse code message status) : Handler Verdict).Returns (Names i ticket) :=
  fun _ hc => by cases hc

theorem checkTicket_names : (checkTicket staff i ticket).Returns (Names i ticket) := by
  have hmark : ∀ event seat, (markUsed staff i ticket event seat).Returns (Names i ticket) := by
    intro event seat
    refine Prog.returns_bind fun _ => Prog.returns_bind fun _ => Prog.returns_bind fun _ => ?_
    exact fun c hc => by cases hc; exact ⟨rfl,rfl⟩
  refine Prog.returns_bind fun event => ?_
  cases event with
  | error code => exact Prog.returns_bind fun _ => refuse_names
  | ok event =>
    refine Prog.returns_bind fun invData => ?_
    split
    · exact Prog.returns_bind fun _ => refuse_names
    · split
      · exact Prog.returns_bind fun _ => refuse_names
      · split
        · exact Prog.returns_bind fun _ => refuse_names
        · refine Prog.returns_bind fun logs => ?_
          split
          · exact Prog.returns_bind fun _ => refuse_names
          · unfold checkPlace
            split
            · exact Prog.returns_bind fun _ => Prog.returns_bind fun _ => fun _ hc => by cases hc
            · split
              · split
                · exact Prog.returns_bind fun _ => fun _ hc => by cases hc
                · exact hmark _ _
              · exact hmark _ _

end Success

end TicketRemaster.Verification
