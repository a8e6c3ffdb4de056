import TicketRemaster.Queues.Topology
import TicketRemaster.Transfer.Timeout
set_option autoImplicit false

/-! Timeout messages, from their publication in `initiate` to the consumer. Once startup has
declared the queue, none is ever enqueued: the publisher declares it with a TTL, and is refused. -/

namespace TicketRemaster.Queues

open Messaging Resumption SeatInventory

/-- The databases and the broker, the messages put into queues that exist, and the timeout
messages the consumer has taken, with their times. -/
structure Deployment where
  world : World
  broker : RabbitMq
  enqueued : List (Message × Time)
  processed : List (Message × Time)

namespace Deployment

variable (cfg : SeatConfig) (timeout : Time)

/-- With a fault the broker cannot be reached at this attempt. -/
def publish (e : Env) (d : Deployment) (m : Message) : Bool × Deployment :=
  if e.fault.isSome then (false,d)
  else match publishAttempt timeout e.time d.broker m with
    | none => (false,d)
    | some b => (true,{ d with
        broker := b
        enqueued := if (b.argumentsOf m.queue).isSome then (m,e.time) :: d.enqueued
          else d.enqueued })

def perform (e : Env) (d : Deployment) : (q : Call) → q.Ans × Deployment
  | .publish m => d.publish timeout e m
  | q => ((d.world.perform cfg e q).1,{ d with world := (d.world.perform cfg e q).2 })

def server (ι : Type) : Server Platform ι Env Deployment where
  ready _ _ _ _ := true
  serve _ e d q := d.perform cfg timeout e q

end Deployment

/-- What else happens beside the requests: a service starts, one of the consumers is ready, or a
message at the head of a queue has lapsed. -/
inductive Activity where
  | startup (holdTtl : Time)
  | timeoutConsumer (now : Time) (ω : List (Entry Platform) → Env)
  | sellerConsumer (now : Time)
  | dlxConsumer (now : Time)
  | lapse (q : QueueName) (now : Time)

namespace Deployment

variable (cfg : SeatConfig) (timeout : Time)

/-- The consumer handles a message whose transfer and listing it names. -/
def handleTimeout (ω : List (Entry Platform) → Env) (w : World) : Message → World
  | .transferTimeout i l _ _ => (Transfer.runAlone cfg (Transfer.onTimeoutMessage i l) ω w).state
  | _ => w

def takeTimeout (now : Time) (ω : List (Entry Platform) → Env) (d : Deployment) : Deployment :=
  match d.broker.deliver .transferTimeout now with
  | none => d
  | some (m,b) => { d with
      world := handleTimeout cfg ω d.world m
      broker := b
      processed := (m,now) :: d.processed }

/-- A message taken by one of the other consumers. -/
def takeOther (q : QueueName) (now : Time) (d : Deployment) : Deployment :=
  match d.broker.deliver q now with
  | none => d
  | some (_,b) => { d with broker := b }

def act (d : Deployment) : Activity → Deployment
  | .startup holdTtl => { d with broker := (declareQueues holdTtl d.broker).2 }
  | .timeoutConsumer now ω => d.takeTimeout cfg now ω
  | .sellerConsumer now => d.takeOther .sellerNotification now
  | .dlxConsumer now => d.takeOther .seatHoldExpired now
  | .lapse q now => { d with broker := d.broker.lapse q now }

end Deployment

section Runs

variable {ι α : Type} [DecidableEq ι] (cfg : SeatConfig) (timeout : Time)

/-- Some request makes its next call, or something else happens. -/
def Moves (c d : Config ι Platform Unhandled α Deployment) : Prop :=
  Config.Step (Deployment.server cfg timeout ι) Config.anyStep c d ∨
    ∃ a, d = { c with shared := c.shared.act cfg a }

abbrev Runs : Config ι Platform Unhandled α Deployment →
    Config ι Platform Unhandled α Deployment → Prop := Relation.ReflTransGen (Moves cfg timeout)

variable {cfg timeout}

/-- The run rule: what every call and every other activity keeps. -/
theorem runs_keep {P : Deployment → Prop}
    (hcall : ∀ e d q, P d → P (Deployment.perform cfg timeout e d q).2)
    (hact : ∀ d a, P d → P (d.act cfg a)) {c d : Config ι Platform Unhandled α Deployment}
    (h : Runs cfg timeout c d) (hc : P c.shared) : P d.shared := by
  induction h with
  | refl => exact hc
  | tail _ hs ih =>
    rcases hs with ⟨i,e,hadv,-⟩ | ⟨a,rfl⟩
    · obtain ⟨q,k,-,-,rfl⟩ := Config.advance_cases hadv
      exact hcall e _ q ih
    · exact hact _ a ih

end Runs

section Refused

variable {cfg : SeatConfig} {timeout : Time} {d : Deployment}

/-- The queue is as startup declared it, and no timeout message has been enqueued. -/
structure Blocked (d : Deployment) : Prop where
  arguments : d.broker.argumentsOf .transferTimeout = some {}
  enqueued (m : Message) (t : Time) : (m,t) ∈ d.enqueued → m.queue ≠ .transferTimeout

theorem Blocked.publish (h : Blocked d) (e : Env) (m : Message) :
    Blocked (d.publish timeout e m).2 := by
  unfold Deployment.publish
  split
  · exact h
  · split
    · exact h
    · rename_i b hb
      have hm : m.queue ≠ .transferTimeout := by
        intro hm
        rw [publishAttempt_refused h.arguments hm] at hb
        cases hb
      refine ⟨publishAttempt_argumentsOf hb h.arguments,fun m' t hmem => ?_⟩
      simp only at hmem
      split at hmem
      · rcases List.mem_cons.mp hmem with heq | hold
        · obtain ⟨rfl,-⟩ := Prod.mk.inj heq
          exact hm
        · exact h.enqueued m' t hold
      · exact h.enqueued m' t hmem

theorem Blocked.perform (h : Blocked d) (e : Env) (q : Call) :
    Blocked (Deployment.perform cfg timeout e d q).2 := by
  cases q with
  | publish m => exact h.publish e m
  | _ => exact ⟨h.arguments,h.enqueued⟩

theorem argumentsOf_deliver {b b' : RabbitMq} {q r : QueueName} {now : Time} {m : Message}
    (h : b.deliver q now = some (m,b')) : b'.argumentsOf r = b.argumentsOf r := by
  obtain ⟨n,ms,a,hq,-,-,rfl⟩ := Broker.deliver_cases h
  exact Broker.argumentsOf_setQueue_same hq rfl

theorem Blocked.takeOther (h : Blocked d) (q : QueueName) (now : Time) :
    Blocked (d.takeOther q now) := by
  unfold Deployment.takeOther
  split
  · exact h
  · rename_i m b hb
    exact ⟨(argumentsOf_deliver hb).trans h.arguments,h.enqueued⟩

theorem Blocked.act (h : Blocked d) (a : Activity) : Blocked (d.act cfg a) := by
  cases a with
  | startup holdTtl => exact ⟨declareQueues_argumentsOf h.arguments,h.enqueued⟩
  | timeoutConsumer now ω =>
    show Blocked (d.takeTimeout cfg now ω)
    unfold Deployment.takeTimeout
    split
    · exact h
    · rename_i m b hb
      exact ⟨(argumentsOf_deliver hb).trans h.arguments,h.enqueued⟩
  | sellerConsumer now => exact h.takeOther .sellerNotification now
  | dlxConsumer now => exact h.takeOther .seatHoldExpired now
  | lapse q now => exact ⟨by simpa [Deployment.act] using h.arguments,h.enqueued⟩

end Refused

section Early

variable {cfg : SeatConfig} {timeout : Time} {d : Deployment}

/-- Every timeout message lapses when the timeout is over, wherever it has got to before. -/
structure Timed (timeout : Time) (d : Deployment) : Prop where
  unbound : d.broker.Unbound .transferTimeout
  queued (n : Queued Message) : n ∈ d.broker.messagesOf .transferTimeout →
    ∃ t, (n.body,t) ∈ d.enqueued ∧ n.expiresAt = some (t+timeout)
  processed (m : Message) (now : Time) : (m,now) ∈ d.processed →
    ∃ t, (m,t) ∈ d.enqueued ∧ now < t+timeout

/-- Nothing that leaves the queue and the logs alone matters. -/
theorem Timed.mono {d' : Deployment} (h : Timed timeout d)
    (hunbound : d'.broker.Unbound .transferTimeout)
    (hqueue : Broker.NoneAdded .transferTimeout d.broker d'.broker)
    (henqueued : d'.enqueued = d.enqueued) (hprocessed : d'.processed = d.processed) :
    Timed timeout d' where
  unbound := hunbound
  queued n hn := by rw [henqueued]; exact h.queued n (hqueue n hn)
  processed m now hm := by rw [henqueued]; exact h.processed m now (hprocessed ▸ hm)

theorem unbound_congr {b b' : RabbitMq} (h : b'.exchanges = b.exchanges)
    (hb : b.Unbound .transferTimeout) : b'.Unbound .transferTimeout := by
  simpa [Broker.Unbound,h] using hb

theorem Timed.publish (h : Timed timeout d) (e : Env) (m : Message) :
    Timed timeout (d.publish timeout e m).2 := by
  unfold Deployment.publish
  split
  · exact h
  · split
    · exact h
    · rename_i b hb
      have hgrows : ∀ x ∈ d.enqueued, x ∈ (if (b.argumentsOf m.queue).isSome then
          (m,e.time) :: d.enqueued else d.enqueued) := by
        intro x hx
        split
        · exact List.mem_cons_of_mem _ hx
        · exact hx
      refine ⟨unbound_congr (publishAttempt_exchanges hb) h.unbound,fun n hn => ?_,
        fun m' now hm' => ?_⟩
      · rcases publishAttempt_messagesOf hb hn with hold | ⟨rfl,hexists⟩
        · obtain ⟨t,hmem,hexpires⟩ := h.queued n hold
          exact ⟨t,hgrows _ hmem,hexpires⟩
        · exact ⟨e.time,by simp [hexists],rfl⟩
      · obtain ⟨t,hmem,hbefore⟩ := h.processed m' now hm'
        exact ⟨t,hgrows _ hmem,hbefore⟩

theorem Timed.perform (h : Timed timeout d) (e : Env) (q : Call) :
    Timed timeout (Deployment.perform cfg timeout e d q).2 := by
  cases q with
  | publish m => exact h.publish e m
  | _ => exact h.mono h.unbound (fun _ hn => hn) rfl rfl

/-- The consumer is handed a message whose time is not over. -/
theorem Timed.takeTimeout (h : Timed timeout d) (now : Time)
    (ω : List (Entry Platform) → Env) : Timed timeout (d.takeTimeout cfg now ω) := by
  unfold Deployment.takeTimeout
  split
  · exact h
  · rename_i m b hb
    obtain ⟨n,ms,a,hq,rfl,hlapsed,rfl⟩ := Broker.deliver_cases hb
    refine ⟨h.unbound,fun n' hn' => h.queued n' (Broker.tail_noneAdded hq n' hn'),?_⟩
    intro m' now' hm'
    rcases List.mem_cons.mp hm' with heq | hold
    · obtain ⟨rfl,rfl⟩ := Prod.mk.inj heq
      obtain ⟨t,hmem,hexpires⟩ := h.queued n (by simp [Broker.messagesOf_eq hq])
      have hbefore : now' < t+timeout := by simpa [Queued.lapsed,hexpires] using hlapsed
      exact ⟨t,hmem,hbefore⟩
    · exact h.processed m' now' hold

theorem Timed.takeOther (h : Timed timeout d) (q : QueueName) (now : Time) :
    Timed timeout (d.takeOther q now) := by
  unfold Deployment.takeOther
  split
  · exact h
  · rename_i m b hb
    obtain ⟨n,ms,a,hq,-,-,rfl⟩ := Broker.deliver_cases hb
    exact h.mono h.unbound (Broker.tail_noneAdded hq) rfl rfl

theorem Timed.act (h : Timed timeout d) (a : Activity) : Timed timeout (d.act cfg a) := by
  cases a with
  | startup holdTtl =>
    exact h.mono (declareQueues_unbound h.unbound) declareQueues_noneAdded rfl rfl
  | timeoutConsumer now ω => exact h.takeTimeout now ω
  | sellerConsumer now => exact h.takeOther .sellerNotification now
  | dlxConsumer now => exact h.takeOther .seatHoldExpired now
  | lapse q now =>
    exact h.mono (unbound_congr Broker.exchanges_lapse h.unbound)
      (Broker.lapse_noneAdded h.unbound) rfl rfl

/-- Whichever code declares the queue first: the consumer processes a timeout message only before
the timeout, counted from its publication, is over. -/
theorem processed_early {ι α : Type} [DecidableEq ι] {w : World} {b : RabbitMq}
    {p : ι → Handler α} {c : Config ι Platform Unhandled α Deployment} {m : Message} {now : Time}
    (hunbound : b.Unbound .transferTimeout) (hempty : b.messagesOf .transferTimeout = [])
    (hrun : Runs cfg timeout (Config.start ⟨w,b,[],[]⟩ p) c) (hm : (m,now) ∈ c.shared.processed) :
    ∃ t, (m,t) ∈ c.shared.enqueued ∧ now < t+timeout := by
  have hstart : Timed timeout ⟨w,b,[],[]⟩ := ⟨hunbound,by simp [hempty],by simp⟩
  have htimed : Timed timeout c.shared :=
    runs_keep (fun e d q hd => hd.perform e q) (fun d a hd => hd.act a) hrun hstart
  exact htimed.processed m now hm

end Early

def isTimeoutOf (i : TransferId) : Message → Bool
  | .transferTimeout j _ _ _ => j = i
  | _ => false

/-- A timeout message of the transfer has been enqueued and processed, and none was processed
before the timeout was over. -/
structure FiredWhenDue (timeout : Time) (i : TransferId) (d : Deployment) : Prop where
  enqueued : ∃ x ∈ d.enqueued, isTimeoutOf i x.1
  processed : ∃ x ∈ d.processed, isTimeoutOf i x.1
  due (x : Message × Time) (t : TicketRemaster.Transfer) : x ∈ d.processed → isTimeoutOf i x.1 →
    d.world.transfers.lookup i = some t → t.createdAt+timeout ≤ x.2

/-- The state once startup has declared the queues on a broker that may already be in use. -/
def started (w : World) (b : RabbitMq) : Deployment := ⟨w,b,[],[]⟩

theorem Blocked.never_fires {ι α : Type} [DecidableEq ι] {cfg : SeatConfig} {timeout : Time}
    {c d : Config ι Platform Unhandled α Deployment} (hc : Blocked c.shared)
    (hrun : Runs cfg timeout c d) (i : TransferId) : ¬ FiredWhenDue timeout i d.shared := by
  have hd : Blocked d.shared :=
    runs_keep (fun e d q hd => hd.perform e q) (fun d a hd => hd.act a) hrun hc
  intro hfired
  obtain ⟨⟨m,t⟩,hmem,hi⟩ := hfired.enqueued
  have hqueue : m.queue = .transferTimeout := by
    cases m <;> simp_all [isTimeoutOf,Message.queue]
  exact hd.enqueued m t hmem hqueue

/-- Whatever requests run, in whatever order, the timeout of no transfer ever fires. -/
theorem timeout_never_fires {ι : Type} [DecidableEq ι] (cfg : SeatConfig) (hours : Nat)
    (holdTtl : Time) (w : World) (b₀ b : RabbitMq)
    (p : ι → Handler (Response Transfer.TransferAnswer)) (i : TransferId)
    (c : Config ι Platform Unhandled (Response Transfer.TransferAnswer) Deployment)
    (hstart : declareQueues holdTtl b₀ = (true,b))
    (hrun : Runs cfg (seconds (hours*3600)) (Config.start (started w b) p) c) :
    ¬ FiredWhenDue (seconds (hours*3600)) i c.shared := by
  have hblocked : Blocked (started w b) :=
    ⟨declareQueues_transferTimeout hstart,by simp [started]⟩
  exact hblocked.never_fires hrun i

section Example

def newBroker : RabbitMq := ⟨fun _ => none,fun _ => none⟩

/-- User 1 has listed a ticket, and startup has declared the queues. -/
def onSale : Deployment :=
  started (Resale.serveCalm (.listTicket 1 (some 5) none) 6 Resale.freshWorld).state
    (declareQueues (seconds 600) newBroker).2

def initiation : Config Unit Platform Unhandled (Response Transfer.TransferAnswer) Deployment :=
  Config.start onSale fun _ => Transfer.initiate 2 (some 6)

/-- User 2 has initiated the transfer of the ticket. -/
def initiated : Config Unit Platform Unhandled (Response Transfer.TransferAnswer) Deployment :=
  initiation.schedule (Deployment.server ⟨3,3,false⟩ (seconds ((24 : Nat)*3600)) Unit)
    (fun _ _ _ _ _ => true) (List.replicate 20 ((),Resale.calm 8 []))

theorem initiation_runs :
    Runs ⟨3,3,false⟩ (seconds ((24 : Nat)*3600)) initiation initiated := by
  refine Relation.ReflTransGen.mono (fun _ _ h => .inl h) _ _ ?_
  exact Config.reach_schedule (fun _ _ _ _ _ _ => trivial) _ _

theorem timeout_never_fires_initiated :
    ¬ FiredWhenDue (seconds ((24 : Nat)*3600)) 8 initiated.shared :=
  timeout_never_fires ⟨3,3,false⟩ 24 (seconds 600) _ newBroker _ _ 8 initiated
    (Prod.ext (by decide +kernel) rfl) initiation_runs

/-- The transfer is pending after a `201`, and no continuation makes its timeout fire. -/
theorem initiated_without_timeout :
    (declareQueues (seconds 600) newBroker).1 ∧
      Runs ⟨3,3,false⟩ (seconds ((24 : Nat)*3600)) initiation initiated ∧
      (initiated.result ()).map (·.status) = some 201 ∧
      Transfer.statusOf initiated.shared.world 8 = some .pendingBuyerOtp ∧
      ∀ c, Runs ⟨3,3,false⟩ (seconds ((24 : Nat)*3600)) initiated c →
        ¬ FiredWhenDue (seconds ((24 : Nat)*3600)) 8 c.shared := by
  have hblocked : Blocked initiated.shared := by
    have hempty : initiated.shared.enqueued = [] := by decide +kernel
    exact ⟨by decide +kernel,by simp [hempty]⟩
  exact ⟨by decide +kernel,initiation_runs,by decide +kernel,by decide +kernel,
    fun c hc => hblocked.never_fires hc 8⟩

end Example

end TicketRemaster.Queues
