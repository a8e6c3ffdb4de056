import TicketRemaster.Queues.Topology
import TicketRemaster.Purchase.OneTicket
import TicketRemaster.SeatInventory.SeatSteps
set_option autoImplicit false

/-! Seat holds on their way through RabbitMQ: published by `hold_seat`, dead-lettered when their
time is over, and released by the consumer of expired holds. -/

namespace TicketRemaster.Queues

open Messaging Resumption SeatInventory

/-- A hold that seat-inventory-service was asked for, with the token drawn for it. -/
structure AskedHold where
  inventoryId : InventoryId
  userId : UserId
  uuid : Nat
  heldUntil : Time
  deriving DecidableEq

def AskedHold.message (x : AskedHold) : Message := .seatHold x.inventoryId x.userId (.uuid x.uuid)

theorem AskedHold.message_eq {x y : AskedHold} : x.message = y.message ↔
    x.inventoryId = y.inventoryId ∧ x.userId = y.userId ∧ x.uuid = y.uuid := by
  simp [AskedHold.message]

/-- The databases and the broker, and the messages that consumers have been handed but have not
acknowledged. The last three fields only record what has happened. -/
structure HoldSystem where
  world : World
  broker : RabbitMq
  handling : List Message
  clock : Time
  asked : List AskedHold
  enqueued : List Message
  lost : List Message

/-- Seconds of a hold, by the setting `SEAT_HOLD_DURATION_SECONDS`. -/
def holdDuration (setting : Option Int) : Int := setting.getD 300

/-- The time a hold message waits in its queue, by the same setting. -/
def holdTtl (setting : Option Int) : Time := seconds (setting.getD 600)

/-- What the consumer does with a message; only messages about holds reach its queue. -/
def onMessage : Message → Handler Bool
  | .seatHold inventoryId userId holdToken => Purchase.onExpired inventoryId userId holdToken
  | _ => pure false

namespace HoldSystem

variable (cfg : SeatConfig)

/-- An attempt that fails may have enqueued the message all the same. -/
def publish (e : Env) (s : HoldSystem) (m : Message) : Bool × HoldSystem :=
  let published := { s with
    broker := s.broker.push m.queue e.time none m
    enqueued := if (s.broker.argumentsOf m.queue).isSome then m :: s.enqueued else s.enqueued }
  match e.fault with
  | some f => (false,if f.applied then published else s)
  | none => (true,published)

/-- The hold that a call asks for. -/
def asks (e : Env) : Call → Option AskedHold
  | .seatRpc inventoryId (.holdSeat req) =>
      some ⟨inventoryId,req.userId,e.uuid,e.time+seconds (holdSeconds req)⟩
  | _ => none

def perform (e : Env) (s : HoldSystem) : (q : Call) → q.Ans × HoldSystem
  | .publish m => { s with clock := e.time }.publish e m
  | q => ((s.world.perform cfg e q).1,{ s with
      world := (s.world.perform cfg e q).2
      clock := e.time
      asked := (asks e q).toList ++ s.asked })

/-- Time does not run backwards, and no token is drawn twice. -/
def server (ι : Type) : Server Platform ι Env HoldSystem where
  ready s _ e q := s.clock ≤ e.time && (asks e q).all fun x => s.asked.all (·.uuid ≠ x.uuid)
  serve _ e s q := s.perform cfg e q

/-- The consumer's call, and its acknowledgement if the connection still stands: positive after an
answer, negative and without requeueing after an error. -/
def handle (e : Env) (connected : Bool) (m : Message) (s : HoldSystem) : HoldSystem :=
  let run := (onMessage m).exec (World.server cfg Unit) () (fun _ => e) [] s.world
  let called := { s with world := run.state, clock := e.time, handling := s.handling.erase m }
  if connected then
    match run.result with
    | .ok true => called
    | _ => { called with lost := m :: s.lost }
  else { called with broker := s.broker.requeue .seatHoldExpired ⟨m,none⟩ }

end HoldSystem

/-- What happens beside the requests: an orchestrator starts, the head of the queue of running
holds lapses, a consumer is handed a message, it calls `ReleaseSeat` for one, or it loses its
connection before. -/
inductive HoldActivity where
  | startup
  | lapse (now : Time)
  | deliver (now : Time)
  | release (e : Env) (connected : Bool) (m : Message)
  | disconnect (m : Message)

namespace HoldSystem

variable (cfg : SeatConfig) (setting : Option Int)

def act (s : HoldSystem) : HoldActivity → Option HoldSystem
  | .startup => some { s with broker := (declareQueues (holdTtl setting) s.broker).2 }
  | .lapse now =>
      if s.clock ≤ now then
        some { s with clock := now, broker := s.broker.lapse .seatHoldTtl now }
      else none
  | .deliver now =>
      if s.clock ≤ now then
        (s.broker.deliver .seatHoldExpired now).map fun d =>
          { s with clock := now, handling := d.1 :: s.handling, broker := d.2 }
      else none
  | .release e connected m =>
      if s.clock ≤ e.time ∧ m ∈ s.handling then some (s.handle cfg e connected m) else none
  | .disconnect m =>
      if m ∈ s.handling then
        some { s with
          handling := s.handling.erase m
          broker := s.broker.requeue .seatHoldExpired ⟨m,none⟩ }
      else none

/-- Something happens beside the requests. -/
def Acts (s s' : HoldSystem) : Prop := ∃ a, s.act cfg setting a = some s'

/-- Startup has declared the queues, and no hold has been asked for yet. -/
def start (setting : Option Int) (now : Time) (w : World) (b : RabbitMq) : HoldSystem :=
  ⟨w,(declareQueues (holdTtl setting) b).2,[],now,[],[],[]⟩

end HoldSystem

section Declared

/-- The arguments of the queues that startup declares. -/
def declaredArguments (ttl : Time) : QueueName → Option (QueueArguments ExchangeName)
  | .seatHoldTtl => some ⟨some ttl,some .seatHoldDlx⟩
  | .seatHoldExpired | .sellerNotification | .transferTimeout => some {}
  | .transferCompensationDlq | .purchaseCompensationDlq => none

/-- The broker has just what startup declares. -/
structure Declared (ttl : Time) (b : RabbitMq) : Prop where
  arguments (q : QueueName) : b.argumentsOf q = declaredArguments ttl q
  exchanges (x : ExchangeName) : b.exchanges x = some [.seatHoldExpired]

/-- A broker on which nothing has been declared. -/
def emptyBroker : RabbitMq := ⟨fun _ => none,fun _ => none⟩

variable {ttl now : Time} {b b' : RabbitMq}

theorem declareQueues_empty (ttl : Time) :
    Declared ttl (declareQueues ttl emptyBroker).2 ∧
      ∀ q, (declareQueues ttl emptyBroker).2.messagesOf q = [] := by
  refine ⟨⟨fun q => ?_,fun x => ?_⟩,fun q => ?_⟩
  · cases q <;> rfl
  · cases x; rfl
  · cases q <;> rfl

theorem Declared.congr (h : Declared ttl b) (ha : ∀ q, b'.argumentsOf q = b.argumentsOf q)
    (hx : b'.exchanges = b.exchanges) : Declared ttl b' :=
  ⟨fun q => (ha q).trans (h.arguments q),fun x => (congrFun hx x).trans (h.exchanges x)⟩

/-- Declaring everything once more changes nothing. -/
theorem Declared.declareQueues (h : Declared ttl b) : (declareQueues ttl b).2 = b := by
  have hqueue : ∀ q a, declaredArguments ttl q = some a → b.queueDeclare q a = some b := by
    intro q a ha
    have hq := Broker.queues_eq ((h.arguments q).trans ha)
    unfold Broker.queueDeclare
    rw [hq]
    simp
  have hexchange : b.exchangeDeclare .seatHoldDlx = b := by
    unfold Broker.exchangeDeclare
    rw [h.exchanges]
  have hbind : b.queueBind .seatHoldExpired .seatHoldDlx = some b := by
    have hq := Broker.queues_eq (h.arguments .seatHoldExpired)
    have hsame : Function.update b.exchanges .seatHoldDlx (some [.seatHoldExpired]) =
        b.exchanges := by
      rw [← h.exchanges .seatHoldDlx]
      exact Function.update_eq_self _ _
    unfold Broker.queueBind
    rw [hq,h.exchanges]
    simp [hsame]
  simp [Queues.declareQueues,declareAll,declarations,hexchange,hbind,hqueue .seatHoldExpired {} rfl,
    hqueue .seatHoldTtl _ rfl,hqueue .sellerNotification {} rfl,hqueue .transferTimeout {} rfl]

theorem Declared.lapse (h : Declared ttl b) (q : QueueName) : Declared ttl (b.lapse q now) :=
  h.congr (fun _ => Broker.argumentsOf_lapse) Broker.exchanges_lapse

theorem Declared.push (h : Declared ttl b) (q : QueueName) (m : Message) :
    Declared ttl (b.push q now none m) :=
  h.congr (fun _ => Broker.argumentsOf_push) Broker.exchanges_push

theorem Declared.requeue (h : Declared ttl b) (q : QueueName) (m : Queued Message) :
    Declared ttl (b.requeue q m) :=
  h.congr (fun _ => Broker.argumentsOf_requeue) Broker.exchanges_requeue

end Declared

end TicketRemaster.Queues
