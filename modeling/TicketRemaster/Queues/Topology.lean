import TicketRemaster.Lib.Broker
import TicketRemaster.Services.Platform
set_option autoImplicit false

/-! The RabbitMQ queues: how startup declares them, and how each message is published. -/

namespace TicketRemaster

open Messaging

/-- The queues that messages are published to. Startup declares all but the last two. -/
inductive QueueName where
  | seatHoldTtl
  | seatHoldExpired
  | sellerNotification
  | transferTimeout
  | transferCompensationDlq
  | purchaseCompensationDlq
  deriving DecidableEq, Repr

inductive ExchangeName where
  | seatHoldDlx
  deriving DecidableEq, Repr

abbrev RabbitMq := Broker QueueName ExchangeName Message

/-- The routing key of a message, always on the default exchange. -/
def Message.queue : Message → QueueName
  | .sellerNotification _ _ => .sellerNotification
  | .transferTimeout _ _ _ _ => .transferTimeout
  | .transferCompensationFailed _ _ _ _ _ => .transferCompensationDlq
  | .purchaseCompensationFailed _ _ _ _ => .purchaseCompensationDlq
  | .seatHold _ _ _ => .seatHoldTtl

namespace Queues

/-- One declaration after the other, up to the first that the broker refuses; whether all of
them went through. -/
def declareAll : List (RabbitMq → Option RabbitMq) → RabbitMq → Bool × RabbitMq
  | [], b => (true,b)
  | declare :: rest, b =>
      match declare b with
      | some b' => declareAll rest b'
      | none => (false,b)

def declarations (holdTtl : Time) : List (RabbitMq → Option RabbitMq) :=
  [fun b => some (b.exchangeDeclare .seatHoldDlx),
   fun b => b.queueDeclare .seatHoldExpired {},
   fun b => b.queueBind .seatHoldExpired .seatHoldDlx,
   fun b => b.queueDeclare .seatHoldTtl
     { messageTtl := some holdTtl, deadLetterExchange := some .seatHoldDlx },
   fun b => b.queueDeclare .sellerNotification {},
   fun b => b.queueDeclare .transferTimeout {}]

def declareQueues (holdTtl : Time) : RabbitMq → Bool × RabbitMq := declareAll (declarations holdTtl)

/-- The arguments with which `_publish_transfer_timeout` declares its queue. -/
def publisherArguments (timeout : Time) : QueueArguments ExchangeName :=
  { messageTtl := some timeout }

/-- One attempt to publish; only the timeout message's queue is declared again before. -/
def publishAttempt (timeout now : Time) (b : RabbitMq) (m : Message) : Option RabbitMq :=
  match m with
  | .transferTimeout _ _ _ _ =>
      (b.queueDeclare .transferTimeout (publisherArguments timeout)).map
        (·.push .transferTimeout now (some timeout) m)
  | _ => some (b.push m.queue now none m)

section Declared

variable {holdTtl timeout now : Time} {b b' : RabbitMq} {m : Message} {q : QueueName}
  {a : QueueArguments ExchangeName}

theorem declareAll_keeps {P : RabbitMq → Prop} {l : List (RabbitMq → Option RabbitMq)}
    (hl : ∀ f ∈ l, ∀ b b', f b = some b' → P b → P b') (hb : P b) : P (declareAll l b).2 := by
  induction l generalizing b with
  | nil => exact hb
  | cons f l ih =>
    unfold declareAll
    split
    · rename_i b' hf
      exact ih (fun g hg => hl g (List.mem_cons_of_mem _ hg)) (hl f (by simp) b b' hf hb)
    · exact hb

/-- What startup does to the broker, one declaration at a time. -/
theorem declarations_cases {f : RabbitMq → Option RabbitMq} (hf : f ∈ declarations holdTtl)
    (h : f b = some b') :
    b' = b.exchangeDeclare .seatHoldDlx ∨ b.queueBind .seatHoldExpired .seatHoldDlx = some b' ∨
      ∃ q a, b.queueDeclare q a = some b' := by
  simp only [declarations,List.mem_cons,List.not_mem_nil,or_false] at hf
  rcases hf with rfl | rfl | rfl | rfl | rfl | rfl
  · exact .inl (Option.some.inj h).symm
  · exact .inr (.inr ⟨_,_,h⟩)
  · exact .inr (.inl h)
  · exact .inr (.inr ⟨_,_,h⟩)
  · exact .inr (.inr ⟨_,_,h⟩)
  · exact .inr (.inr ⟨_,_,h⟩)

theorem declareQueues_argumentsOf (hb : b.argumentsOf q = some a) :
    (declareQueues holdTtl b).2.argumentsOf q = some a := by
  refine declareAll_keeps (P := fun b => b.argumentsOf q = some a) ?_ hb
  intro f hf b b' h hb
  rcases declarations_cases hf h with rfl | hbind | ⟨q',a',hdeclare⟩
  · simpa [Broker.argumentsOf] using hb
  · simpa [Broker.argumentsOf,Broker.queues_queueBind hbind] using hb
  · exact Broker.queueDeclare_keeps hdeclare hb

/-- Nothing is bound to the timeout queue, and startup binds nothing to it. -/
theorem declareQueues_unbound (hb : b.Unbound .transferTimeout) :
    (declareQueues holdTtl b).2.Unbound .transferTimeout := by
  refine declareAll_keeps (P := fun b => b.Unbound .transferTimeout) ?_ hb
  intro f hf b b' h hb
  rcases declarations_cases hf h with rfl | hbind | ⟨q',a',hdeclare⟩
  · exact Broker.unbound_exchangeDeclare hb
  · exact Broker.unbound_queueBind hbind hb (by decide)
  · simpa [Broker.Unbound,Broker.exchanges_queueDeclare hdeclare] using hb

theorem declareQueues_noneAdded : Broker.NoneAdded q b (declareQueues holdTtl b).2 := by
  refine declareAll_keeps (P := Broker.NoneAdded q b) ?_ (fun m hm => hm)
  intro f hf b₁ b₂ h hb
  rcases declarations_cases hf h with rfl | hbind | ⟨q',a',hdeclare⟩
  · simpa [Broker.NoneAdded,Broker.messagesOf] using hb
  · simpa [Broker.NoneAdded,Broker.messagesOf,Broker.queues_queueBind hbind] using hb
  · exact fun m hm => hb m (Broker.queueDeclare_noneAdded hdeclare m hm)

theorem declareAll_last {f : RabbitMq → Option RabbitMq} {l : List (RabbitMq → Option RabbitMq)}
    (h : declareAll (l ++ [f]) b = (true,b')) : ∃ b₁, f b₁ = some b' := by
  induction l generalizing b with
  | nil =>
    rw [List.nil_append,declareAll] at h
    split at h
    · rename_i b₁ hf
      exact ⟨_,hf.trans (congrArg some (Prod.mk.inj h).2)⟩
    · cases h
  | cons g l ih =>
    rw [List.cons_append,declareAll] at h
    split at h
    · exact ih h
    · cases h

/-- After a successful startup the timeout queue has no arguments. -/
theorem declareQueues_transferTimeout (h : declareQueues holdTtl b = (true,b')) :
    b'.argumentsOf .transferTimeout = some {} := by
  obtain ⟨b₁,hdeclare⟩ := declareAll_last (l := (declarations holdTtl).dropLast) h
  exact Broker.argumentsOf_queueDeclare hdeclare

/-- The publisher's declaration differs from the one of startup, so every attempt is refused. -/
theorem publishAttempt_refused (hb : b.argumentsOf .transferTimeout = some {})
    (hm : m.queue = .transferTimeout) : publishAttempt timeout now b m = none := by
  cases m <;> simp only [Message.queue,reduceCtorEq] at hm
  have hrefused : b.queueDeclare .transferTimeout (publisherArguments timeout) = none :=
    Broker.queueDeclare_refused hb (by simp [publisherArguments])
  simp [publishAttempt,hrefused]

theorem publishAttempt_argumentsOf (h : publishAttempt timeout now b m = some b')
    (hb : b.argumentsOf q = some a) : b'.argumentsOf q = some a := by
  cases m with
  | transferTimeout i l buyer seller =>
    obtain ⟨b₁,hdeclare,rfl⟩ := Option.map_eq_some_iff.mp h
    simpa using Broker.queueDeclare_keeps hdeclare hb
  | _ =>
    obtain rfl := Option.some.inj h
    simpa using hb

theorem publishAttempt_exchanges (h : publishAttempt timeout now b m = some b') :
    b'.exchanges = b.exchanges := by
  cases m with
  | transferTimeout i l buyer seller =>
    obtain ⟨b₁,hdeclare,rfl⟩ := Option.map_eq_some_iff.mp h
    simpa using Broker.exchanges_queueDeclare hdeclare
  | _ =>
    obtain rfl := Option.some.inj h
    simp

/-- A message that an attempt adds to the timeout queue lapses after the timeout. -/
theorem publishAttempt_messagesOf (h : publishAttempt timeout now b m = some b')
    {n : Queued Message} (hn : n ∈ b'.messagesOf .transferTimeout) :
    n ∈ b.messagesOf .transferTimeout ∨
      n = ⟨m,some (now+timeout)⟩ ∧ (b'.argumentsOf m.queue).isSome := by
  cases m with
  | transferTimeout i l buyer seller =>
    obtain ⟨b₁,hdeclare,rfl⟩ := Option.map_eq_some_iff.mp h
    have hdeclared := Broker.argumentsOf_queueDeclare hdeclare
    rcases Broker.messagesOf_push hn with hold | ⟨-,a,ha,rfl⟩
    · exact .inl (Broker.queueDeclare_noneAdded hdeclare n hold)
    · obtain rfl : publisherArguments timeout = a := Option.some.inj (hdeclared.symm.trans ha)
      exact .inr ⟨by simp [publisherArguments,shorterTtl],by simp [Message.queue,hdeclared]⟩
  | _ =>
    obtain rfl := Option.some.inj h
    exact .inl (Broker.push_noneAdded (by simp [Message.queue]) n hn)

end Declared

end Queues

end TicketRemaster
