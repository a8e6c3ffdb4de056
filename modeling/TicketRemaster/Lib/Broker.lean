import Mathlib.Algebra.Order.Ring.Int
import Mathlib.Logic.Function.Basic
set_option autoImplicit false

/-! A message broker: queues with the arguments they were declared with, messages that lapse,
and exchanges that pass a lapsed message on to the queues bound to them. -/

namespace Messaging

/-- The arguments of a queue declaration. -/
structure QueueArguments (X : Type) where
  messageTtl : Option Int := none
  deadLetterExchange : Option X := none
  deriving DecidableEq

structure Queued (M : Type) where
  body : M
  expiresAt : Option Int

def Queued.lapsed {M : Type} (now : Int) (m : Queued M) : Bool := m.expiresAt.any (· ≤ now)

/-- Messages are listed from the head of the queue. -/
structure Queue (X M : Type) where
  arguments : QueueArguments X
  messages : List (Queued M)

structure Broker (Q X M : Type) where
  queues : Q → Option (Queue X M)
  exchanges : X → Option (List Q)

/-- The TTL of the queue and the one of the message: the shorter counts. -/
def shorterTtl : Option Int → Option Int → Option Int
  | some a, some b => some (min a b)
  | some a, none => some a
  | none, ttl => ttl

namespace Broker

variable {Q X M : Type} {b b' : Broker Q X M} {q r : Q} {x : X} {now : Int}
  {a a' : QueueArguments X} {queue : Queue X M} {body : M} {expiration : Option Int}

def argumentsOf (b : Broker Q X M) (q : Q) : Option (QueueArguments X) :=
  (b.queues q).map (·.arguments)

def messagesOf (b : Broker Q X M) (q : Q) : List (Queued M) :=
  ((b.queues q).map (·.messages)).getD []

/-- Nothing is in the queue that was not there before. -/
def NoneAdded (q : Q) (b b' : Broker Q X M) : Prop :=
  ∀ m, m ∈ b'.messagesOf q → m ∈ b.messagesOf q

/-- No exchange passes messages on to the queue. -/
def Unbound (b : Broker Q X M) (q : Q) : Prop := ∀ x bound, b.exchanges x = some bound → q ∉ bound

theorem argumentsOf_eq_some (h : b.queues q = some queue) :
    b.argumentsOf q = some queue.arguments := by
  simp [argumentsOf,h]

theorem messagesOf_eq (h : b.queues q = some queue) : b.messagesOf q = queue.messages := by
  simp [messagesOf,h]

section Messages

variable [DecidableEq Q]

def setQueue (b : Broker Q X M) (q : Q) (queue : Queue X M) : Broker Q X M :=
  { b with queues := Function.update b.queues q (some queue) }

/-- Append a message; one for a queue that does not exist is dropped. -/
def push (b : Broker Q X M) (q : Q) (now : Int) (expiration : Option Int) (body : M) :
    Broker Q X M :=
  match b.queues q with
  | none => b
  | some queue =>
      let ttl := shorterTtl queue.arguments.messageTtl expiration
      b.setQueue q ⟨queue.arguments,queue.messages ++ [⟨body,ttl.map (now+·)⟩]⟩

/-- A ready consumer gets the head of the queue at once, unless it has lapsed. -/
def deliver (b : Broker Q X M) (q : Q) (now : Int) : Option (M × Broker Q X M) :=
  match b.queues q with
  | some ⟨arguments,m :: ms⟩ =>
      if m.lapsed now then none else some (m.body,b.setQueue q ⟨arguments,ms⟩)
  | _ => none

/-- Take a lapsed message off the head of the queue, and dead-letter it where the queue says so. -/
def lapse (b : Broker Q X M) (q : Q) (now : Int) : Broker Q X M :=
  match b.queues q with
  | some ⟨arguments,m :: ms⟩ =>
      if m.lapsed now then
        let bound := (arguments.deadLetterExchange.bind b.exchanges).getD []
        bound.foldl (fun b q => b.push q now none m.body) (b.setQueue q ⟨arguments,ms⟩)
      else b
  | _ => b

/-- Put a message that was delivered, but not acknowledged, back in its place. -/
def requeue (b : Broker Q X M) (q : Q) (m : Queued M) : Broker Q X M :=
  match b.queues q with
  | none => b
  | some queue => b.setQueue q ⟨queue.arguments,m :: queue.messages⟩

@[simp] theorem exchanges_setQueue : (b.setQueue q queue).exchanges = b.exchanges := rfl

@[simp] theorem argumentsOf_setQueue :
    (b.setQueue q queue).argumentsOf r =
      if r = q then some queue.arguments else b.argumentsOf r := by
  by_cases h : r = q
  · subst h; simp [argumentsOf,setQueue]
  · simp [argumentsOf,setQueue,h]

@[simp] theorem messagesOf_setQueue :
    (b.setQueue q queue).messagesOf r = if r = q then queue.messages else b.messagesOf r := by
  by_cases h : r = q
  · subst h; simp [messagesOf,setQueue]
  · simp [messagesOf,setQueue,h]

theorem argumentsOf_setQueue_same {queue' : Queue X M} (h : b.queues q = some queue)
    (ha : queue'.arguments = queue.arguments) :
    (b.setQueue q queue').argumentsOf r = b.argumentsOf r := by
  by_cases heq : r = q
  · subst heq; simp [argumentsOf_eq_some h,ha]
  · simp [heq]

/-- Taking the head off adds nothing. -/
theorem tail_noneAdded {m : Queued M} {ms : List (Queued M)} (h : b.queues q = some ⟨a,m :: ms⟩) :
    NoneAdded r b (b.setQueue q ⟨a,ms⟩) := by
  intro n hn
  by_cases heq : r = q
  · subst heq
    simp only [messagesOf_setQueue,if_true] at hn
    simp [messagesOf_eq h,hn]
  · simpa [heq] using hn

@[simp] theorem exchanges_push : (b.push q now expiration body).exchanges = b.exchanges := by
  unfold push
  split <;> rfl

@[simp] theorem argumentsOf_push :
    (b.push q now expiration body).argumentsOf r = b.argumentsOf r := by
  unfold push
  split
  · rfl
  · rename_i queue hq
    exact argumentsOf_setQueue_same hq rfl

theorem messagesOf_push {m : Queued M} (hm : m ∈ (b.push q now expiration body).messagesOf r) :
    m ∈ b.messagesOf r ∨ r = q ∧ ∃ a, b.argumentsOf q = some a ∧
      m = ⟨body,(shorterTtl a.messageTtl expiration).map (now+·)⟩ := by
  unfold push at hm
  split at hm
  · exact .inl hm
  · rename_i queue hq
    by_cases heq : r = q
    · subst heq
      simp only [messagesOf_setQueue,if_true,List.mem_append,List.mem_singleton] at hm
      rcases hm with hold | hnew
      · exact .inl (by simpa [messagesOf_eq hq] using hold)
      · exact .inr ⟨rfl,queue.arguments,argumentsOf_eq_some hq,hnew⟩
    · exact .inl (by simpa [heq] using hm)

theorem push_noneAdded (hr : r ≠ q) : NoneAdded r b (b.push q now expiration body) := by
  intro m hm
  rcases messagesOf_push hm with hold | ⟨heq,_⟩
  · exact hold
  · exact absurd heq hr

/-- A delivery hands out a message that has not lapsed, and takes it off the queue. -/
theorem deliver_cases (h : b.deliver q now = some (body,b')) :
    ∃ m ms a, b.queues q = some ⟨a,m :: ms⟩ ∧ m.body = body ∧ m.lapsed now = false ∧
      b' = b.setQueue q ⟨a,ms⟩ := by
  unfold deliver at h
  split at h
  · rename_i a m ms hq
    split at h
    · cases h
    · rename_i hlapsed
      obtain ⟨rfl,rfl⟩ := Prod.mk.inj (Option.some.inj h)
      exact ⟨m,ms,a,hq,rfl,by simpa using hlapsed,rfl⟩
  · cases h

omit [DecidableEq Q] in
theorem queues_eq (h : b.argumentsOf q = some a) : b.queues q = some ⟨a,b.messagesOf q⟩ := by
  obtain ⟨queue,hq,rfl⟩ := Option.map_eq_some_iff.mp h
  rw [hq,messagesOf_eq hq]

/-- The messages after one has been appended to a queue that exists. -/
theorem messagesOf_push_eq (ha : b.argumentsOf q = some a) :
    (b.push q now expiration body).messagesOf r =
      if r = q then
        b.messagesOf q ++ [⟨body,(shorterTtl a.messageTtl expiration).map (now+·)⟩]
      else b.messagesOf r := by
  unfold push
  rw [queues_eq ha]
  simp

theorem messagesOf_push_ne (hr : r ≠ q) :
    (b.push q now expiration body).messagesOf r = b.messagesOf r := by
  unfold push
  split
  · rfl
  · simp [hr]

theorem messagesOf_requeue {m : Queued M} (ha : b.argumentsOf q = some a) :
    (b.requeue q m).messagesOf r =
      if r = q then m :: b.messagesOf q else b.messagesOf r := by
  unfold requeue
  rw [queues_eq ha]
  simp

@[simp] theorem argumentsOf_requeue {m : Queued M} :
    (b.requeue q m).argumentsOf r = b.argumentsOf r := by
  unfold requeue
  split
  · rfl
  · rename_i queue hq
    exact argumentsOf_setQueue_same hq rfl

@[simp] theorem exchanges_requeue {m : Queued M} : (b.requeue q m).exchanges = b.exchanges := by
  unfold requeue
  split <;> rfl

/-- The head of a queue passes to the one queue that its exchange leads to. -/
theorem messagesOf_lapse {m : Queued M} {ms : List (Queued M)} (ha : b.argumentsOf q = some a)
    (hms : b.messagesOf q = m :: ms) (hm : m.lapsed now)
    (hx : a.deadLetterExchange.bind b.exchanges = some [r]) (ha' : b.argumentsOf r = some a')
    (hr : r ≠ q) (s : Q) :
    (b.lapse q now).messagesOf s =
      if s = q then ms
      else if s = r then
        b.messagesOf r ++ [⟨m.body,(shorterTtl a'.messageTtl none).map (now+·)⟩]
      else b.messagesOf s := by
  have hq := queues_eq ha
  rw [hms] at hq
  have hrest : (b.setQueue q ⟨a,ms⟩).argumentsOf r = some a' := by simp [hr,ha']
  unfold lapse
  rw [hq]
  simp only [hm,if_true,hx,Option.getD_some,List.foldl_cons,List.foldl_nil]
  rw [messagesOf_push_eq hrest]
  by_cases hs : s = q
  · subst hs
    simp [Ne.symm hr]
  · simp [hs,hr]

/-- A message that has not lapsed stays at the head. -/
theorem lapse_of_not_lapsed (h : ∀ m ∈ (b.messagesOf q).head?, m.lapsed now = false) :
    b.lapse q now = b := by
  unfold lapse
  split
  · rename_i a m ms hq
    rw [messagesOf_eq hq] at h
    rw [h m rfl]
    rfl
  · rfl

theorem deliver_head {m : Queued M} {ms : List (Queued M)} (ha : b.argumentsOf q = some a)
    (hms : b.messagesOf q = m :: ms) (hm : m.lapsed now = false) :
    b.deliver q now = some (m.body,b.setQueue q ⟨a,ms⟩) := by
  have hq := queues_eq ha
  rw [hms] at hq
  unfold deliver
  rw [hq]
  simp [hm]

section DeadLetters

variable {bound : List Q}

@[simp] theorem exchanges_foldl_push :
    (bound.foldl (fun b q => b.push q now none body) b).exchanges = b.exchanges := by
  induction bound generalizing b with
  | nil => rfl
  | cons q bound ih => simp [ih]

@[simp] theorem argumentsOf_foldl_push :
    (bound.foldl (fun b q => b.push q now none body) b).argumentsOf r = b.argumentsOf r := by
  induction bound generalizing b with
  | nil => rfl
  | cons q bound ih => simp [ih]

theorem foldl_push_noneAdded (hr : r ∉ bound) :
    NoneAdded r b (bound.foldl (fun b q => b.push q now none body) b) := by
  induction bound generalizing b with
  | nil => exact fun m hm => hm
  | cons q bound ih =>
    simp only [List.mem_cons,not_or] at hr
    intro m hm
    exact push_noneAdded hr.1 m (ih hr.2 m hm)

end DeadLetters

@[simp] theorem exchanges_lapse : (b.lapse q now).exchanges = b.exchanges := by
  unfold lapse
  split
  · split
    · simp
    · rfl
  · rfl

@[simp] theorem argumentsOf_lapse : (b.lapse q now).argumentsOf r = b.argumentsOf r := by
  unfold lapse
  split
  · rename_i a m ms hq
    split
    · rw [argumentsOf_foldl_push]
      exact argumentsOf_setQueue_same hq rfl
    · rfl
  · rfl

/-- A queue that no exchange leads to gets no dead letters. -/
theorem lapse_noneAdded (hr : b.Unbound r) : NoneAdded r b (b.lapse q now) := by
  intro n hn
  unfold lapse at hn
  split at hn
  · rename_i a m ms hq
    split at hn
    · have hunbound : r ∉ (a.deadLetterExchange.bind b.exchanges).getD [] := by
        cases hx : a.deadLetterExchange.bind b.exchanges with
        | none => simp
        | some bound =>
          obtain ⟨x,_,hbound⟩ := Option.bind_eq_some_iff.mp hx
          simpa using hr x bound hbound
      exact tail_noneAdded hq n (foldl_push_noneAdded hunbound n hn)
    · exact hn
  · exact hn

end Messages

section Topology

variable [DecidableEq X]

/-- All exchanges are fanout exchanges. -/
def exchangeDeclare (b : Broker Q X M) (x : X) : Broker Q X M :=
  match b.exchanges x with
  | none => { b with exchanges := Function.update b.exchanges x (some []) }
  | some _ => b

@[simp] theorem queues_exchangeDeclare : (b.exchangeDeclare x).queues = b.queues := by
  unfold exchangeDeclare
  split <;> rfl

theorem unbound_exchangeDeclare (h : b.Unbound r) : (b.exchangeDeclare x).Unbound r := by
  unfold exchangeDeclare
  split
  · intro y bound hy
    by_cases heq : y = x
    · subst heq
      obtain rfl : [] = bound := by simpa using hy
      simp
    · exact h y bound (by simpa [heq] using hy)
  · exact h

variable [DecidableEq Q]

/-- A queue that exists can only be declared again with the same arguments. -/
def queueDeclare (b : Broker Q X M) (q : Q) (arguments : QueueArguments X) :
    Option (Broker Q X M) :=
  match b.queues q with
  | none => some (b.setQueue q ⟨arguments,[]⟩)
  | some queue => if queue.arguments = arguments then some b else none

def queueBind (b : Broker Q X M) (q : Q) (x : X) : Option (Broker Q X M) :=
  match b.queues q, b.exchanges x with
  | some _, some bound =>
      some { b with exchanges := Function.update b.exchanges x (some (bound.insert q)) }
  | _, _ => none

theorem queueDeclare_cases (h : b.queueDeclare q a = some b') :
    b' = b ∧ b.argumentsOf q = some a ∨ b.queues q = none ∧ b' = b.setQueue q ⟨a,[]⟩ := by
  unfold queueDeclare at h
  split at h
  · rename_i hq
    exact .inr ⟨hq,(Option.some.inj h).symm⟩
  · rename_i queue hq
    split at h
    · rename_i hsame
      exact .inl ⟨(Option.some.inj h).symm,by simp [argumentsOf,hq,hsame]⟩
    · cases h

/-- Declaring an existing queue again with other arguments is refused. -/
theorem queueDeclare_refused (h : b.argumentsOf q = some a) (ha : a ≠ a') :
    b.queueDeclare q a' = none := by
  unfold argumentsOf at h
  unfold queueDeclare
  cases hq : b.queues q with
  | none => simp [hq] at h
  | some queue =>
    obtain rfl : queue.arguments = a := by simpa [hq] using h
    simp [ha]

theorem argumentsOf_queueDeclare (h : b.queueDeclare q a = some b') :
    b'.argumentsOf q = some a := by
  rcases queueDeclare_cases h with ⟨rfl,hsame⟩ | ⟨_,rfl⟩
  · exact hsame
  · simp

/-- Arguments last: whatever is declared later, a queue keeps its own. -/
theorem queueDeclare_keeps (h : b.queueDeclare q a = some b') (hr : b.argumentsOf r = some a') :
    b'.argumentsOf r = some a' := by
  rcases queueDeclare_cases h with ⟨rfl,_⟩ | ⟨hq,rfl⟩
  · exact hr
  · by_cases heq : r = q
    · subst heq
      simp [argumentsOf,hq] at hr
    · simpa [heq] using hr

theorem exchanges_queueDeclare (h : b.queueDeclare q a = some b') :
    b'.exchanges = b.exchanges := by
  rcases queueDeclare_cases h with ⟨rfl,_⟩ | ⟨_,rfl⟩ <;> rfl

theorem queueDeclare_noneAdded (h : b.queueDeclare q a = some b') : NoneAdded r b b' := by
  rcases queueDeclare_cases h with ⟨rfl,_⟩ | ⟨_,rfl⟩
  · exact fun m hm => hm
  · intro m hm
    by_cases heq : r = q
    · simp [heq] at hm
    · simpa [heq] using hm

theorem queues_queueBind (h : b.queueBind q x = some b') : b'.queues = b.queues := by
  unfold queueBind at h
  split at h
  · obtain rfl := Option.some.inj h
    rfl
  · cases h

theorem unbound_queueBind (h : b.queueBind q x = some b') (hr : b.Unbound r) (hrq : r ≠ q) :
    b'.Unbound r := by
  unfold queueBind at h
  split at h
  · rename_i bound _ hx
    obtain rfl := Option.some.inj h
    intro y bound' hy
    by_cases heq : y = x
    · subst heq
      obtain rfl : bound.insert q = bound' := by simpa using hy
      simp [hrq,hr y bound hx]
    · exact hr y bound' (by simpa [heq] using hy)
  · cases h

end Topology

end Broker

end Messaging
