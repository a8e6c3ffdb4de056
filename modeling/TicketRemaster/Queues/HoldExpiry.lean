import TicketRemaster.Purchase.Calls
import TicketRemaster.Queues.HoldQueue
set_option autoImplicit false

/-! Whatever order requests, broker and consumers act in: an expired hold is all that the consumers
take away, and they and the broker alone can bring every published hold to its end. -/

namespace TicketRemaster.Queues

open Messaging Resumption SeatInventory

section Discipline

variable {α : Type} {h : List (Entry Platform)} {duration : Int}

/-- The run was told that its hold was granted, with this token. -/
def Granted (h : List (Entry Platform)) (inventoryId : InventoryId) (userId : UserId)
    (holdToken : HoldToken) : Prop :=
  ∃ d resp, (⟨.seatRpc inventoryId (.holdSeat ⟨userId,d⟩),some (.hold resp)⟩ :
    Entry Platform) ∈ h ∧ resp.success ∧ resp.holdToken = holdToken

/-- Holds are asked for with the configured duration, and published once they are granted. -/
def HoldOk (duration : Int) (h : List (Entry Platform)) : Call → Prop
  | .seatRpc _ (.holdSeat req) => holdSeconds req = duration
  | .publish (.seatHold inventoryId userId holdToken) => Granted h inventoryId userId holdToken
  | _ => True

/-- A call that has nothing to do with new holds. -/
def NoHold : Call → Prop
  | .seatRpc _ (.holdSeat _) => False
  | .publish (.seatHold _ _ _) => False
  | _ => True

abbrev HoldFollows (duration : Int) (p : Handler α) (h : List (Entry Platform)) : Prop :=
  p.Follows (HoldOk duration) (fun _ _ _ => True) (fun _ _ => True) (fun _ _ => True) h

theorem noHold_follows {p : Handler α} (hp : p.Calls NoHold (fun _ => True)) :
    HoldFollows duration p h := by
  refine (hp.follows (J := fun _ => True) ?_ (fun _ _ _ _ _ => trivial) trivial).mono
    (fun _ _ _ => trivial) (fun _ _ _ => trivial)
  intro h q hq _
  cases q with
  | seatRpc i call =>
    cases call with
    | holdSeat req => exact hq.elim
    | _ => trivial
  | publish m =>
    cases m with
    | seatHold i u token => exact hq.elim
    | _ => trivial
  | _ => trivial

theorem confirmCall_noHold {req : Purchase.ConfirmRequest} {q : Call}
    (hq : Purchase.ConfirmCall req q) : NoHold q := by
  cases hq <;> trivial

theorem publishAttempts_follows {inventoryId : InventoryId} {userId : UserId}
    {holdToken : HoldToken} (hgranted : Granted h inventoryId userId holdToken) (n : Nat) :
    HoldFollows duration (publishAttempts (.seatHold inventoryId userId holdToken) n) h := by
  induction n generalizing h with
  | zero => trivial
  | succ n ih =>
    refine ⟨hgranted,fun published _ => ?_⟩
    cases published with
    | true => trivial
    | false =>
      obtain ⟨d,resp,hmem,hrest⟩ := hgranted
      exact ih ⟨d,resp,List.mem_cons_of_mem _ hmem,hrest⟩

theorem holdSeat_follows (hpos : 0 < duration) (userId : UserId) (inventoryId : InventoryId) :
    HoldFollows duration (Purchase.holdSeat duration userId inventoryId) h := by
  refine Prog.follows_bind.mpr ⟨if_pos hpos,fun reply _ => ?_⟩
  match reply with
  | none => trivial
  | some (.spend success) => trivial
  | some (.status r) => trivial
  | some (.hold resp) =>
    refine Prog.follows_ite (fun hsuccess => ?_) (fun _ => trivial)
    have hgranted : Granted (⟨.seatRpc inventoryId (.holdSeat ⟨userId,duration⟩),
        some (.hold resp)⟩ :: h) inventoryId userId resp.holdToken :=
      ⟨duration,resp,List.mem_cons_self,hsuccess,rfl⟩
    exact Prog.follows_bind.mpr ((publishAttempts_follows hgranted 3).mono
      (fun _ _ _ => trivial) (fun _ _ _ => trivial))

/-- Everything but the consumer's own request keeps to the discipline. -/
theorem handler_follows (hpos : 0 < duration) (r : Purchase.Request)
    (hr : ∀ inventoryId userId holdToken, r ≠ .expiredHold inventoryId userId holdToken) :
    HoldFollows duration (r.handler duration) [] := by
  cases r with
  | holdSeat userId inventoryId =>
    exact Prog.follows_map.mpr (holdSeat_follows hpos userId inventoryId)
  | releaseHold userId inventoryId holdToken =>
    exact Prog.follows_map.mpr (noHold_follows (Purchase.releaseHold_calls trivial))
  | confirmPurchase req =>
    exact Prog.follows_map.mpr (noHold_follows ((Purchase.confirmPurchase_calls req).mono
      (fun _ => confirmCall_noHold) fun _ _ => trivial))
  | expiredHold inventoryId userId holdToken => exact absurd rfl (hr _ _ _)
  | seatStatus inventoryId =>
    exact Prog.follows_map.mpr (noHold_follows (Purchase.getSeatStatus_calls trivial))

end Discipline

section Seats

variable {e : Env} {i : InventoryId} {q : Call} {v v' : SeatView} {asked : List AskedHold}
  {x y : AskedHold}

/-- The seat is held under the token of this hold. -/
def Holds (v : SeatView) (x : AskedHold) : Prop :=
  ∃ r, v.1 = some r ∧ r.holdToken = some (.uuid x.uuid)

/-- A release under the token of this hold was refused, and the answer kept. -/
def Refused (v : SeatView) (x : AskedHold) : Prop :=
  ∃ t, v.2.lookup (.uuid x.uuid) = some (false,t)

/-- No two holds were given the same token. -/
def Distinct (asked : List AskedHold) : Prop :=
  ∀ x ∈ asked, ∀ y ∈ asked, x.uuid = y.uuid → x = y

/-- A held row shows the hold it was held for, and where a release is known to have succeeded, the
row is not held under its token any more. -/
structure SeatSound (asked : List AskedHold) (i : InventoryId) (v : SeatView) : Prop where
  row (r : SeatInventory) (holdToken : HoldToken) : v.1 = some r → r.holdToken = some holdToken →
    ∃ x ∈ asked, x.inventoryId = i ∧ holdToken = .uuid x.uuid ∧
      r = heldFor r x.userId (.uuid x.uuid) x.heldUntil
  answers (holdToken : HoldToken) (t : Time) : v.2.lookup holdToken = some (true,t) →
    (∃ x ∈ asked, holdToken = .uuid x.uuid) ∧ ∀ r, v.1 = some r → r.holdToken ≠ some holdToken

theorem storedAnswer_lookup {e : SeatEnv} {answers : Answers} {holdToken token : HoldToken}
    {success success' : Bool} {t : Time}
    (h : (storedAnswer e answers holdToken success).lookup token = some (success',t)) :
    token = holdToken ∧ success' = success ∨ answers.lookup token = some (success',t) := by
  unfold storedAnswer at h
  split at h
  · rcases Table.lookup_insert_cases h with ⟨rfl,heq⟩ | ⟨-,hold⟩
    · exact .inl ⟨rfl,congrArg Prod.fst heq⟩
    · exact .inr hold
  · exact .inr h

/-- A token that was asked for before is not the one drawn now. -/
def Fresh (e : Env) (q : Call) (asked : List AskedHold) : Prop :=
  ∀ x, HoldSystem.asks e q = some x → ∀ y ∈ asked, y.uuid ≠ x.uuid

/-- A row without a token says nothing. -/
theorem SeatSound.freed {r r' : SeatInventory} {answers : Answers}
    (h : SeatSound asked i (some r,answers)) (hr' : r'.holdToken = none) :
    SeatSound asked i (some r',answers) := by
  refine ⟨fun r'' token hr ht => ?_,fun token t ht => ⟨(h.answers token t ht).1,?_⟩⟩
  · obtain rfl := Option.some.inj hr
    rw [hr'] at ht
    cases ht
  · intro r'' hr htoken
    obtain rfl := Option.some.inj hr
    rw [hr'] at htoken
    cases htoken

theorem SeatSound.step (h : SeatSound asked i v) (hstep : SeatStep e i q v v')
    (hfresh : Fresh e q asked) :
    SeatSound ((HoldSystem.asks e q).toList ++ asked) i v' := by
  have hold {P : AskedHold → Prop} (hx : ∃ x ∈ asked, P x) :
      ∃ x ∈ (HoldSystem.asks e q).toList ++ asked, P x := by
    obtain ⟨x,hx,hP⟩ := hx
    exact ⟨x,List.mem_append_right _ hx,hP⟩
  cases hstep with
  | same =>
    exact ⟨fun r token hr ht => hold (h.row r token hr ht),
      fun token t ht => (h.answers token t ht).imp_left hold⟩
  | hold req r answers =>
    refine ⟨fun r' token hr ht => ?_,fun token t ht => ?_⟩
    · obtain rfl := Option.some.inj hr
      obtain rfl := Option.some.inj ht
      exact ⟨_,List.mem_append_left _ (by simp [HoldSystem.asks]; rfl),rfl,rfl,rfl⟩
    · obtain ⟨⟨x,hx,rfl⟩,-⟩ := h.answers token t ht
      refine ⟨hold ⟨x,hx,rfl⟩,fun r' hr htoken => ?_⟩
      obtain rfl := Option.some.inj hr
      have heq : e.uuid = x.uuid := by simpa [heldFor] using htoken
      exact hfresh _ rfl x hx heq.symm
  | sell req r answers hm => exact h.freed rfl
  | expire r answers hexp => exact h.freed rfl
  | refuse req row answers hkept hrow =>
    refine ⟨fun r token hr ht => hold (h.row r token hr ht),fun token t ht => ?_⟩
    rcases storedAnswer_lookup ht with ⟨-,hfalse⟩ | hbefore
    · cases hfalse
    · exact (h.answers token t hbefore).imp_left hold
  | release req r answers hkept hm =>
    refine ⟨fun r' token hr ht => ?_,fun token t ht => ⟨?_,fun r' hr htoken => ?_⟩⟩
    · obtain rfl := Option.some.inj hr
      cases ht
    · rcases storedAnswer_lookup ht with ⟨rfl,-⟩ | hbefore
      · obtain ⟨x,hx,-,htoken,-⟩ := h.row r req.holdToken rfl (holdMatches_iff.mp hm).2.2
        exact hold ⟨x,hx,htoken⟩
      · exact hold (h.answers token t hbefore).1
    · obtain rfl := Option.some.inj hr
      cases htoken

/-- A hold that is still there was there before, and a refusal of its release stays. -/
theorem Holds.before (hstep : SeatStep e i q v v') (hfresh : Fresh e q asked) (hx : x ∈ asked)
    (hholds : Holds v' x) : Holds v x ∧ (Refused v x → Refused v' x) := by
  obtain ⟨r',hr',htoken⟩ := hholds
  cases hstep with
  | same => exact ⟨⟨r',hr',htoken⟩,id⟩
  | hold req r answers =>
    obtain rfl := Option.some.inj hr'
    have heq : e.uuid = x.uuid := by simpa [heldFor] using htoken
    exact absurd heq.symm (hfresh _ rfl x hx)
  | sell req r answers hm =>
    obtain rfl := Option.some.inj hr'
    cases htoken
  | expire r answers hexp =>
    obtain rfl := Option.some.inj hr'
    cases htoken
  | refuse req row answers hkept hrow =>
    refine ⟨⟨r',hr',htoken⟩,fun hrefused => ?_⟩
    obtain ⟨t,ht⟩ := hrefused
    by_cases hsame : HoldToken.uuid x.uuid = req.holdToken
    · unfold Refused storedAnswer
      split
      · exact ⟨_,by rw [hsame]; exact AList.lookup_insert _⟩
      · exact ⟨t,ht⟩
    · unfold Refused storedAnswer
      split
      · exact ⟨t,by rw [AList.lookup_insert_ne hsame]; exact ht⟩
      · exact ⟨t,ht⟩
  | release req r answers hkept hm =>
    obtain rfl := Option.some.inj hr'
    cases htoken

/-- After an answered release for a hold, the seat is not held under its token any more, or an
earlier refusal was found. -/
theorem SeatSound.released (h : SeatSound asked x.inventoryId v) (hdistinct : Distinct asked)
    (hx : x ∈ asked)
    (hholds : Holds (releaseRow e.seat ⟨x.userId,.uuid x.uuid⟩ v.1 v.2).2 x) :
    Refused (releaseRow e.seat ⟨x.userId,.uuid x.uuid⟩ v.1 v.2).2 x := by
  unfold releaseRow at hholds ⊢
  cases hkept : keptAnswer e.seat v.2 (.uuid x.uuid) with
  | some success =>
    simp only [hkept] at hholds ⊢
    obtain ⟨r,hr,htoken⟩ := hholds
    obtain ⟨t,ht⟩ := keptAnswer_lookup hkept
    cases success with
    | true => exact absurd htoken ((h.answers _ t ht).2 r hr)
    | false => exact ⟨t,ht⟩
  | none =>
    simp only [hkept] at hholds ⊢
    cases hm : v.1.filter (holdMatches · ⟨x.userId,.uuid x.uuid⟩) with
    | some r =>
      simp only [hm] at hholds
      obtain ⟨r',hr',htoken⟩ := hholds
      obtain rfl := Option.some.inj hr'
      cases htoken
    | none =>
      simp only [hm] at hholds
      obtain ⟨r,hr,htoken⟩ := hholds
      obtain ⟨y,hy,-,huuid,hrow⟩ := h.row r _ hr htoken
      obtain rfl := hdistinct x hx y hy (by simpa using huuid)
      have hmatches : holdMatches r ⟨x.userId,.uuid x.uuid⟩ := by
        rw [hrow]
        simp [holdMatches,heldFor]
      have hfilter := Option.filter_eq_none_iff.mp hm r hr
      exact absurd hmatches hfilter

end Seats

section Mail

variable {setting : Option Int} {s : HoldSystem} {x : AskedHold} {m : Message} {now : Time}

/-- The message is about one of these holds. -/
def Named (asked : List AskedHold) (m : Message) : Prop := ∃ x ∈ asked, m = x.message

/-- The message is about one of these holds, whose time is over. -/
def Over (asked : List AskedHold) (clock : Time) (m : Message) : Prop :=
  ∃ x ∈ asked, m = x.message ∧ x.heldUntil ≤ clock

theorem Over.mono {asked asked' : List AskedHold} {clock clock' : Time} (h : Over asked clock m)
    (hasked : ∀ x ∈ asked, x ∈ asked') (hclock : clock ≤ clock') : Over asked' clock' m := by
  obtain ⟨x,hx,hm,hle⟩ := h
  exact ⟨x,hasked x hx,hm,hle.trans hclock⟩

/-- Messages wait at least as long as their holds last, and only then get to the consumers. -/
structure Mail (setting : Option Int) (s : HoldSystem) : Prop where
  declared : Declared (holdTtl setting) s.broker
  running (x : AskedHold) : x ∈ s.asked → x.heldUntil ≤ s.clock+seconds (holdDuration setting)
  waiting (n : Queued Message) : n ∈ s.broker.messagesOf .seatHoldTtl →
    ∃ x ∈ s.asked, n.body = x.message ∧ ∃ t, n.expiresAt = some t ∧ x.heldUntil ≤ t
  due (n : Queued Message) : n ∈ s.broker.messagesOf .seatHoldExpired →
    n.expiresAt = none ∧ Over s.asked s.clock n.body
  handled (m : Message) : m ∈ s.handling → Over s.asked s.clock m
  named (m : Message) : m ∈ s.enqueued → m.queue = .seatHoldTtl → Named s.asked m

/-- Where a message is that its consumer has not dealt with, or gave up. -/
def Pending (s : HoldSystem) (m : Message) : Prop :=
  (∃ n ∈ s.broker.messagesOf .seatHoldTtl, n.body = m) ∨
    (∃ n ∈ s.broker.messagesOf .seatHoldExpired, n.body = m) ∨ m ∈ s.handling ∨ m ∈ s.lost

/-- No published hold is forgotten. -/
def Accounted (s : HoldSystem) : Prop :=
  ∀ x ∈ s.asked, x.message ∈ s.enqueued → Holds (s.world.seatView x.inventoryId) x →
    Pending s x.message ∨ Refused (s.world.seatView x.inventoryId) x

structure HoldSound (setting : Option Int) (s : HoldSystem) : Prop where
  distinct : Distinct s.asked
  seats (i : InventoryId) : SeatSound s.asked i (s.world.seatView i)
  mail : Mail setting s
  accounted : Accounted s

/-- What the requests were told about their holds. -/
def Replied {ι : Type} (s : HoldSystem) (past : ι → List (Entry Platform)) : Prop :=
  ∀ i inventoryId userId holdToken, Granted (past i) inventoryId userId holdToken →
    ∃ x ∈ s.asked, Message.seatHold inventoryId userId holdToken = x.message

/-- What a run keeps of the world and the broker, and of what each request was told. -/
def RunSound {ι : Type} (setting : Option Int) (s : HoldSystem)
    (past : ι → List (Entry Platform)) : Prop :=
  HoldSound setting s ∧ Replied s past

theorem Mail.later (h : Mail setting s) (hnow : s.clock ≤ now) :
    Mail setting { s with clock := now } where
  declared := h.declared
  running x hx := (h.running x hx).trans (by simpa using hnow)
  waiting := h.waiting
  due n hn := ⟨(h.due n hn).1,(h.due n hn).2.mono (fun _ hx => hx) hnow⟩
  handled m hm := (h.handled m hm).mono (fun _ hx => hx) hnow
  named := h.named

theorem HoldSound.later (h : HoldSound setting s) (hnow : s.clock ≤ now) :
    HoldSound setting { s with clock := now } :=
  ⟨h.distinct,h.seats,h.mail.later hnow,h.accounted⟩

theorem holdDuration_le_holdTtl (setting : Option Int) :
    seconds (holdDuration setting) ≤ holdTtl setting := by
  cases setting <;> simp [holdDuration,holdTtl,seconds]

/-- The message queue of a published hold, where the broker has what startup declares. -/
theorem messagesOf_publish (h : Declared (holdTtl setting) s.broker) (t : Time) (m : Message) :
    (s.broker.push m.queue t none m).messagesOf .seatHoldExpired =
        s.broker.messagesOf .seatHoldExpired ∧
      (s.broker.push m.queue t none m).messagesOf .seatHoldTtl =
        if m.queue = .seatHoldTtl then
          s.broker.messagesOf .seatHoldTtl ++ [⟨m,some (t+holdTtl setting)⟩]
        else s.broker.messagesOf .seatHoldTtl := by
  refine ⟨Broker.messagesOf_push_ne (by cases m <;> simp [Message.queue]),?_⟩
  by_cases hm : m.queue = .seatHoldTtl
  · rw [hm,Broker.messagesOf_push_eq (h.arguments .seatHoldTtl)]
    simp [shorterTtl]
  · rw [if_neg hm,Broker.messagesOf_push_ne (Ne.symm hm)]

/-- A hold may be published for as long as it runs. -/
theorem HoldSound.published (h : HoldSound setting s) {m : Message}
    (hm : m.queue = .seatHoldTtl → Named s.asked m) :
    HoldSound setting { s with
      broker := s.broker.push m.queue s.clock none m
      enqueued := if (s.broker.argumentsOf m.queue).isSome then m :: s.enqueued
        else s.enqueued } := by
  obtain ⟨hexpired,httl⟩ := messagesOf_publish h.mail.declared s.clock m
  have henqueued {m' : Message} (hm' : m' ∈ (if (s.broker.argumentsOf m.queue).isSome then
      m :: s.enqueued else s.enqueued)) : m' = m ∨ m' ∈ s.enqueued := by
    split at hm'
    · exact List.mem_cons.mp hm'
    · exact .inr hm'
  refine ⟨h.distinct,h.seats,⟨h.mail.declared.push _ _,h.mail.running,fun n hn => ?_,fun n hn => ?_,
    h.mail.handled,fun m' hm' hq => ?_⟩,fun x hx hpub hholds => ?_⟩
  · rw [httl] at hn
    split at hn
    · rename_i hq
      rcases List.mem_append.mp hn with hn | hn
      · exact h.mail.waiting n hn
      · obtain rfl := List.mem_singleton.mp hn
        obtain ⟨x,hx,rfl⟩ := hm hq
        refine ⟨x,hx,rfl,_,rfl,(h.mail.running x hx).trans ?_⟩
        have hle := holdDuration_le_holdTtl setting
        simpa using hle
    · exact h.mail.waiting n hn
  · rw [hexpired] at hn
    exact h.mail.due n hn
  · rcases henqueued hm' with rfl | hold
    · exact hm hq
    · exact h.mail.named m' hold hq
  · rcases henqueued hpub with rfl | hold
    · refine .inl (.inl ⟨⟨x.message,some (s.clock+holdTtl setting)⟩,?_,rfl⟩)
      rw [httl,if_pos (show x.message.queue = .seatHoldTtl from rfl)]
      simp
    · rcases h.accounted x hx hold hholds with (⟨n,hn,hbody⟩ | hrest) | hrefused
      · refine .inl (.inl ⟨n,?_,hbody⟩)
        rw [httl]
        split
        · exact List.mem_append_left _ hn
        · exact hn
      · refine .inl (.inr ?_)
        rw [hexpired]
        exact hrest
      · exact .inr hrefused

/-- A lapsed message passes on to the consumers' queue. -/
theorem HoldSound.lapse (h : HoldSound setting s) (hnow : s.clock ≤ now) :
    HoldSound setting { s with clock := now, broker := s.broker.lapse .seatHoldTtl now } := by
  have hlater := h.later hnow
  cases hms : s.broker.messagesOf .seatHoldTtl with
  | nil =>
    rw [Broker.lapse_of_not_lapsed (by simp [hms])]
    exact hlater
  | cons n ms =>
    cases hn : n.lapsed now with
    | false =>
      rw [Broker.lapse_of_not_lapsed (by simp [hms,hn])]
      exact hlater
    | true =>
      have hdecl := h.mail.declared
      have hmessages := Broker.messagesOf_lapse (hdecl.arguments .seatHoldTtl) hms hn
        (hdecl.exchanges .seatHoldDlx) (hdecl.arguments .seatHoldExpired) (by decide)
      obtain ⟨x,hx,hbody,t,ht,hle⟩ := h.mail.waiting n (by simp [hms])
      have hnow' : t ≤ now := by simpa [Queued.lapsed,ht] using hn
      refine ⟨h.distinct,h.seats,⟨hdecl.lapse _,hlater.mail.running,fun n' hn' => ?_,
        fun n' hn' => ?_,hlater.mail.handled,h.mail.named⟩,fun y hy hpub hholds => ?_⟩
      · rw [hmessages,if_pos rfl] at hn'
        exact h.mail.waiting n' (by simp [hms,hn'])
      · rw [hmessages,if_neg (by decide),if_pos rfl] at hn'
        rcases List.mem_append.mp hn' with hold | hnew
        · exact hlater.mail.due n' hold
        · obtain rfl := List.mem_singleton.mp hnew
          exact ⟨rfl,x,hx,hbody,hle.trans hnow'⟩
      · rcases h.accounted y hy hpub hholds with (⟨n',hn',hbody'⟩ | ⟨n',hn',hbody'⟩ | hrest) | hr
        · rw [hms] at hn'
          rcases List.mem_cons.mp hn' with rfl | htail
          · refine .inl (.inr (.inl ⟨⟨n'.body,none⟩,?_,hbody'⟩))
            rw [hmessages,if_neg (by decide),if_pos rfl]
            simp [shorterTtl]
          · refine .inl (.inl ⟨n',?_,hbody'⟩)
            rw [hmessages,if_pos rfl]
            exact htail
        · refine .inl (.inr (.inl ⟨n',?_,hbody'⟩))
          rw [hmessages,if_neg (by decide),if_pos rfl]
          exact List.mem_append_left _ hn'
        · exact .inl (.inr (.inr hrest))
        · exact .inr hr

theorem HoldSound.deliver (h : HoldSound setting s) (hnow : s.clock ≤ now) {m : Message}
    {b : RabbitMq} (hd : s.broker.deliver .seatHoldExpired now = some (m,b)) :
    HoldSound setting { s with clock := now, handling := m :: s.handling, broker := b } := by
  have hlater := h.later hnow
  obtain ⟨n,ms,a,hq,rfl,-,rfl⟩ := Broker.deliver_cases hd
  have hms : s.broker.messagesOf .seatHoldExpired = n :: ms := Broker.messagesOf_eq hq
  refine ⟨h.distinct,h.seats,⟨?_,hlater.mail.running,fun n' hn' => ?_,fun n' hn' => ?_,
    fun m' hm' => ?_,h.mail.named⟩,fun x hx hpub hholds => ?_⟩
  · exact h.mail.declared.congr (fun _ => Broker.argumentsOf_setQueue_same hq rfl) rfl
  · exact h.mail.waiting n' (by simpa using hn')
  · exact hlater.mail.due n' (by simp at hn'; simp [hms,hn'])
  · rcases List.mem_cons.mp hm' with rfl | hold
    · exact (hlater.mail.due n (by simp [hms])).2
    · exact hlater.mail.handled m' hold
  · rcases h.accounted x hx hpub hholds with (hwaiting | ⟨n',hn',hbody⟩ | hhandled | hlost) | hr
    · exact .inl (.inl (by simpa using hwaiting))
    · rw [hms] at hn'
      rcases List.mem_cons.mp hn' with rfl | htail
      · exact .inl (.inr (.inr (.inl (by simp [hbody]))))
      · exact .inl (.inr (.inl ⟨n',by simpa using htail,hbody⟩))
    · exact .inl (.inr (.inr (.inl (List.mem_cons_of_mem _ hhandled))))
    · exact .inl (.inr (.inr (.inr hlost)))
    · exact .inr hr

/-- A call at one of the services, whatever it does to the seats. -/
theorem HoldSound.called (h : HoldSound setting s) {e : Env} {q : Call} {w : World}
    (hstep : ∀ i, SeatStep e i q (s.world.seatView i) (w.seatView i)) (hnow : s.clock ≤ e.time)
    (hfresh : Fresh e q s.asked)
    (hlasts : ∀ x, HoldSystem.asks e q = some x →
      x.heldUntil ≤ e.time+seconds (holdDuration setting)) :
    HoldSound setting { s with
      world := w
      clock := e.time
      asked := (HoldSystem.asks e q).toList ++ s.asked } := by
  have hgrows : ∀ x ∈ s.asked, x ∈ (HoldSystem.asks e q).toList ++ s.asked :=
    fun x hx => List.mem_append_right _ hx
  have hlater := (h.later hnow).mail
  refine ⟨?_,fun i => (h.seats i).step (hstep i) hfresh,⟨h.mail.declared,fun x hx => ?_,
    fun n hn => ?_,fun n hn => ⟨(hlater.due n hn).1,(hlater.due n hn).2.mono hgrows le_rfl⟩,
    fun m hm => (hlater.handled m hm).mono hgrows le_rfl,fun m hm hq => ?_⟩,
    fun x hx hpub hholds => ?_⟩
  · intro x hx y hy hxy
    rcases List.mem_append.mp hx with hnew | hold <;> rcases List.mem_append.mp hy with hnew' | hold'
    · exact Option.some.inj ((Option.mem_toList.mp hnew).symm.trans (Option.mem_toList.mp hnew'))
    · exact absurd hxy.symm (hfresh x (Option.mem_toList.mp hnew) y hold')
    · exact absurd hxy (hfresh y (Option.mem_toList.mp hnew') x hold)
    · exact h.distinct x hold y hold' hxy
  · rcases List.mem_append.mp hx with hnew | hold
    · exact hlasts x (Option.mem_toList.mp hnew)
    · exact hlater.running x hold
  · obtain ⟨x,hx,hn'⟩ := h.mail.waiting n hn
    exact ⟨x,hgrows x hx,hn'⟩
  · obtain ⟨x,hx,hm'⟩ := h.mail.named m hm hq
    exact ⟨x,hgrows x hx,hm'⟩
  · rcases List.mem_append.mp hx with hnew | hold
    · -- the message of a new hold cannot have been published yet
      obtain ⟨y,hy,hxy⟩ := h.mail.named x.message hpub rfl
      exact absurd (AskedHold.message_eq.mp hxy).2.2.symm (hfresh x (Option.mem_toList.mp hnew) y hy)
    · obtain ⟨hbefore,hrefused⟩ := Holds.before (hstep x.inventoryId) hfresh hold hholds
      exact (h.accounted x hold hpub hbefore).imp id hrefused

/-- With one message less in the consumers' hands, everything else is where it was. -/
theorem Accounted.erase (h : Accounted s) (m : Message) (hx : x ∈ s.asked)
    (hpub : x.message ∈ s.enqueued) (hholds : Holds (s.world.seatView x.inventoryId) x) :
    x.message = m ∨ Pending { s with handling := s.handling.erase m } x.message ∨
      Refused (s.world.seatView x.inventoryId) x := by
  by_cases hm : x.message = m
  · exact .inl hm
  · rcases h x hx hpub hholds with (hwaiting | hdue | hhandled | hlost) | hr
    · exact .inr (.inl (.inl hwaiting))
    · exact .inr (.inl (.inr (.inl hdue)))
    · exact .inr (.inl (.inr (.inr (.inl ((List.mem_erase_of_ne hm).mpr hhandled)))))
    · exact .inr (.inl (.inr (.inr (.inr hlost))))
    · exact .inr (.inr hr)

/-- A message that was not acknowledged is delivered again. -/
theorem HoldSound.requeued (h : HoldSound setting s) (hm : m ∈ s.handling) :
    HoldSound setting { s with
      handling := s.handling.erase m
      broker := s.broker.requeue .seatHoldExpired ⟨m,none⟩ } := by
  have hmessages {q : QueueName} := Broker.messagesOf_requeue (r := q)
    (m := (⟨m,none⟩ : Queued Message)) (h.mail.declared.arguments .seatHoldExpired)
  refine ⟨h.distinct,h.seats,⟨h.mail.declared.requeue _ _,h.mail.running,fun n hn => ?_,
    fun n hn => ?_,fun m' hm' => h.mail.handled m' (List.mem_of_mem_erase hm'),h.mail.named⟩,
    fun x hx hpub hholds => ?_⟩
  · rw [hmessages,if_neg (by decide)] at hn
    exact h.mail.waiting n hn
  · rw [hmessages,if_pos rfl] at hn
    rcases List.mem_cons.mp hn with rfl | hold
    · exact ⟨rfl,h.mail.handled m hm⟩
    · exact h.mail.due n hold
  · rcases h.accounted.erase m hx hpub hholds with hsame | (⟨n,hn,hbody⟩ | ⟨n,hn,hbody⟩ | hrest) | hr
    · refine .inl (.inr (.inl ⟨⟨m,none⟩,?_,hsame.symm⟩))
      rw [hmessages,if_pos rfl]
      exact List.mem_cons_self
    · refine .inl (.inl ⟨n,?_,hbody⟩)
      rw [hmessages,if_neg (by decide)]
      exact hn
    · refine .inl (.inr (.inl ⟨n,?_,hbody⟩))
      rw [hmessages,if_pos rfl]
      exact List.mem_cons_of_mem _ hn
    · exact .inl (.inr (.inr hrest))
    · exact .inr hr

/-- A message leaves the consumers' hands: after an answer to its release, or given up. -/
theorem HoldSound.settled (h : HoldSound setting s) (hm : ∀ x ∈ s.asked, x.message = m →
      Holds (s.world.seatView x.inventoryId) x → Refused (s.world.seatView x.inventoryId) x) :
    HoldSound setting { s with handling := s.handling.erase m } := by
  refine ⟨h.distinct,h.seats,⟨h.mail.declared,h.mail.running,h.mail.waiting,h.mail.due,
    fun m' hm' => h.mail.handled m' (List.mem_of_mem_erase hm'),h.mail.named⟩,
    fun x hx hpub hholds => ?_⟩
  rcases h.accounted.erase m hx hpub hholds with hsame | hrest
  · exact .inr (hm x hx hsame hholds)
  · exact hrest

theorem HoldSound.gaveUp (h : HoldSound setting s) (m : Message) :
    HoldSound setting { s with handling := s.handling.erase m, lost := m :: s.lost } := by
  refine ⟨h.distinct,h.seats,⟨h.mail.declared,h.mail.running,h.mail.waiting,h.mail.due,
    fun m' hm' => h.mail.handled m' (List.mem_of_mem_erase hm'),h.mail.named⟩,
    fun x hx hpub hholds => ?_⟩
  rcases h.accounted.erase m hx hpub hholds with hsame | (hwaiting | hdue | hhandled | hlost) | hr
  · exact .inl (.inr (.inr (.inr (by simp [hsame]))))
  · exact .inl (.inl hwaiting)
  · exact .inl (.inr (.inl hdue))
  · exact .inl (.inr (.inr (.inl hhandled)))
  · exact .inl (.inr (.inr (.inr (List.mem_cons_of_mem _ hlost))))
  · exact .inr hr

/-- The run of the consumer on a message about a hold: one call of `ReleaseSeat`. -/
theorem onMessage_exec (cfg : SeatConfig) (e : Env) (w : World) (x : AskedHold) :
    ((onMessage x.message).exec (World.server cfg Unit) () (fun _ => e) [] w).state =
        (w.perform cfg e (.seatRpc x.inventoryId (.releaseSeat ⟨x.userId,.uuid x.uuid⟩))).2 ∧
      (((onMessage x.message).exec (World.server cfg Unit) () (fun _ => e) [] w).result = .ok true ↔
        ∃ success, (w.perform cfg e (.seatRpc x.inventoryId
          (.releaseSeat ⟨x.userId,.uuid x.uuid⟩))).1 = some (.spend success)) := by
  cases hp : w.perform cfg e (.seatRpc x.inventoryId (.releaseSeat ⟨x.userId,.uuid x.uuid⟩)) with
  | mk reply w' =>
    have hserve : (World.server cfg Unit).serve () e w
        (.seatRpc x.inventoryId (.releaseSeat ⟨x.userId,.uuid x.uuid⟩)) = (reply,w') := hp
    simp only [onMessage,AskedHold.message,Purchase.onExpired,Purchase.requestRelease]
    rw [Prog.exec_bind_call hserve]
    cases reply with
    | none => exact ⟨rfl,iff_of_false (by intro h; cases h) (by simp)⟩
    | some answer =>
      cases answer with
      | spend success => exact ⟨rfl,iff_of_true rfl ⟨success,rfl⟩⟩
      | hold r => exact ⟨rfl,iff_of_false (by intro h; cases h) (by simp)⟩
      | status r => exact ⟨rfl,iff_of_false (by intro h; cases h) (by simp)⟩

theorem handle_world (cfg : SeatConfig) (e : Env) (connected : Bool) (x : AskedHold)
    (s : HoldSystem) :
    (s.handle cfg e connected x.message).world = (s.world.perform cfg e
      (.seatRpc x.inventoryId (.releaseSeat ⟨x.userId,.uuid x.uuid⟩))).2 := by
  rw [← (onMessage_exec cfg e s.world x).1]
  unfold HoldSystem.handle
  simp only
  split
  · split <;> rfl
  · rfl

/-- An answered release did what `releaseRow` says. -/
theorem answered_release {cfg : SeatConfig} {e : Env} {w : World} {i : InventoryId}
    {req : SpendHoldRequest} {success : Bool}
    (h : (w.perform cfg e (.seatRpc i (.releaseSeat req))).1 = some (.spend success)) :
    (w.perform cfg e (.seatRpc i (.releaseSeat req))).2.seatView i =
      (releaseRow e.seat req (w.inventory.lookup i) (w.answers i)).2 := by
  simp only [World.perform,World.faulty] at h ⊢
  split at h
  · cases h
  · obtain ⟨success',-,heq⟩ := World.seatRpc_releaseRow cfg e w i req
    exact congrArg Prod.snd heq

theorem HoldSound.handle (h : HoldSound setting s) (cfg : SeatConfig) {e : Env}
    (connected : Bool) (hnow : s.clock ≤ e.time) (hm : m ∈ s.handling) :
    HoldSound setting (s.handle cfg e connected m) := by
  obtain ⟨y,hy,rfl,-⟩ := h.mail.handled m hm
  obtain ⟨hstate,hresult⟩ := onMessage_exec cfg e s.world y
  have hcalled := h.called (q := .seatRpc y.inventoryId (.releaseSeat ⟨y.userId,.uuid y.uuid⟩))
    (fun i => s.world.perform_step cfg e _ i) hnow (fun x hx => by cases hx)
    (fun x hx => by cases hx)
  rw [← hstate] at hcalled
  unfold HoldSystem.handle
  simp only
  split
  · split
    · rename_i hok
      refine hcalled.settled fun x hx hsame hholds => ?_
      have hxy := AskedHold.message_eq.mp hsame
      obtain ⟨success,hanswer⟩ := hresult.mp hok
      have hview := answered_release hanswer
      simp only [hstate,hxy.1,hview] at hholds ⊢
      have hx' : x = y := h.distinct x hx y hy hxy.2.2
      subst hx'
      exact (h.seats x.inventoryId).released h.distinct hx hholds
    · exact hcalled.gaveUp y.message
  · exact hcalled.requeued hm

end Mail

section Runs

variable {ι : Type} [DecidableEq ι] (cfg : SeatConfig) {setting : Option Int}
  {s s' : HoldSystem} {past : ι → List (Entry Platform)}

theorem Granted.cons_cases {x : Entry Platform} {h : List (Entry Platform)}
    {inventoryId : InventoryId} {userId : UserId} {holdToken : HoldToken}
    (hg : Granted (x :: h) inventoryId userId holdToken) :
    Granted h inventoryId userId holdToken ∨
      ∃ d resp, x = ⟨.seatRpc inventoryId (.holdSeat ⟨userId,d⟩),some (.hold resp)⟩ ∧
        resp.success ∧ resp.holdToken = holdToken := by
  obtain ⟨d,resp,hmem,hrest⟩ := hg
  rcases List.mem_cons.mp hmem with heq | hold
  · exact .inr ⟨d,resp,heq.symm,hrest⟩
  · exact .inl ⟨d,resp,hold,hrest⟩

/-- An entry that grants no new hold adds nothing to what the requests were told. -/
theorem Replied.cons (h : Replied s past) (i : ι) (x : Entry Platform)
    (hasked : ∀ y ∈ s.asked, y ∈ s'.asked)
    (hx : ∀ inventoryId userId d resp,
      x = ⟨.seatRpc inventoryId (.holdSeat ⟨userId,d⟩),some (.hold resp)⟩ → resp.success →
        ∃ y ∈ s'.asked, Message.seatHold inventoryId userId resp.holdToken = y.message) :
    Replied s' (Function.update past i (x :: past i)) := by
  intro j inventoryId userId holdToken hg
  by_cases hj : j = i
  · subst hj
    rw [Function.update_self] at hg
    rcases hg.cons_cases with hold | ⟨d,resp,heq,hsuccess,rfl⟩
    · obtain ⟨y,hy,hm⟩ := h j inventoryId userId holdToken hold
      exact ⟨y,hasked y hy,hm⟩
    · exact hx inventoryId userId d resp heq hsuccess
  · rw [Function.update_of_ne hj] at hg
    obtain ⟨y,hy,hm⟩ := h j inventoryId userId holdToken hg
    exact ⟨y,hasked y hy,hm⟩

theorem HoldSound.publish (h : HoldSound setting s) (e : Env) {m : Message}
    (hnow : s.clock ≤ e.time) (hm : m.queue = .seatHoldTtl → Named s.asked m) :
    HoldSound setting (HoldSystem.perform cfg e s (.publish m)).2 ∧
      (HoldSystem.perform cfg e s (.publish m)).2.asked = s.asked := by
  have hlater := h.later hnow
  have hpublished := hlater.published hm
  simp only [HoldSystem.perform,HoldSystem.publish]
  split
  · rename_i f hf
    cases f.applied with
    | true => exact ⟨hpublished,rfl⟩
    | false => exact ⟨hlater,rfl⟩
  · exact ⟨hpublished,rfl⟩

theorem perform_call {e : Env} {q : Call} (hq : ∀ m, q ≠ .publish m) :
    HoldSystem.perform cfg e s q = ((s.world.perform cfg e q).1,{ s with
      world := (s.world.perform cfg e q).2
      clock := e.time
      asked := (HoldSystem.asks e q).toList ++ s.asked }) := by
  cases q with
  | publish m => exact absurd rfl (hq m)
  | _ => rfl

/-- Every call of a request keeps the system sound. -/
theorem holdSound_keeps : Keeps (HoldSystem.server cfg ι) Config.anyStep
    (fun _ => HoldOk (holdDuration setting)) (fun _ _ _ _ => True)
    (RunSound setting) := by
  rintro s past i e q ⟨hsound,hreplied⟩ hready - hok
  refine ⟨trivial,?_⟩
  simp only [HoldSystem.server,Bool.and_eq_true,decide_eq_true_eq] at hready ⊢
  obtain ⟨hnow,hnew⟩ := hready
  have hfresh : Fresh e q s.asked := by
    intro x hx y hy
    rw [hx] at hnew
    simpa using List.all_eq_true.mp hnew y hy
  by_cases hq : ∃ m, q = .publish m
  · obtain ⟨m,rfl⟩ := hq
    have hm : m.queue = .seatHoldTtl → Named s.asked m := by
      intro hqueue
      cases m with
      | seatHold inventoryId userId holdToken =>
        exact hreplied i inventoryId userId holdToken hok
      | _ => cases hqueue
    obtain ⟨hpublished,hasked⟩ := hsound.publish cfg e hnow hm
    exact ⟨hpublished,hreplied.cons i _ (fun y hy => hasked ▸ hy)
      (fun _ _ _ _ heq => by cases heq)⟩
  · have hq' : ∀ m, q ≠ .publish m := fun m heq => hq ⟨m,heq⟩
    rw [perform_call cfg hq']
    refine ⟨hsound.called (fun i => s.world.perform_step cfg e q i) hnow hfresh ?_,
      hreplied.cons i _ (fun y hy => List.mem_append_right _ hy) ?_⟩
    · intro x hx
      cases q with
      | seatRpc j call =>
        cases call with
        | holdSeat req =>
          obtain rfl := Option.some.inj hx
          have hseconds : holdSeconds req = holdDuration setting := hok
          rw [hseconds]
        | _ => cases hx
      | _ => cases hx
    · intro inventoryId userId d resp heq hsuccess
      obtain rfl := congrArg Sigma.fst heq
      have hreply : (s.world.perform cfg e
          (.seatRpc inventoryId (.holdSeat ⟨userId,d⟩))).1 = some (.hold resp) :=
        eq_of_heq (Sigma.mk.inj heq).2
      have htoken : resp.holdToken = .uuid e.uuid := by
        rcases rpc_cases (Prod.eta _).symm with hnone | hserved
        · rw [hreply] at hnone
          cases hnone
        · exact World.seatRpc_holdSeat_token ((congrArg Prod.fst hserved).trans hreply) hsuccess
      exact ⟨_,List.mem_append_left _ (by simp [HoldSystem.asks]; rfl),by
        rw [htoken]; rfl⟩

/-- So does everything else that happens. -/
theorem HoldSound.acts (h : HoldSound setting s) (ha : s.Acts cfg setting s') :
    HoldSound setting s' ∧ s'.asked = s.asked := by
  obtain ⟨a,ha⟩ := ha
  cases a with
  | startup =>
    obtain rfl := Option.some.inj ha
    rw [h.mail.declared.declareQueues]
    exact ⟨h,rfl⟩
  | lapse now =>
    obtain ⟨hnow,rfl⟩ := Option.ite_some_none_eq_some.mp ha
    exact ⟨h.lapse hnow,rfl⟩
  | deliver now =>
    simp only [HoldSystem.act] at ha
    split at ha
    · rename_i hnow
      obtain ⟨d,hd,rfl⟩ := Option.map_eq_some_iff.mp ha
      exact ⟨h.deliver hnow hd,rfl⟩
    · cases ha
  | release e connected m =>
    obtain ⟨⟨hnow,hm⟩,rfl⟩ := Option.ite_some_none_eq_some.mp ha
    refine ⟨h.handle cfg connected hnow hm,?_⟩
    unfold HoldSystem.handle
    simp only
    split
    · split <;> rfl
    · rfl
  | disconnect m =>
    obtain ⟨hm,rfl⟩ := Option.ite_some_none_eq_some.mp ha
    exact ⟨h.requeued hm,rfl⟩

/-- The seats have not been held before. -/
structure Unheld (w : World) : Prop where
  rows (i : InventoryId) (r : SeatInventory) : w.inventory.lookup i = some r → r.holdToken = none
  answers (i : InventoryId) : w.released.lookup i = none

theorem HoldSound.start {w : World} (hw : Unheld w) (now : Time) :
    HoldSound setting (HoldSystem.start setting now w emptyBroker) := by
  obtain ⟨hdeclared,hempty⟩ := declareQueues_empty (holdTtl setting)
  refine ⟨by simp [Distinct,HoldSystem.start],fun i => ⟨fun r token hr ht => ?_,fun token t ht => ?_⟩,
    ⟨hdeclared,by simp [HoldSystem.start],by simp [HoldSystem.start,hempty],
      by simp [HoldSystem.start,hempty],by simp [HoldSystem.start],by simp [HoldSystem.start]⟩,
    by simp [Accounted,HoldSystem.start]⟩
  · rw [hw.rows i r hr] at ht
    cases ht
  · simp only [World.seatView,World.answers,HoldSystem.start,hw.answers] at ht
    cases ht

/-- The requests, the broker and the consumers, from startup on a new broker on. -/
abbrev HoldRuns (cfg : SeatConfig) (setting : Option Int) (now : Time) (w : World)
    (requests : ι → Purchase.Request)
    (c : Config ι Platform Unhandled Purchase.Answer HoldSystem) : Prop :=
  Config.Runs (HoldSystem.server cfg ι) Config.anyStep (HoldSystem.Acts cfg setting)
    (Config.start (HoldSystem.start setting now w emptyBroker)
      fun i => (requests i).handler (holdDuration setting)) c

theorem HoldRuns.sound {cfg : SeatConfig} {now : Time} {w : World}
    {requests : ι → Purchase.Request}
    {c : Config ι Platform Unhandled Purchase.Answer HoldSystem}
    (hrun : HoldRuns cfg setting now w requests c) (hpos : ∀ n, setting = some n → 0 < n)
    (hw : Unheld w) (hrequests : ∀ i inventoryId userId holdToken,
      requests i ≠ .expiredHold inventoryId userId holdToken) :
    HoldSound setting c.shared := by
  have hduration : 0 < holdDuration setting := by
    cases hsetting : setting with
    | none => decide
    | some n => exact hpos n hsetting
  have hinv : RunSound setting (HoldSystem.start setting now w emptyBroker)
      (fun _ : ι => ([] : List (Entry Platform))) :=
    ⟨HoldSound.start hw now,fun _ _ _ _ hg => (by obtain ⟨_,_,hmem,_⟩ := hg; cases hmem)⟩
  have hstart := Config.disciplined_start hinv
    (fun i => handler_follows hduration (requests i) (hrequests i))
  have hkept := hstart.runs (holdSound_keeps cfg) (fun s s' past hact hs => ?_) hrun
  · exact hkept.1.1
  · obtain ⟨hsound,hasked⟩ := hs.1.acts cfg hact
    refine ⟨hsound,fun j inventoryId userId holdToken hg => ?_⟩
    rw [hasked]
    exact hs.2 j inventoryId userId holdToken hg

/-- The broker and the consumers at work, with calls that go through. -/
def AtWork (redisUp : Bool) : HoldActivity → Prop
  | .lapse _ => True
  | .deliver _ => True
  | .release e connected _ => connected ∧ e.fault = none ∧ e.redisUp = redisUp
  | _ => False

def Drains (setting : Option Int) (redisUp : Bool) (s s' : HoldSystem) : Prop :=
  ∃ a, AtWork redisUp a ∧ s.act cfg setting a = some s'

/-- How much work the hold messages still make. -/
def work (s : HoldSystem) : Nat :=
  3*(s.broker.messagesOf .seatHoldTtl).length+2*(s.broker.messagesOf .seatHoldExpired).length+
    s.handling.length

/-- The records of what has happened to the messages are the same. -/
structure SameRecords (s s' : HoldSystem) : Prop where
  asked : s'.asked = s.asked
  enqueued : s'.enqueued = s.enqueued
  lost : s'.lost = s.lost

theorem drains_release (h : HoldSound setting s) (redisUp : Bool) {m : Message}
    (hm : m ∈ s.handling) :
    ∃ s', Drains cfg setting redisUp s s' ∧ work s' < work s ∧ SameRecords s s' := by
  obtain ⟨x,hx,rfl,-⟩ := h.mail.handled m hm
  let e : Env := ⟨s.clock,0,0,redisUp,false,none⟩
  have hanswer : ∃ success, (s.world.perform cfg e (.seatRpc x.inventoryId
      (.releaseSeat ⟨x.userId,.uuid x.uuid⟩))).1 = some (.spend success) := by
    obtain ⟨success,hreply,-⟩ := World.seatRpc_releaseRow cfg e s.world x.inventoryId
      ⟨x.userId,.uuid x.uuid⟩
    exact ⟨success,hreply⟩
  have hok := (onMessage_exec cfg e s.world x).2.mpr hanswer
  refine ⟨s.handle cfg e true x.message,⟨.release e true x.message,⟨rfl,rfl,rfl⟩,
    if_pos ⟨le_rfl,hm⟩⟩,?_,?_⟩
  · have hlength := List.length_erase_of_mem hm
    have hpos := List.length_pos_of_mem hm
    simp only [HoldSystem.handle,hok,work,if_true,hlength]
    omega
  · simp only [HoldSystem.handle,hok,if_true]
    exact ⟨rfl,rfl,rfl⟩

theorem drains_deliver (h : HoldSound setting s) (redisUp : Bool) {n : Queued Message}
    {ms : List (Queued Message)} (hms : s.broker.messagesOf .seatHoldExpired = n :: ms) :
    ∃ s', Drains cfg setting redisUp s s' ∧ work s' < work s ∧ SameRecords s s' := by
  have hn : n.lapsed s.clock = false := by
    simp [Queued.lapsed,(h.mail.due n (by simp [hms])).1]
  have hdeliver := Broker.deliver_head (h.mail.declared.arguments .seatHoldExpired) hms hn
  let s' : HoldSystem := { s with
    handling := n.body :: s.handling
    broker := s.broker.setQueue .seatHoldExpired ⟨{},ms⟩ }
  have hact : s.act cfg setting (.deliver s.clock) = some s' := by
    simp only [HoldSystem.act,le_refl,if_true,hdeliver,Option.map_some]
    rfl
  refine ⟨s',⟨.deliver s.clock,trivial,hact⟩,?_,⟨rfl,rfl,rfl⟩⟩
  simp [work,s',hms]
  omega

theorem drains_lapse (h : HoldSound setting s) (redisUp : Bool) {n : Queued Message}
    {ms : List (Queued Message)} (hms : s.broker.messagesOf .seatHoldTtl = n :: ms) :
    ∃ s', Drains cfg setting redisUp s s' ∧ work s' < work s ∧ SameRecords s s' := by
  obtain ⟨x,hx,-,t,ht,-⟩ := h.mail.waiting n (by simp [hms])
  have hn : n.lapsed (max s.clock t) := by simp [Queued.lapsed,ht]
  have hdecl := h.mail.declared
  have hmessages := Broker.messagesOf_lapse (hdecl.arguments .seatHoldTtl) hms hn
    (hdecl.exchanges .seatHoldDlx) (hdecl.arguments .seatHoldExpired) (by decide)
  refine ⟨_,⟨.lapse (max s.clock t),trivial,if_pos (le_max_left _ _)⟩,?_,⟨rfl,rfl,rfl⟩⟩
  simp [work,hmessages,hms]
  omega

/-- The broker and the consumers can always finish. -/
theorem HoldSound.drain (h : HoldSound setting s) (redisUp : Bool) :
    ∃ s', Relation.ReflTransGen (Drains cfg setting redisUp) s s' ∧ HoldSound setting s' ∧
      work s' = 0 ∧ SameRecords s s' := by
  induction hw : work s using Nat.strong_induction_on generalizing s with
  | _ n ih =>
    by_cases hdone : work s = 0
    · exact ⟨s,.refl,h,hdone,rfl,rfl,rfl⟩
    · obtain ⟨s₁,hstep,hless,hsame⟩ : ∃ s₁, Drains cfg setting redisUp s s₁ ∧
          work s₁ < work s ∧ SameRecords s s₁ := by
        cases hh : s.handling with
        | cons m ms => exact drains_release cfg h redisUp (by simp [hh] : m ∈ s.handling)
        | nil =>
          cases hd : s.broker.messagesOf .seatHoldExpired with
          | cons n ms => exact drains_deliver cfg h redisUp hd
          | nil =>
            cases ht : s.broker.messagesOf .seatHoldTtl with
            | cons n ms => exact drains_lapse cfg h redisUp ht
            | nil => exact absurd (by simp [work,hh,hd,ht]) hdone
      have hsound : HoldSound setting s₁ := (h.acts cfg (hstep.imp fun _ ha => ha.2)).1
      obtain ⟨s',hrest,hsound',hdone',hsame'⟩ := ih (work s₁) (hw ▸ hless) hsound rfl
      exact ⟨s',.head hstep hrest,hsound',hdone',hsame'.asked.trans hsame.asked,
        hsame'.enqueued.trans hsame.enqueued,hsame'.lost.trans hsame.lost⟩

/-- No published hold is forgotten: from wherever the system has got to, the broker and the
consumers alone can go on until no message is left, and then every hold that was published is over,
unless a consumer has given its message up, or a release under its token was refused before and
Redis has kept the answer. -/
theorem published_holds_end (cfg : SeatConfig) (setting : Option Int)
    (hpos : ∀ n, setting = some n → 0 < n) (now : Time) (w : World) (hw : Unheld w)
    (requests : ι → Purchase.Request)
    (hrequests : ∀ i inventoryId userId holdToken,
      requests i ≠ .expiredHold inventoryId userId holdToken)
    (c : Config ι Platform Unhandled Purchase.Answer HoldSystem)
    (hrun : HoldRuns cfg setting now w requests c) (redisUp : Bool) :
    ∃ s, Relation.ReflTransGen (Drains cfg setting redisUp) c.shared s ∧ work s = 0 ∧
      SameRecords c.shared s ∧ ∀ x ∈ s.asked, x.message ∈ s.enqueued →
        Holds (s.world.seatView x.inventoryId) x →
          x.message ∈ s.lost ∨ Refused (s.world.seatView x.inventoryId) x := by
  obtain ⟨s,hdrains,hsound,hdone,hsame⟩ := (hrun.sound hpos hw hrequests).drain cfg redisUp
  refine ⟨s,hdrains,hdone,hsame,fun x hx hpub hholds => ?_⟩
  simp only [work,Nat.add_eq_zero_iff,Nat.mul_eq_zero,List.length_eq_zero_iff] at hdone
  have hwaiting : s.broker.messagesOf .seatHoldTtl = [] := by simpa using hdone.1.1
  have hdue : s.broker.messagesOf .seatHoldExpired = [] := by simpa using hdone.1.2
  rcases hsound.accounted x hx hpub hholds with (hn | hn | hm | hlost) | hr
  · simp [hwaiting] at hn
  · simp [hdue] at hn
  · simp [hdone.2] at hm
  · exact .inl hlost
  · exact .inr hr

end Runs

section Example

/-- One seat that is free. -/
def freeSeatWorld : World :=
  { Purchase.heldSeatWorld with
    inventory := AList.singleton 1 ⟨1,1,.available,none,none,none⟩ }

theorem freeSeatWorld_unheld : Unheld freeSeatWorld := by
  refine ⟨fun i r hr => ?_,fun i => rfl⟩
  by_cases hi : i = 1
  · subst hi
    obtain rfl := Option.some.inj (hr.symm.trans (by rfl :
      freeSeatWorld.inventory.lookup 1 = some ⟨1,1,.available,none,none,none⟩))
    rfl
  · have hnone : freeSeatWorld.inventory.lookup i = none :=
      AList.lookup_eq_none.mpr (by
        simpa only [freeSeatWorld,AList.mem_keys,AList.keys_singleton,List.mem_singleton] using hi)
    rw [hnone] at hr
    cases hr

/-- The activities that are possible, one after the other. -/
def HoldSystem.acts (cfg : SeatConfig) (setting : Option Int) (s : HoldSystem)
    (as : List HoldActivity) : HoldSystem :=
  as.foldl (fun s a => (s.act cfg setting a).getD s) s

theorem runs_acts {ι α : Type} [DecidableEq ι] (cfg : SeatConfig) (setting : Option Int)
    (c : Config ι Platform Unhandled α HoldSystem) (as : List HoldActivity) :
    Config.Runs (HoldSystem.server cfg ι) Config.anyStep (HoldSystem.Acts cfg setting) c
      ⟨c.shared.acts cfg setting as,c.thread⟩ := by
  induction as generalizing c with
  | nil => exact .refl
  | cons a as ih =>
    cases ha : c.shared.act cfg setting a with
    | none => simpa [HoldSystem.acts,ha] using ih c
    | some s =>
      refine .head (.inr ⟨s,⟨a,ha⟩,rfl⟩) ?_
      simpa [HoldSystem.acts,ha] using ih ⟨s,c.thread⟩

/-- User 7 holds the seat at ten seconds, and the hold is published a second later. -/
def holding : Config Unit Platform Unhandled Purchase.Answer HoldSystem :=
  (Config.start (HoldSystem.start none 0 freeSeatWorld emptyBroker)
    fun _ => (Purchase.Request.holdSeat 7 1).handler (holdDuration none)).schedule
    (HoldSystem.server ⟨3,3,false⟩ Unit) (fun _ _ _ _ _ => true)
    [((),⟨seconds 10,5,0,true,false,none⟩),((),⟨seconds 11,0,0,true,false,none⟩)]

/-- Ten minutes later the message is in the consumer's hands. -/
def handedOver : Config Unit Platform Unhandled Purchase.Answer HoldSystem :=
  ⟨holding.shared.acts ⟨3,3,false⟩ none [.lapse (seconds 611),.deliver (seconds 611)],
    holding.thread⟩

theorem handedOver_runs :
    HoldRuns ⟨3,3,false⟩ none 0 freeSeatWorld (fun _ : Unit => .holdSeat 7 1) handedOver := by
  refine .trans ?_ (runs_acts ⟨3,3,false⟩ none holding _)
  refine Relation.ReflTransGen.mono (fun _ _ h => .inl h) _ _ ?_
  exact Config.reach_schedule (fun _ _ _ _ _ _ => trivial) _ _

def releasing : Env := ⟨seconds 612,0,0,true,false,none⟩

theorem published_holds_end_handedOver :
    ∃ s, Relation.ReflTransGen (Drains ⟨3,3,false⟩ none true) handedOver.shared s ∧ work s = 0 ∧
      SameRecords handedOver.shared s ∧ ∀ x ∈ s.asked, x.message ∈ s.enqueued →
        Holds (s.world.seatView x.inventoryId) x →
          x.message ∈ s.lost ∨ Refused (s.world.seatView x.inventoryId) x :=
  published_holds_end ⟨3,3,false⟩ none (by simp) 0 freeSeatWorld freeSeatWorld_unheld
    (fun _ : Unit => .holdSeat 7 1) (by simp) handedOver handedOver_runs true

end Example

end TicketRemaster.Queues
