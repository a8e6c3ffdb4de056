import TicketRemaster.Events.Provisioning
import TicketRemaster.SeatInventory.Imports
import TicketRemaster.SeatInventory.SeatSteps
set_option autoImplicit false

/-! The seats of an event are made as a whole: whoever else is at work, and whatever fails, an event
has no seats or every seat of its venue once, and this is what its seat map shows. -/

namespace TicketRemaster.EventOrchestrator

open Resumption SeatInventory EventService

/-- The seats that an event has rows for. -/
def seatIds (eventId : EventId) (t : Inventory) : List SeatId :=
  (rowsOf eventId t).map (·.seatId)

section Batch

variable {keys : Nat → InventoryId} {db db' : Inventory}

theorem rowsOf_insert {key : InventoryId} {row : SeatInventory} (hkey : db.lookup key = none)
    (event : EventId) : rowsOf event (db.insert key row) =
      (if row.eventId = event then [row] else []) ++ rowsOf event db := by
  have hfree : key ∉ db := AList.lookup_eq_none.mp hkey
  simp only [rowsOf,AList.entries_insert_of_notMem hfree,List.map_cons,List.filter_cons,
    decide_eq_true_eq]
  split <;> simp

theorem insertRows_rowsOf {rows : List SeatInventory} {n : Nat}
    (h : insertRows keys n db rows = some db') (event : EventId) :
    (rowsOf event db').Perm (rows.filter (·.eventId = event) ++ rowsOf event db) := by
  induction rows generalizing n db with
  | nil =>
    cases h
    simp
  | cons row rest ih =>
    unfold insertRows at h
    split at h
    · cases h
    · rename_i hfree
      have hkey : db.lookup (keys n) = none := by
        simpa using (not_or.mp hfree).1
      refine (ih h).trans ?_
      rw [rowsOf_insert hkey,List.filter_cons]
      simp only [decide_eq_true_eq]
      split
      · exact List.perm_middle
      · simp

theorem newRows_spec {cols : Columns} {ids : IdTexts} {event : EventId} {seats : List SeatId}
    {rows : List SeatInventory}
    (h : (seats.map fun seatId => (Json.str (ids.text seatId),"available")).mapM
      (newRow cols ids.toIdColumns event) = some rows) :
    rows.map (·.seatId) = seats ∧ ∀ r ∈ rows, r.eventId = event := by
  induction seats generalizing rows with
  | nil =>
    cases h
    simp
  | cons seat seats ih =>
    rw [List.map_cons,List.mapM_cons] at h
    obtain ⟨row,hrow,hrest⟩ := Option.bind_eq_some_iff.mp h
    obtain ⟨rest,hseats,hcons⟩ := Option.bind_eq_some_iff.mp hrest
    cases hcons
    obtain ⟨seatId,hid,hstatus⟩ := Option.bind_eq_some_iff.mp hrow
    obtain ⟨status,-,hmade⟩ := Option.bind_eq_some_iff.mp hstatus
    cases hmade
    obtain rfl : seat = seatId := Option.some.inj ((ids.stored_text seat).symm.trans hid)
    obtain ⟨hids,hevents⟩ := ih hseats
    exact ⟨by simp [hids],List.forall_mem_cons.mpr ⟨rfl,hevents⟩⟩

theorem validateBatch_payload (ids : IdTexts) (eventId : EventId) {seats : List SeatId}
    (hseats : seats ≠ []) : validateBatch (inventoryPayload ids eventId seats) =
      .ok (.str (ids.text eventId),
        seats.map fun seatId => (Json.str (ids.text seatId),"available")) := by
  have hentries : (seats.map fun seatId => Json.obj [("seatId",.str (ids.text seatId)),
      ("status",.str "available")]).mapM normalizeSeat =
        .ok (seats.map fun seatId => (Json.str (ids.text seatId),"available")) := by
    clear hseats
    induction seats with
    | nil => rfl
    | cons seat seats ih =>
      rw [List.map_cons,List.mapM_cons,ih]
      simp [normalizeSeat,Json.get,Dict.lookup_cons,Json.truthy,ids.text_ne]
      rfl
  simp [validateBatch,inventoryPayload,Json.truthy,Json.get,Dict.lookup_cons,ids.text_ne,hseats,
    hentries,Except.map]

theorem rowsOf_eq_nil {event : EventId}
    (h : ¬ (db.findRow fun _ r => r.eventId = event).isSome) : rowsOf event db = [] := by
  simp only [Table.findRow,Option.isSome_map,List.find?_isSome,decide_eq_true_eq] at h
  simp only [rowsOf,List.filter_eq_nil_iff,List.mem_map,decide_eq_true_eq]
  intro r hr hevent
  obtain ⟨entry,hentry,rfl⟩ := hr
  exact h ⟨entry,hentry,hevent⟩

/-- The batch of an event creates a row for each of the seats, or nothing. -/
theorem createInventoryBatch_payload (cols : Columns) (ids : IdTexts) (keys : Nat → InventoryId)
    (db : Inventory) (eventId : EventId) (seats : List SeatId) :
    (∃ err, createInventoryBatch cols ids.toIdColumns keys db (inventoryPayload ids eventId seats) =
      (.error err,db)) ∨
    ∃ db', createInventoryBatch cols ids.toIdColumns keys db (inventoryPayload ids eventId seats) =
        (.ok seats.length,db') ∧ seats ≠ [] ∧ seatIds eventId db = [] ∧
      (seatIds eventId db').Perm seats ∧
      ∀ event, event ≠ eventId → (seatIds event db').Perm (seatIds event db) := by
  obtain ⟨hrefused,haccepted⟩ := createInventoryBatch_validates cols ids.toIdColumns keys db
    (inventoryPayload ids eventId seats)
  by_cases hseats : seats = []
  · subst hseats
    exact .inl ⟨_,hrefused (validationError "Missing required fields: eventId, seats")
      (by simp [validateBatch,inventoryPayload,Json.truthy,Json.get,Dict.lookup_cons])⟩
  · rw [haccepted _ _ (validateBatch_payload ids eventId hseats)]
    simp only [createRows,ids.operand_text,ids.stored_text]
    split
    · exact .inl ⟨_,rfl⟩
    · rename_i hnone
      split
      · rename_i db' hcreated
        obtain ⟨event,hevent,hrest⟩ := Option.bind_eq_some_iff.mp hcreated
        obtain rfl := Option.some.inj hevent
        obtain ⟨rows,hrows,hinsert⟩ := Option.bind_eq_some_iff.mp hrest
        obtain ⟨hids,hevents⟩ := newRows_spec hrows
        have hempty : rowsOf eventId db = [] := rowsOf_eq_nil hnone
        refine .inr ⟨db',by simp,hseats,by simp [seatIds,hempty],?_,fun event hne => ?_⟩
        · have hkept : rows.filter (·.eventId = eventId) = rows :=
            List.filter_eq_self.mpr fun r hr => by simpa using hevents r hr
          simpa [seatIds,hempty,hkept,hids] using
            (insertRows_rowsOf hinsert eventId).map (·.seatId)
        · have hdropped : rows.filter (·.eventId = event) = [] :=
            List.filter_eq_nil_iff.mpr fun r hr => by simpa [hevents r hr] using hne.symm
          simpa [seatIds,hdropped] using (insertRows_rowsOf hinsert event).map (·.seatId)
      · exact .inl ⟨_,rfl⟩

end Batch

section Tables

/-- Tables that agree row by row on what `f` sees list it in some order. -/
theorem map_perm_of_lookup {κ ρ γ : Type} [DecidableEq κ] {f : ρ → γ} {t t' : Table κ ρ}
    (h : ∀ k, (t'.lookup k).map f = (t.lookup k).map f) :
    (t'.entries.map fun x => (x.1,f x.2)).Perm (t.entries.map fun x => (x.1,f x.2)) := by
  have hnodup (t : Table κ ρ) : (t.entries.map fun x => (x.1,f x.2)).Nodup :=
    List.Nodup.of_map Prod.fst (by rw [List.map_map]; exact t.nodupKeys)
  have hmem (t : Table κ ρ) (k : κ) (c : γ) :
      (k,c) ∈ t.entries.map (fun x => (x.1,f x.2)) ↔ (t.lookup k).map f = some c := by
    simp only [List.mem_map,Prod.mk.injEq,Option.map_eq_some_iff]
    constructor
    · rintro ⟨x,hx,rfl,rfl⟩
      exact ⟨x.2,AList.mem_lookup_iff.mpr hx,rfl⟩
    · rintro ⟨r,hr,rfl⟩
      exact ⟨⟨k,r⟩,AList.mem_lookup_iff.mp hr,rfl,rfl⟩
  refine (List.perm_ext_iff_of_nodup (hnodup t') (hnodup t)).mpr fun x => ?_
  rw [show x = (x.1,x.2) from rfl,hmem,hmem,h]

/-- The seat of a row, and the event it is a seat of. -/
def place (r : SeatInventory) : EventId × SeatId := (r.eventId,r.seatId)

theorem seatIds_perm {t t' : Inventory}
    (h : ∀ i, (t'.lookup i).map place = (t.lookup i).map place) (eventId : EventId) :
    (seatIds eventId t').Perm (seatIds eventId t) := by
  have heq (t : Inventory) : seatIds eventId t =
      (((t.entries.map fun x => (x.1,place x.2)).filter (·.2.1 = eventId)).map (·.2.2)) := by
    simp [seatIds,rowsOf,List.filter_map,Function.comp_def,place]
  rw [heq,heq]
  exact ((map_perm_of_lookup h).filter _).map _

/-- A call of another orchestrator leaves every row at its place. -/
theorem SeatStep.place {e : Env} {i : InventoryId} {q : Call} {v v' : SeatView}
    (h : SeatStep e i q v v') : v'.1.map place = v.1.map place := by
  cases h with
  | same => rfl
  | refuse => rfl
  | _ => simp [EventOrchestrator.place,heldFor,markSold,clearHold]

end Tables

section Systems

variable (ids : IdTexts) {cols : EventColumns} {e : EventEnv} {s s' : EventSystem}

theorem listInventory_seatIds (s : EventSystem) (eventId : EventId) :
    (s.listInventoryByEvent eventId).map (·.seatId) = seatIds eventId s.inventory := by
  simp [EventSystem.listInventoryByEvent,seatIds,rowsOf,List.filter_map,Function.comp_def]

theorem mem_seatsOf {path : String} {seat : SeatId × Seat} : seat ∈ s.seatsOf ids path ↔
    s.seats.lookup seat.1 = some seat.2 ∧ ids.named path = some seat.2.venueId := by
  simp only [EventSystem.seatsOf,List.mem_map,List.mem_filter,decide_eq_true_eq]
  constructor
  · rintro ⟨x,⟨hx,hvenue⟩,rfl⟩
    exact ⟨AList.mem_lookup_iff.mpr hx,hvenue.symm⟩
  · rintro ⟨hx,hvenue⟩
    exact ⟨⟨seat.1,seat.2⟩,⟨AList.mem_lookup_iff.mp hx,hvenue.symm⟩,rfl⟩

variable (cols) in
/-- A request to one of these services changes nothing, makes an event, or makes the rows of one. -/
inductive EventStep (e : EventEnv) (s : EventSystem) : EventCall → EventSystem → Prop where
  | same (q : EventCall) : EventStep e s q s
  | newEvent (payload : Json) (event : EventService.Event) (hnew : s.events.lookup e.uuid = none) :
      EventStep e s (.createEvent payload)
        { s with events := s.events.insert e.uuid event }
  | newRows (payload : Json) (n : Nat) (inventory : Inventory)
      (hrows : createInventoryBatch cols.toColumns ids.toIdColumns e.keys s.inventory payload =
        (.ok n,inventory)) :
      EventStep e s (.createInventoryBatch payload) { s with inventory := inventory }

variable {ids} in
theorem EventStep.createEvent {payload : Json}
    (h : EventStep ids cols e s (.createEvent payload) s') :
    s'.seats = s.seats ∧ s'.venues = s.venues ∧ s'.inventory = s.inventory ∧
      ∀ v ∈ s.events, v ∈ s'.events := by
  cases h with
  | same => exact ⟨rfl,rfl,rfl,fun _ => id⟩
  | newEvent _ event hnew =>
    exact ⟨rfl,rfl,rfl,fun v hv => AList.mem_insert _ |>.mpr (.inr hv)⟩

theorem createEvent_cases (cols : EventColumns) (payload : Json) (db : Events) (clock : Time) (eventId : EventId) :
    (∃ err, createEvent cols db clock eventId payload = (.error err,db)) ∨
    ∃ event, createEvent cols db clock eventId payload =
        (.ok (eventId,event),db.insert eventId event) ∧ db.lookup eventId = none := by
  unfold createEvent
  split
  · exact .inl ⟨_,rfl⟩
  · split
    · exact .inl ⟨_,rfl⟩
    · exact .inl ⟨_,rfl⟩
    · split
      · split
        · exact .inl ⟨_,rfl⟩
        · split
          · split
            · exact .inl ⟨_,rfl⟩
            · rename_i hnew
              exact .inr ⟨_,rfl,by simpa using hnew⟩
          · exact .inl ⟨_,rfl⟩
      · exact .inl ⟨_,rfl⟩

theorem createInventoryBatch_error {columns : Columns} {idColumns : IdColumns}
    {keys : Nat → InventoryId} {db : Inventory} {payload : Json} {err : ServiceError}
    {db' : Inventory}
    (h : createInventoryBatch columns idColumns keys db payload = (.error err,db')) : db' = db := by
  obtain ⟨hrefused,haccepted⟩ := createInventoryBatch_validates columns idColumns keys db payload
  cases hv : validateBatch payload with
  | error e =>
    rw [hrefused e hv] at h
    cases h
    rfl
  | ok request =>
    rw [haccepted request.1 request.2 hv] at h
    unfold createRows at h
    split at h
    · cases h
      rfl
    · split at h
      · cases h
        rfl
      · dsimp only at h
        split at h
        · cases h
        · cases h
          rfl

theorem found_ok {α : Type} {row : Option α} {code message : String} {a : α}
    (h : World.found row code message = .ok a) : row = some a := by
  unfold World.found at h
  split at h <;> cases h
  rfl

theorem httpFault_ne_ok {α : Type} (f : Fault) (a : α) : World.httpFault f ≠ .ok a := by
  unfold World.httpFault
  split <;> simp

/-- A call that has no effect does not succeed. -/
theorem answer_cases {α : Type} (run : Except ServiceError α × EventSystem) :
    (s.answer e run).2 = s ∧ (∀ a, (s.answer e run).1 ≠ .ok a) ∨ (s.answer e run).2 = run.2 := by
  unfold EventSystem.answer
  split
  · rename_i f hf
    split
    · exact .inr rfl
    · exact .inl ⟨rfl,httpFault_ne_ok f⟩
  · exact .inr rfl

theorem answer_ok {α : Type} {run : Except ServiceError α × EventSystem} {a : α}
    (h : (s.answer e run).1 = .ok a) : run.1 = .ok a ∧ (s.answer e run).2 = run.2 := by
  unfold EventSystem.answer at h ⊢
  cases hfault : e.fault with
  | some f =>
    rw [hfault] at h
    exact absurd h (httpFault_ne_ok f a)
  | none =>
    rw [hfault] at h
    refine ⟨?_,rfl⟩
    cases hrun : run.1 with
    | ok b =>
      rw [hrun] at h
      simpa [World.httpReply] using h
    | error err =>
      rw [hrun] at h
      cases h

theorem answer_read {α : Type} (a : Except ServiceError α) : (s.answer e (a,s)).2 = s := by
  rcases answer_cases (e := e) (s := s) (a,s) with ⟨h,-⟩ | h <;> rw [h]

namespace EventSystem

theorem perform_step (cols : EventColumns) (e : EventEnv) (s : EventSystem) (q : EventCall) :
    EventStep ids cols e s q (s.perform ids cols e q).2 := by
  have hread {α : Type} (q : EventCall) (a : Except ServiceError α) :
      EventStep ids cols e s q (s.answer e (a,s)).2 := by
    rw [answer_read]
    exact .same q
  cases q with
  | createEvent payload =>
    simp only [perform]
    rcases answer_cases (e := e) (s := s) _ with ⟨h,-⟩ | h <;> rw [h]
    · exact .same _
    · rcases createEvent_cases cols payload s.events e.time e.uuid with
        ⟨err,hrun⟩ | ⟨event,hrun,hnew⟩ <;> rw [hrun]
      · exact .same _
      · exact .newEvent payload event hnew
  | createInventoryBatch payload =>
    simp only [perform]
    rcases answer_cases (e := e) (s := s) _ with ⟨h,-⟩ | h <;> rw [h]
    · exact .same _
    · rcases hrun : createInventoryBatch cols.toColumns ids.toIdColumns e.keys s.inventory payload
        with ⟨answer,inventory⟩
      cases answer with
      | error err =>
        rw [createInventoryBatch_error hrun]
        exact .same _
      | ok n => exact .newRows payload n inventory hrun
  | _ => exact hread _ _

theorem perform_created {payload : Json} {eventId : EventId}
    (h : (s.perform ids cols e (.createEvent payload)).1 = .ok eventId) :
    eventId ∉ s.events ∧ eventId ∈ (s.perform ids cols e (.createEvent payload)).2.events := by
  obtain ⟨hrun,hstate⟩ := answer_ok h
  rcases createEvent_cases cols payload s.events e.time e.uuid with
    ⟨err,hcreate⟩ | ⟨event,hcreate,hnew⟩
  · rw [hcreate] at hrun
    cases hrun
  · rw [hcreate] at hrun
    cases hrun
    refine ⟨AList.lookup_eq_none.mp hnew,?_⟩
    simp only [perform]
    rw [hstate,hcreate]
    exact AList.mem_insert _ |>.mpr (.inl rfl)

theorem perform_batch (cols : EventColumns) (e : EventEnv) (s : EventSystem) (eventId : EventId)
    (seats : List SeatId) :
    ((s.perform ids cols e (.createInventoryBatch (inventoryPayload ids eventId seats))).2 = s ∧
      ∀ n, (s.perform ids cols e (.createInventoryBatch (inventoryPayload ids eventId seats))).1 ≠
        .ok n) ∨
    ∃ inventory, (s.perform ids cols e
        (.createInventoryBatch (inventoryPayload ids eventId seats))).2 =
          { s with inventory := inventory } ∧
      seats ≠ [] ∧ seatIds eventId s.inventory = [] ∧ (seatIds eventId inventory).Perm seats ∧
      ∀ event, event ≠ eventId → (seatIds event inventory).Perm (seatIds event s.inventory) := by
  rcases createInventoryBatch_payload cols.toColumns ids e.keys s.inventory eventId seats with
    ⟨err,hrun⟩ | ⟨inventory,hrun,hseats,hempty,hfilled,hothers⟩
  · refine .inl ⟨?_,fun n hn => ?_⟩
    · simp only [perform,hrun]
      rcases answer_cases (e := e) (s := s) _ with ⟨h,-⟩ | h <;> rw [h]
    · have hok := (answer_ok hn).1
      rw [hrun] at hok
      cases hok
  · rcases answer_cases (e := e) (s := s) (_,{ s with inventory := inventory }) with h | h
    · exact .inl (by simpa only [perform,hrun] using h)
    · refine .inr ⟨inventory,?_,hseats,hempty,hfilled,hothers⟩
      simp only [perform,hrun]
      exact h

end EventSystem

theorem inventoryPayload_inj {v v' : EventId} {seats seats' : List SeatId}
    (h : inventoryPayload ids v seats = inventoryPayload ids v' seats') :
    v = v' ∧ seats = seats' := by
  have hinj : Function.Injective ids.text := fun n m hnm =>
    Option.some.inj ((ids.named_text n).symm.trans (hnm ▸ ids.named_text m))
  simp only [inventoryPayload,Json.obj.injEq,List.cons.injEq,Prod.mk.injEq,Json.str.injEq,
    Json.arr.injEq,true_and,and_true] at h
  refine ⟨hinj h.1,List.map_injective_iff.mpr (fun n m hnm => hinj ?_) h.2⟩
  simpa using hnm

/-- An administrator's request to event-service writes one row at most. -/
theorem serve_cases (cols : EventColumns) (eventId : EventId) (db : Events) (clock : Time)
    (r : AdminRequest) : (EventService.serve cols eventId db clock r).2 = db ∨
      ∃ event, (EventService.serve cols eventId db clock r).2 = db.insert eventId event := by
  cases hr : r with
  | delete =>
    simp only [EventService.serve,deleteEvent]
    split
    · exact .inl rfl
    · split <;> exact .inl rfl
  | cancel data =>
    simp only [EventService.serve,cancelEvent]
    split
    · exact .inl rfl
    · split
      · exact .inl rfl
      · split <;> exact .inl rfl
  | publish =>
    simp only [EventService.serve,publishEvent]
    split
    · exact .inl rfl
    · split <;> exact .inl rfl
  | update data =>
    simp only [EventService.serve,updateEvent]
    split
    · exact .inl rfl
    · split
      · split
        · exact .inl rfl
        · split
          · exact .inl rfl
          · split
            · exact .inl rfl
            · split
              · exact .inl rfl
              · split
                · exact .inr ⟨_,rfl⟩
                · exact .inl rfl
      · exact .inl rfl

theorem serve_events (cols : EventColumns) (eventId : EventId) (db : Events) (clock : Time)
    (r : AdminRequest) {v : EventId} (hv : v ∈ db) :
    v ∈ (EventService.serve cols eventId db clock r).2 := by
  rcases serve_cases cols eventId db clock r with h | ⟨event,h⟩ <;> rw [h]
  · exact hv
  · exact AList.mem_insert _ |>.mpr (.inr hv)

end Systems

section Invariant

variable {ι : Type} (ids : IdTexts) (s₀ : EventSystem)

/-- No seat, or each seat of a venue once. -/
def Whole (seats : List SeatId) : Prop :=
  seats = [] ∨ ∃ path, seats.Perm ((s₀.seatsOf ids path).map (·.1))

theorem Whole.perm {seats seats' : List SeatId} (h : Whole ids s₀ seats)
    (hperm : seats'.Perm seats) : Whole ids s₀ seats' := by
  rcases h with rfl | ⟨path,hpath⟩
  · exact .inl hperm.eq_nil
  · exact .inr ⟨path,hperm.trans hpath⟩

/-- A run was told the id of the event that it has made. -/
def Told (h : List (Entry EventIf)) (eventId : EventId) : Prop :=
  ∃ payload, (⟨.createEvent payload,.ok eventId⟩ : Entry EventIf) ∈ h

/-- A run has sent the seats of an event. -/
def Sent (h : List (Entry EventIf)) (eventId : EventId) : Prop :=
  ∃ seats reply, (⟨.createInventoryBatch (inventoryPayload ids eventId seats),reply⟩ :
    Entry EventIf) ∈ h

/-- What holds of the databases, and of what the requests were told, at any time. -/
structure Provisioned (s : EventSystem) (past : ι → List (Entry EventIf)) : Prop where
  seats : s.seats = s₀.seats
  venues : s.venues = s₀.venues
  known : ∀ v, seatIds v s.inventory ≠ [] → v ∈ s.events
  whole : ∀ v, Whole ids s₀ (seatIds v s.inventory)
  told : ∀ i v, Told (past i) v → v ∈ s.events
  apart : ∀ i j v, Told (past i) v → Told (past j) v → i = j
  filled : ∀ i v seats n, (⟨.createInventoryBatch (inventoryPayload ids v seats),.ok n⟩ :
    Entry EventIf) ∈ past i → seats ≠ [] ∧ (seatIds v s.inventory).Perm seats
  sent : ∀ i v, Told (past i) v → seatIds v s.inventory ≠ [] → Sent ids (past i) v

/-- Seats are sent for an event of the request's own, as they are listed for some venue. -/
def EventOk (h : List (Entry EventIf)) : EventCall → Prop
  | .createInventoryBatch payload => ∃ eventId path,
      payload = inventoryPayload ids eventId ((s₀.seatsOf ids path).map (·.1)) ∧ Told h eventId
  | _ => True

/-- The answers that the databases can give. -/
def EventFeas : (q : EventCall) → q.Ans → Prop
  | .getVenue path, reply => ∀ v, reply = .ok v →
      ids.named path = some v.1 ∧ s₀.venues.lookup v.1 = some v.2
  | .getSeatsByVenue path, reply => ∀ seats, reply = .ok seats → seats = s₀.seatsOf ids path
  | .listInventoryByEvent _, reply => ∀ items, reply = .ok items →
      Whole ids s₀ (items.map (·.seatId))
  | _, _ => True

variable {ids s₀} {s s' : EventSystem} {past : ι → List (Entry EventIf)}

/-- More events, and the same seats in another order. -/
theorem Provisioned.later (h : Provisioned ids s₀ s past) (hseats : s'.seats = s.seats)
    (hvenues : s'.venues = s.venues) (hevents : ∀ v ∈ s.events, v ∈ s'.events)
    (hinventory : ∀ v, (seatIds v s'.inventory).Perm (seatIds v s.inventory)) :
    Provisioned ids s₀ s' past where
  seats := hseats.trans h.seats
  venues := hvenues.trans h.venues
  known v hv := hevents v (h.known v fun hnil => hv ((hnil ▸ hinventory v).eq_nil))
  whole v := (h.whole v).perm ids s₀ (hinventory v)
  told i v hv := hevents v (h.told i v hv)
  apart := h.apart
  filled i v seats n hmem := (h.filled i v seats n hmem).imp_right (hinventory v).trans
  sent i v hv hne := h.sent i v hv fun hnil => hne ((hnil ▸ hinventory v).eq_nil)

variable [DecidableEq ι]

theorem told_update {i j : ι} {x : Entry EventIf} {v : EventId}
    (h : Told (Function.update past i (x :: past i) j) v) :
    Told (past j) v ∨ j = i ∧ ∃ payload, x = ⟨.createEvent payload,.ok v⟩ := by
  obtain ⟨payload,hmem⟩ := h
  exact (mem_update hmem).imp (fun hold => ⟨payload,hold⟩)
    fun hnew => ⟨hnew.1,payload,hnew.2.symm⟩

theorem Sent.update {i j : ι} {x : Entry EventIf} {v : EventId} (h : Sent ids (past j) v) :
    Sent ids (Function.update past i (x :: past i) j) v := by
  obtain ⟨seats,reply,hmem⟩ := h
  exact ⟨seats,reply,mem_update_of_mem hmem⟩

/-- An answer that tells nothing new about the events and their seats. -/
theorem Provisioned.quiet (h : Provisioned ids s₀ s past) (i : ι) {x : Entry EventIf}
    (htold : ∀ payload v, x ≠ ⟨.createEvent payload,.ok v⟩)
    (hfilled : ∀ v seats n, x ≠ ⟨.createInventoryBatch (inventoryPayload ids v seats),.ok n⟩) :
    Provisioned ids s₀ s (Function.update past i (x :: past i)) := by
  have hsame : ∀ j v, Told (Function.update past i (x :: past i) j) v → Told (past j) v := by
    intro j v hv
    rcases told_update hv with hold | ⟨-,payload,hx⟩
    · exact hold
    · exact absurd hx (htold payload v)
  refine ⟨h.seats,h.venues,h.known,h.whole,fun j v hv => h.told j v (hsame j v hv),
    fun j k v hj hk => h.apart j k v (hsame j v hj) (hsame k v hk),
    fun j v seats n hmem => ?_,fun j v hv hne => (h.sent j v (hsame j v hv) hne).update⟩
  rcases mem_update hmem with hold | ⟨-,hx⟩
  · exact h.filled j v seats n hold
  · exact absurd hx.symm (hfilled v seats n)

theorem Provisioned.created (h : Provisioned ids s₀ s past) (i : ι) {payload : Json}
    {v : EventId} (hv : v ∉ s.events) (hevents : ∀ v ∈ s.events, v ∈ s'.events)
    (hnew : v ∈ s'.events) (hseats : s'.seats = s.seats) (hvenues : s'.venues = s.venues)
    (hinventory : s'.inventory = s.inventory) :
    Provisioned ids s₀ s'
      (Function.update past i (⟨.createEvent payload,.ok v⟩ :: past i)) := by
  have hlater := h.later hseats hvenues hevents (fun v => by rw [hinventory])
  have hcases : ∀ j w, Told (Function.update past i
      (⟨.createEvent payload,.ok v⟩ :: past i) j) w → Told (past j) w ∨ j = i ∧ w = v := by
    intro j w hw
    rcases told_update hw with hold | ⟨rfl,payload',hx⟩
    · exact .inl hold
    · cases hx
      exact .inr ⟨rfl,rfl⟩
  refine ⟨hlater.seats,hlater.venues,hlater.known,hlater.whole,fun j w hw => ?_,
    fun j k w hj hk => ?_,fun j w seats n hmem => ?_,fun j w hw hne => ?_⟩
  · rcases hcases j w hw with hold | ⟨-,rfl⟩
    · exact hlater.told j w hold
    · exact hnew
  · rcases hcases j w hj with holdj | ⟨rfl,rfl⟩
    · rcases hcases k w hk with holdk | ⟨rfl,rfl⟩
      · exact h.apart j k w holdj holdk
      · exact absurd (h.told j w holdj) hv
    · rcases hcases k w hk with holdk | ⟨rfl,-⟩
      · exact absurd (h.told k w holdk) hv
      · rfl
  · rcases mem_update hmem with hold | ⟨-,hx⟩
    · exact hlater.filled j w seats n hold
    · cases hx
  · rcases hcases j w hw with hold | ⟨-,rfl⟩
    · exact (hlater.sent j w hold hne).update
    · exact absurd (h.known w (hinventory ▸ hne)) hv

/-- The seats of an event are there from now on. -/
theorem Provisioned.provides (h : Provisioned ids s₀ s past) (i : ι) {v : EventId} {path : String}
    (htold : Told (past i) v) {inventory : Inventory} {reply : Reply Nat}
    (hne : (s₀.seatsOf ids path).map (·.1) ≠ []) (hempty : seatIds v s.inventory = [])
    (hfilled : (seatIds v inventory).Perm ((s₀.seatsOf ids path).map (·.1)))
    (hothers : ∀ w, w ≠ v → (seatIds w inventory).Perm (seatIds w s.inventory)) :
    Provisioned ids s₀ { s with inventory := inventory } (Function.update past i
      (⟨.createInventoryBatch (inventoryPayload ids v ((s₀.seatsOf ids path).map (·.1))),reply⟩ ::
        past i)) := by
  have hsame : ∀ j w, Told (Function.update past i (⟨.createInventoryBatch
      (inventoryPayload ids v ((s₀.seatsOf ids path).map (·.1))),reply⟩ :: past i) j) w →
        Told (past j) w := by
    intro j w hw
    rcases told_update hw with hold | ⟨-,payload,hx⟩
    · exact hold
    · cases hx
  refine ⟨h.seats,h.venues,fun w hw => ?_,fun w => ?_,fun j w hw => h.told j w (hsame j w hw),
    fun j k w hj hk => h.apart j k w (hsame j w hj) (hsame k w hk),
    fun j w seats n hmem => ?_,fun j w hw hseats => ?_⟩
  · by_cases hwv : w = v
    · subst hwv
      exact h.told i w htold
    · exact h.known w fun hnil => hw ((hnil ▸ hothers w hwv).eq_nil)
  · by_cases hwv : w = v
    · subst hwv
      exact .inr ⟨path,hfilled⟩
    · exact (h.whole w).perm ids s₀ (hothers w hwv)
  · rcases mem_update hmem with hold | ⟨-,hx⟩
    · obtain ⟨hseats,hperm⟩ := h.filled j w seats n hold
      refine ⟨hseats,(hothers w fun hwv => hseats ?_).trans hperm⟩
      subst hwv
      exact (hempty ▸ hperm).nil_eq.symm
    · simp only [Sigma.mk.injEq,EventCall.createInventoryBatch.injEq] at hx
      obtain ⟨rfl,rfl⟩ := inventoryPayload_inj ids hx.1
      exact ⟨hne,hfilled⟩
  · have hold := hsame j w hw
    by_cases hwv : w = v
    · subst hwv
      obtain rfl := h.apart j i w hold htold
      exact ⟨_,reply,mem_update_self⟩
    · exact (h.sent j w hold fun hnil => hseats ((hnil ▸ hothers w hwv).eq_nil)).update

omit [DecidableEq ι] in
/-- What others do meanwhile makes no event and moves no row. -/
theorem Provisioned.acts (h : Provisioned ids s₀ s past) {cols : EventColumns}
    (hact : EventSystem.Acts cols s s') : Provisioned ids s₀ s' past := by
  cases hact with
  | call cfg e w q hinventory htickets husers =>
    refine h.later rfl rfl (fun _ => id) (seatIds_perm fun i => ?_)
    rw [← hinventory]
    exact SeatStep.place (World.perform_step cfg e w q i)
  | admin clock eventId r =>
    exact h.later rfl rfl (fun _ => serve_events cols eventId s.events clock r) fun _ => .refl _

/-- Every step keeps the invariant, and what the calls are answered. -/
theorem provisioned_keeps (cols : EventColumns) :
    Keeps (EventSystem.server ids cols ι) Config.anyStep (fun _ => EventOk ids s₀)
      (fun _ _ => EventFeas ids s₀) (Provisioned ids s₀) := by
  intro s past i e q h _ _ hok
  have hread {α : Type} (a : Except ServiceError α) : (s.answer e (a,s)).2 = s := answer_read a
  have hseats (path : String) : s.seatsOf ids path = s₀.seatsOf ids path := by
    simp only [EventSystem.seatsOf,h.seats]
  cases q with
  | createEvent payload =>
    refine ⟨trivial,?_⟩
    simp only [EventSystem.server]
    obtain ⟨hseats,hvenues,hinventory,hevents⟩ :=
      (s.perform_step ids cols e (.createEvent payload)).createEvent
    cases hreply : (s.perform ids cols e (.createEvent payload)).1 with
    | ok v =>
      obtain ⟨hv,hnew⟩ := EventSystem.perform_created ids hreply
      exact h.created i hv hevents hnew hseats hvenues hinventory
    | error code =>
      exact (h.later hseats hvenues hevents fun v => by rw [hinventory]).quiet i
        (fun _ _ hx => by cases hx) fun _ _ _ hx => by cases hx
    | raised =>
      exact (h.later hseats hvenues hevents fun v => by rw [hinventory]).quiet i
        (fun _ _ hx => by cases hx) fun _ _ _ hx => by cases hx
  | createInventoryBatch payload =>
    refine ⟨trivial,?_⟩
    obtain ⟨v,path,hpayload,htold⟩ := hok
    simp only [EventSystem.server]
    have hbatch := s.perform_batch ids cols e v ((s₀.seatsOf ids path).map (·.1))
    rw [← hpayload] at hbatch
    rcases hbatch with ⟨hstate,hfails⟩ | ⟨inventory,hstate,hne,hempty,hfilled,hothers⟩
    · rw [hstate]
      refine h.quiet i (fun _ _ hx => by cases hx) fun w seats n hx => ?_
      generalize hreply : (s.perform ids cols e (.createInventoryBatch payload)).1 = reply at hx
      cases hx
      exact hfails n hreply
    · rw [hstate]
      subst hpayload
      exact h.provides i htold hne hempty hfilled hothers
  | getVenue path =>
    simp only [EventSystem.server,EventSystem.perform,hread]
    refine ⟨fun v hv => ?_,h.quiet i (fun _ _ hx => by cases hx) fun _ _ _ hx => by cases hx⟩
    obtain ⟨n,hnamed,hvenue⟩ := Option.bind_eq_some_iff.mp (found_ok (answer_ok hv).1)
    obtain ⟨venue,hlookup,rfl⟩ := Option.map_eq_some_iff.mp hvenue
    exact ⟨hnamed,h.venues ▸ hlookup⟩
  | getSeatsByVenue path =>
    simp only [EventSystem.server,EventSystem.perform,hread]
    refine ⟨fun seats hs => ?_,h.quiet i (fun _ _ hx => by cases hx) fun _ _ _ hx => by cases hx⟩
    have hok := (answer_ok hs).1
    cases hok
    exact hseats path
  | listInventoryByEvent eventId =>
    simp only [EventSystem.server,EventSystem.perform,hread]
    refine ⟨fun items hs => ?_,h.quiet i (fun _ _ hx => by cases hx) fun _ _ _ hx => by cases hx⟩
    have hok := (answer_ok hs).1
    cases hok
    rw [listInventory_seatIds]
    exact h.whole eventId
  | getEvent eventId =>
    simp only [EventSystem.server,EventSystem.perform,hread]
    exact ⟨trivial,h.quiet i (fun _ _ hx => by cases hx) fun _ _ _ hx => by cases hx⟩
  | getTicketsByEvent eventId =>
    simp only [EventSystem.server,EventSystem.perform,hread]
    exact ⟨trivial,h.quiet i (fun _ _ hx => by cases hx) fun _ _ _ hx => by cases hx⟩
  | getUser userId =>
    simp only [EventSystem.server,EventSystem.perform,hread]
    exact ⟨trivial,h.quiet i (fun _ _ hx => by cases hx) fun _ _ _ hx => by cases hx⟩

end Invariant

section Labels

variable (ids : IdTexts) (s₀ : EventSystem)

/-- The row and the number of a seat are shown. -/
def Labelled (path : String) (seatId : SeatId) (rowNumber seatNumber : Option String) : Prop :=
  ∃ seat, (seatId,seat) ∈ s₀.seatsOf ids path ∧ rowNumber = some seat.rowNumber ∧
    seatNumber = some seat.seatNumber

/-- All the seats have their row and number, or none has. -/
def AllLabelled (path : String) (labels : List (SeatId × Option String × Option String)) : Prop :=
  (∀ x ∈ labels, Labelled ids s₀ path x.1 x.2.1 x.2.2) ∨
    ∀ x ∈ labels, x.2.1 = none ∧ x.2.2 = none

/-- The label that a lookup gives a seat. -/
def label (seatMap : List (SeatId × Seat)) (seatId : SeatId) :
    SeatId × Option String × Option String :=
  (seatId,(seatMap.lookup seatId).map (·.rowNumber),(seatMap.lookup seatId).map (·.seatNumber))

variable {ids s₀}

theorem lookup_seatLookup {path : String} {seatId : SeatId} {seat : Seat}
    (h : (seatId,seat) ∈ s₀.seatsOf ids path) :
    (seatLookup (some (s₀.seatsOf ids path))).lookup seatId = some seat := by
  refine Dict.lookup_setAll_of_mem h fun seat' h' => ?_
  exact Option.some.inj ((mem_seatsOf ids).mp h' |>.1.symm.trans ((mem_seatsOf ids).mp h).1)

theorem lookup_seatLookup_none {path : String} {seatId : SeatId}
    (h : ∀ seat, (seatId,seat) ∉ s₀.seatsOf ids path) :
    (seatLookup (some (s₀.seatsOf ids path))).lookup seatId = none :=
  Dict.lookup_setAll_of_not_mem h

theorem seats_of_perm {path : String} {seats : List SeatId}
    (h : seats.Perm ((s₀.seatsOf ids path).map (·.1))) :
    ∀ seatId ∈ seats, ∃ seat, (seatId,seat) ∈ s₀.seatsOf ids path := by
  intro seatId hmem
  obtain ⟨row,hrow,rfl⟩ := List.mem_map.mp (h.subset hmem)
  exact ⟨row.2,hrow⟩

/-- The seats of a venue are looked up among those of a venue: the same one, or another. -/
theorem allLabelled_lookup {path : String} {reply : Option (List (SeatId × Seat))}
    (hreply : ∀ seats, reply = some seats → ∃ path', seats = s₀.seatsOf ids path')
    {seats : List SeatId} (hseats : ∀ seatId ∈ seats, ∃ seat, (seatId,seat) ∈ s₀.seatsOf ids path) :
    AllLabelled ids s₀ path (seats.map (label (seatLookup reply))) := by
  cases reply with
  | none =>
    refine .inr fun x hx => ?_
    obtain ⟨seatId,-,rfl⟩ := List.mem_map.mp hx
    exact ⟨rfl,rfl⟩
  | some listed =>
    obtain ⟨path',rfl⟩ := hreply listed rfl
    by_cases hnamed : ids.named path' = ids.named path
    · have hsame : s₀.seatsOf ids path' = s₀.seatsOf ids path := by
        simp only [EventSystem.seatsOf,hnamed]
      refine .inl fun x hx => ?_
      obtain ⟨seatId,hmem,rfl⟩ := List.mem_map.mp hx
      obtain ⟨seat,hseat⟩ := hseats seatId hmem
      have hlookup := lookup_seatLookup hseat
      exact ⟨seat,hseat,by simp [label,hsame,hlookup],by simp [label,hsame,hlookup]⟩
    · refine .inr fun x hx => ?_
      obtain ⟨seatId,hmem,rfl⟩ := List.mem_map.mp hx
      obtain ⟨seat,hseat⟩ := hseats seatId hmem
      have hlookup : (seatLookup (some (s₀.seatsOf ids path'))).lookup seatId = none := by
        refine lookup_seatLookup_none fun seat' hseat' => hnamed ?_
        obtain ⟨hrow,hvenue⟩ := (mem_seatsOf ids).mp hseat
        obtain ⟨hrow',hvenue'⟩ := (mem_seatsOf ids).mp hseat'
        obtain rfl := Option.some.inj (hrow.symm.trans hrow')
        exact hvenue'.trans hvenue.symm
      exact ⟨by simp [label,hlookup],by simp [label,hlookup]⟩

end Labels

section Discipline

variable (ids : IdTexts) (s₀ : EventSystem)

/-- The venue that a request names. -/
def venuePath (body : Json) : String :=
  match if body.truthy then body else .obj [] with
  | .obj data => ids.str (venueOf data)
  | _ => ""

/-- A seat map shows no seat, or each seat of a venue once, with or without its labels. -/
def WholeMap (seats : List SeatMapEntry) : Prop :=
  seats = [] ∨ ∃ path, (seats.map (·.seatId)).Perm ((s₀.seatsOf ids path).map (·.1)) ∧
    AllLabelled ids s₀ path (seats.map fun x => (x.seatId,x.rowNumber,x.seatNumber))

/-- The attendees sit on the seats that are sold; with the others they are all seats of a venue. -/
def WholeDashboard (stats : DashboardStats) (attendees : List Attendee) : Prop :=
  stats.seatsSold = attendees.length ∧ ∃ unsold,
    stats.totalSeats = (attendees.map (·.seatId) ++ unsold).length ∧
    (attendees.map (·.seatId) ++ unsold = [] ∨ ∃ path,
      (attendees.map (·.seatId) ++ unsold).Perm ((s₀.seatsOf ids path).map (·.1)) ∧
      AllLabelled ids s₀ path (attendees.map fun x => (x.seatId,x.rowNumber,x.seatNumber)))

/-- What a run has seen, and what it tells, when it answers. -/
def Answered (r : EventRequest) (h : List (Entry EventIf)) : Response EventAnswer → Prop
  | .error code _ _ => code ≠ "INVENTORY_ERROR" → ∀ v, ¬ Sent ids h v
  | .data _ (.created v n) => ∃ body path venue k, r = .create body ∧ path = venuePath ids body ∧
      ids.named path = some venue ∧ venue ∈ s₀.venues ∧ Told h v ∧
      (⟨.createInventoryBatch (inventoryPayload ids v ((s₀.seatsOf ids path).map (·.1))),.ok k⟩ :
        Entry EventIf) ∈ h ∧ n = (s₀.seatsOf ids path).length
  | .data _ (.seatMap _ seats) => WholeMap ids s₀ seats
  | .data _ (.seatDetail _ _ _) => True
  | .data _ (.dashboard stats attendees) => WholeDashboard ids s₀ stats attendees

abbrev EventFollows {α : Type} (p : EventProg α) (h : List (Entry EventIf))
    (fin : α → List (Entry EventIf) → Prop) : Prop :=
  p.Follows (EventOk ids s₀) (fun _ => EventFeas ids s₀) fin (fun _ _ => True) h

variable {ids s₀} {r : EventRequest} {h : List (Entry EventIf)}

theorem ask_follows {α β : Type} {reply : Reply α} {f : Option α → EventProg β}
    {fin : β → List (Entry EventIf) → Prop}
    (hok : ∀ a, reply = .ok a → EventFollows ids s₀ (f (some a)) h fin)
    (hnone : EventFollows ids s₀ (f none) h fin) :
    EventFollows ids s₀ (ask reply >>= f) h fin := by
  cases reply with
  | ok a => exact hok a rfl
  | error code => exact hnone
  | raised => trivial

theorem ask_any {α β : Type} {reply : Reply α} {f : Option α → EventProg β}
    {fin : β → List (Entry EventIf) → Prop} (hf : ∀ a, EventFollows ids s₀ (f a) h fin) :
    EventFollows ids s₀ (ask reply >>= f) h fin := ask_follows (fun _ _ => hf _) (hf none)

/-- An error before the batch. -/
theorem refused_follows {code message : String} {status : Nat} (hnone : ∀ v, ¬ Sent ids h v) :
    EventFollows ids s₀ (pure (.error code message status)) h
      (fun resp h => Answered ids s₀ r h resp) := fun _ => hnone

theorem not_sent_cons (x : Entry EventIf) (hx : ∀ payload reply,
    x ≠ ⟨.createInventoryBatch payload,reply⟩) (hnone : ∀ v, ¬ Sent ids h v) (v : EventId) :
    ¬ Sent ids (x :: h) v := by
  rintro ⟨seats,reply,hmem⟩
  rcases List.mem_cons.mp hmem with hnew | hold
  · exact hx _ _ hnew.symm
  · exact hnone v ⟨seats,reply,hold⟩

variable (ids) in
theorem not_sent_nil (v : EventId) : ¬ Sent ids [] v := by
  rintro ⟨seats,reply,hmem⟩
  cases hmem

theorem firstPrice_follows (data : List (String × Json)) :
    EventFollows ids s₀ (firstPrice data) h (fun _ h' => h' = h) := by
  unfold firstPrice
  dsimp only
  split
  · split
    · rfl
    · trivial
  · rfl

theorem createEventAdmin_follows (body : Json) :
    EventFollows ids s₀ (createEventAdmin ids body) []
      (fun resp h => Answered ids s₀ (.create body) h resp) := by
  unfold createEventAdmin
  split
  case h_2 => trivial
  rename_i data hdata
  have hpath : ids.str (venueOf data) = venuePath ids body := by simp only [venuePath,hdata]
  refine Prog.follows_ite (fun _ => refused_follows (not_sent_nil ids)) (fun _ => ?_)
  refine Prog.follows_bind.mpr ⟨trivial,fun venueReply hvenue => ?_⟩
  have hnone₁ := not_sent_cons ⟨.getVenue (ids.str (venueOf data)),venueReply⟩
    (fun _ _ hx => by cases hx) (not_sent_nil ids)
  refine Prog.follows_bind.mp (ask_follows (fun venue hok₁ => ?_) (refused_follows hnone₁))
  refine Prog.follows_bind.mpr ((firstPrice_follows data).mono (fun price _ hh => ?_)
    (fun _ _ _ => trivial))
  subst hh
  refine Prog.follows_bind.mpr ⟨trivial,fun eventReply _ => ?_⟩
  have hnone₂ := not_sent_cons
    ⟨.createEvent (eventPayload data (venueOf data) price),eventReply⟩
    (fun _ _ hx => by cases hx) hnone₁
  refine Prog.follows_bind.mp (ask_follows (fun eventId hok₂ => ?_) (refused_follows hnone₂))
  refine Prog.follows_bind.mpr ⟨trivial,fun seatsReply hseats => ?_⟩
  have hnone₃ := not_sent_cons
    ⟨.getSeatsByVenue (ids.str (venueOf data)),seatsReply⟩
    (fun _ _ hx => by cases hx) hnone₂
  refine Prog.follows_bind.mp (ask_follows (fun seats hok₃ => ?_) (refused_follows hnone₃))
  obtain rfl := hseats seats hok₃
  have htold : Told (⟨.getSeatsByVenue (ids.str (venueOf data)),seatsReply⟩ ::
      ⟨.createEvent (eventPayload data (venueOf data) price),eventReply⟩ ::
        [⟨.getVenue (ids.str (venueOf data)),venueReply⟩]) eventId :=
    ⟨eventPayload data (venueOf data) price,by rw [hok₂]; simp⟩
  refine Prog.follows_bind.mpr ⟨⟨eventId,_,rfl,htold⟩,fun batchReply _ => ?_⟩
  refine Prog.follows_bind.mp (ask_follows (fun k hok₄ => ?_) fun hcode => absurd rfl hcode)
  obtain ⟨hnamed,hlookup⟩ := hvenue venue hok₁
  obtain ⟨payload,hmem⟩ := htold
  refine ⟨body,_,venue.1,k,rfl,hpath,hnamed,?_,⟨payload,List.mem_cons_of_mem _ hmem⟩,?_,rfl⟩
  · exact AList.lookup_isSome.mp (by rw [hlookup]; rfl)
  · rw [hok₄]
    exact List.mem_cons_self

/-- The seats of a venue that an answer could list are looked up in what another could. -/
theorem wholeMap_of_answers {items : List InventoryEntry} {price : ℚ}
    {reply : Option (List (SeatId × Seat))} (hitems : Whole ids s₀ (items.map (·.seatId)))
    (hreply : ∀ seats, reply = some seats → ∃ path, seats = s₀.seatsOf ids path) :
    WholeMap ids s₀ (items.map (seatMapEntry (seatLookup reply) price)) := by
  rcases hitems with hnil | ⟨path,hperm⟩
  · exact .inl (by simpa using hnil)
  · refine .inr ⟨path,by simpa [Function.comp_def,seatMapEntry] using hperm,?_⟩
    have hlabels := allLabelled_lookup hreply (seats_of_perm hperm)
    simpa [Function.comp_def,seatMapEntry,label] using hlabels

theorem getSeatMap_follows (eventId : EventId) :
    EventFollows ids s₀ (getSeatMap eventId) []
      (fun resp h => Answered ids s₀ (.seatMap eventId) h resp) := by
  unfold getSeatMap
  refine Prog.follows_bind.mpr ⟨trivial,fun eventReply _ => ?_⟩
  have hnone₁ := not_sent_cons ⟨.getEvent eventId,eventReply⟩
    (fun _ _ hx => by cases hx) (not_sent_nil ids)
  refine Prog.follows_bind.mp (ask_follows (fun event _ => ?_) (refused_follows hnone₁))
  refine Prog.follows_bind.mpr ⟨trivial,fun itemsReply hitems => ?_⟩
  have hnone₂ := not_sent_cons ⟨.listInventoryByEvent eventId,itemsReply⟩
    (fun _ _ hx => by cases hx) hnone₁
  refine Prog.follows_bind.mp (ask_follows (fun items hok => ?_) (refused_follows hnone₂))
  refine Prog.follows_bind.mpr ⟨trivial,fun seatsReply hseats => ?_⟩
  have hwhole := hitems items hok
  refine Prog.follows_bind.mp (ask_follows (fun seats hlisted => ?_) ?_)
  · exact wholeMap_of_answers hwhole fun _ h => ⟨event.venueId,Option.some.inj h ▸ hseats seats hlisted⟩
  · exact wholeMap_of_answers hwhole fun _ h => by cases h

theorem ownerEmail_follows (ticket : Option Ticket) :
    EventFollows ids s₀ (ownerEmail ticket) h (fun _ _ => True) := by
  cases ticket with
  | none => trivial
  | some ticket =>
    refine Prog.follows_bind.mpr ⟨trivial,fun reply _ => ?_⟩
    exact Prog.follows_bind.mp (ask_follows (fun _ _ => trivial) trivial)

theorem attendeesOf_follows (seatMap : List (SeatId × Seat))
    (invToTicket : List (InventoryId × Ticket)) (items : List InventoryEntry) :
    EventFollows ids s₀ (attendeesOf seatMap invToTicket items) h (fun attendees _ =>
      attendees.map (fun x => (x.seatId,x.rowNumber,x.seatNumber)) =
        items.map fun item => label seatMap item.seatId) := by
  induction items generalizing h with
  | nil => rfl
  | cons item rest ih =>
    refine Prog.follows_bind.mpr ((ownerEmail_follows _).mono (fun email h' _ => ?_)
      (fun _ _ _ => trivial))
    refine Prog.follows_bind.mpr (ih.mono (fun others h'' hothers => ?_) (fun _ _ _ => trivial))
    show List.map _ (_ :: others) = _
    rw [List.map_cons,List.map_cons,hothers]
    rfl

theorem wholeDashboard_of_answers {items : List InventoryEntry} {attendees : List Attendee}
    {revenue : ℚ} {reply : Option (List (SeatId × Seat))}
    (hitems : Whole ids s₀ (items.map (·.seatId)))
    (hreply : ∀ seats, reply = some seats → ∃ path, seats = s₀.seatsOf ids path)
    (hattendees : attendees.map (fun x => (x.seatId,x.rowNumber,x.seatNumber)) =
      (items.filter (·.status = .sold)).map fun item => label (seatLookup reply) item.seatId) :
    WholeDashboard ids s₀ ⟨(items.filter (·.status = .sold)).length,items.length,revenue⟩
      attendees := by
  have hseats : attendees.map (·.seatId) = (items.filter (·.status = .sold)).map (·.seatId) := by
    simpa [Function.comp_def,label] using congrArg (List.map (·.1)) hattendees
  have hsplit : (attendees.map (·.seatId) ++
      (items.filter fun item => ¬ item.status = .sold).map (·.seatId)).Perm
        (items.map (·.seatId)) := by
    rw [hseats,← List.map_append]
    simpa using (List.filter_append_perm (fun item => decide (item.status = .sold)) items).map
      (·.seatId)
  refine ⟨by simpa using (congrArg List.length hseats).symm,
    (items.filter fun item => ¬ item.status = .sold).map (·.seatId),
    by simpa using hsplit.length_eq.symm,?_⟩
  rcases hitems with hnil | ⟨path,hperm⟩
  · exact .inl (hnil ▸ hsplit).eq_nil
  · refine .inr ⟨path,hsplit.trans hperm,?_⟩
    have hlabels := allLabelled_lookup hreply fun seatId hmem =>
      seats_of_perm (hsplit.trans hperm) seatId (List.mem_append_left _ (hseats ▸ hmem))
    rw [hattendees]
    simpa [Function.comp_def] using hlabels

theorem getEventDashboard_follows (eventId : EventId) :
    EventFollows ids s₀ (getEventDashboard eventId) []
      (fun resp h => Answered ids s₀ (.dashboard eventId) h resp) := by
  unfold getEventDashboard
  refine Prog.follows_bind.mpr ⟨trivial,fun eventReply _ => ?_⟩
  have hnone₁ := not_sent_cons ⟨.getEvent eventId,eventReply⟩
    (fun _ _ hx => by cases hx) (not_sent_nil ids)
  refine Prog.follows_bind.mp (ask_follows (fun event _ => ?_) (refused_follows hnone₁))
  refine Prog.follows_bind.mpr ⟨trivial,fun itemsReply hitems => ?_⟩
  have hnone₂ := not_sent_cons ⟨.listInventoryByEvent eventId,itemsReply⟩
    (fun _ _ hx => by cases hx) hnone₁
  refine Prog.follows_bind.mp (ask_follows (fun items hok => ?_) (refused_follows hnone₂))
  have hwhole := hitems items hok
  refine Prog.follows_bind.mpr ⟨trivial,fun ticketsReply _ => ?_⟩
  refine Prog.follows_bind.mp (ask_any fun ticketsData => ?_)
  refine Prog.follows_bind.mpr ⟨trivial,fun seatsReply hseats => ?_⟩
  refine Prog.follows_bind.mp (ask_follows (fun seats hlisted => ?_) ?_)
  · refine Prog.follows_bind.mpr ((attendeesOf_follows _ _ _).mono
      (fun attendees _ hattendees => ?_) (fun _ _ _ => trivial))
    exact wholeDashboard_of_answers hwhole
      (fun _ h => ⟨event.venueId,Option.some.inj h ▸ hseats seats hlisted⟩) hattendees
  · refine Prog.follows_bind.mpr ((attendeesOf_follows _ _ _).mono
      (fun attendees _ hattendees => ?_) (fun _ _ _ => trivial))
    exact wholeDashboard_of_answers hwhole (fun _ h => by cases h) hattendees

theorem getSeatDetail_follows (eventId : EventId) (inventoryId : InventoryId) :
    EventFollows ids s₀ (getSeatDetail eventId inventoryId) []
      (fun resp h => Answered ids s₀ (.seatDetail eventId inventoryId) h resp) := by
  unfold getSeatDetail
  refine Prog.follows_bind.mpr ⟨trivial,fun eventReply _ => ?_⟩
  have hnone₁ := not_sent_cons ⟨.getEvent eventId,eventReply⟩
    (fun _ _ hx => by cases hx) (not_sent_nil ids)
  refine Prog.follows_bind.mp (ask_follows (fun event _ => ?_) (refused_follows hnone₁))
  refine Prog.follows_bind.mpr ⟨trivial,fun itemsReply _ => ?_⟩
  have hnone₂ := not_sent_cons ⟨.listInventoryByEvent eventId,itemsReply⟩
    (fun _ _ hx => by cases hx) hnone₁
  refine Prog.follows_bind.mp (ask_follows (fun items _ => ?_) (refused_follows hnone₂))
  dsimp only
  split
  · exact refused_follows hnone₂
  · refine Prog.follows_bind.mpr ⟨trivial,fun venueReply _ => ?_⟩
    exact Prog.follows_bind.mp (ask_any fun venue => trivial)

theorem handler_follows (r : EventRequest) :
    EventFollows ids s₀ (r.handler ids) [] (fun resp h => Answered ids s₀ r h resp) := by
  cases r with
  | create body => exact createEventAdmin_follows body
  | seatMap eventId => exact getSeatMap_follows eventId
  | seatDetail eventId inventoryId => exact getSeatDetail_follows eventId inventoryId
  | dashboard eventId => exact getEventDashboard_follows eventId

end Discipline

section Runs

variable {ι : Type} [DecidableEq ι]

/-- What rows there are make whole events, and events that are there. -/
def Consistent (ids : IdTexts) (s : EventSystem) : Prop :=
  ∀ v, seatIds v s.inventory ≠ [] → v ∈ s.events ∧ Whole ids s (seatIds v s.inventory)

/-- The requests, one call at a time, among the calls and requests of all the others. -/
abbrev EventRuns (ids : IdTexts) (cols : EventColumns) (s₀ : EventSystem)
    (requests : ι → EventRequest)
    (c : Config ι EventIf Unit (Response EventAnswer) EventSystem) : Prop :=
  Config.Runs (EventSystem.server ids cols ι) Config.anyStep (EventSystem.Acts cols)
    (Config.start s₀ fun i => (requests i).handler ids) c

omit [DecidableEq ι] in
theorem provisioned_start {ids : IdTexts} {s₀ : EventSystem} (hs : Consistent ids s₀) :
    Provisioned ids s₀ s₀ fun _ : ι => [] where
  seats := rfl
  venues := rfl
  known v hv := (hs v hv).1
  whole v := by
    by_cases hv : seatIds v s₀.inventory = []
    · exact .inl hv
    · exact (hs v hv).2
  told i v hv := by obtain ⟨_,hmem⟩ := hv; cases hmem
  apart i j v hv := by obtain ⟨_,hmem⟩ := hv; cases hmem
  filled i v seats n hmem := by cases hmem
  sent i v hv := by obtain ⟨_,hmem⟩ := hv; cases hmem

theorem EventRuns.disciplined {ids : IdTexts} {cols : EventColumns} {s₀ : EventSystem}
    {requests : ι → EventRequest}
    {c : Config ι EventIf Unit (Response EventAnswer) EventSystem} (hs : Consistent ids s₀)
    (hrun : EventRuns ids cols s₀ requests c) :
    c.Disciplined (fun _ => EventOk ids s₀) (fun _ _ => EventFeas ids s₀)
      (fun i resp h => Answered ids s₀ (requests i) h resp) (fun _ _ _ => True)
      (Provisioned ids s₀) :=
  (Config.disciplined_start (provisioned_start hs) fun i => handler_follows (requests i)).runs
    (provisioned_keeps cols) (fun _ _ _ hact h => h.acts hact) hrun

end Runs

section Example

/-- Ids in unary. -/
def unaryId (s : String) : Option Nat := if s = "" then none else some (s.length-1)

def unaryIds : IdTexts where
  operand
    | .str s => unaryId s
    | _ => none
  stored
    | .str s => unaryId s
    | _ => none
  text n := String.ofList (List.replicate (n+1) 'i')
  str
    | .str s => s
    | _ => ""
  named := unaryId
  text_ne n h := by simpa using congrArg String.length h
  str_str _ := rfl
  named_text n := by
    have hne : String.ofList (List.replicate (n+1) 'i') ≠ "" :=
      fun h => by simpa using congrArg String.length h
    simp [unaryId,hne]
  operand_text n := by
    have hne : String.ofList (List.replicate (n+1) 'i') ≠ "" :=
      fun h => by simpa using congrArg String.length h
    simp [unaryId,hne]
  stored_text n := by
    have hne : String.ofList (List.replicate (n+1) 'i') ≠ "" :=
      fun h => by simpa using congrArg String.length h
    simp [unaryId,hne]

/-- Every date is the same instant. -/
def datedColumns : EventColumns where
  toColumns := { Columns.plain with fromisoformat := fun _ => some 0 }
  text
    | .str s => some (some s)
    | _ => none

/-- Two seats of one venue, and one of another. -/
def twoVenues : EventSystem where
  events := ∅
  venues := (AList.singleton 1 ⟨"Hall","Road"⟩).insert 2 ⟨"Club","Lane"⟩
  seats := ((AList.singleton 5 ⟨1,"A","A1"⟩).insert 6 ⟨1,"A","A2"⟩).insert 7 ⟨2,"B","B1"⟩
  inventory := ∅
  tickets := ∅
  users := ∅

theorem twoVenues_consistent : Consistent unaryIds twoVenues := by
  intro v hv
  exact absurd rfl hv

def newConcert : Json :=
  .obj [("name",.str "Concert"),("type",.str "concert"),("venueId",.str "ii"),
    ("event_date",.str "2030-01-01"),("pricing_tiers",.obj [("vip",.num 80),("normal",.num 50)])]

/-- One client makes an event, of which another asks for the seat map. -/
def makeAndShow (first : Bool) : EventRequest :=
  if first then .create newConcert else .seatMap 3

def onePass (n : Nat) : EventEnv := ⟨0,n,fun k => 10+k,none⟩

/-- The map is asked for before the seats are sent, and reads the rows after. -/
def madeAndShown : Config Bool EventIf Unit (Response EventAnswer) EventSystem :=
  (Config.start twoVenues fun b => (makeAndShow b).handler unaryIds).schedule
    (EventSystem.server unaryIds datedColumns Bool) (fun _ _ _ _ _ => true)
    [(true,onePass 0),(true,onePass 3),(false,onePass 0),(true,onePass 0),(true,onePass 0),
      (false,onePass 0),(false,onePass 0)]

theorem madeAndShown_runs :
    EventRuns unaryIds datedColumns twoVenues makeAndShow madeAndShown :=
  Relation.ReflTransGen.mono (fun _ _ h => .inl h) _ _
    (Config.reach_schedule (fun _ _ _ _ _ _ => trivial) _ _)

end Example

end TicketRemaster.EventOrchestrator
