import TicketRemaster.Transfer.Records
set_option autoImplicit false

/-! From a transfer to its listing, its ticket, the event, the venue and the seat: whatever lookups
fail, the record is kept, and what the enrichment adds to it has been reached along this chain. -/

namespace TicketRemaster.TransferRecord

section Steps

/-- What a lookup finds at an id. -/
def At (get : Json → Except String Json) (P : Json → Prop) (data : Json) : Prop :=
  ∃ id, P id ∧ Finds get id data

def FieldOf (name : String) (P : Json → Prop) (value : Json) : Prop :=
  ∃ data, P data ∧ data.field name = value

/-- The first if there is one, and else the second. -/
def OrElse (P Q : Json → Prop) (value : Json) : Prop := P value ∨ (∀ a, ¬ P a) ∧ Q value

def AtMostOne (P : Json → Prop) : Prop := ∀ a b, P a → P b → a = b

variable {P Q : Json → Prop} {get : Json → Except String Json} {name : String} {a b : Json}

theorem finds_atMostOne (get : Json → Except String Json) (id : Json) :
    AtMostOne (Finds get id) := fun _ _ ha hb => ha.unique hb

theorem AtMostOne.found (hP : AtMostOne P) (get : Json → Except String Json) :
    AtMostOne (At get P) := by
  rintro a b ⟨id,hid,ha⟩ ⟨id',hid',hb⟩
  obtain rfl := hP id id' hid hid'
  exact ha.unique hb

theorem AtMostOne.fieldOf (hP : AtMostOne P) (name : String) : AtMostOne (FieldOf name P) := by
  rintro _ _ ⟨a,ha,rfl⟩ ⟨b,hb,rfl⟩
  rw [hP a b ha hb]

theorem AtMostOne.orElse (hP : AtMostOne P) (hQ : AtMostOne Q) : AtMostOne (OrElse P Q) := by
  rintro a b (ha | ⟨hnone,ha⟩) (hb | ⟨hnone',hb⟩)
  · exact hP a b ha hb
  · exact absurd ha (hnone' a)
  · exact absurd hb (hnone b)
  · exact hQ a b ha hb

theorem OrNull.eq_of (h : OrNull P a) (hP : AtMostOne P) (hb : P b) : a = b := by
  rcases h with h | ⟨-,hnone⟩
  · exact hP a b h hb
  · exact absurd hb (hnone b)

theorem OrNull.lookupIf (hP : AtMostOne P) (h : OrNull P a) (get : Json → Except String Json) :
    OrNull (At get P) (lookupIf a get) := by
  rcases h with ha | ⟨rfl,hnone⟩
  · refine (lookupIf_orNull get a).imp (fun data hdata => ⟨a,ha,hdata⟩) ?_
    rintro data ⟨id,hid,hdata⟩
    rwa [hP a id ha hid]
  · refine .inr ⟨rfl,?_⟩
    rintro data ⟨id,hid,-⟩
    exact hnone id hid

theorem OrNull.field (h : OrNull P a) (name : String) : OrNull (FieldOf name P) (a.field name) := by
  rcases h with ha | ⟨rfl,hnone⟩
  · exact .inl ⟨a,ha,rfl⟩
  · refine .inr ⟨rfl,?_⟩
    rintro value ⟨data,hdata,-⟩
    exact hnone data hdata

theorem firstPresent_null_cons (values : List Json) :
    firstPresent (.null :: values) = firstPresent values := rfl

theorem firstPresent_cons_of_ne {value : Json} (hvalue : value ≠ .null) (values : List Json) :
    firstPresent (value :: values) = value := by
  cases value with
  | null => exact absurd rfl hvalue
  | _ => rfl

theorem firstPresent_singleton (value : Json) : firstPresent [value] = value := by
  cases value <;> rfl

theorem firstPresent_append_null (values : List Json) :
    firstPresent (values ++ [.null]) = firstPresent values := by
  induction values with
  | nil => rfl
  | cons value values ih =>
    by_cases hvalue : value = .null
    · subst hvalue
      exact ih
    · rw [List.cons_append,firstPresent_cons_of_ne hvalue,firstPresent_cons_of_ne hvalue]

theorem OrNull.firstPresent (hP : ∀ value, P value → value ≠ .null) (ha : OrNull P a)
    (hb : OrNull Q b) : OrNull (OrElse P Q) (firstPresent [a,b]) := by
  rcases ha with ha | ⟨rfl,hnone⟩
  · rw [firstPresent_cons_of_ne (hP a ha)]
    exact .inl (.inl ha)
  · rw [firstPresent_null_cons,firstPresent_singleton]
    refine hb.imp (fun value hvalue => .inr ⟨hnone,hvalue⟩) ?_
    rintro value (hvalue | ⟨-,hvalue⟩)
    · exact absurd hvalue (hnone value)
    · exact hvalue

end Steps

section Chain

variable (l : Lookups) (transfer : Fields)

/-- A value that the record itself has. -/
def Given (name : String) (value : Json) : Prop := value ≠ .null ∧ Json.get transfer name = value

def ReachesListing : Json → Prop := Finds l.listing (Json.get transfer "listingId")

/-- The ticket of the record, or that of its listing. -/
def ReachesTicketId : Json → Prop :=
  OrElse (Given transfer "ticketId") (FieldOf "ticketId" (ReachesListing l transfer))

def ReachesTicket : Json → Prop := At l.ticket (ReachesTicketId l transfer)

def ReachesEventId : Json → Prop := FieldOf "eventId" (ReachesTicket l transfer)

def ReachesEvent : Json → Prop := At l.event (ReachesEventId l transfer)

/-- The venue of the event, and if the event is not available the one that the ticket names. -/
def ReachesVenueId : Json → Prop :=
  OrElse (FieldOf "venueId" (ReachesEvent l transfer))
    (FieldOf "venueId" (ReachesTicket l transfer))

def ReachesVenue : Json → Prop := At l.venue (ReachesVenueId l transfer)

/-- The seat in the venue that is in the row of an inventory. -/
def SeatOf (eventId inventoryId venueId seat : Json) : Prop :=
  ∃ item, Lists l.inventory eventId "inventory" "inventoryId" inventoryId item ∧
    Lists l.seats venueId "seats" "seatId" (item.field "seatId") seat

/-- The seat of the ticket's row in the inventory of its event. -/
def ReachesSeat (seat : Json) : Prop :=
  ∃ ticket venueId, ReachesTicket l transfer ticket ∧ ReachesVenueId l transfer venueId ∧
    SeatOf l (ticket.field "eventId") (ticket.field "inventoryId") venueId seat

/-- In a list every item has an id of its own, as the primary keys of the services make it. -/
structure Lookups.Keyed : Prop where
  inventory (id value : Json) : AtMostOne (Lists l.inventory id "inventory" "inventoryId" value)
  seats (id value : Json) : AtMostOne (Lists l.seats id "seats" "seatId" value)

variable {l transfer}

theorem given_orNull (transfer : Fields) (name : String) :
    OrNull (Given transfer name) (Json.get transfer name) := by
  by_cases hnull : Json.get transfer name = .null
  · exact .inr ⟨hnull,fun value hvalue => hvalue.1 (hvalue.2.symm.trans hnull)⟩
  · exact .inl ⟨hnull,rfl⟩

theorem given_atMostOne (name : String) : AtMostOne (Given transfer name) :=
  fun _ _ ha hb => ha.2.symm.trans hb.2

theorem reachesTicketId_atMostOne : AtMostOne (ReachesTicketId l transfer) :=
  (given_atMostOne "ticketId").orElse ((finds_atMostOne _ _).fieldOf "ticketId")

/-- There is no other ticket. -/
theorem reachesTicket_atMostOne : AtMostOne (ReachesTicket l transfer) :=
  reachesTicketId_atMostOne.found l.ticket

theorem reachesEventId_atMostOne : AtMostOne (ReachesEventId l transfer) :=
  reachesTicket_atMostOne.fieldOf "eventId"

theorem reachesEvent_atMostOne : AtMostOne (ReachesEvent l transfer) :=
  reachesEventId_atMostOne.found l.event

theorem reachesVenueId_atMostOne : AtMostOne (ReachesVenueId l transfer) :=
  (reachesEvent_atMostOne.fieldOf "venueId").orElse (reachesTicket_atMostOne.fieldOf "venueId")

theorem reachesVenue_atMostOne : AtMostOne (ReachesVenue l transfer) :=
  reachesVenueId_atMostOne.found l.venue

theorem seatOf_atMostOne (hl : l.Keyed) (eventId inventoryId venueId : Json) :
    AtMostOne (SeatOf l eventId inventoryId venueId) := by
  rintro a b ⟨item,hitem,ha⟩ ⟨item',hitem',hb⟩
  obtain rfl := hl.inventory _ _ item item' hitem hitem'
  exact hl.seats _ _ a b ha hb

theorem reachesSeat_atMostOne (hl : l.Keyed) : AtMostOne (ReachesSeat l transfer) := by
  rintro a b ⟨ticket,venueId,hticket,hvenueId,ha⟩ ⟨ticket',venueId',hticket',hvenueId',hb⟩
  obtain rfl := reachesTicket_atMostOne ticket ticket' hticket hticket'
  obtain rfl := reachesVenueId_atMostOne venueId venueId' hvenueId hvenueId'
  exact seatOf_atMostOne hl _ _ _ a b ha hb

end Chain

section Context

variable {l : Lookups} {transfer : Fields}

variable (l transfer) in
/-- What the orchestrator has got hold of, where the chain leads. -/
structure Context.Follows (c : Context) : Prop where
  buyer : OrNull (Finds l.buyer (Json.get transfer "buyerId")) c.buyer
  seller : OrNull (Finds l.seller (Json.get transfer "sellerId")) c.seller
  listing : OrNull (ReachesListing l transfer) c.listing
  ticketId : OrNull (ReachesTicketId l transfer) c.ticketId
  ticket : OrNull (ReachesTicket l transfer) c.ticket
  eventId : OrNull (ReachesEventId l transfer) c.eventId
  event : OrNull (ReachesEvent l transfer) c.event
  venue : OrNull (ReachesVenue l transfer) c.venue
  seat : ReachesSeat l transfer c.seat ∨
    c.seat = .null ∧ (l.Keyed → ∀ a, ¬ ReachesSeat l transfer a)

theorem get_of_not_field (hrecord : ∀ entry ∈ transfer, entry.1 ∈ recordFields) (name : String)
    (hname : name ∉ recordFields) : Json.get transfer name = .null := by
  cases hlookup : transfer.lookup name with
  | none => rw [Json.get,hlookup]; rfl
  | some value => exact absurd (hrecord _ (Dict.mem_of_lookup hlookup)) hname

theorem Lookups.Shaped.reachedListing (hl : l.Shaped) (data : Json)
    (h : ReachesListing l transfer data) : HasTexts ["ticketId"] data := hl.listing _ _ h.2

theorem Lookups.Shaped.reachedTicket (hl : l.Shaped) (data : Json)
    (h : ReachesTicket l transfer data) : HasTexts ["inventoryId","venueId","eventId"] data := by
  obtain ⟨id,-,h⟩ := h
  exact hl.ticket _ _ h.2

theorem Lookups.Shaped.reachedEvent (hl : l.Shaped) (data : Json)
    (h : ReachesEvent l transfer data) :
    HasTexts ["eventId","venueId","name","date","image"] data := by
  obtain ⟨id,-,h⟩ := h
  exact hl.event _ _ h.2

theorem Lookups.Shaped.reachedVenue (hl : l.Shaped) (data : Json)
    (h : ReachesVenue l transfer data) : HasTexts ["name"] data := by
  obtain ⟨id,-,h⟩ := h
  exact hl.venue _ _ h.2

theorem fieldOf_ne_null {P : Json → Prop} {names : List String} {name : String}
    (hP : ∀ data, P data → HasTexts names data) (hname : name ∈ names) (value : Json)
    (hvalue : FieldOf name P value) : value ≠ .null := by
  obtain ⟨data,hdata,rfl⟩ := hvalue
  obtain ⟨s,hs⟩ := (hP data hdata).text hname
  rw [hs]
  exact Json.noConfusion

/-- The two searches for the seat. The second one is made with the first row that the first one
finds. -/
theorem findSeat_spec (hl : l.Shaped) (eventId : Json) {inventoryId : Json}
    (htext : inventoryId = .null ∨ ∃ s, inventoryId = .str s) (venueId : Json) :
    ∃ seat, findSeat l eventId inventoryId venueId = .ok seat ∧
      (SeatOf l eventId inventoryId venueId seat ∨
        seat = .null ∧ (l.Keyed → ∀ a, ¬ SeatOf l eventId inventoryId venueId a)) := by
  unfold findSeat
  by_cases hids : eventId.truthy && inventoryId.truthy
  · obtain ⟨heventId,hinventoryId⟩ := Bool.and_eq_true_iff.mp hids
    obtain ⟨s,rfl⟩ := htext.resolve_left (by rintro rfl; cases hinventoryId)
    obtain ⟨item,hfind,hitem⟩ := findItem_orNull hl.inventory heventId "inventoryId" hinventoryId
    rw [if_pos hids,hfind]
    rcases hitem with hitem | ⟨rfl,hnone⟩
    · have htexts := hitem.hasTexts hl.inventory
      obtain ⟨seatId,hseatId⟩ := htexts.text (by simp : "seatId" ∈ _)
      obtain ⟨seat,hfind,hseat⟩ := searchIf_orNull hl.seats venueId "seatId" seatId
      simp only [Py.ok_bind,Json.orEmpty_dot htexts.plain,hseatId]
      refine ⟨seat,hfind,?_⟩
      rcases hseat with hseat | ⟨rfl,hnone⟩
      · exact .inl ⟨item,hitem,hseatId ▸ hseat⟩
      · refine .inr ⟨rfl,fun hkeyed a ha => ?_⟩
        obtain ⟨item',hitem',ha⟩ := ha
        rw [hkeyed.inventory _ _ item' item hitem' hitem,hseatId] at ha
        exact hnone a ha
    · simp only [Py.ok_bind,Json.null_dot]
      refine ⟨.null,if_neg (by simp [Json.truthy]),.inr ⟨rfl,fun _ a ha => ?_⟩⟩
      obtain ⟨item,hitem,-⟩ := ha
      exact hnone item hitem
  · rw [if_neg hids]
    refine ⟨.null,rfl,.inr ⟨rfl,fun _ a ha => hids ?_⟩⟩
    obtain ⟨item,hitem,-⟩ := ha
    exact Bool.and_eq_true_iff.mpr hitem.truthy

theorem ticket_inventoryId (hl : l.Shaped) {ticket : Json}
    (hticket : OrNull (ReachesTicket l transfer) ticket) :
    ticket.field "inventoryId" = .null ∨ ∃ s, ticket.field "inventoryId" = .str s := by
  rcases hticket with hticket | ⟨rfl,-⟩
  · exact .inr ((hl.reachedTicket ticket hticket).text (by simp))
  · exact .inl rfl

/-- Ids that are looked up have been reached. -/
theorem reachesSeat_iff {ticket venueId seat : Json}
    (hticket : OrNull (ReachesTicket l transfer) ticket)
    (hvenueId : OrNull (ReachesVenueId l transfer) venueId) :
    ReachesSeat l transfer seat ↔
      SeatOf l (ticket.field "eventId") (ticket.field "inventoryId") venueId seat := by
  constructor
  · rintro ⟨ticket',venueId',hticket',hvenueId',hseat⟩
    rwa [hticket.eq_of reachesTicket_atMostOne hticket',
      hvenueId.eq_of reachesVenueId_atMostOne hvenueId']
  · intro hseat
    obtain ⟨item,hitem,hitemSeat⟩ := id hseat
    refine ⟨ticket,venueId,?_,hvenueId.of_truthy hitemSeat.truthy.1,hseat⟩
    rcases hticket with hticket | ⟨rfl,-⟩
    · exact hticket
    · cases hitem.truthy.1

/-- Every lookup that fails leaves a gap in the chain, and nothing else. -/
theorem buildTransferContext_follows (hl : l.Shaped)
    (hrecord : ∀ entry ∈ transfer, entry.1 ∈ recordFields) :
    ∃ c, buildTransferContext l transfer = .ok c ∧ c.Follows l transfer := by
  have heventNull := get_of_not_field hrecord "eventId" (by decide)
  have hvenueNull := get_of_not_field hrecord "venueId" (by decide)
  have hinventoryNull := get_of_not_field hrecord "inventoryId" (by decide)
  simp only [buildTransferContext,lookupIf_dot hl.listing,lookupIf_dot hl.ticket,
    lookupIf_dot hl.event,bind,Except.bind,heventNull,hvenueNull,hinventoryNull,
    firstPresent_null_cons,firstPresent_singleton]
  have hlisting := lookupIf_orNull l.listing (Json.get transfer "listingId")
  generalize lookupIf (Json.get transfer "listingId") l.listing = listing at hlisting ⊢
  have hticketId := (given_orNull transfer "ticketId").firstPresent (fun _ h => h.1)
    (hlisting.field "ticketId")
  generalize firstPresent [Json.get transfer "ticketId",listing.field "ticketId"] = ticketId
    at hticketId ⊢
  have hticket := hticketId.lookupIf reachesTicketId_atMostOne l.ticket
  generalize lookupIf ticketId l.ticket = ticket at hticket ⊢
  have heventId := hticket.field "eventId"
  have hevent := heventId.lookupIf reachesEventId_atMostOne l.event
  generalize lookupIf (ticket.field "eventId") l.event = event at hevent ⊢
  have hvenueId := (hevent.field "venueId").firstPresent
    (fieldOf_ne_null hl.reachedEvent (by simp)) (hticket.field "venueId")
  have hlast : firstPresent [event.field "venueId",ticket.field "venueId",.null] =
      firstPresent [event.field "venueId",ticket.field "venueId"] := firstPresent_append_null [_,_]
  rw [hlast]
  generalize firstPresent [event.field "venueId",ticket.field "venueId"] = venueId at hvenueId ⊢
  have hinventoryId : firstPresent [ticket.field "inventoryId",.null] =
      ticket.field "inventoryId" := (firstPresent_append_null [_]).trans (firstPresent_singleton _)
  obtain ⟨seat,hfind,hseat⟩ := findSeat_spec hl (ticket.field "eventId")
    (ticket_inventoryId hl hticket) venueId
  rw [hinventoryId,hfind]
  exact ⟨_,rfl,
    { buyer := lookupIf_orNull _ _
      seller := lookupIf_orNull _ _
      listing := hlisting
      ticketId := hticketId
      ticket := hticket
      eventId := heventId
      event := hevent
      venue := hvenueId.lookupIf reachesVenueId_atMostOne l.venue
      seat := by simpa only [reachesSeat_iff hticket hvenueId] using hseat }⟩

end Context

section Entries

def nameOf (party : Json) (default : String) : Json :=
  firstPresent [party.field "name",party.field "fullName",party.field "email",.str default]

def eventPayload (eventId event venue : Json) : Json :=
  .obj [("id",eventId),("eventId",eventId),("name",event.field "name"),("date",event.field "date"),
    ("image",firstPresent [event.field "image",event.field "imageUrl"]),("venue",venue)]

def seatPayload (seat : Json) : Json :=
  .obj [("seatId",seat.field "seatId"),("section",seat.field "section"),
    ("row",firstPresent [seat.field "rowNumber",seat.field "row"]),
    ("rowNumber",firstPresent [seat.field "rowNumber",seat.field "row"]),
    ("seat",firstPresent [seat.field "seatNumber",seat.field "seat"]),
    ("seatNumber",firstPresent [seat.field "seatNumber",seat.field "seat"]),
    ("gate",firstPresent [seat.field "gate",seat.field "entryGate"])]

def venueEntries (venue : Json) : Fields := [("venue",venue),("venueName",venue.field "name")]

def eventEntries (payload : Json) : Fields :=
  [("event",payload),("eventName",payload.field "name"),("eventDate",payload.field "date"),
    ("eventImage",payload.field "image")]

def seatEntries (payload : Json) : Fields :=
  [("seat",payload),("seatSection",payload.field "section"),("seatRow",payload.field "row"),
    ("seatNumber",payload.field "seat"),("seatGate",payload.field "gate")]

def present (value : Json) (entries : Fields) : Fields := if value.truthy then entries else []

/-- The event's own id, and the id that was looked up if there is no event. -/
def Context.knownEventId (c : Context) : Json := firstPresent [c.event.field "eventId",c.eventId]

def Context.knowsEvent (c : Context) : Bool :=
  c.knownEventId.truthy || (c.event.field "name").truthy || (c.event.field "date").truthy ||
    c.venue.truthy

def knowsSeat (seat : Json) : Bool :=
  (seat.field "seatId").truthy || (firstPresent [seat.field "rowNumber",seat.field "row"]).truthy ||
    (firstPresent [seat.field "seatNumber",seat.field "seat"]).truthy ||
    (firstPresent [seat.field "gate",seat.field "entryGate"]).truthy ||
    (seat.field "section").truthy

/-- All that is assigned, in the order of the assignments. -/
def Context.entries (c : Context) : Fields :=
  let event := if c.knowsEvent then eventPayload c.knownEventId c.event c.venue else .null
  let seat := if knowsSeat c.seat then seatPayload c.seat else .null
  [("buyerName",nameOf c.buyer "Buyer"),("sellerName",nameOf c.seller "Seller"),
      ("ticketId",c.ticketId)] ++
    present c.listing [("listing",c.listing)] ++ present c.ticket [("ticket",c.ticket)] ++
    present c.venue (venueEntries c.venue) ++ present event (eventEntries event) ++
    present seat (seatEntries seat)

variable {c : Context} {value : Json}

theorem whenPresent_eq {compute : Py Fields} {entries : Fields}
    (h : value.truthy → compute = .ok entries) :
    whenPresent value compute = .ok (present value entries) := by
  unfold whenPresent present
  by_cases hvalue : value.truthy
  · rw [if_pos hvalue,if_pos hvalue,h hvalue]
  · rw [if_neg hvalue,if_neg hvalue]
    rfl

theorem whenPresent_pure (value : Json) (entries : Fields) :
    whenPresent value (pure entries) = .ok (present value entries) := whenPresent_eq fun _ => rfl

theorem whenPresent_venue (h : value.Plain) :
    (whenPresent value do pure [("venue",value),("venueName",← value.dot "name")]) =
      .ok (present value (venueEntries value)) :=
  whenPresent_eq fun hvalue => by
    simp only [Json.dot_of_truthy h hvalue]
    rfl

theorem whenPresent_event (h : value.Plain) :
    (whenPresent value do
      pure [("event",value),("eventName",← value.dot "name"),("eventDate",← value.dot "date"),
        ("eventImage",← value.dot "image")]) = .ok (present value (eventEntries value)) :=
  whenPresent_eq fun hvalue => by
    simp only [Json.dot_of_truthy h hvalue]
    rfl

theorem whenPresent_seat (h : value.Plain) :
    (whenPresent value do
      pure [("seat",value),("seatSection",← value.dot "section"),("seatRow",← value.dot "row"),
        ("seatNumber",← value.dot "seat"),("seatGate",← value.dot "gate")]) =
      .ok (present value (seatEntries value)) :=
  whenPresent_eq fun hvalue => by
    simp only [Json.dot_of_truthy h hvalue]
    rfl

theorem mem_present {entries : Fields} {entry : String × Json} :
    entry ∈ present value entries ↔ value.truthy ∧ entry ∈ entries := by
  unfold present
  split <;> simp [*]

theorem partyName_eq (h : value.Plain) (default : String) :
    partyName value default = .ok (nameOf value default) := by
  simp only [partyName,Json.orEmpty_dot h,bind,Except.bind,pure,Except.pure,nameOf]

theorem buildEventPayload_eq (h : c.event.Plain) :
    buildEventPayload c =
      .ok (if c.knowsEvent then eventPayload c.knownEventId c.event c.venue else .null) := by
  simp only [buildEventPayload,Json.orEmpty_dot h,bind,Except.bind,pure,Except.pure,
    Context.knowsEvent,Context.knownEventId,eventPayload]
  exact (apply_ite Except.ok _ _ _).symm

theorem buildSeatPayload_eq (h : c.seat.Plain) :
    buildSeatPayload c = .ok (if knowsSeat c.seat then seatPayload c.seat else .null) := by
  simp only [buildSeatPayload,Json.orEmpty_dot h,bind,Except.bind,pure,Except.pure,seatPayload,
    knowsSeat]
  exact (apply_ite Except.ok _ _ _).symm

/-- What the fields are taken from is an object, or null. -/
structure Context.Plain (c : Context) : Prop where
  buyer : c.buyer.Plain
  seller : c.seller.Plain
  event : c.event.Plain
  venue : c.venue.Plain
  seat : c.seat.Plain

theorem enrichTransfer_eq {l : Lookups} {transfer : Fields}
    (hcontext : buildTransferContext l transfer = .ok c) (hc : c.Plain) :
    enrichTransfer l transfer = .ok (Dict.setAll transfer c.entries) := by
  have hevent : (if c.knowsEvent then eventPayload c.knownEventId c.event c.venue
      else .null).Plain := by
    split <;> trivial
  have hseat : (if knowsSeat c.seat then seatPayload c.seat else .null).Plain := by
    split <;> trivial
  simp only [enrichTransfer,hcontext,buildEventPayload_eq hc.event,buildSeatPayload_eq hc.seat,
    partyName_eq hc.buyer,partyName_eq hc.seller,whenPresent_pure,
    whenPresent_venue hc.venue,whenPresent_event hevent,whenPresent_seat hseat,Py.ok_bind]
  rfl

theorem mem_entries {name : String} : (name,value) ∈ c.entries ↔
    (name = "buyerName" ∧ value = nameOf c.buyer "Buyer" ∨
      name = "sellerName" ∧ value = nameOf c.seller "Seller" ∨
      name = "ticketId" ∧ value = c.ticketId) ∨
    (c.listing.truthy ∧ name = "listing" ∧ value = c.listing) ∨
    (c.ticket.truthy ∧ name = "ticket" ∧ value = c.ticket) ∨
    (c.venue.truthy ∧ (name,value) ∈ venueEntries c.venue) ∨
    (c.knowsEvent ∧ (name,value) ∈ eventEntries (eventPayload c.knownEventId c.event c.venue)) ∨
    (knowsSeat c.seat ∧ (name,value) ∈ seatEntries (seatPayload c.seat)) := by
  have hevent : ∀ b : Bool, (if b then eventPayload c.knownEventId c.event c.venue
      else .null).truthy ↔ b := by
    rintro (_ | _) <;> simp [eventPayload,Json.truthy]
  have hseat : ∀ b : Bool, (if b then seatPayload c.seat else .null).truthy ↔ b := by
    rintro (_ | _) <;> simp [seatPayload,Json.truthy]
  simp only [Context.entries,List.mem_append,mem_present,hevent,hseat,List.mem_cons,Prod.mk.injEq,
    List.not_mem_nil,or_false,or_assoc]
  cases c.knowsEvent <;> cases knowsSeat c.seat <;> simp

end Entries

section Enriched

variable (l : Lookups) (transfer : Fields)

/-- What the enrichment may say of a transfer: names of its parties, its ticket's id, and what has
been reached from it. -/
inductive Reported : String → Json → Prop
  | buyerName {buyer : Json} (h : OrNull (Finds l.buyer (Json.get transfer "buyerId")) buyer) :
      Reported "buyerName" (nameOf buyer "Buyer")
  | sellerName {seller : Json} (h : OrNull (Finds l.seller (Json.get transfer "sellerId")) seller) :
      Reported "sellerName" (nameOf seller "Seller")
  | ticketId {ticketId : Json} (h : OrNull (ReachesTicketId l transfer) ticketId) :
      Reported "ticketId" ticketId
  | listing {listing : Json} (h : ReachesListing l transfer listing) : Reported "listing" listing
  | ticket {ticket : Json} (h : ReachesTicket l transfer ticket) : Reported "ticket" ticket
  | venue {venue : Json} (h : ReachesVenue l transfer venue) {name : String} {value : Json}
      (hentry : (name,value) ∈ venueEntries venue) : Reported name value
  | event {eventId event venue : Json}
      (hid : OrNull (OrElse (FieldOf "eventId" (ReachesEvent l transfer))
        (ReachesEventId l transfer)) eventId)
      (hevent : OrNull (ReachesEvent l transfer) event)
      (hvenue : OrNull (ReachesVenue l transfer) venue) {name : String} {value : Json}
      (hentry : (name,value) ∈ eventEntries (eventPayload eventId event venue)) :
      Reported name value
  | seat {seat : Json} (h : ReachesSeat l transfer seat) {name : String} {value : Json}
      (hentry : (name,value) ∈ seatEntries (seatPayload seat)) : Reported name value

/-- The record is kept, its ticket's id filled in, and the rest belongs to it. -/
structure Tolerates (enriched : Fields) : Prop where
  keeps (name : String) (value : Json) (h : transfer.lookup name = some value) :
    enriched.lookup name = some value ∨ name = "ticketId" ∧ value = .null
  fillsIn : ∃ ticketId, enriched.lookup "ticketId" = some ticketId ∧
    OrNull (ReachesTicketId l transfer) ticketId
  reports (name : String) (value : Json) (h : enriched.lookup name = some value) :
    transfer.lookup name = some value ∨ Reported l transfer name value

variable {l transfer} {c : Context}

theorem Context.Follows.plain (hc : c.Follows l transfer) (hl : l.Shaped) : c.Plain where
  buyer := hc.buyer.plain fun _ h => hl.buyer _ _ h.2
  seller := hc.seller.plain fun _ h => hl.seller _ _ h.2
  event := hc.event.plain hl.reachedEvent
  venue := hc.venue.plain hl.reachedVenue
  seat := by
    rcases hc.seat with ⟨ticket,venueId,-,-,item,-,hseat⟩ | ⟨hnull,-⟩
    · exact (hseat.hasTexts hl.seats).plain
    · rw [hnull]
      trivial

theorem Context.Follows.reported (hc : c.Follows l transfer) (hl : l.Shaped) {name : String}
    {value : Json} (h : (name,value) ∈ c.entries) : Reported l transfer name value := by
  rcases mem_entries.mp h with (⟨rfl,rfl⟩ | ⟨rfl,rfl⟩ | ⟨rfl,rfl⟩) | ⟨ht,rfl,rfl⟩ | ⟨ht,rfl,rfl⟩ |
    ⟨ht,hentry⟩ | ⟨-,hentry⟩ | ⟨ht,hentry⟩
  · exact .buyerName hc.buyer
  · exact .sellerName hc.seller
  · exact .ticketId hc.ticketId
  · exact .listing (hc.listing.of_truthy ht)
  · exact .ticket (hc.ticket.of_truthy ht)
  · exact .venue (hc.venue.of_truthy ht) hentry
  · exact .event ((hc.event.field "eventId").firstPresent
      (fieldOf_ne_null hl.reachedEvent (by simp)) hc.eventId) hc.event hc.venue hentry
  · rcases hc.seat with hseat | ⟨hnull,-⟩
    · exact .seat hseat hentry
    · rw [hnull] at ht
      cases ht

/-- Of the fields of a record, only the ticket's id is assigned. -/
theorem Context.entry_of_field {name : String} {value : Json} (h : (name,value) ∈ c.entries)
    (hname : name ∈ recordFields) : name = "ticketId" ∧ value = c.ticketId := by
  rw [mem_entries] at h
  simp only [venueEntries,eventEntries,seatEntries,List.mem_cons,Prod.mk.injEq,List.not_mem_nil,
    or_false] at h
  rcases h with (⟨rfl,-⟩ | ⟨rfl,-⟩ | h) | ⟨-,rfl,-⟩ | ⟨-,rfl,-⟩ | ⟨-,⟨rfl,-⟩ | ⟨rfl,-⟩⟩ |
    ⟨-,⟨rfl,-⟩ | ⟨rfl,-⟩ | ⟨rfl,-⟩ | ⟨rfl,-⟩⟩ |
    ⟨-,⟨rfl,-⟩ | ⟨rfl,-⟩ | ⟨rfl,-⟩ | ⟨rfl,-⟩ | ⟨rfl,-⟩⟩
  case inl.inr.inr => exact h
  all_goals exact absurd hname (by decide)

theorem Context.Follows.tolerates (hc : c.Follows l transfer) (hl : l.Shaped)
    (hrecord : ∀ entry ∈ transfer, entry.1 ∈ recordFields) :
    Tolerates l transfer (Dict.setAll transfer c.entries) := by
  have hticketId : (Dict.setAll transfer c.entries).lookup "ticketId" = some c.ticketId :=
    Dict.lookup_setAll_of_mem (mem_entries.mpr (.inl (.inr (.inr ⟨rfl,rfl⟩))))
      fun value hvalue => (Context.entry_of_field hvalue (by decide)).2
  refine ⟨?_,⟨c.ticketId,hticketId,hc.ticketId⟩,?_⟩
  · intro name value hlookup
    have hname : name ∈ recordFields := hrecord _ (Dict.mem_of_lookup hlookup)
    by_cases hid : name = "ticketId"
    · subst hid
      by_cases hnull : value = .null
      · exact .inr ⟨rfl,hnull⟩
      · have hget : Json.get transfer "ticketId" = value := by rw [Json.get,hlookup]; rfl
        have hreach : ReachesTicketId l transfer value := .inl ⟨hnull,hget⟩
        rw [hticketId,hc.ticketId.eq_of reachesTicketId_atMostOne hreach]
        exact .inl rfl
    · rw [Dict.lookup_setAll_of_not_mem fun value' h => hid (Context.entry_of_field h hname).1]
      exact .inl hlookup
  · intro name value hlookup
    rcases Dict.mem_of_lookup_setAll hlookup with hentry | hlookup
    · exact .inr (hc.reported hl hentry)
    · exact .inl hlookup

/-- Whatever lookups fail, the enrichment returns, keeps the record, and adds to it what it has
reached from the record, which is never of another ticket. -/
theorem enrichTransfer_tolerates (l : Lookups) (hl : l.Shaped) (transfer : Fields)
    (hrecord : ∀ entry ∈ transfer, entry.1 ∈ recordFields) :
    (∃ enriched, enrichTransfer l transfer = .ok enriched ∧ Tolerates l transfer enriched) ∧
      AtMostOne (ReachesTicket l transfer) ∧ AtMostOne (ReachesEvent l transfer) ∧
      AtMostOne (ReachesVenue l transfer) ∧ (l.Keyed → AtMostOne (ReachesSeat l transfer)) := by
  obtain ⟨c,hcontext,hc⟩ := buildTransferContext_follows hl hrecord
  exact ⟨⟨_,enrichTransfer_eq hcontext (hc.plain hl),hc.tolerates hl hrecord⟩,
    reachesTicket_atMostOne,reachesEvent_atMostOne,reachesVenue_atMostOne,reachesSeat_atMostOne⟩

/-- event-service cannot be reached, and the seller is not known any more. -/
def withoutEvent : Lookups where
  listing _ := .ok (.obj [("listingId",.str "l"),("ticketId",.str "t")])
  ticket _ := .ok (.obj [("ticketId",.str "t"),("inventoryId",.str "i"),("venueId",.str "v"),
    ("eventId",.str "e")])
  event _ := .error "SERVICE_UNAVAILABLE"
  venue _ := .ok (.obj [("venueId",.str "v"),("name",.str "Esplanade")])
  seller _ := .error "USER_NOT_FOUND"
  buyer _ := .ok (.obj [("userId",.str "b"),("email",.str "buyer@example.com")])
  inventory _ := .ok (.obj [("inventory",.arr [.obj [("inventoryId",.str "h"),("seatId",.str "r")],
    .obj [("inventoryId",.str "i"),("seatId",.str "s")]])])
  seats _ := .ok (.obj [("seats",.arr [.obj [("seatId",.str "s"),("rowNumber",.str "A"),
    ("seatNumber",.str "12")]])])

theorem withoutEvent_shaped : withoutEvent.Shaped where
  listing := by rintro id data ⟨⟩; exact ⟨_,rfl,by simp [Json.get,Dict.lookup_cons]⟩
  ticket := by rintro id data ⟨⟩; exact ⟨_,rfl,by simp [Json.get,Dict.lookup_cons]⟩
  event := by rintro id data ⟨⟩
  venue := by rintro id data ⟨⟩; exact ⟨_,rfl,by simp [Json.get,Dict.lookup_cons]⟩
  seller := by rintro id data ⟨⟩
  buyer := by rintro id data ⟨⟩; exact ⟨_,rfl,by simp [Json.get,Dict.lookup_cons]⟩
  inventory := by
    rintro id data ⟨⟩
    exact ⟨_,_,rfl,rfl,by simp [HasTexts,Json.get,Dict.lookup_cons]⟩
  seats := by
    rintro id data ⟨⟩
    exact ⟨_,_,rfl,rfl,by simp [HasTexts,Json.get,Dict.lookup_cons]⟩

theorem withoutEvent_keyed : withoutEvent.Keyed where
  inventory := by
    rintro id value a b ⟨-,_,_,⟨-,⟨⟩⟩,⟨⟩,ha,rfl⟩ ⟨-,_,_,⟨-,⟨⟩⟩,⟨⟩,hb,hab⟩
    simp only [List.mem_cons,List.not_mem_nil,or_false] at ha hb
    rcases ha with rfl | rfl <;> rcases hb with rfl | rfl <;>
      simp_all [Json.field,Json.get]
  seats := by
    rintro id value a b ⟨-,_,_,⟨-,⟨⟩⟩,⟨⟩,ha,-⟩ ⟨-,_,_,⟨-,⟨⟩⟩,⟨⟩,hb,-⟩
    rw [List.mem_singleton.mp ha,List.mem_singleton.mp hb]

def pendingTransfer : Fields :=
  [("transferId",.str "x"),("listingId",.str "l"),("buyerId",.str "b"),("sellerId",.str "a"),
    ("status",.str "pending_seller_acceptance")]

example : (enrichTransfer withoutEvent pendingTransfer).toOption.bind (·.lookup "seatRow") =
    some (.str "A") := by rfl

theorem enrichTransfer_tolerates_withoutEvent :
    (∃ enriched, enrichTransfer withoutEvent pendingTransfer = .ok enriched ∧
        Tolerates withoutEvent pendingTransfer enriched) ∧
      AtMostOne (ReachesSeat withoutEvent pendingTransfer) := by
  have h := enrichTransfer_tolerates withoutEvent withoutEvent_shaped pendingTransfer (by decide)
  exact ⟨h.1,h.2.2.2.2 withoutEvent_keyed⟩

variable (l transfer) in
/-- What has been reached is there to be read. -/
structure Reports (enriched : Fields) : Prop where
  listing (listing : Json) (h : ReachesListing l transfer listing) :
    enriched.lookup "listing" = some listing
  ticket (ticket : Json) (h : ReachesTicket l transfer ticket) :
    enriched.lookup "ticket" = some ticket
  venue (venue : Json) (h : ReachesVenue l transfer venue) : enriched.lookup "venue" = some venue
  event (event : Json) (h : ReachesEvent l transfer event) (hid : (event.field "eventId").truthy) :
    ∃ venue, OrNull (ReachesVenue l transfer) venue ∧
      enriched.lookup "event" = some (eventPayload (event.field "eventId") event venue)
  seat (seat : Json) (h : ReachesSeat l transfer seat) :
    enriched.lookup "seat" = some (seatPayload seat)

theorem ReachesSeat.seatId_truthy {seat : Json} (h : ReachesSeat l transfer seat) :
    (seat.field "seatId").truthy := by
  obtain ⟨ticket,venueId,-,-,item,-,hid,data,items,-,-,-,hseatId⟩ := h
  rwa [hseatId]

/-- The five keys under which something is reported are assigned once. -/
theorem Context.lookup_entry {name : String} {value : Json} (h : (name,value) ∈ c.entries)
    (hname : name ∈ ["listing","ticket","venue","event","seat"]) :
    (Dict.setAll transfer c.entries).lookup name = some value := by
  refine Dict.lookup_setAll_of_mem h fun value' h' => ?_
  rw [mem_entries] at h h'
  simp only [venueEntries,eventEntries,seatEntries,List.mem_cons,Prod.mk.injEq,List.not_mem_nil,
    or_false] at h h' hname
  rcases hname with rfl | rfl | rfl | rfl | rfl <;> simp at h h' <;> rw [h.2,h'.2]

theorem Context.Follows.reports (hc : c.Follows l transfer) (hl : l.Shaped) (hkeyed : l.Keyed) :
    Reports l transfer (Dict.setAll transfer c.entries) where
  listing listing h := by
    have ht := (hl.reachedListing listing h).truthy List.mem_cons_self
    obtain rfl := hc.listing.eq_of (finds_atMostOne _ _) h
    exact Context.lookup_entry (mem_entries.mpr (.inr (.inl ⟨ht,rfl,rfl⟩))) (by decide)
  ticket ticket h := by
    have ht := (hl.reachedTicket ticket h).truthy List.mem_cons_self
    obtain rfl := hc.ticket.eq_of reachesTicket_atMostOne h
    exact Context.lookup_entry (mem_entries.mpr (.inr (.inr (.inl ⟨ht,rfl,rfl⟩)))) (by decide)
  venue venue h := by
    have ht := (hl.reachedVenue venue h).truthy List.mem_cons_self
    obtain rfl := hc.venue.eq_of reachesVenue_atMostOne h
    exact Context.lookup_entry (mem_entries.mpr (.inr (.inr (.inr (.inl
      ⟨ht,List.mem_cons_self⟩))))) (by decide)
  event event h hid := by
    obtain rfl := hc.event.eq_of reachesEvent_atMostOne h
    have hknown : c.knownEventId = c.event.field "eventId" :=
      firstPresent_cons_of_ne (fieldOf_ne_null hl.reachedEvent (by simp) _ ⟨_,h,rfl⟩) _
    have hknows : c.knowsEvent := by simp [Context.knowsEvent,hknown,hid]
    refine ⟨c.venue,hc.venue,Context.lookup_entry (mem_entries.mpr (.inr (.inr (.inr (.inr (.inl
      ⟨hknows,?_⟩)))))) (by decide)⟩
    rw [hknown]
    exact List.mem_cons_self
  seat seat h := by
    obtain rfl : c.seat = seat := by
      rcases hc.seat with hseat | ⟨-,hnone⟩
      · exact reachesSeat_atMostOne hkeyed _ _ hseat h
      · exact absurd h (hnone hkeyed seat)
    have hknows : knowsSeat c.seat := by simp [knowsSeat,h.seatId_truthy]
    exact Context.lookup_entry (mem_entries.mpr (.inr (.inr (.inr (.inr (.inr
      ⟨hknows,List.mem_cons_self⟩)))))) (by decide)

/-- With ids of their own in every list, what can be reached is reported. -/
theorem enrichTransfer_reports (hl : l.Shaped) (hkeyed : l.Keyed)
    (hrecord : ∀ entry ∈ transfer, entry.1 ∈ recordFields) :
    ∃ enriched, enrichTransfer l transfer = .ok enriched ∧ Reports l transfer enriched := by
  obtain ⟨c,hcontext,hc⟩ := buildTransferContext_follows hl hrecord
  exact ⟨_,enrichTransfer_eq hcontext (hc.plain hl),hc.reports hl hkeyed⟩

end Enriched

end TicketRemaster.TransferRecord
