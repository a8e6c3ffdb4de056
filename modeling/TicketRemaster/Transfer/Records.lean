import TicketRemaster.Lib.Dict
import TicketRemaster.Services.Values
set_option autoImplicit false

/-! The enrichment of a transfer record as the orchestrator computes it, on JSON, and what each of
its lookups and searches comes to. -/

namespace TicketRemaster.TransferRecord

/-- The answers to the eight lookups, by the id in the path. -/
structure Lookups where
  listing : Json → Except String Json
  ticket : Json → Except String Json
  event : Json → Except String Json
  venue : Json → Except String Json
  seller : Json → Except String Json
  buyer : Json → Except String Json
  inventory : Json → Except String Json
  seats : Json → Except String Json

/-- `_safe_get`. -/
def safeGet : Except String Json → Json
  | .ok data => data
  | .error _ => .null

def firstPresent (values : List Json) : Json :=
  (values.find? fun value => !value.isNull).getD .null

/-- `_safe_get(...) if id else None`. -/
def lookupIf (id : Json) (get : Json → Except String Json) : Json :=
  if id.truthy then safeGet (get id) else .null

/-- `next((item for item in items if item.get(name) == value), None)`. -/
def nextItem (name : String) (value : Json) : List Json → Py Json
  | [] => .ok .null
  | item :: items => do
      if (← item.dot name).eq value then pure item else nextItem name value items

/-- The item that an answer has in one of its lists. -/
def findItem (data : Json) (list name : String) (value : Json) : Py Json := do
  nextItem name value (← (← data.orEmpty.getOr list (.arr [])).iter)

structure Context where
  buyer : Json
  seller : Json
  listing : Json
  ticket : Json
  ticketId : Json
  event : Json
  eventId : Json
  venue : Json
  seat : Json

section Enrichment

variable (l : Lookups)

def findSeat (eventId inventoryId venueId : Json) : Py Json :=
  if eventId.truthy && inventoryId.truthy then do
    let inventoryItem ←
      findItem (safeGet (l.inventory eventId)) "inventory" "inventoryId" inventoryId
    let seatId ← inventoryItem.orEmpty.dot "seatId"
    if venueId.truthy && seatId.truthy then
      findItem (safeGet (l.seats venueId)) "seats" "seatId" seatId
    else pure .null
  else pure .null

def buildTransferContext (transfer : Fields) : Py Context := do
  let listing := lookupIf (Json.get transfer "listingId") l.listing
  let ticketId := firstPresent
    [Json.get transfer "ticketId",← listing.orEmpty.dot "ticketId"]
  let ticket := lookupIf ticketId l.ticket
  let eventId := firstPresent [Json.get transfer "eventId",← ticket.orEmpty.dot "eventId"]
  let event := lookupIf eventId l.event
  let venueId := firstPresent [← event.orEmpty.dot "venueId",← ticket.orEmpty.dot "venueId",
    Json.get transfer "venueId"]
  let venue := lookupIf venueId l.venue
  let seller := lookupIf (Json.get transfer "sellerId") l.seller
  let buyer := lookupIf (Json.get transfer "buyerId") l.buyer
  let inventoryId := firstPresent
    [← ticket.orEmpty.dot "inventoryId",Json.get transfer "inventoryId"]
  let seat ← findSeat l eventId inventoryId venueId
  pure ⟨buyer,seller,listing,ticket,ticketId,event,eventId,venue,seat⟩

def buildEventPayload (c : Context) : Py Json := do
  let event := c.event.orEmpty
  let eventId := firstPresent [← event.dot "eventId",c.eventId]
  let name ← event.dot "name"
  let date ← event.dot "date"
  let image := firstPresent [← event.dot "image",← event.dot "imageUrl"]
  if eventId.truthy || name.truthy || date.truthy || c.venue.truthy then
    pure (.obj [("id",eventId),("eventId",eventId),("name",name),("date",date),("image",image),
      ("venue",c.venue)])
  else pure .null

def buildSeatPayload (c : Context) : Py Json := do
  let seat := c.seat.orEmpty
  let rowNumber := firstPresent [← seat.dot "rowNumber",← seat.dot "row"]
  let seatNumber := firstPresent [← seat.dot "seatNumber",← seat.dot "seat"]
  let gate := firstPresent [← seat.dot "gate",← seat.dot "entryGate"]
  let seatSection ← seat.dot "section"
  let seatId ← seat.dot "seatId"
  if seatId.truthy || rowNumber.truthy || seatNumber.truthy || gate.truthy ||
      seatSection.truthy then
    pure (.obj [("seatId",seatId),("section",seatSection),("row",rowNumber),("rowNumber",rowNumber),
      ("seat",seatNumber),("seatNumber",seatNumber),("gate",gate)])
  else pure .null

/-- The name of a party, under one of its spellings. -/
def partyName (party : Json) (default : String) : Py Json := do
  let party := party.orEmpty
  pure (firstPresent [← party.dot "name",← party.dot "fullName",← party.dot "email",.str default])

/-- What is assigned for a value that is there. -/
def whenPresent (value : Json) (entries : Py Fields) : Py Fields :=
  if value.truthy then entries else pure []

def enrichTransfer (transfer : Fields) : Py Fields := do
  let context ← buildTransferContext l transfer
  let eventPayload ← buildEventPayload context
  let seatPayload ← buildSeatPayload context
  let venue := context.venue
  let names := [("buyerName",← partyName context.buyer "Buyer"),
    ("sellerName",← partyName context.seller "Seller"),("ticketId",context.ticketId)]
  let listing ← whenPresent context.listing (pure [("listing",context.listing)])
  let ticket ← whenPresent context.ticket (pure [("ticket",context.ticket)])
  let venue ← whenPresent venue do pure [("venue",venue),("venueName",← venue.dot "name")]
  let event ← whenPresent eventPayload do
    pure [("event",eventPayload),("eventName",← eventPayload.dot "name"),
      ("eventDate",← eventPayload.dot "date"),("eventImage",← eventPayload.dot "image")]
  let seat ← whenPresent seatPayload do
    pure [("seat",seatPayload),("seatSection",← seatPayload.dot "section"),
      ("seatRow",← seatPayload.dot "row"),("seatNumber",← seatPayload.dot "seat"),
      ("seatGate",← seatPayload.dot "gate")]
  pure (Dict.setAll transfer (names ++ listing ++ ticket ++ venue ++ event ++ seat))

end Enrichment

section Shapes

/-- An object with the text columns that the enrichment reads. -/
def HasTexts (names : List String) (data : Json) : Prop :=
  ∃ fields, data = .obj fields ∧ ∀ name ∈ names, ∃ s, Json.get fields name = .str s

/-- An object with a list of such objects. -/
def HasItems (list : String) (names : List String) (data : Json) : Prop :=
  ∃ fields items, data = .obj fields ∧ fields.lookup list = some (.arr items) ∧
    ∀ item ∈ items, HasTexts names item

/-- Each service answers with an error, or with an object as its `to_dict` makes it. -/
structure Lookups.Shaped (l : Lookups) : Prop where
  listing (id data : Json) : l.listing id = .ok data → HasTexts ["ticketId"] data
  ticket (id data : Json) : l.ticket id = .ok data →
    HasTexts ["inventoryId","venueId","eventId"] data
  event (id data : Json) : l.event id = .ok data →
    HasTexts ["eventId","venueId","name","date","image"] data
  venue (id data : Json) : l.venue id = .ok data → HasTexts ["name"] data
  seller (id data : Json) : l.seller id = .ok data → HasTexts ["email"] data
  buyer (id data : Json) : l.buyer id = .ok data → HasTexts ["email"] data
  inventory (id data : Json) : l.inventory id = .ok data →
    HasItems "inventory" ["inventoryId","seatId"] data
  seats (id data : Json) : l.seats id = .ok data →
    HasItems "seats" ["seatId","rowNumber","seatNumber"] data

/-- The keys of `to_dict` in transfer-service, and the ticket id that the orchestrator may know. -/
def recordFields : List String :=
  ["transferId","listingId","buyerId","sellerId","status","creditAmount","buyerOtpVerified",
    "sellerOtpVerified","buyerVerificationSid","sellerVerificationSid","completedAt","expiresAt",
    "createdAt","ticketId"]

variable {names : List String} {data : Json}

theorem HasTexts.plain (h : HasTexts names data) : data.Plain := by
  obtain ⟨fields,rfl,-⟩ := h
  trivial

theorem HasTexts.text (h : HasTexts names data) {name : String} (hname : name ∈ names) :
    ∃ s, data.field name = .str s := by
  obtain ⟨fields,rfl,htexts⟩ := h
  exact htexts name hname

theorem HasTexts.truthy (h : HasTexts names data) {name : String} (hname : name ∈ names) :
    data.truthy := by
  obtain ⟨fields,rfl,htexts⟩ := h
  obtain ⟨s,hs⟩ := htexts name hname
  cases fields with
  | nil => cases hs
  | cons entry fields => rfl

/-- The list is there, and it is what the loop goes through. -/
theorem HasItems.listed {list : String} (h : HasItems list names data) :
    ∃ items, data.field list = .arr items ∧ data.orEmpty.getOr list (.arr []) = .ok (.arr items) ∧
      ∀ item ∈ items, HasTexts names item := by
  obtain ⟨fields,items,rfl,hlist,hitems⟩ := h
  have hne : fields ≠ [] := by
    rintro rfl
    cases hlist
  exact ⟨items,by simp [Json.field,Json.get,hlist],
    by simp [Json.orEmpty,Json.truthy,hne,Json.getOr,hlist],hitems⟩

end Shapes

section Lookups

/-- What has a property, and null if nothing has it. -/
def OrNull (P : Json → Prop) (value : Json) : Prop := P value ∨ value = .null ∧ ∀ a, ¬ P a

theorem OrNull.imp {P Q : Json → Prop} {value : Json} (h : OrNull P value)
    (hPQ : ∀ a, P a → Q a) (hQP : ∀ a, Q a → P a) : OrNull Q value :=
  Or.imp (hPQ value) (fun hnone => ⟨hnone.1,fun a ha => hnone.2 a (hQP a ha)⟩) h

theorem OrNull.of_truthy {P : Json → Prop} {a : Json} (h : OrNull P a) (ha : a.truthy) : P a := by
  rcases h with h | ⟨rfl,-⟩
  · exact h
  · cases ha

theorem OrNull.plain {P : Json → Prop} {names : List String} {value : Json} (h : OrNull P value)
    (hP : ∀ data, P data → HasTexts names data) : value.Plain := by
  rcases h with h | ⟨rfl,-⟩
  · exact (hP value h).plain
  · trivial

/-- A lookup is made for an id that is there, and it succeeds. -/
def Finds (get : Json → Except String Json) (id data : Json) : Prop :=
  id.truthy ∧ get id = .ok data

/-- What a lookup finds in one of the lists of its answer, under a value that is there. -/
def Lists (get : Json → Except String Json) (id : Json) (list name : String) (value item : Json) :
    Prop :=
  value.truthy ∧ ∃ data items, Finds get id data ∧ data.field list = .arr items ∧ item ∈ items ∧
    item.field name = value

variable {names : List String} {get : Json → Except String Json} {id data : Json}

theorem Finds.unique {a b : Json} (ha : Finds get id a) (hb : Finds get id b) : a = b :=
  Except.ok.inj (ha.2.symm.trans hb.2)

theorem lookupIf_orNull (get : Json → Except String Json) (id : Json) :
    OrNull (Finds get id) (lookupIf id get) := by
  unfold lookupIf
  by_cases hid : id.truthy
  · rw [if_pos hid]
    cases hget : get id with
    | error code => exact .inr ⟨rfl,fun a ha => by cases hget.symm.trans ha.2⟩
    | ok data => exact .inl ⟨hid,hget⟩
  · rw [if_neg hid]
    exact .inr ⟨rfl,fun a ha => hid ha.1⟩

theorem lookupIf_dot (hget : ∀ id data, get id = .ok data → HasTexts names data)
    (id : Json) (name : String) :
    (lookupIf id get).orEmpty.dot name = .ok ((lookupIf id get).field name) :=
  Json.orEmpty_dot ((lookupIf_orNull get id).plain fun _ h => hget _ _ h.2) name

theorem nextItem_orNull (name s : String) {items : List Json}
    (hitems : ∀ item ∈ items, HasTexts names item) :
    ∃ item, nextItem name (.str s) items = .ok item ∧
      OrNull (fun a => a ∈ items ∧ a.field name = .str s) item := by
  induction items with
  | nil => exact ⟨.null,rfl,.inr ⟨rfl,fun a ha => List.not_mem_nil ha.1⟩⟩
  | cons item items ih =>
    have hitem := hitems item List.mem_cons_self
    obtain ⟨fields,rfl,-⟩ := hitem
    simp only [nextItem,Json.dot_obj,bind,Except.bind,pure,Except.pure]
    by_cases heq : ((Json.obj fields).field name).eq (.str s)
    · exact ⟨.obj fields,if_pos heq,.inl ⟨List.mem_cons_self,Json.eq_str.mp heq⟩⟩
    · obtain ⟨found,hfound,hspec⟩ := ih fun a ha => hitems a (List.mem_cons_of_mem _ ha)
      refine ⟨found,by rw [if_neg heq,hfound],hspec.imp ?_ ?_⟩
      · exact fun a ha => ⟨List.mem_cons_of_mem _ ha.1,ha.2⟩
      · rintro a ⟨ha,htext⟩
        rcases List.mem_cons.mp ha with rfl | ha
        · exact absurd (Json.eq_str.mpr htext) heq
        · exact ⟨ha,htext⟩

/-- The search in an answer, which may have failed to come. -/
theorem findItem_orNull {list : String} (hget : ∀ id data, get id = .ok data →
    HasItems list names data) (hid : id.truthy) (name : String) {s : String}
    (hs : (Json.str s).truthy) :
    ∃ item, findItem (safeGet (get id)) list name (.str s) = .ok item ∧
      OrNull (Lists get id list name (.str s)) item := by
  cases hdata : get id with
  | error code =>
    refine ⟨.null,rfl,.inr ⟨rfl,?_⟩⟩
    rintro item ⟨-,data,items,hfinds,-⟩
    cases hdata.symm.trans hfinds.2
  | ok data =>
    obtain ⟨items,hfield,hgetOr,hitems⟩ := (hget id data hdata).listed
    obtain ⟨item,hnext,hspec⟩ := nextItem_orNull name s hitems
    refine ⟨item,?_,hspec.imp ?_ ?_⟩
    · rw [findItem,safeGet,hgetOr,Py.ok_bind,Json.iter,Py.ok_bind,hnext]
    · exact fun a ha => ⟨hs,data,items,⟨hid,hdata⟩,hfield,ha⟩
    · rintro a ⟨-,data',items',hfinds,hitems',ha⟩
      cases hdata.symm.trans hfinds.2
      cases hfield.symm.trans hitems'
      exact ha

theorem Lists.truthy {list name : String} {value item : Json}
    (h : Lists get id list name value item) : id.truthy ∧ value.truthy := by
  obtain ⟨hvalue,data,items,hfinds,-⟩ := h
  exact ⟨hfinds.1,hvalue⟩

/-- A search is made for a value that is there, at an id that is there. -/
theorem searchIf_orNull {list : String} (hget : ∀ id data, get id = .ok data →
    HasItems list names data) (id : Json) (name s : String) :
    ∃ item, (if id.truthy && (Json.str s).truthy then
        findItem (safeGet (get id)) list name (.str s) else pure .null) = .ok item ∧
      OrNull (Lists get id list name (.str s)) item := by
  by_cases hthere : id.truthy && (Json.str s).truthy
  · obtain ⟨hid,hs⟩ := Bool.and_eq_true_iff.mp hthere
    rw [if_pos hthere]
    exact findItem_orNull hget hid name hs
  · rw [if_neg hthere]
    refine ⟨.null,rfl,.inr ⟨rfl,fun item hitem => hthere ?_⟩⟩
    exact Bool.and_eq_true_iff.mpr hitem.truthy

theorem Lists.hasTexts {list name : String} {value item : Json} (hget : ∀ id data,
    get id = .ok data → HasItems list names data) (h : Lists get id list name value item) :
    HasTexts names item := by
  obtain ⟨-,data,items,hfinds,hlist,hitem,-⟩ := h
  obtain ⟨items',hfield,-,hitems⟩ := (hget id data hfinds.2).listed
  cases hfield.symm.trans hlist
  exact hitems item hitem

end Lookups

end TicketRemaster.TransferRecord
