import Mathlib.Data.Prod.Lex
import TicketRemaster.Lib.Pages
import TicketRemaster.Services.Platform
set_option autoImplicit false

/-! `GET /marketplace`, with all services up and nothing changing. Without a filter its pages are
those of marketplace-service; with a filter they are pages of the first of those only. -/

namespace TicketRemaster.Marketplace

open Paging

abbrev ListingRow := ListingId × Listing

/-- `createdAt` and then `listingId`, both descending. -/
def newestFirst (row : ListingRow) : (Time ×ₗ ListingId)ᵒᵈ :=
  OrderDual.toDual (toLex (row.2.createdAt,row.1))

structure Pagination where
  page : Int
  limit : Int
  total : Nat
  deriving DecidableEq

structure ListingsPage where
  listings : List ListingRow
  pagination : Pagination

structure ListingEvent where
  eventId : EventId
  name : String
  date : Time
  deriving DecidableEq

structure EnrichedListing where
  listingId : ListingId
  ticketId : TicketId
  sellerId : UserId
  sellerName : Option String
  price : Credits
  status : ListingStatus
  createdAt : Time
  event : Option ListingEvent
  deriving DecidableEq

structure BrowsePage where
  listings : List EnrichedListing
  pagination : Pagination

/-- The arguments of a request; a number that is missing or no integer is `none`, and so is an
`eventId` that is missing or empty. -/
structure BrowseArgs where
  page : Option Int
  limit : Option Int
  eventId : Option EventId

variable (w : World)

def activeListings : List ListingRow :=
  (w.listings.entries.map fun e => (e.1,e.2)).filter fun row => row.2.status = .active

variable (order : ∀ rows, Arrangement newestFirst rows)

/-- `GET /listings` of marketplace-service. -/
def listActiveListings (page limit : Option Int) : Except ServiceError ListingsPage :=
  let page := page.getD 1
  let limit := limit.getD 20
  if page < 1 then
    .error (validationError "page must be an integer greater than or equal to 1")
  else if limit < 1 then
    .error (validationError "limit must be an integer greater than or equal to 1")
  else
    let limit := min limit 100
    let rows := activeListings w
    .ok ⟨Paging.page limit.toNat page.toNat (order rows).answer,⟨page,limit,rows.length⟩⟩

/-- What `call_service` returns when the service answers. -/
def healthy {α : Type} (served : Served α) : Option α := served.1.toOption

def sellerDisplay (email : String) : Option String :=
  if email = "" then none else (email.splitOn "@").head?

/-- `_enrich_listing`. -/
def enrichListing (listing : ListingRow) : EnrichedListing :=
  let ticket := healthy (w.getTicket listing.2.ticketId)
  let event := ticket.bind fun t =>
    (healthy (w.getEvent t.eventId)).map fun e => (⟨t.eventId,e.name,e.date⟩ : ListingEvent)
  let seller := healthy (w.getUser listing.2.sellerId)
  { listingId := listing.1
    ticketId := listing.2.ticketId
    sellerId := listing.2.sellerId
    sellerName := seller.bind fun s => sellerDisplay s.email
    price := listing.2.price
    status := listing.2.status
    createdAt := listing.2.createdAt
    event := event }

def passesFilter (requested : Option EventId) (listing : EnrichedListing) : Bool :=
  match requested with
  | none => true
  | some requested => listing.event.any (·.eventId = requested)

/-- `GET /marketplace`. -/
def browse (args : BrowseArgs) : Response BrowsePage :=
  let page := args.page.getD 1
  let limit := args.limit.getD 20
  if page < 1 then
    .error "VALIDATION_ERROR" "page must be an integer greater than or equal to 1." 400
  else if limit < 1 then
    .error "VALIDATION_ERROR" "limit must be an integer greater than or equal to 1." 400
  else
    let limit := min limit 100
    let upstream := if args.eventId.isNone then (some page,some limit) else (none,none)
    match listActiveListings w order upstream.1 upstream.2 with
    | .error _ => .error "SERVICE_UNAVAILABLE" "Could not retrieve listings." 503
    | .ok data =>
        let enriched := (data.listings.map (enrichListing w)).filter (passesFilter args.eventId)
        if args.eventId.isSome then
          .data 200 ⟨Paging.page limit.toNat page.toNat enriched,⟨page,limit,enriched.length⟩⟩
        else .data 200 ⟨enriched,data.pagination⟩

section Partition

def listingsOf : Response BrowsePage → List EnrichedListing
  | .data _ page => page.listings
  | .error _ _ _ => []

def totalOf : Response BrowsePage → Option Nat
  | .data _ page => some page.pagination.total
  | .error _ _ _ => none

/-- The answers for the pages 1, 2, … are these listings in this order, and each counts them. -/
def BrowsePartitions (answer : Nat → Response BrowsePage) (listings : List EnrichedListing)
    (limit : Nat) : Prop :=
  (∀ k, 1 ≤ k → totalOf (answer k) = some listings.length) ∧
  ∀ n, listings.length ≤ n*limit →
    (List.range n).flatMap (fun i => listingsOf (answer (i+1))) = listings

/-- The ticket of the listing is for an event that exists and is the one asked for, if any is. -/
def wanted (requested : Option EventId) (row : ListingRow) : Bool :=
  match requested with
  | none => true
  | some requested =>
      (w.tickets.lookup row.2.ticketId).any (·.eventId = requested) &&
        (w.events.lookup requested).isSome

theorem passesFilter_enrichListing (requested : Option EventId) (row : ListingRow) :
    passesFilter requested (enrichListing w row) = wanted w requested row := by
  cases requested with
  | none => rfl
  | some requested =>
    simp only [passesFilter,wanted,enrichListing,healthy,World.getTicket,World.getEvent]
    cases hticket : w.tickets.lookup row.2.ticketId with
    | none => rfl
    | some t =>
      by_cases ht : t.eventId = requested
      · subst ht
        cases hevent : w.events.lookup t.eventId <;>
          simp [World.found,hevent,Except.toOption]
      · cases hevent : w.events.lookup t.eventId <;>
          simp [World.found,hevent,ht,Except.toOption]

/-- The active listings, in the one order that the database can give them. -/
def newestActive : List ListingRow := (Arrangement.sort newestFirst (activeListings w)).answer

theorem order_answer : (order (activeListings w)).answer = newestActive w := by
  refine Arrangement.answer_eq (fun a ha b hb hkey => ?_) _ _
  have hids : ((activeListings w).map Prod.fst).Nodup := by
    have hkeys : ((w.listings.entries.map fun e => (e.1,e.2)).map Prod.fst).Nodup := by
      rw [List.map_map]
      exact w.listings.nodupKeys
    exact hkeys.sublist (List.filter_sublist.map Prod.fst)
  have hpair := toLex_inj.mp (OrderDual.toDual_inj.mp hkey)
  exact List.inj_on_of_nodup_map hids ha hb (Prod.mk.inj hpair).2

theorem newestActive_length : (newestActive w).length = (activeListings w).length :=
  (Arrangement.sort newestFirst _).perm.length_eq

/-- What a page of marketplace-service holds, for valid arguments. -/
theorem listActiveListings_eq {page limit : Option Int} {k n : Nat} (hk : page.getD 1 = k)
    (hn : limit.getD 20 = n) (hpos : 1 ≤ k) (hlimit : 1 ≤ n ∧ n ≤ 100) :
    listActiveListings w order page limit =
      .ok ⟨Paging.page n k (newestActive w),⟨k,n,(newestActive w).length⟩⟩ := by
  have hpage : ¬ (k : Int) < 1 := by omega
  have hlow : ¬ (n : Int) < 1 := by omega
  have hclamp : min (n : Int) 100 = n := by omega
  unfold listActiveListings
  rw [hk,hn]
  dsimp only
  rw [if_neg hpage,if_neg hlow,hclamp,order_answer,newestActive_length]
  rfl

variable {k limit : Nat}

theorem browse_all (hk : 1 ≤ k) (hlimit : 1 ≤ limit ∧ limit ≤ 100) :
    browse w order ⟨some k,some limit,none⟩ =
      .data 200 ⟨(Paging.page limit k (newestActive w)).map (enrichListing w),
        ⟨k,limit,(newestActive w).length⟩⟩ := by
  have hpage : ¬ (k : Int) < 1 := by omega
  have hlow : ¬ (limit : Int) < 1 := by omega
  have hclamp : min (limit : Int) 100 = limit := by omega
  unfold browse
  dsimp only [Option.getD_some]
  rw [if_neg hpage,if_neg hlow,hclamp]
  dsimp only [Option.isNone_none,if_true]
  rw [listActiveListings_eq w order rfl rfl hk hlimit]
  simp [passesFilter]

/-- With a filter the pages are those of the matching ones among the first twenty. -/
theorem browse_filtered (requested : EventId) (hk : 1 ≤ k) (hlimit : 1 ≤ limit ∧ limit ≤ 100) :
    browse w order ⟨some k,some limit,some requested⟩ =
      .data 200 ⟨Paging.page limit k
          ((((newestActive w).take 20).filter (wanted w requested)).map (enrichListing w)),
        ⟨k,limit,(((newestActive w).take 20).filter (wanted w requested)).length⟩⟩ := by
  have hpage : ¬ (k : Int) < 1 := by omega
  have hlow : ¬ (limit : Int) < 1 := by omega
  have hclamp : min (limit : Int) 100 = limit := by omega
  have hfirst : (((newestActive w).take 20).map (enrichListing w)).filter
      (passesFilter (some requested)) =
        (((newestActive w).take 20).filter (wanted w requested)).map (enrichListing w) := by
    rw [List.filter_map]
    congr 1
    exact List.filter_congr fun row _ => passesFilter_enrichListing w (some requested) row
  unfold browse
  dsimp only [Option.getD_some]
  rw [if_neg hpage,if_neg hlow,hclamp]
  dsimp only [Option.isNone_some]
  rw [if_neg (by simp),listActiveListings_eq w order (k := 1) (n := 20) rfl rfl le_rfl (by decide)]
  have hpage₁ : Paging.page 20 1 (newestActive w) = (newestActive w).take 20 := by
    simp [Paging.page]
  dsimp only
  rw [hpage₁,hfirst,if_pos (by rfl),List.length_map]
  rfl

/-- Answers that are the pages of the listings, with their count, partition them. -/
theorem browsePartitions_of_pages {answer : Nat → Response BrowsePage}
    {listings : List EnrichedListing} (h : ∀ k, 1 ≤ k → answer k =
      .data 200 ⟨Paging.page limit k listings,⟨k,limit,listings.length⟩⟩) :
    BrowsePartitions answer listings limit := by
  refine ⟨fun k hk => by rw [h k hk]; rfl,fun n hn => ?_⟩
  have hpages : ((List.range n).flatMap fun i => listingsOf (answer (i+1))) =
      pages limit (fun _ => listings) n := by
    refine List.flatMap_congr fun i _ => ?_
    rw [h (i+1) (by omega)]
    rfl
  rw [hpages,pages_same,List.take_of_length_le hn]

/-- Event 1 has the oldest of 21 listings, and event 2 the others. -/
def crowded : World where
  users := (∅ : Table UserId User).insert 1 ⟨"ann@example.com",81⟩
  events := (∅ : Table EventId Event).insert 1 ⟨1,"Symphony Night",0,"",80⟩ |>.insert 2
    ⟨1,"Gala",0,"",80⟩
  venues := ∅
  seats := ∅
  inventory := ∅
  holdCache := ∅
  released := ∅
  tickets := (∅ : Table TicketId Ticket).insert 1 ⟨1,1,1,1,80,.listed,none,none,0⟩ |>.insert 2
    ⟨2,1,1,2,80,.listed,none,none,0⟩
  ticketLogs := []
  listings := (List.range 21).foldl (fun t i =>
    t.insert i ⟨if i = 0 then 1 else 2,1,80,.active,seconds i⟩) (∅ : Table ListingId Listing)
  transfers := ∅
  credits := ∅
  creditTransactions := []
  paymentIntents := ∅
  scanLocks := ∅

end Partition

end TicketRemaster.Marketplace
