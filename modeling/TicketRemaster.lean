import TicketRemaster.Credits.Solvency
import TicketRemaster.Credits.CreditedOnce
import TicketRemaster.SeatInventory.Exclusive
import TicketRemaster.Purchase.OneTicket
import TicketRemaster.Purchase.Pricing
import TicketRemaster.Transfer.Balances
import TicketRemaster.Transfer.Timeout
import TicketRemaster.Resale.Consistency
import TicketRemaster.Resale.SoldOnce
import TicketRemaster.Verification.Exclusion
import TicketRemaster.Queues.Timeouts
import TicketRemaster.Transfer.BothOtps
import TicketRemaster.Transfer.Cancellation
import TicketRemaster.Transfer.DeadEnds
import TicketRemaster.Transfer.Completion
import TicketRemaster.Auth.Middleware
import TicketRemaster.SeatInventory.ExpiredHolds
import TicketRemaster.SeatInventory.Deadlocks
import TicketRemaster.SeatInventory.Releases
import TicketRemaster.ServiceClient.HalfOpen
import TicketRemaster.ServiceClient.Contract
import TicketRemaster.TransferService.Lifecycle
import TicketRemaster.Verification.Scans
import TicketRemaster.Lib.SlidingWindow
import TicketRemaster.OtpWrapper.Guesses
import TicketRemaster.Resale.Stranded
import TicketRemaster.Resale.QrOwner
import TicketRemaster.Purchase.HoldCache
import TicketRemaster.Purchase.DeadLetters
import TicketRemaster.Credits.Readings
import TicketRemaster.Credits.History
import TicketRemaster.Transfer.Initiation
import TicketRemaster.Transfer.Truthful
import TicketRemaster.Marketplace.Browse
import TicketRemaster.Events.Pages
import TicketRemaster.Events.Cancellation
import TicketRemaster.Tickets.Update
import TicketRemaster.Users.ResetTokens
import TicketRemaster.SeatInventory.Imports
import TicketRemaster.Purchase.Channels
import TicketRemaster.Verification.Verdicts
import TicketRemaster.Verification.Freshness
import TicketRemaster.Verification.LockTokens
import TicketRemaster.ServiceClient.Reading
import TicketRemaster.Transfer.Encoding
import TicketRemaster.Queues.HoldExpiry
import TicketRemaster.Auth.SignIn
import TicketRemaster.Events.WholeMaps
import TicketRemaster.Purchase.RedisBreaker
import TicketRemaster.Payments.Redeemed
import TicketRemaster.Admission.Facts
