import KiTicket.System
import KiTicket.Booking
import KiTicket.Bookings
import KiTicket.Refinement
import KiTicket.Reachable
import KiTicket.Consistency
import KiTicket.Outcomes
import KiTicket.Sweeps
import KiTicket.Completion
import KiTicket.Creation
import KiTicket.Locks
import KiTicket.Cancellation
import KiTicket.Admission
import KiTicket.Placement
import KiTicket.CheckIns
import KiTicket.SeatLocks
import KiTicket.Leaks
import KiTicket.Replays
import KiTicket.Starts
import KiTicket.Checkout
import KiTicket.Events
import KiTicket.Site
import KiTicket.Currency
import KiTicket.Figures
import KiTicket.Quotes
import KiTicket.Inventory
import KiTicket.Batches
import KiTicket.Queue
import KiTicket.Tokens
import KiTicket.Places
import KiTicket.Auth
import KiTicket.Accounts
import KiTicket.Editing
import KiTicket.Announcements
import KiTicket.Ownership
import KiTicket.Spellings
import KiTicket.Respelled
import KiTicket.RowLabels
import KiTicket.Sectors
import KiTicket.Layouts
import KiTicket.Passwords
import KiTicket.Broker
import KiTicket.EventForm
import KiTicket.IdempotencyKeys
import KiTicket.EventList
import KiTicket.AvailableFilter
import KiTicket.Amounts
import KiTicket.Takings
import KiTicket.Progress
import KiTicket.Atomic
import KiTicket.Errors
import KiTicket.Wallet
import KiTicket.Sessions
import KiTicket.Gateway
import KiTicket.Fetch
import KiTicket.Home
import KiTicket.Reserving
import KiTicket.EventPage
import KiTicket.TicketsPage
import KiTicket.Browser
