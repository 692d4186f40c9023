import Agenda.Server.Respond
import Agenda.Store.Session
import Agenda.Proofs.Number.Rounding
import Agenda.Proofs.Number.RoundingOrder
import Agenda.Proofs.Calendar.DayNumbers
import Agenda.Proofs.Calendar.SignedDays
import Agenda.Proofs.Calendar.Moments
import Agenda.Proofs.Recurrence.Due
import Agenda.Proofs.Recurrence.Stepping
import Agenda.Proofs.Recurrence.Searching
import Agenda.Proofs.Recurrence.Outcomes
import Agenda.Proofs.Text.Numerals
import Agenda.Proofs.Text.Integers
import Agenda.Proofs.Text.AsciiBytes
import Agenda.Proofs.Text.Sextets
import Agenda.Proofs.Text.Wildcards
import Agenda.Proofs.Calendar.CompactText
import Agenda.Proofs.Calendar.TextOrder
import Agenda.Proofs.Recurrence.RuleGrammar
import Agenda.Proofs.Recurrence.StepFunction
import Agenda.Proofs.Recurrence.MonthlyWindow
import Agenda.Proofs.Recurrence.MonthlySearch
import Agenda.Proofs.Recurrence.Runs
import Agenda.Proofs.Recurrence.Errors
import Agenda.Proofs.Text.Trimming
import Agenda.Proofs.Recurrence.RuleReadings
import Agenda.Proofs.Entries
import Agenda.Proofs.AcceptedAgain
import Agenda.Proofs.Json.PlainObjects
import Agenda.Proofs.Throttle
import Agenda.Proofs.Tokens
import Agenda.Proofs.Uploads
import Agenda.Proofs.Store.Rows
import Agenda.Proofs.Store.Commands
import Agenda.Proofs.Store.Listing
import Agenda.Proofs.Store.Sessions
import Agenda.Proofs.Server.Effects
import Agenda.Proofs.Server.Frames
import Agenda.Proofs.Server.Orderly
import Agenda.Proofs.Server.Cookies
import Agenda.Proofs.Server.Bodies
import Agenda.Proofs.Server.Attempts
import Agenda.Proofs.Server.Gate
import Agenda.Proofs.Server.Completion
import Agenda.Proofs.Server.SignIn
import Agenda.Proofs.Server.AcceptedTokens
import Agenda.Proofs.Server.UnknownIds
import Agenda.Proofs.Server.Resubmissions
import Agenda.Proofs.Server.Listings
import Agenda.Proofs.Server.Throttling
import Agenda.Proofs.Recurrence.ClosedForms
import Agenda.Proofs.Recurrence.WeeklySearch
import Agenda.Proofs.Calendar.DottedText
import Agenda.Proofs.Store.WordSearch
import Agenda.Proofs.Calendar.CompactRoundTrip
import Agenda.Proofs.Recurrence.RuleRoundTrip
import Agenda.Proofs.Server.DateSearches
import Agenda.Proofs.Recurrence.ListedDays
import Agenda.Proofs.Server.Configuration
