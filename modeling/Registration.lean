import Registration.Json.Writer
import Registration.Office.Requests
import Registration.Proofs.Attendee.Badge
import Registration.Proofs.Dues.Payments
import Registration.Proofs.Dues.RateKeys
import Registration.Proofs.Dues.Totals
import Registration.Proofs.Money
import Registration.Proofs.Number.Binary
import Registration.Proofs.Office.Atomicity
import Registration.Proofs.Office.Authority
import Registration.Proofs.Office.Cancellation
import Registration.Proofs.Office.Capacity
import Registration.Proofs.Office.CheckIn
import Registration.Proofs.Office.Consistency
import Registration.Proofs.Office.CountSigns
import Registration.Proofs.Office.CountUpdates
import Registration.Proofs.Office.DeletedMarks
import Registration.Proofs.Office.Dossier
import Registration.Proofs.Office.DueDates
import Registration.Proofs.Office.History
import Registration.Proofs.Office.LedgerGrowth
import Registration.Proofs.Office.LedgerOrder
import Registration.Proofs.Office.Limits
import Registration.Proofs.Office.MailStep
import Registration.Proofs.Office.Occupancy
import Registration.Proofs.Office.Overtaking
import Registration.Proofs.Office.Ownership
import Registration.Proofs.Office.PaidExit
import Registration.Proofs.Office.Resaving
import Registration.Proofs.Office.Resume
import Registration.Proofs.Office.SideBySide
import Registration.Proofs.Office.StatusMails
import Registration.Proofs.Office.Targets
import Registration.Proofs.Office.TurnedDown
import Registration.Proofs.Office.UniqueKeys
import Registration.Proofs.Office.Voiding
import Registration.Proofs.Service.Postings
import Registration.Proofs.Settings.Rates
import Registration.Service.MailService
import Registration.Service.Payments
import Registration.Startup
