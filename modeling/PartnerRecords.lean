import PartnerRecords.Config.Directory
import PartnerRecords.Json.Printer
import PartnerRecords.Session.Operation
import PartnerRecords.Proofs.Act
import PartnerRecords.Proofs.Rest.Deed
import PartnerRecords.Proofs.Screen.Answer
import PartnerRecords.Proofs.Screen.Item
import PartnerRecords.Proofs.Screen.Form
import PartnerRecords.Proofs.Screen.Replay
import PartnerRecords.Proofs.Partner.Errand
import PartnerRecords.Proofs.Partner.Lifecycle
import PartnerRecords.Proofs.Partner.Book
import PartnerRecords.Proofs.Screen.Surroundings
import PartnerRecords.Proofs.Partner.Application
import PartnerRecords.Proofs.Partner.Entries
import PartnerRecords.Proofs.Partner.Ledger
import PartnerRecords.Proofs.Partner.Verification
import PartnerRecords.Proofs.Url.Segment
import PartnerRecords.Proofs.Rest.Address
import PartnerRecords.Proofs.Rest.Joining
import PartnerRecords.Proofs.Partner.Withholding
import PartnerRecords.Proofs.Screen.Minutes
import PartnerRecords.Proofs.Screen.Mirror
import PartnerRecords.Proofs.Partner.Mirror
import PartnerRecords.Proofs.Partner.Queue
import PartnerRecords.Proofs.Rest.Mirror
import PartnerRecords.Proofs.Screen.Twins
import PartnerRecords.Proofs.Screen.Stage
import PartnerRecords.Proofs.Partner.Abreast
import PartnerRecords.Proofs.Partner.Office
import PartnerRecords.Proofs.Partner.Agenda
import PartnerRecords.Proofs.Screen.Effect
import PartnerRecords.Proofs.Screen.History
import PartnerRecords.Proofs.Rest.Options
import PartnerRecords.Proofs.Partner.Lookup
import PartnerRecords.Proofs.Config.Validity
import PartnerRecords.Proofs.Config.Variable
import PartnerRecords.Proofs.Config.Loading
import PartnerRecords.Proofs.Rest.Window
import PartnerRecords.Proofs.Json.Written
import PartnerRecords.Proofs.Partner.Written
import PartnerRecords.Proofs.Partner.Terms
import PartnerRecords.Proofs.Screen.Ready
import PartnerRecords.Proofs.Partner.Hindrance
import PartnerRecords.Proofs.Screen.City
import PartnerRecords.Proofs.Partner.Gate
import PartnerRecords.Proofs.Screen.Refusal
import PartnerRecords.Proofs.Json.Settled
import PartnerRecords.Proofs.Rest.Fields
import PartnerRecords.Proofs.Rest.Dropdown
import PartnerRecords.Proofs.Url.Reading
import PartnerRecords.Proofs.Url.Slashes
import PartnerRecords.Proofs.Rest.Normalized
import PartnerRecords.Proofs.Url.Pieces
import PartnerRecords.Proofs.Json.Numeral
import PartnerRecords.Proofs.Json.Source
import PartnerRecords.Proofs.Rest.Identifier
import PartnerRecords.Proofs.Partner.Numbered
import PartnerRecords.Proofs.Config.Override
import PartnerRecords.Proofs.Config.Timeout
