import Cmon.Library.OrderedMap
import Cmon.Library.Run
import Cmon.Library.Refinement
import Cmon.Library.Table
import Cmon.Library.Transaction
import Cmon.Library.Counter
import Cmon.Library.SqlText
import Cmon.Library.SqlLike
import Cmon.Library.Lines
import Cmon.Library.Episodes
import Cmon.Library.LinkedList
import Cmon.Library.Rfc4180
import Cmon.Library.ConnInfo
import Cmon.Library.Sorting
import Cmon.Library.Replacement
import Cmon.Library.Recent
import Cmon.Library.Rotation
import Cmon.Library.Sections
import Cmon.Shared.Platform
import Cmon.Shared.Phone
import Cmon.Shared.Config
import Cmon.Shared.Format
import Cmon.Shared.Uuid
import Cmon.Plugin.CallMonitor
import Cmon.Plugin.Loader
import Cmon.Schema.Open
import Cmon.Schema.Ids
import Cmon.Journal.Entry
import Cmon.Journal.Times
import Cmon.Journal.Model
import Cmon.Journal.Retry
import Cmon.Journal.Purge
import Cmon.Journal.Dirty
import Cmon.Journal.Results
import Cmon.Journal.Dates
import Cmon.App.MainApp
import Cmon.App.Keys
import Cmon.App.Ownership
import Cmon.App.OneCall
import Cmon.App.Isolation
import Cmon.App.Absence
import Cmon.App.Running
import Cmon.App.Attribution
import Cmon.App.ListCopy
import Cmon.App.LookUps
import Cmon.App.Names
import Cmon.App.Online
import Cmon.App.Notification
import Cmon.Fritz.Message
import Cmon.Fritz.Layout
import Cmon.Fritz.Stream
import Cmon.Fritz.Duration
import Cmon.Fritz.Malformed
import Cmon.Fritz.BackOff
import Cmon.Tapi.Call
import Cmon.Tapi.Line
import Cmon.Tapi.Manager
import Cmon.Tapi.Sent
import Cmon.Tapi.CallInfo
import Cmon.AddressBook.Contact
import Cmon.AddressBook.Save
import Cmon.AddressBook.Rows
import Cmon.AddressBook.Retry
import Cmon.AddressBook.Fetch
import Cmon.AddressBook.Dialog
import Cmon.AddressBook.Copies
import Cmon.AddressBook.Registration
import Cmon.Resolver.Model
import Cmon.Resolver.Restart
import Cmon.Resolver.Positions
import Cmon.Resolver.Moves
import Cmon.Resolver.Worker
import Cmon.Resolver.Web
import Cmon.Search.Statements
import Cmon.Search.Selection
import Cmon.Journal.Counts
import Cmon.Journal.Sorting
import Cmon.Journal.ReadBack
import Cmon.AddressBook.Resolve
import Cmon.AddressBook.PreFilter
import Cmon.AddressBook.AreaCode
import Cmon.AddressBook.PhoneCache
import Cmon.AddressBook.Connection
import Cmon.AddressBook.ReadBack
import Cmon.App.ReverseLookup
import Cmon.App.Redial
import Cmon.Csv.Import
import Cmon.Csv.Export
import Cmon.Csv.Records
import Cmon.Csv.Reading
import Cmon.Csv.Loads
import Cmon.Csv.Columns
import Cmon.Csv.Validate
import Cmon.Csv.Contacts
import Cmon.App.FileLog
import Cmon.AddressBook.Cards
import Cmon.App.ContactPage
import Cmon.Csv.RoundTrip
import Cmon.Resolver.Files
import Cmon.App.Monitors
import Cmon.App.Transfer
import Cmon.App.Settings
