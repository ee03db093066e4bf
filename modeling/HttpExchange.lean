import HttpExchange.Address
import HttpExchange.Charset
import HttpExchange.Connection.Basic
import HttpExchange.Connection.Exchange
import HttpExchange.Cookie.Attribute
import HttpExchange.Cookie.Basic
import HttpExchange.Cookie.Header
import HttpExchange.Cookie.Read
import HttpExchange.Example.Basic
import HttpExchange.Example.Demo
import HttpExchange.Failure
import HttpExchange.Headers
import HttpExchange.Jar.Basic
import HttpExchange.Jar.Insert
import HttpExchange.Jar.Match
import HttpExchange.Jar.Scope
import HttpExchange.Json.Reader
import HttpExchange.Json.Writer
import HttpExchange.Log
import HttpExchange.Main
import HttpExchange.Mock.Mocker
import HttpExchange.Mock.Report
import HttpExchange.Mock.Rule
import HttpExchange.Module.Basic
import HttpExchange.Module.Host
import HttpExchange.Module.Loading
import HttpExchange.Number.Binary64
import HttpExchange.Number.Integer
import HttpExchange.Number.Power
import HttpExchange.Number.Shortest
import HttpExchange.Percent
import HttpExchange.Proofs.Connection.Assembly
import HttpExchange.Proofs.Connection.CookieHeader
import HttpExchange.Proofs.Connection.JsonDelivery
import HttpExchange.Proofs.Connection.Keeping
import HttpExchange.Proofs.Connection.Preparation
import HttpExchange.Proofs.Connection.Processing
import HttpExchange.Proofs.Cookie.Assignment
import HttpExchange.Proofs.Cookie.AttributeReading
import HttpExchange.Proofs.Cookie.DatedHeaders
import HttpExchange.Proofs.Cookie.Determination
import HttpExchange.Proofs.Cookie.EscapedValues
import HttpExchange.Proofs.Cookie.ExpiryDates
import HttpExchange.Proofs.Cookie.ExpirySegments
import HttpExchange.Proofs.Cookie.HeaderFailing
import HttpExchange.Proofs.Cookie.HeaderReading
import HttpExchange.Proofs.Cookie.HeaderWriting
import HttpExchange.Proofs.Cookie.MappingReading
import HttpExchange.Proofs.Cookie.Normalization
import HttpExchange.Proofs.Cookie.PairReading
import HttpExchange.Proofs.Cookie.RequestPairs
import HttpExchange.Proofs.Cookie.RoundTrip
import HttpExchange.Proofs.Cookie.SameInstant
import HttpExchange.Proofs.Cookie.Segments
import HttpExchange.Proofs.Jar.Addresses
import HttpExchange.Proofs.Jar.Arrival
import HttpExchange.Proofs.Jar.Below
import HttpExchange.Proofs.Jar.Coherence
import HttpExchange.Proofs.Jar.Headers
import HttpExchange.Proofs.Jar.History
import HttpExchange.Proofs.Jar.Isolation
import HttpExchange.Proofs.Jar.Ordering
import HttpExchange.Proofs.Jar.Provenance
import HttpExchange.Proofs.Jar.Replay
import HttpExchange.Proofs.Jar.Scope
import HttpExchange.Proofs.Jar.Selection
import HttpExchange.Proofs.Jar.Sending
import HttpExchange.Proofs.Jar.SentBack
import HttpExchange.Proofs.Jar.Step
import HttpExchange.Proofs.Json.Keys
import HttpExchange.Proofs.Json.RoundTrip
import HttpExchange.Proofs.Json.Scalars
import HttpExchange.Proofs.Mock.ContentTypes
import HttpExchange.Proofs.Mock.JsonAnswers
import HttpExchange.Proofs.Mock.Offering
import HttpExchange.Proofs.Mock.Searching
import HttpExchange.Proofs.Mock.Tally
import HttpExchange.Proofs.Module.Application
import HttpExchange.Proofs.Module.CookieReturn
import HttpExchange.Proofs.Module.Deployment
import HttpExchange.Proofs.Module.LoadOnce
import HttpExchange.Proofs.Module.LoadScript
import HttpExchange.Proofs.Module.Preservation
import HttpExchange.Proofs.Module.Registration
import HttpExchange.Proofs.Number.IntegerReading
import HttpExchange.Proofs.Number.Range
import HttpExchange.Proofs.Number.Rounding
import HttpExchange.Proofs.Percent.EscapedForm
import HttpExchange.Proofs.Percent.RoundTrip
import HttpExchange.Proofs.Percent.Scanning
import HttpExchange.Proofs.Session.Loading
import HttpExchange.Proofs.Session.Stores
import HttpExchange.Proofs.Settings.Merging
import HttpExchange.Proofs.Settings.Refusal
import HttpExchange.Proofs.Text.Casing
import HttpExchange.Proofs.Text.Splitting
import HttpExchange.Proofs.Text.Trimming
import HttpExchange.Proofs.Time.Calendar
import HttpExchange.Proofs.Time.HttpDate
import HttpExchange.Proofs.Time.MailDate
import HttpExchange.Proofs.Utf8.Decoding
import HttpExchange.Proofs.Utf8.Validity
import HttpExchange.Proofs.Value.Mapping
import HttpExchange.Request
import HttpExchange.Response
import HttpExchange.SameSite
import HttpExchange.Session.Run
import HttpExchange.Session.Shelf
import HttpExchange.Session.Step
import HttpExchange.Session.World
import HttpExchange.Settings.Basic
import HttpExchange.Settings.Duration
import HttpExchange.Settings.Fault
import HttpExchange.Settings.Load
import HttpExchange.Text.Blank
import HttpExchange.Text.Case
import HttpExchange.Text.CaseTable
import HttpExchange.Text.Digit
import HttpExchange.Text.Hex
import HttpExchange.Text.Pattern
import HttpExchange.Text.Printable
import HttpExchange.Text.Quoted
import HttpExchange.Text.Runs
import HttpExchange.Text.Split
import HttpExchange.Text.Word
import HttpExchange.Time.Calendar
import HttpExchange.Time.HttpDate
import HttpExchange.Time.MailDate
import HttpExchange.Time.Moment
import HttpExchange.Url
import HttpExchange.Utf8
import HttpExchange.Value.Atom
import HttpExchange.Value.Basic
import HttpExchange.Value.Display
