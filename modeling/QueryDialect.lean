import QueryDialect.Settings.File
import QueryDialect.Document.Decode
import QueryDialect.Proofs.Settings.Sections
import QueryDialect.Proofs.Dialect.SeriesQuery
import QueryDialect.Proofs.Dialect.Zone
import QueryDialect.Proofs.Page.Integers
import QueryDialect.Proofs.Page.LeadingInteger
import QueryDialect.Proofs.Dialect.PageClauses
import QueryDialect.Proofs.Page.RoundTrip
import QueryDialect.Proofs.DateRange
import QueryDialect.Proofs.Dialect.Shift
import QueryDialect.Proofs.Dialect.SingularUnit
import QueryDialect.Proofs.Text.ByteOrder
import QueryDialect.Proofs.Settings.Selection
import QueryDialect.Proofs.Settings.Files
import QueryDialect.Proofs.Template.Overlays
import QueryDialect.Proofs.Refresh
import QueryDialect.Proofs.Calendar.Partition
import QueryDialect.Proofs.Dialect.TextMatch
import QueryDialect.Proofs.TimeSeries.RollUp
import QueryDialect.Proofs.TimeSeries.Answers
import QueryDialect.Proofs.TimeSeries.Ends
import QueryDialect.Proofs.TimeSeries.Caps
