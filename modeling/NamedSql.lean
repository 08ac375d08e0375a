import NamedSql.Json.Decode
import NamedSql.Log.Draft
import NamedSql.Log.Setup
import NamedSql.Proofs.Naming.NormalForm
import NamedSql.Proofs.Query.Decoding
import NamedSql.Proofs.Query.DollarQuoted
import NamedSql.Proofs.Query.Quoting
import NamedSql.Proofs.Run.Closing
import NamedSql.Proofs.Run.Counting
import NamedSql.Proofs.Run.Releasing
import NamedSql.Proofs.Session.Failing
import NamedSql.Proofs.Session.Families
import NamedSql.Proofs.Session.History
import NamedSql.Proofs.Session.Latest
import NamedSql.Proofs.Session.Missing
import NamedSql.Proofs.Session.Opacity
import NamedSql.Proofs.Session.PlainObjects
import NamedSql.Proofs.Session.Racing
import NamedSql.Proofs.Session.Restyling
import NamedSql.Proofs.Session.Retention
import NamedSql.Query.Comparand
