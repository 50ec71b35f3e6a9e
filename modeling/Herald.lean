import Herald.Catalog
import Herald.Logging
import Herald.Value.Reader
import Herald.Proofs.Value.DataText
import Herald.Proofs.Transparency
import Herald.Proofs.Blocks
import Herald.Proofs.Outline.Limit
import Herald.Proofs.Outline.Source
import Herald.Proofs.Catalog
import Herald.Proofs.Cache.History
import Herald.Proofs.Condition
import Herald.Proofs.Quoted
import Herald.Proofs.Pipeline
import Herald.Proofs.Calendar.Agreement
import Herald.Proofs.Accounting
import Herald.Proofs.CacheKey.Separation
import Herald.Proofs.Printing
import Herald.Proofs.Value.Comparison
import Herald.Proofs.Condition.Identity
import Herald.Proofs.Text.Tidy
import Herald.Proofs.UnknownFunction
import Herald.Proofs.Scope
import Herald.Proofs.DateFunctions.Age
import Herald.Proofs.DateFunctions.Range
import Herald.Proofs.Zone
import Herald.Proofs.Catalog.Patch
import Herald.Proofs.Catalog.Limits
import Herald.Proofs.Calendar.Readers
import Herald.Proofs.Token.LoneBraces
import Herald.Proofs.Token.Stable
import Herald.Proofs.Separators
import Herald.Proofs.Calendar.Pattern
import Herald.Proofs.Currency
