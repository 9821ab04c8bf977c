import BearerAuth.Cache.Remote
import BearerAuth.Main
import BearerAuth.Proofs.Account.RoundTrip
import BearerAuth.Proofs.Cache.Backends
import BearerAuth.Proofs.Cache.Documented
import BearerAuth.Proofs.Cache.Entries
import BearerAuth.Proofs.Cache.Expiry
import BearerAuth.Proofs.Cache.Glob
import BearerAuth.Proofs.Config.Lifetimes
import BearerAuth.Proofs.Decimal.Digits
import BearerAuth.Proofs.RateLimit.BackwardClock
import BearerAuth.Proofs.RateLimit.Keys
import BearerAuth.Proofs.RateLimit.Sweeping
import BearerAuth.Proofs.RateLimit.TokenBucket
import BearerAuth.Proofs.Session.Enabled
import BearerAuth.Proofs.Session.FailClosed
import BearerAuth.Proofs.Session.Overtaking
import BearerAuth.Proofs.Session.Refinement
import BearerAuth.Proofs.Session.Refusals
import BearerAuth.Proofs.Session.Rotation
import BearerAuth.Proofs.Session.Staleness
import BearerAuth.Proofs.Text.Base64
import BearerAuth.Proofs.Text.Utf8
import BearerAuth.Proofs.Token.Authenticity
import BearerAuth.Proofs.Token.Issued
import BearerAuth.Proofs.Token.Markers
import BearerAuth.Proofs.Token.Validity
import BearerAuth.Session.Operations
import BearerAuth.Session.World
import BearerAuth.Time.Ticker
import BearerAuth.Proofs.Password.StoredText
import BearerAuth.Proofs.Account.Registration
import BearerAuth.Proofs.Directory.EmailIndex
import BearerAuth.Proofs.Directory.SharedAddresses
import BearerAuth.Proofs.Token.Expiry
import BearerAuth.Proofs.Config.References
import BearerAuth.Proofs.Config.QuotedSetting
