import VellarSdk.Breaker.Reference
import VellarSdk.Breaker.Rejections
import VellarSdk.Cli.Selection
import VellarSdk.Connector.KeyLifetime
import VellarSdk.Payer.Assembly
import VellarSdk.Payer.CatalogAmounts
import VellarSdk.Payer.Expiry
import VellarSdk.Payer.Metadata
import VellarSdk.Payer.MutualExclusion
import VellarSdk.Payer.QuoteAgreement
import VellarSdk.Payer.Startup
import VellarSdk.Payments.Amounts
import VellarSdk.Payments.Balances
import VellarSdk.Payments.Status
import VellarSdk.Payments.Submission
import VellarSdk.Session.Intervals
import VellarSdk.Session.WebStorage
import VellarSdk.Wallet.Listing
import VellarSdk.Wallet.Outage
import VellarSdk.X402.HeaderRoundTrip
import VellarSdk.X402.RequestVerification
import VellarSdk.X402.SignatureMap
import VellarSdk.X402.Tracker
