import KeyAssertion.Asn1.Der
import KeyAssertion.Certificate.Basic
import KeyAssertion.Certificate.Handle
import KeyAssertion.Certificate.Name
import KeyAssertion.Certificate.Store
import KeyAssertion.Certificate.Thumbprint
import KeyAssertion.Clock.Calendar
import KeyAssertion.Clock.Moment
import KeyAssertion.Discovery.Authority
import KeyAssertion.Discovery.Cache
import KeyAssertion.Discovery.Exchange
import KeyAssertion.Discovery.Fetch
import KeyAssertion.Discovery.Metadata
import KeyAssertion.Domain.Direction
import KeyAssertion.Domain.Joining
import KeyAssertion.Domain.Label
import KeyAssertion.Domain.Name
import KeyAssertion.Domain.Permitted
import KeyAssertion.Domain.Punycode
import KeyAssertion.Domain.Script
import KeyAssertion.Encoding.Base64
import KeyAssertion.Encoding.Bytes
import KeyAssertion.Encoding.Unicode
import KeyAssertion.Hash.Padding
import KeyAssertion.Hash.Sha1
import KeyAssertion.Hash.Sha256
import KeyAssertion.Hash.Sha512
import KeyAssertion.Http.Body
import KeyAssertion.Http.Reply
import KeyAssertion.Http.Status
import KeyAssertion.Json.Reader
import KeyAssertion.Json.Token
import KeyAssertion.Json.Value
import KeyAssertion.Json.Writer
import KeyAssertion.Key.Algorithm
import KeyAssertion.Key.Jwk
import KeyAssertion.Key.Loaded
import KeyAssertion.Key.Material
import KeyAssertion.Key.Member
import KeyAssertion.Key.Pair
import KeyAssertion.Key.Pem
import KeyAssertion.KeyedList
import KeyAssertion.Number.Binary64
import KeyAssertion.Number.Shortest
import KeyAssertion.Pem.Armor
import KeyAssertion.Pem.Blocks
import KeyAssertion.Pem.Search
import KeyAssertion.Record.Fault
import KeyAssertion.Rsa.Factor
import KeyAssertion.Rsa.Generation
import KeyAssertion.Rsa.Numbers
import KeyAssertion.Rsa.Power
import KeyAssertion.Rsa.Prime
import KeyAssertion.Rsa.Signature
import KeyAssertion.Secret.Format
import KeyAssertion.Secret.Resolver
import KeyAssertion.Settings.Assertion
import KeyAssertion.Settings.Discovery
import KeyAssertion.Settings.Number
import KeyAssertion.Settings.Path
import KeyAssertion.Settings.Source
import KeyAssertion.Settings.Store
import KeyAssertion.Text.Blank
import KeyAssertion.Text.CaseContext
import KeyAssertion.Text.CodeRange
import KeyAssertion.Text.Composition
import KeyAssertion.Text.DecimalDigit
import KeyAssertion.Text.Digits
import KeyAssertion.Text.Lowercase
import KeyAssertion.Text.Mark
import KeyAssertion.Text.Pieces
import KeyAssertion.Text.Printable
import KeyAssertion.Text.Quoted
import KeyAssertion.Text.Uppercase
import KeyAssertion.Token.Assertion
import KeyAssertion.Token.Issuance
import KeyAssertion.Token.Ledger
import KeyAssertion.Token.Proof
import KeyAssertion.Token.Service
import KeyAssertion.Token.Signed
import KeyAssertion.Url.Basic
import KeyAssertion.Url.Host
import KeyAssertion.Url.Percent
import KeyAssertion.Url.Port
import KeyAssertion.Proofs.Discovery.Move
import KeyAssertion.Proofs.Discovery.Consistency
import KeyAssertion.Proofs.Discovery.History
import KeyAssertion.Proofs.Discovery.Requests
import KeyAssertion.Proofs.Discovery.Callers
import KeyAssertion.Proofs.Discovery.SingleFlight
import KeyAssertion.Proofs.Discovery.Freshness
import KeyAssertion.Proofs.Discovery.Entries
import KeyAssertion.Proofs.Discovery.Invalidation
import KeyAssertion.Proofs.Discovery.Departure
import KeyAssertion.Proofs.Encoding.Bytes
import KeyAssertion.Proofs.Rsa.Power
import KeyAssertion.Proofs.Url.Extension
import KeyAssertion.Proofs.Url.Path
import KeyAssertion.Proofs.Discovery.Address
import KeyAssertion.Proofs.Discovery.Failure
import KeyAssertion.Proofs.Discovery.Containment
import KeyAssertion.Proofs.Discovery.Renewal
import KeyAssertion.Proofs.Discovery.Isolation
import KeyAssertion.Proofs.Encoding.Base64
import KeyAssertion.Proofs.Key.Member
import KeyAssertion.Proofs.Key.Material
import KeyAssertion.Proofs.Secret.Usable
import KeyAssertion.Proofs.Text.Uppercase
import KeyAssertion.Proofs.Certificate.Lookup
import KeyAssertion.Proofs.Encoding.Strict
import KeyAssertion.Proofs.Secret.Detection
import KeyAssertion.Proofs.Secret.Document
import KeyAssertion.Proofs.Secret.Containment
import KeyAssertion.Proofs.Rsa.Signature
import KeyAssertion.Proofs.Token.Signing
import KeyAssertion.Proofs.Json.Reading
import KeyAssertion.Proofs.Json.Sorting
import KeyAssertion.Proofs.Rsa.Inverse
import KeyAssertion.Proofs.Token.Opening
import KeyAssertion.Proofs.Token.Secrecy
import KeyAssertion.Proofs.Discovery.Destination
import KeyAssertion.Proofs.Discovery.Normal
import KeyAssertion.Proofs.Secret.Bundle
import KeyAssertion.Proofs.Certificate.Agreement
import KeyAssertion.Proofs.Number.Binary64
import KeyAssertion.Proofs.Clock.Moment
import KeyAssertion.Proofs.Discovery.Duration
import KeyAssertion.Proofs.Discovery.Issuer
import KeyAssertion.Proofs.Discovery.Delivery
import KeyAssertion.Proofs.Token.Claims
import KeyAssertion.Proofs.Token.Calls
import KeyAssertion.Proofs.Token.Stages
import KeyAssertion.Proofs.Token.Issuance
import KeyAssertion.Proofs.Token.SingleUse
import KeyAssertion.Certificate.Operation
import KeyAssertion.Proofs.Certificate.History
import KeyAssertion.Proofs.Rsa.Euclid
import KeyAssertion.Proofs.Rsa.Factor
import KeyAssertion.Proofs.Key.Recovery
import KeyAssertion.Proofs.Token.Recovery
import KeyAssertion.Proofs.Key.Carried
import KeyAssertion.Proofs.Rsa.Prime
import KeyAssertion.Proofs.Encoding.Grouped
import KeyAssertion.Proofs.Encoding.Lenient
import KeyAssertion.Proofs.Key.Grammar
import KeyAssertion.Proofs.Key.Classified
import KeyAssertion.Proofs.Key.Agreement
import KeyAssertion.Proofs.Token.Exactness
import KeyAssertion.Proofs.Number.Rounding
import KeyAssertion.Proofs.Clock.Seconds
import KeyAssertion.Proofs.Token.Possession
import KeyAssertion.Proofs.Token.Dates
import KeyAssertion.Proofs.Certificate.Files
import KeyAssertion.Proofs.Certificate.Folder
import KeyAssertion.Proofs.Certificate.Standing
import KeyAssertion.Proofs.Secret.Recognition
import KeyAssertion.Proofs.Secret.Lookup
import KeyAssertion.Proofs.Secret.Partition
import KeyAssertion.Proofs.Discovery.Acceptance
import KeyAssertion.Proofs.Discovery.Precedence
import KeyAssertion.Proofs.Key.Identity
import KeyAssertion.Proofs.Encoding.Canonical
import KeyAssertion.Proofs.Key.Spelling
import KeyAssertion.Proofs.Certificate.Layout
