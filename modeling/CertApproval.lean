import CertApproval.Base64
import CertApproval.Bytes
import CertApproval.Cluster.Client
import CertApproval.Cluster.Fault
import CertApproval.Cluster.Object
import CertApproval.Cluster.Server
import CertApproval.Cluster.Snapshot
import CertApproval.Cluster.Store
import CertApproval.Cluster.Watch
import CertApproval.Control.Attempt
import CertApproval.Control.Controller
import CertApproval.Control.Dispatcher
import CertApproval.Control.Journal
import CertApproval.Control.Pool
import CertApproval.Control.Report
import CertApproval.Control.WorkQueue
import CertApproval.Control.World
import CertApproval.Crypto.Digest
import CertApproval.Crypto.Edwards
import CertApproval.Crypto.Modular
import CertApproval.Crypto.Rsa
import CertApproval.Crypto.Weierstrass
import CertApproval.Der.Element
import CertApproval.Der.Oid
import CertApproval.Der.Value
import CertApproval.Dns.Hosts
import CertApproval.Dns.Lookup
import CertApproval.Dns.NameService
import CertApproval.Dns.Wait
import CertApproval.Fields.Lenient
import CertApproval.Fields.Record
import CertApproval.Floating.Arithmetic
import CertApproval.Floating.Places
import CertApproval.Floating.Power
import CertApproval.Floating.Ratio
import CertApproval.Floating.Shortest
import CertApproval.Json
import CertApproval.Main
import CertApproval.Net.Address
import CertApproval.Net.Prefix
import CertApproval.Pattern.Charset
import CertApproval.Pattern.Matcher
import CertApproval.Pattern.Reader
import CertApproval.Pattern.Syntax
import CertApproval.Pem
import CertApproval.Proofs.Armour.Agreement
import CertApproval.Proofs.Armour.Base64
import CertApproval.Proofs.Armour.Blocks
import CertApproval.Proofs.Bytes
import CertApproval.Proofs.Cluster.Refusals
import CertApproval.Proofs.Decision.Accepted
import CertApproval.Proofs.Decision.Body
import CertApproval.Proofs.Decision.Call
import CertApproval.Proofs.Decision.Judging
import CertApproval.Proofs.Decision.Kept
import CertApproval.Proofs.Decision.Scene
import CertApproval.Proofs.Der.Tagged
import CertApproval.Proofs.Der.Values
import CertApproval.Proofs.Dns.Waiting
import CertApproval.Proofs.Machine
import CertApproval.Proofs.Net.Addresses
import CertApproval.Proofs.Net.Ranges
import CertApproval.Proofs.Pattern.Faults
import CertApproval.Proofs.Pattern.Reads
import CertApproval.Proofs.Queue.Consistency
import CertApproval.Proofs.Queue.Desk
import CertApproval.Proofs.Queue.Shift
import CertApproval.Proofs.Queue.Turn
import CertApproval.Proofs.Report.Course
import CertApproval.Proofs.Report.Failures
import CertApproval.Proofs.Report.Shutdown
import CertApproval.Proofs.Report.Truth
import CertApproval.Proofs.Request.AlternativeNames
import CertApproval.Proofs.Request.Encoding
import CertApproval.Proofs.Request.Identities
import CertApproval.Proofs.Request.Reading
import CertApproval.Proofs.Request.Refusal
import CertApproval.Proofs.Retry.Attempts
import CertApproval.Proofs.Retry.Trace
import CertApproval.Proofs.Review.Building
import CertApproval.Proofs.Review.Checks
import CertApproval.Proofs.Review.Networks
import CertApproval.Proofs.Review.Relaxation
import CertApproval.Proofs.Review.Verdict
import CertApproval.Proofs.Stepwise
import CertApproval.Proofs.Text.Pieces
import CertApproval.Proofs.Watch.Resumption
import CertApproval.Proofs.Watch.Sessions
import CertApproval.Proofs.Watch.Visits
import CertApproval.Request.Algorithm
import CertApproval.Request.Certification
import CertApproval.Request.Decode
import CertApproval.Request.Extension
import CertApproval.Request.GeneralName
import CertApproval.Request.Name
import CertApproval.Request.PublicKey
import CertApproval.Retry.Backoff
import CertApproval.Retry.Run
import CertApproval.Review.Check
import CertApproval.Review.Decision
import CertApproval.Review.Intake
import CertApproval.Review.Policy
import CertApproval.Review.Validation
import CertApproval.Service.Access
import CertApproval.Service.Assembly
import CertApproval.Service.Launch
import CertApproval.Service.Lifespan
import CertApproval.Service.Probe
import CertApproval.Settings.Configuration
import CertApproval.Settings.EnvFile
import CertApproval.Settings.Expansion
import CertApproval.Settings.Load
import CertApproval.Settings.Source
import CertApproval.Table
import CertApproval.Text.Blank
import CertApproval.Text.Case
import CertApproval.Text.CaseTables
import CertApproval.Text.Classes
import CertApproval.Text.Printable
import CertApproval.Text.Quoted
import CertApproval.Text.Ranges
import CertApproval.Proofs.Review.Explanation
import CertApproval.Proofs.Cluster.Transport
import CertApproval.Proofs.Decision.Transport
import CertApproval.Proofs.Floating.Range
import CertApproval.Proofs.Floating.Power
import CertApproval.Proofs.Retry.Delays
import CertApproval.Proofs.Fields.Denotation
import CertApproval.Proofs.Fields.Numerals
import CertApproval.Proofs.Settings.Layers
import CertApproval.Proofs.Settings.Values
import CertApproval.Proofs.Settings.Merging
import CertApproval.Proofs.Service.Assembling
