import GraphBroker.Host.Workspace
import GraphBroker.Main
import GraphBroker.Proofs.Conversation
import GraphBroker.Proofs.Keyed
import GraphBroker.Proofs.Plan.Course
import GraphBroker.Proofs.Store.Contract
import GraphBroker.Proofs.Broker.Course
import GraphBroker.Proofs.Broker.Turn
import GraphBroker.Proofs.Broker.History
import GraphBroker.Proofs.Broker.Ledger
import GraphBroker.Proofs.Broker.Records
import GraphBroker.Proofs.Broker.Provenance
import GraphBroker.Proofs.Broker.Presence
import GraphBroker.Proofs.Admin.World
import GraphBroker.Proofs.Broker.Backing
import GraphBroker.Proofs.Broker.Repetition
import GraphBroker.Proofs.Broker.Caution
import GraphBroker.Proofs.Broker.Retry
import GraphBroker.Proofs.Json.Drafts
import GraphBroker.Proofs.Text.Base64
import GraphBroker.Proofs.Text.Utf8
import GraphBroker.Proofs.Json.Values
import GraphBroker.Proofs.Json.Shape
import GraphBroker.Proofs.Record.Stored
import GraphBroker.Proofs.Store.Tables
import GraphBroker.Proofs.Store.Interchange
import GraphBroker.Proofs.Json.Readings
import GraphBroker.Proofs.Json.Records
import GraphBroker.Proofs.Plan.Registry
import GraphBroker.Proofs.Plan.Offer
import GraphBroker.Proofs.Broker.Usability
import GraphBroker.Proofs.Broker.Idempotence
import GraphBroker.Proofs.Gateway.Authorization
import GraphBroker.Proofs.Rdf.Language
import GraphBroker.Proofs.Rdf.Rendering
import GraphBroker.Proofs.Text.Form
import GraphBroker.Proofs.Store.Results
import GraphBroker.Proofs.Store.GraphServer
import GraphBroker.Proofs.Store.Subjects
import GraphBroker.Proofs.Store.GraphContents
import GraphBroker.Proofs.Store.GraphCalls
import GraphBroker.Proofs.Rdf.Matching
import GraphBroker.Proofs.Store.TripleServer
import GraphBroker.Proofs.Store.GraphInterchange
import GraphBroker.Proofs.Store.Footprint
import GraphBroker.Proofs.Broker.Independence
import GraphBroker.Proofs.Broker.Issuance
import GraphBroker.Proofs.Coupling
import GraphBroker.Proofs.Json.Likeness
import GraphBroker.Proofs.Plan.Secrecy
import GraphBroker.Proofs.Plan.Configuration
import GraphBroker.Proofs.Store.Secrecy
import GraphBroker.Proofs.Broker.Secrecy
import GraphBroker.Proofs.Text.Split
import GraphBroker.Proofs.Gateway.Routes
import GraphBroker.Proofs.Gateway.Admission
import GraphBroker.Proofs.Gateway.Catalog
import GraphBroker.Proofs.Store.GraphGuards
import GraphBroker.Proofs.Broker.OnGraph
import GraphBroker.Proofs.Remote.Host
import GraphBroker.Proofs.Remote.Exchange
import GraphBroker.Proofs.Remote.Transaction
import GraphBroker.Proofs.Remote.Segment
import GraphBroker.Proofs.Remote.Endpoint
import GraphBroker.Proofs.Broker.Removal
import GraphBroker.Proofs.Gateway.Segments
import GraphBroker.Proofs.Gateway.Identifiers
import GraphBroker.Proofs.Remote.Administration
import GraphBroker.Proofs.Json.Members
import GraphBroker.Proofs.Json.Depth
import GraphBroker.Proofs.Record.Fidelity
import GraphBroker.Proofs.Plan.Payload
import GraphBroker.Proofs.Broker.Teardown
import GraphBroker.Proofs.Config.Precedence
import GraphBroker.Proofs.Api.Documents
import GraphBroker.Proofs.Store.Replies
import GraphBroker.Proofs.Remote.DatabaseCreation
import GraphBroker.Proofs.Store.Statements
