import NodeConsole.Main
import NodeConsole.Proofs.Answering
import NodeConsole.Proofs.Containment
import NodeConsole.Proofs.Course
import NodeConsole.Proofs.Delivery
import NodeConsole.Proofs.Discipline
import NodeConsole.Proofs.Document
import NodeConsole.Proofs.DocumentReading
import NodeConsole.Proofs.Endings
import NodeConsole.Proofs.Entities
import NodeConsole.Proofs.Erasure
import NodeConsole.Proofs.FieldChecks
import NodeConsole.Proofs.Fields
import NodeConsole.Proofs.FormCoding
import NodeConsole.Proofs.FormReading
import NodeConsole.Proofs.Freshness
import NodeConsole.Proofs.History
import NodeConsole.Proofs.HostIndependence
import NodeConsole.Proofs.LoadFailure
import NodeConsole.Proofs.LowBytes
import NodeConsole.Proofs.Machine
import NodeConsole.Proofs.Memory
import NodeConsole.Proofs.NumeralSpelling
import NodeConsole.Proofs.Outcomes
import NodeConsole.Proofs.PageContents
import NodeConsole.Proofs.Paths
import NodeConsole.Proofs.PlainTarget
import NodeConsole.Proofs.PortSpelling
import NodeConsole.Proofs.Precedence
import NodeConsole.Proofs.Reading
import NodeConsole.Proofs.Reception
import NodeConsole.Proofs.Replies
import NodeConsole.Proofs.Requests
import NodeConsole.Proofs.Responses
import NodeConsole.Proofs.Rounding
import NodeConsole.Proofs.RoundingError
import NodeConsole.Proofs.RouteTables
import NodeConsole.Proofs.Sending
import NodeConsole.Proofs.Separators
import NodeConsole.Proofs.SettingsFile
import NodeConsole.Proofs.Shapes
import NodeConsole.Proofs.Snapshot
import NodeConsole.Proofs.Sources
import NodeConsole.Proofs.StoreListing
import NodeConsole.Proofs.TextCoding
import NodeConsole.Proofs.Tokens
import NodeConsole.Proofs.Turn
import NodeConsole.Proofs.Urlencoded
import NodeConsole.Proofs.Validity
import NodeConsole.Proofs.Version
import NodeConsole.Proofs.WholeNumbers
import NodeConsole.Proofs.Writing
