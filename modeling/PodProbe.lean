import PodProbe.Main
import PodProbe.Program.Desk
import PodProbe.Proofs.Bytes.Hex
import PodProbe.Proofs.Bytes.Text
import PodProbe.Proofs.Configuration.Lines
import PodProbe.Proofs.Configuration.Aftermath
import PodProbe.Proofs.Configuration.Storable
import PodProbe.Proofs.Configuration.Stored
import PodProbe.Proofs.Discovery.Assembly
import PodProbe.Proofs.Discovery.Certificates
import PodProbe.Proofs.Discovery.Credentials
import PodProbe.Proofs.Discovery.Distinct
import PodProbe.Proofs.Discovery.Isolation
import PodProbe.Proofs.Discovery.Manager
import PodProbe.Proofs.Discovery.Relay
import PodProbe.Proofs.Discovery.Services
import PodProbe.Proofs.FileTree.Growth
import PodProbe.Proofs.FileTree.Join
import PodProbe.Proofs.FileTree.Missing
import PodProbe.Proofs.FileTree.Parent
import PodProbe.Proofs.Harvest
import PodProbe.Proofs.Harvest.Intake
import PodProbe.Proofs.Http.Mention
import PodProbe.Proofs.Json.Integer
import PodProbe.Proofs.Json.Quoted
import PodProbe.Proofs.Probe.History
import PodProbe.Proofs.Probe.Judgement
import PodProbe.Proofs.Probe.Renewal
import PodProbe.Proofs.Probe.Spelling
import PodProbe.Proofs.Scan.Order
import PodProbe.Proofs.Session.Restraint
import PodProbe.Proofs.Tls.Classification
import PodProbe.Proofs.Token.Cookies
import PodProbe.Proofs.Url.Blankless
import PodProbe.Proofs.Configuration.Deposited
import PodProbe.Proofs.Discovery.Detection
import PodProbe.Proofs.Scan.Conduct
import PodProbe.Proofs.Bytes.Order
import PodProbe.Proofs.Json.Member
import PodProbe.Proofs.Discovery.Checkup
import PodProbe.Proofs.Keystore.Selection
import PodProbe.Proofs.Endpoint.Candidates
import PodProbe.Proofs.Http.Delivery
import PodProbe.Proofs.Json.Literal
import PodProbe.Proofs.PodAccount.Identifier
