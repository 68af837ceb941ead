import SupplyResponse.Runs.Supersession
import SupplyResponse.Runs.Replays
import SupplyResponse.Runs.Mailing
import SupplyResponse.Runs.Playing
import SupplyResponse.Runs.Draining
import SupplyResponse.Runs.Leases
import SupplyResponse.Runs.Analyzing
import SupplyResponse.Runs.Progressing
import SupplyResponse.Runs.Retention
import SupplyResponse.Text.Json
import SupplyResponse.Text.Percent
import SupplyResponse.Text.Url
import SupplyResponse.Analysis.Relevance
import SupplyResponse.Analysis.RankingPolicy
import SupplyResponse.Analysis.Coverage
import SupplyResponse.Analysis.Conservation
import SupplyResponse.Analysis.Monotonicity
import SupplyResponse.Analysis.Safety
import SupplyResponse.Runs.Authenticating
import SupplyResponse.Runs.Inbound
import SupplyResponse.Runs.Auditing
import SupplyResponse.Integrations.BoundedJson
import SupplyResponse.Integrations.Framing
import SupplyResponse.Integrations.Normalizer
import SupplyResponse.Integrations.Trust
import SupplyResponse.Text.JsonText
import SupplyResponse.Text.JsonScan
import SupplyResponse.Text.JsonChecks
import SupplyResponse.Runs.Journaling
import SupplyResponse.Integrations.Locations
import SupplyResponse.Integrations.GraphMail
import SupplyResponse.Analysis.Reordering
import SupplyResponse.Runs.Submitting
import SupplyResponse.Analysis.Conflicts
import SupplyResponse.Analysis.Material
import SupplyResponse.Runs.Plannable
import SupplyResponse.Runs.FinanceNeeds
import SupplyResponse.Services.LiveAnalysis
import SupplyResponse.Runs.LiveAnalyzing
import SupplyResponse.Runs.Sending
import SupplyResponse.Runs.Currency
import SupplyResponse.Runs.Tokens
import SupplyResponse.Runs.OneApproval
import SupplyResponse.Runs.Reading
import SupplyResponse.Runs.Inbox
import SupplyResponse.Domain.Inbound
import SupplyResponse.Domain.StatementReading
