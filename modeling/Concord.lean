import Concord.Proposal.Order
import Concord.Proposal.Envelope
import Concord.Ledger
import Concord.Execution
import Concord.Voting
import Concord.Judge
import Concord.Json
import Concord.Json.Reader
import Concord.Json.Writer
import Concord.Text.Quoted
import Concord.Config
import Concord.Coordinator.Run
import Concord.Rehearsal
import Concord.Network.Bus
import Concord.Text.Utf8
import Concord.Namespace.Payload
import Concord.Network.Peer
import Concord.Replica
import Concord.Simulation.Report
import Concord.Simulation.Workload
import Concord.Network.Site
import Concord.Proposal.Draft
import Concord.Simulation.World
import Concord.Simulation.Session
import Concord.Rehearsal.Ensemble
import Concord.CommandLine
import Concord.Simulation.Table
import Concord.Main
import Concord.Rehearsal.Document
import Concord.Rehearsal.Files
import Concord.Proofs.Ranks
import Concord.Proofs.Links
import Concord.Proofs.Stations
import Concord.Proofs.Network
import Concord.Proofs.Delivery
import Concord.Proofs.Ballots
import Concord.Proofs.Tallies
import Concord.Proofs.Calls
import Concord.Proofs.Unanimity
import Concord.Proofs.Surfacing
import Concord.Proofs.CoordinatorRuns
import Concord.Proofs.Envelopes
import Concord.Proofs.Checkout
import Concord.Proofs.Selection
import Concord.Proofs.RoundTaking
import Concord.Proofs.Clusters
import Concord.Proofs.Rounds
import Concord.Proofs.LedgerContents
import Concord.Proofs.ProcessViews
import Concord.Proofs.BroadcastCallStages
import Concord.Proofs.Arrivals
import Concord.Proofs.Convergence
import Concord.Proofs.SlotOrder
import Concord.Proofs.VotedCallStages
import Concord.Proofs.VotedInvariant
import Concord.Proofs.VotedSteps
import Concord.Proofs.VotedExchanges
import Concord.Proofs.Programs
import Concord.Proofs.Closing
import Concord.Proofs.Delays
import Concord.Proofs.Punctuality
import Concord.Proofs.Horizons
import Concord.Proofs.Promptness
import Concord.Proofs.TotalOrder
import Concord.Proofs.Batches
import Concord.Proofs.Conservation
import Concord.Proofs.Replicas
import Concord.Proofs.Reports
import Concord.Proofs.Traffic
import Concord.Proofs.Hops
import Concord.Proofs.Payloads
import Concord.Proofs.WorkloadSeparation
import Concord.Proofs.Acceptance
import Concord.Proofs.ParticipantSystems
import Concord.Proofs.ProgramPoints
import Concord.Proofs.Refinement
import Concord.Proofs.Outcomes
import Concord.Proofs.Worlds
import Concord.Proofs.Handovers
import Concord.Proofs.Absorption
import Concord.Proofs.VotedSubmissions
import Concord.Proofs.Lifecycle
import Concord.Proofs.ProgressCalls
import Concord.Proofs.Quorums
import Concord.Proofs.Ledgers
import Concord.Proofs.Drains
import Concord.Proofs.CallSequences
import Concord.Proofs.Retries
import Concord.Proofs.Origins
import Concord.Proofs.Hierarchy
import Concord.Proofs.Verdicts
import Concord.Proofs.Admission
import Concord.Proofs.Precedence
import Concord.Proofs.VoteCounting
import Concord.Proofs.Growth
import Concord.Proofs.Edits
import Concord.Proofs.Independence
import Concord.Proofs.Interleavings
import Concord.Proofs.Places
import Concord.Proofs.Openings
import Concord.Proofs.Damage
