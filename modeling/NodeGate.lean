import NodeGate.Main
import NodeGate.Proofs.Asking
import NodeGate.Proofs.Keys
import NodeGate.Session
import NodeGate.Proofs.Passes
import NodeGate.Proofs.Gates
import NodeGate.Proofs.Courses
import NodeGate.Proofs.Checks
import NodeGate.Proofs.Patching
import NodeGate.Proofs.ClosedLoop
import NodeGate.Proofs.Repeats
import NodeGate.Proofs.Sessions
import NodeGate.Proofs.Timelines
import NodeGate.Proofs.Stamps
import NodeGate.Proofs.LegalKeys
import NodeGate.Proofs.PolicyFiles
import NodeGate.Proofs.Containment
import NodeGate.Proofs.PatchFrame
import NodeGate.Proofs.Records
import NodeGate.Proofs.Visits
import NodeGate.Proofs.Rounds
import NodeGate.Proofs.Isolation
import NodeGate.Proofs.FirstReady
import NodeGate.Proofs.Listings
import NodeGate.Proofs.PodObjects
import NodeGate.Proofs.DryRuns
import NodeGate.Proofs.Admission
import NodeGate.Proofs.Messages
import NodeGate.Proofs.Reordering
import NodeGate.Proofs.PolicyData
import NodeGate.Proofs.Scopes
import NodeGate.Proofs.Summaries
