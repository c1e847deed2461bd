import Junction.Main
import Junction.Proofs.Coherence
import Junction.Proofs.Moves
import Junction.Proofs.Staffing
import Junction.Proofs.Wakes
import Junction.Proofs.Dossiers
import Junction.Proofs.Aborts
import Junction.Proofs.Exclusion
import Junction.Proofs.Acknowledgments
import Junction.Proofs.Violations
import Junction.Proofs.Replays
import Junction.Proofs.Counts
import Junction.Proofs.Hearing
import Junction.Proofs.Quiescence
import Junction.Proofs.Clearance
import Junction.Proofs.Evacuation
import Junction.Proofs.Conclusions
import Junction.Proofs.MonitorMoves
import Junction.Proofs.Ownership
import Junction.Proofs.Fairness
import Junction.Proofs.HandOffs
import Junction.Proofs.Lines
import Junction.Proofs.Volumes
import Junction.Proofs.Transcripts
import Junction.Proofs.Enrollment
import Junction.Proofs.Permits
import Junction.Proofs.Broadcasts
import Junction.Proofs.Pools
import Junction.Proofs.Turns
import Junction.Proofs.Consistency
import Junction.Proofs.Releases
import Junction.Proofs.BlockedClaims
import Junction.Proofs.Commutation
import Junction.Proofs.Admissions
import Junction.Proofs.Scans
import Junction.Proofs.GreedyPasses
import Junction.Proofs.Precedence
import Junction.Proofs.Proportions
import Junction.Proofs.Usability
import Junction.Proofs.Notices
import Junction.Proofs.Shifts
import Junction.Proofs.Abandonment
import Junction.Proofs.Drawings
import Junction.Proofs.Recognition
import Junction.Proofs.EntryRecords
import Junction.Proofs.FailedAcquisitions
import Junction.Proofs.Gradings
import Junction.Proofs.WakePermits
import Junction.Proofs.PublishedStates
import Junction.Proofs.HostRuns
import Junction.Proofs.TimedWaits
