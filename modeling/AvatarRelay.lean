import AvatarRelay.Crowd
import AvatarRelay.Fanout.Room
import AvatarRelay.Metrics.Exposition
import AvatarRelay.Relay.Tick
import AvatarRelay.Proofs.Directory
import AvatarRelay.Proofs.Mail
import AvatarRelay.Proofs.Visits
import AvatarRelay.Proofs.Turns
import AvatarRelay.Proofs.Passes
import AvatarRelay.Proofs.Departures
import AvatarRelay.Proofs.Purges
import AvatarRelay.Proofs.Runs
import AvatarRelay.Proofs.Steps
import AvatarRelay.Proofs.Memory
import AvatarRelay.Proofs.Sessions
import AvatarRelay.Proofs.Farewells
import AvatarRelay.Proofs.Batches
import AvatarRelay.Proofs.Formats
import AvatarRelay.Proofs.Messages
import AvatarRelay.Proofs.Truncations
import AvatarRelay.Proofs.Contention
import AvatarRelay.Proofs.Bounds
import AvatarRelay.Proofs.Poses
import AvatarRelay.Proofs.Updates
import AvatarRelay.Proofs.Fidelity
import AvatarRelay.Proofs.Numbers
import AvatarRelay.Proofs.Arrivals
import AvatarRelay.Proofs.Changes
import AvatarRelay.Proofs.Ignoring
import AvatarRelay.Proofs.News
import AvatarRelay.Proofs.Joints
import AvatarRelay.Proofs.Deltas
import AvatarRelay.Proofs.Receipts
import AvatarRelay.Proofs.Endings
import AvatarRelay.Proofs.Streams
import AvatarRelay.Proofs.Bubbles
import AvatarRelay.Proofs.Draws
import AvatarRelay.Proofs.Gains
import AvatarRelay.Proofs.Sizes
import AvatarRelay.Proofs.Certainty
import AvatarRelay.Proofs.Orders
import AvatarRelay.Proofs.Accounts
import AvatarRelay.Proofs.Reports
import AvatarRelay.Proofs.Appearances
import AvatarRelay.Proofs.Introductions
import AvatarRelay.Proofs.Rooms
import AvatarRelay.Proofs.Refusals
import AvatarRelay.Proofs.Staleness
import AvatarRelay.Proofs.Rounding
import AvatarRelay.Proofs.Magnitudes
import AvatarRelay.Proofs.Quotients
import AvatarRelay.Proofs.Nearness
import AvatarRelay.Proofs.Wraps
import AvatarRelay.Proofs.Patches
import AvatarRelay.Proofs.Adjustments
import AvatarRelay.Proofs.Spacing
import AvatarRelay.Proofs.Amortization
import AvatarRelay.Proofs.Throttling
import AvatarRelay.Proofs.Sums
import AvatarRelay.Proofs.Moves
import AvatarRelay.Proofs.Metering
import AvatarRelay.Proofs.Histories
import AvatarRelay.Proofs.Percentiles
import AvatarRelay.Proofs.TickTimes
import AvatarRelay.Proofs.Frames
import AvatarRelay.Proofs.Settings
import AvatarRelay.Proofs.Wanderers
import AvatarRelay.Proofs.Crowds
