import ChannelMembership.Access.BackOffice
import ChannelMembership.Document.Codec
import ChannelMembership.Membership.TicketRack
import ChannelMembership.Scenario.Play
import ChannelMembership.Proofs.Membership.Evaluation
import ChannelMembership.Proofs.Membership.Batch
import ChannelMembership.Proofs.Switchboard.Attempt
import ChannelMembership.Proofs.Switchboard.Pass
import ChannelMembership.Proofs.Switchboard.Run
import ChannelMembership.Proofs.Switchboard.Strand
import ChannelMembership.Proofs.Switchboard.Ledger
import ChannelMembership.Proofs.Switchboard.Service
import ChannelMembership.Proofs.NewestWork
import ChannelMembership.Proofs.Resumption
import ChannelMembership.Proofs.Switchboard.Assignment
import ChannelMembership.Proofs.Connecting
import ChannelMembership.Proofs.Switchboard.Attendance
import ChannelMembership.Proofs.Switchboard.Soundness
import ChannelMembership.Proofs.Exactness
import ChannelMembership.Proofs.SingleFlight
import ChannelMembership.Proofs.FailingClosed
import ChannelMembership.Proofs.Overtaking
import ChannelMembership.Proofs.Switchboard.Traffic
import ChannelMembership.Proofs.Routing
import ChannelMembership.Access.Table
import ChannelMembership.Proofs.Access.Authorization
import ChannelMembership.Proofs.Registration
import ChannelMembership.Proofs.Tickets
import ChannelMembership.Proofs.Independence
import ChannelMembership.Proofs.Transport.Dealing
import ChannelMembership.Proofs.Transport.Stream
import ChannelMembership.Proofs.Transport.Rate
import ChannelMembership.Proofs.Transport.Sieve
import ChannelMembership.Proofs.Transport.Generator
import ChannelMembership.Proofs.Transport.Period
import ChannelMembership.Proofs.Switchboard.Completion
import ChannelMembership.Proofs.Switchboard.Employment
import ChannelMembership.Proofs.Switchboard.Diligence
import ChannelMembership.Proofs.PermissionChanges
import ChannelMembership.Proofs.Document.RoundTrip
import ChannelMembership.Proofs.Document.ByName
import ChannelMembership.Proofs.Text.KeyDisplay
import ChannelMembership.Proofs.TrueAccounts
import ChannelMembership.Proofs.Handshake
import ChannelMembership.Proofs.WholeMatrix
import ChannelMembership.Proofs.Transport.GroupStore
import ChannelMembership.Proofs.Circulation
import ChannelMembership.Proofs.EveryUserOnce
import ChannelMembership.Proofs.NobodyFound
import ChannelMembership.Proofs.Revocation
import ChannelMembership.Proofs.Access.Declarations
import ChannelMembership.Proofs.Access.Interview
import ChannelMembership.Proofs.Access.Sections
import ChannelMembership.Proofs.Access.ClaimSets
