import Sam.Library.Machine
import Sam.Library.TwoPhase
import Sam.Service.History
import Sam.Service.Traffic
import Sam.Service.Authority
import Sam.Service.Representation
import Sam.Service.Participants
import Sam.Service.SystemHealth
import Sam.Service.View
import Sam.Service.Stream
import Sam.Service.Order
import Sam.Library.RollCall
import Sam.Core.Votes
import Sam.Library.Wire
import Sam.Transport.Frame
import Sam.Transport.Postcard
import Sam.Server.Session
import Sam.Client.Runtime
import Sam.System.Composition
import Sam.System.Wiring
import Sam.System.AtomicCommit
import Sam.Service.Heading
import Sam.Service.Status
import Sam.System.Seats
import Sam.System.Agreement
import Sam.Service.Refusal
import Sam.Service.Generations
import Sam.Service.Recompute
import Sam.Service.Failure
import Sam.Service.Detector
import Sam.Service.Registration
import Sam.Service.Isolation
import Sam.Transport.Delivery
import Sam.System.Reconnect
import Sam.System.Honest
import Sam.Library.Journal
import Sam.System.Lag
import Sam.System.Conversation
import Sam.System.Completion
import Sam.Library.Fair
import Sam.Service.Waiting
import Sam.System.Progress
import Sam.System.Liveness
import Sam.Apps.DemoHandler
import Sam.System.Handshake
import Sam.System.Policy
import Sam.Client.Inbound
import Sam.Library.Routine
import Sam.Service.Course
import Sam.Apps.AutoDemo
import Sam.Apps.DemoBounds
import Sam.Library.Options
import Sam.Apps.Arguments
import Sam.System.Disturbance
import Sam.System.Showcase
import Sam.Transport.Flow
import Sam.System.Network
import Sam.System.Streams
import Sam.System.Comparison
import Sam.System.Refinement
import Sam.System.Containment
