import VSwitch.Text.Utf8
import VSwitch.Vocabulary.Netlink
import VSwitch.Vocabulary.Switch
import VSwitch.Flags
import VSwitch.Failure
import VSwitch.Cursor
import VSwitch.Datagram
import VSwitch.Flow
import VSwitch.Endpoint
import VSwitch.Family
import VSwitch.Groups
import VSwitch.Datapath
import VSwitch.Vport
import VSwitch.Flow.Operations
import VSwitch.Packet
import VSwitch.Listener
import VSwitch.Upcall
import VSwitch.Kernel.Subscription
import VSwitch.Switchboard
import VSwitch.Report.Kernel
import VSwitch.Report.Words
import VSwitch.Proofs.Encoding
import VSwitch.Proofs.Envelope
import VSwitch.Proofs.Entries
import VSwitch.Proofs.Flow.Tunnel
import VSwitch.Proofs.Flow.Key
import VSwitch.Proofs.Flow.Match
import VSwitch.Proofs.Flow.Action
import VSwitch.Proofs.Flow.RoundTrip
import VSwitch.Proofs.Flow.Agreement
import VSwitch.Proofs.Flow.Canonical
import VSwitch.Proofs.Flow.Stability
import VSwitch.Proofs.Arrivals
import VSwitch.Proofs.Exchange
import VSwitch.Proofs.Correlation
import VSwitch.Proofs.Dump
import VSwitch.Proofs.Recovery
import VSwitch.Proofs.Attribution
import VSwitch.Proofs.Upcall.Calls
import VSwitch.Proofs.Upcall.Isolation
import VSwitch.Proofs.Upcall.Scene
import VSwitch.Proofs.Upcall.Coverage
import VSwitch.Proofs.Forest
import VSwitch.Proofs.Sending
import VSwitch.Proofs.Outline
import VSwitch.Proofs.Errand
import VSwitch.Proofs.Closing
import VSwitch.Proofs.Failing
import VSwitch.Proofs.Extent
import VSwitch.Proofs.Collecting
import VSwitch.Proofs.Handover
import VSwitch.Proofs.Refusal
import VSwitch.Proofs.Listening
import VSwitch.Proofs.Reading
import VSwitch.Proofs.Confinement
import VSwitch.Proofs.Flow.Exact
import VSwitch.Proofs.Delivery
import VSwitch.Proofs.Lookup
import VSwitch.Proofs.Resolution
import VSwitch.Proofs.Atomicity
import VSwitch.Proofs.Answering
import VSwitch.Proofs.Flow.Writing
import VSwitch.Proofs.Flow.Fields
import VSwitch.Proofs.Flow.Masking
import VSwitch.Proofs.Flow.Asking
import VSwitch.Proofs.Flow.Unknown
import VSwitch.Proofs.Framing
import VSwitch.Proofs.Splitting
import VSwitch.Proofs.Listing
import VSwitch.Proofs.Dispatching
import VSwitch.Proofs.Flow.Order
import VSwitch.Proofs.Walking
import VSwitch.Proofs.Absence
import VSwitch.Proofs.Placing
import VSwitch.Proofs.Flow.Numbering
import VSwitch.Proofs.Characters
import VSwitch.Proofs.Texts
import VSwitch.Proofs.Description
import VSwitch.Proofs.Announcement
import VSwitch.Proofs.Custody
import VSwitch.Proofs.Flow.Selecting
import VSwitch.Proofs.Waiting
import VSwitch.Proofs.ErrorNumbers
