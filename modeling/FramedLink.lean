import FramedLink.Endpoint.Describe
import FramedLink.Main
import FramedLink.Channel.Script
import FramedLink.Proofs.Handling.Conduct
import FramedLink.Proofs.Reception.Collected
import FramedLink.Proofs.Reception.Scan
import FramedLink.Proofs.Reception.Turn
import FramedLink.Proofs.Wire
import FramedLink.Proofs.Codec
import FramedLink.Proofs.Streams
import FramedLink.Proofs.Payloads
import FramedLink.Proofs.Handling.Sending
import FramedLink.Proofs.Handling.Undisturbed
import FramedLink.Proofs.Reception.Arrivals
import FramedLink.Proofs.Link.Speaking
import FramedLink.Proofs.Link.Listening
import FramedLink.Proofs.Link.Pair
import FramedLink.Proofs.Link.Agreement
import FramedLink.Proofs.Handling.Poll
import FramedLink.Proofs.Link.Reports
import FramedLink.Proofs.Reception.Noise
import FramedLink.Proofs.Link.Handshakes
import FramedLink.Proofs.Reception.Damage
import FramedLink.Proofs.Reception.Decoding
import FramedLink.Proofs.Checksum
import FramedLink.Proofs.Reception.Stages
import FramedLink.Proofs.Link.Lifecycle
import FramedLink.Proofs.Handling.Beside
import FramedLink.Proofs.Reception.Octets
import FramedLink.Proofs.Reception.Faults
import FramedLink.Proofs.Handling.Course
import FramedLink.Proofs.Handling.Moments
import FramedLink.Proofs.Handling.Reading
import FramedLink.Proofs.Handling.Fanout
import FramedLink.Proofs.Handling.Closing
import FramedLink.Proofs.Handling.Deadlines
import FramedLink.Proofs.Reception.Stalls
import FramedLink.Proofs.Handling.Written
import FramedLink.Proofs.Handling.Chronicle
import FramedLink.Proofs.Handling.Enrolment
import FramedLink.Proofs.Link.Messages
import FramedLink.Proofs.Link.Replies
import FramedLink.Proofs.Link.Deeds
import FramedLink.Proofs.Link.Requests
import FramedLink.Proofs.Link.Silence
import FramedLink.Proofs.Link.Resets
import FramedLink.Proofs.Offers
import FramedLink.Proofs.Tool.Ports
import FramedLink.Proofs.Tool.Serving
import FramedLink.Proofs.Texts
import FramedLink.Proofs.Tool.Books
import FramedLink.Proofs.Tool.Recording
import FramedLink.Proofs.Tool.Captures
import FramedLink.Proofs.Tool.RoundTrip
import FramedLink.Proofs.Tool.Exchanges
import FramedLink.Proofs.Tool.Rehearsed
import FramedLink.Proofs.Tool.Devices
import FramedLink.Proofs.Numbering
import FramedLink.Proofs.Layouts
import FramedLink.Proofs.ConnectMessages
import FramedLink.Proofs.Cursors
