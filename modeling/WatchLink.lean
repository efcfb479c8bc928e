import WatchLink.Action.Reading
import WatchLink.Console.Account
import WatchLink.Console.LogFilter
import WatchLink.Console.Schedule
import WatchLink.Exchange.Script
import WatchLink.Link.Traffic
import WatchLink.Main
import WatchLink.Proofs.Action.Grammar
import WatchLink.Proofs.Console.Notices
import WatchLink.Proofs.Dealings.Refusals
import WatchLink.Proofs.Dealings.Teardown
import WatchLink.Proofs.Dialogue.Answers
import WatchLink.Proofs.Exchange.Depth
import WatchLink.Proofs.Exchange.Listening
import WatchLink.Proofs.Exchange.Pairing
import WatchLink.Proofs.Reception.Streams
import WatchLink.Proofs.Traffic.Answers
import WatchLink.Proofs.Traffic.Closing
import WatchLink.Proofs.Traffic.Lifecycle
import WatchLink.Proofs.Traffic.Replies
import WatchLink.Proofs.Traffic.Transcript
import WatchLink.Session
import WatchLink.Proofs.Action.Appending
import WatchLink.Proofs.Console.Underway
import WatchLink.Proofs.Traffic.Waiting
import WatchLink.Proofs.Console.Registering
import WatchLink.Proofs.Console.Responding
import WatchLink.Proofs.Console.Acknowledging
import WatchLink.Proofs.Console.Refusing
import WatchLink.Proofs.Message.Fields
import WatchLink.Proofs.Message.Responses
import WatchLink.Proofs.Message.Scanning
import WatchLink.Proofs.Message.Splitting
import WatchLink.Proofs.Wire.Order
import WatchLink.Proofs.Console.Entries
