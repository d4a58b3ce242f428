import Tinyray.Registry.Fencing
import Tinyray.Registry.Refusal
import Tinyray.Membership.Flush
import Tinyray.Membership.Exchange
import Tinyray.Transport.Isolation
import Tinyray.Transport.Delivery
import Tinyray.Transport.Connecting
import Tinyray.Membership.Watching
import Tinyray.Transport.ReplyStream
import Tinyray.Membership.StateSize
import Tinyray.Membership.Heartbeat
import Tinyray.Codec.LargeIntegers
import Tinyray.Service.BatchReport
import Tinyray.Transport.ServerFraming
import Tinyray.Blob.Decoded
import Tinyray.Service.Cancellation
import Tinyray.Transport.Ending
import Tinyray.Transport.Fork
import Tinyray.Transport.IdleCount
import Tinyray.Transport.RequestIds
import Tinyray.Membership.Snapshots
import Tinyray.Registry.Shape
import Tinyray.Transport.Leases
import Tinyray.Membership.Hashing
import Tinyray.Proto.Depth
import Tinyray.Service.Registration
import Tinyray.Registry.DeltaSize
