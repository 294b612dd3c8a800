import QuietHop.Wire.Payload
import QuietHop.Registry.Cache
import QuietHop.Registry.FutureDated
import QuietHop.Registry.FetchPolicy
import QuietHop.Registry.Recovery
import QuietHop.Registry.SharedState
import QuietHop.Registry.Civil
import QuietHop.Registry.Grammar
import QuietHop.Registry.Threshold
import QuietHop.Relay.Connection
import QuietHop.Relay.HalfClose
import QuietHop.Relay.Rejection
import QuietHop.Relay.Port80
import QuietHop.Circuit.Backward
import QuietHop.Circuit.Origin
import QuietHop.Circuit.Integrity
import QuietHop.Circuit.Agreement
import QuietHop.Circuit.Spelling
import QuietHop.Circuit.Transparency
import QuietHop.Circuit.Hears
import QuietHop.Client.Path
import QuietHop.Client.Uniform
import QuietHop.Client.Tokens
import QuietHop.Client.Hiding
import QuietHop.Client.Socks
import QuietHop.Authority.Rollback
import QuietHop.Authority.Provisioned
import QuietHop.Authority.Login
import QuietHop.Authority.Registration
import QuietHop.Authority.Issuance
import QuietHop.Authority.AttemptTable
import QuietHop.Authority.Access
