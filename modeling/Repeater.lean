import Repeater.Text.Quoted
import Repeater.AdminClient
import Repeater.AdminClient.Tool
import Repeater.Http.Opening
import Repeater.Journal.Event
import Repeater.Journal.Filter
import Repeater.Journal.Line
import Repeater.Launch
import Repeater.Main
import Repeater.Roster.Race
import Repeater.Server.Listening
import Repeater.Server.Session
import Repeater.Proofs.AdminClient.Key
import Repeater.Proofs.Roster.Confluence
import Repeater.Proofs.Roster.History
import Repeater.Proofs.Relay.Backend
import Repeater.Proofs.Relay.Chain
import Repeater.Proofs.Relay.Entries
import Repeater.Proofs.Relay.Heads
import Repeater.Proofs.Relay.Independence
import Repeater.Proofs.Relay.Replay
import Repeater.Proofs.Relay.Verbatim
import Repeater.Proofs.Server.Balance
import Repeater.Proofs.Server.Heads
import Repeater.Proofs.Server.Passage
import Repeater.Proofs.Server.RequestId
import Repeater.Proofs.Server.Routing
import Repeater.Proofs.Settings.Address
import Repeater.Proofs.StopSignal
