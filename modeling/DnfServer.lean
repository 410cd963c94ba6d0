import DnfServer.Participants.Histories
import DnfServer.Manager.Uniqueness
import DnfServer.Manager.Rollback
import DnfServer.Manager.ClockRace
import DnfServer.Manager.SnapshotRace
import DnfServer.Manager.Departure
import DnfServer.Udp.Silence
import DnfServer.Udp.Interleaving
import DnfServer.Udp.Outsiders
import DnfServer.Udp.Isolation
import DnfServer.Udp.Sequencing
import DnfServer.Snapshots.Players
import DnfServer.Snapshots.Size
import DnfServer.Snapshots.Ordering
import DnfServer.Snapshots.Sending
import DnfServer.Tcp.Mirror
import DnfServer.Auth.Completions
import DnfServer.Parties.Requests
import DnfServer.Auth.LoginAttempts
import DnfServer.Manager.PartySize
import DnfServer.Manager.Abandonment
import DnfServer.Database.SavePlayer
import DnfServer.Database.Histories
import DnfServer.Dungeons.Positions
import DnfServer.Dungeons.Safety
import DnfServer.Tick.PendingHits
import DnfServer.Tick.Timers
import DnfServer.Tick.Deadlines
import DnfServer.Tcp.Sessions
import DnfServer.Tcp.WriteQueue
import DnfServer.Auth.SingleUse
import DnfServer.Auth.PasswordHash
import DnfServer.Auth.ServiceCalls
import DnfServer.Auth.TlsSessions
import DnfServer.Parties.ConnectionInfo
import DnfServer.Parties.Channels
import DnfServer.Combat.Timeline
import DnfServer.Dungeons.WaveMachine
import DnfServer.Dungeons.Portals
import DnfServer.StaticData.Agreement
import DnfServer.StaticData.Requests
import DnfServer.Database.Accounting
import DnfServer.Combat.Resolution
import DnfServer.Combat.Reconnects
import DnfServer.GameData.Loading
