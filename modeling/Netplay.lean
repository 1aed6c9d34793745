import Netplay.Greeting
import Netplay.PayloadCache
import Netplay.Text.Blank
import Netplay.Wire.Body
import Netplay.Wire.Inbox
import Netplay.Wire.Outbox
import Netplay.Router
import Netplay.ActionQueue
import Netplay.Game.Merge
import Netplay.Game.Play
import Netplay.Lobby.Clock
import Netplay.Lobby.Login
import Netplay.LogOutput
import Netplay.Settings.File
import Netplay.Lan
import Netplay.Proofs.ActionStream
import Netplay.Proofs.Arena
import Netplay.Proofs.Round
import Netplay.Proofs.Lockstep
import Netplay.Proofs.Seating
import Netplay.Proofs.Rounds
import Netplay.Proofs.ArenaView
import Netplay.Proofs.Ledger
import Netplay.Proofs.Merging
import Netplay.Proofs.Membership
import Netplay.Proofs.FrameAgreement
import Netplay.Proofs.Accounts
import Netplay.Proofs.BundleGrammar
import Netplay.Proofs.Datagrams
import Netplay.Proofs.Delivery
import Netplay.Proofs.CacheSlots
import Netplay.Proofs.SharedCache
import Netplay.Proofs.Conduct
import Netplay.Proofs.Census
import Netplay.Proofs.Venue
import Netplay.Proofs.LobbyConduct
import Netplay.Proofs.Rosters
import Netplay.Proofs.Coherence
import Netplay.Proofs.Attendance
import Netplay.Proofs.Changes
import Netplay.Proofs.Statuses
import Netplay.Proofs.Customs
import Netplay.Proofs.SynchedPlay
import Netplay.Proofs.Hall
import Netplay.Proofs.Played
import Netplay.Proofs.Residue
import Netplay.Proofs.Patience
import Netplay.Proofs.TimeoutBound
import Netplay.Proofs.Desk
import Netplay.Proofs.PromptReads
import Netplay.Proofs.Journal
import Netplay.Proofs.StreamReads
import Netplay.Proofs.Numbering
import Netplay.Proofs.Gathering
import Netplay.Proofs.LagPolicy
import Netplay.Proofs.Notices
import Netplay.Proofs.Refusals
import Netplay.Proofs.Founding
import Netplay.Proofs.Badges
import Netplay.Proofs.LobbyView
import Netplay.Proofs.Observers
import Netplay.Proofs.CurrentView
import Netplay.Proofs.Turnout
import Netplay.Proofs.Leases
import Netplay.Proofs.Ports
import Netplay.Proofs.Rejections
import Netplay.Proofs.Chores
import Netplay.Proofs.Deeds
import Netplay.Proofs.Closing
import Netplay.Proofs.Grafts
import Netplay.Proofs.Concert
import Netplay.Proofs.Lifecycle
import Netplay.Proofs.Labels
import Netplay.Proofs.Slots
import Netplay.Proofs.Earshot
import Netplay.Proofs.Senders
import Netplay.Proofs.Locality
import Netplay.Proofs.Affairs
import Netplay.Proofs.Isolation
import Netplay.Proofs.Discretion
import Netplay.Proofs.Beats
import Netplay.Proofs.Origins
import Netplay.Proofs.Errands
import Netplay.Proofs.Identity
import Netplay.Proofs.Vetting
import Netplay.Proofs.Responses
import Netplay.Proofs.Composure
import Netplay.Proofs.LastWords
import Netplay.Proofs.FreshReading
import Netplay.Proofs.Tracking
import Netplay.Proofs.Diaries
import Netplay.Proofs.Repeats
import Netplay.Proofs.Lives
import Netplay.Proofs.UserNumbers
import Netplay.Proofs.Doorstep
import Netplay.Proofs.Spelling
import Netplay.Proofs.GreetingTexts
import Netplay.Proofs.Fields
import Netplay.Proofs.RosterBodies
import Netplay.Proofs.PortTurns
import Netplay.Proofs.OutboundRing
import Netplay.Proofs.KeyedLists
import Netplay.Proofs.Wiring
import Netplay.Proofs.SpeedTrials
