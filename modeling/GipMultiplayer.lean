import GipMultiplayer.Exec
import GipMultiplayer.WhileLoop
import GipMultiplayer.VoicePackets
import GipMultiplayer.VoiceRouter
import GipMultiplayer.VoiceRouterSteps
import GipMultiplayer.VoiceRouting
import GipMultiplayer.VoiceControl
import GipMultiplayer.VoicePlayback
import GipMultiplayer.VoiceProcessor
import GipMultiplayer.Ledger
import GipMultiplayer.VoiceClient
import GipMultiplayer.VoiceNetwork
import GipMultiplayer.VoiceIsolation
import GipMultiplayer.VoiceUplink
import GipMultiplayer.SerialNumbers
import GipMultiplayer.VoicePlaybackOrder
import GipMultiplayer.OldestFrame
import GipMultiplayer.LobbyHost
import GipMultiplayer.SessionIdentity
import GipMultiplayer.VoiceMembership
import GipMultiplayer.LobbyRoom
import GipMultiplayer.DuplicateNames
import GipMultiplayer.MatchStart
import GipMultiplayer.PlayerNodes
import GipMultiplayer.PlayerRegistries
import GipMultiplayer.LobbyGame
import GipMultiplayer.LobbyPassword
import GipMultiplayer.LobbyKick
import GipMultiplayer.Sql
import GipMultiplayer.MasterAccounts
import GipMultiplayer.SessionTokens
import GipMultiplayer.LegacyAccounts
import GipMultiplayer.MasterRooms
import GipMultiplayer.RoomCodes
import GipMultiplayer.JoinAttempts
import GipMultiplayer.Credentials
import GipMultiplayer.TeamAgreement
import GipMultiplayer.VoicePeers
import GipMultiplayer.VoiceReception
import GipMultiplayer.VoiceProvenance
import GipMultiplayer.VoiceDevice
import GipMultiplayer.VoiceModes
import GipMultiplayer.VoiceCapture
import GipMultiplayer.VoiceStreams
import GipMultiplayer.VoiceStreamIdentity
import GipMultiplayer.VoiceTimeline
import GipMultiplayer.Framing
import GipMultiplayer.VoiceFraming
import GipMultiplayer.Wire
import GipMultiplayer.Coders
import GipMultiplayer.Codecs
import GipMultiplayer.VoiceWire
import GipMultiplayer.RoomInvariants
import GipMultiplayer.LoginLimit
import GipMultiplayer.SendBacklog
import GipMultiplayer.DisconnectOnce
import GipMultiplayer.Keyed
import GipMultiplayer.Stretches
import GipMultiplayer.VoiceSpeakers
import GipMultiplayer.VoiceJitter
import GipMultiplayer.VoiceConcealment
import GipMultiplayer.VoiceWaiting
import GipMultiplayer.VoiceWorkerRuns
import GipMultiplayer.Circular
import GipMultiplayer.TruncatedMean
import GipMultiplayer.VoiceMixing
import GipMultiplayer.DelayLine
import GipMultiplayer.Fifo
import GipMultiplayer.SampleRings
import GipMultiplayer.LockFreeRings
import GipMultiplayer.RawLoopback
import GipMultiplayer.OpusLoopback
import GipMultiplayer.ChatAudience
import GipMultiplayer.ChatScreens
import GipMultiplayer.SlidingWindow
import GipMultiplayer.ResetTimer
import GipMultiplayer.Keepalives
import GipMultiplayer.ChatRate
import GipMultiplayer.LobbyTeams
import GipMultiplayer.StarNetwork
import GipMultiplayer.RoomCopies
import GipMultiplayer.PingSnapshots
import GipMultiplayer.ListPackets
import GipMultiplayer.GamePackets
import GipMultiplayer.MasterPackets
import GipMultiplayer.CorruptLists
import GipMultiplayer.TokenBucket
import GipMultiplayer.VoiceRateLimit
import GipMultiplayer.VoiceRateExact
import GipMultiplayer.VoiceMute
import GipMultiplayer.RoomRegistration
import GipMultiplayer.FirstMatch
import GipMultiplayer.Admission
import GipMultiplayer.PunchOffers
import GipMultiplayer.Introductions
import GipMultiplayer.ListedAddresses
import GipMultiplayer.Leases
import GipMultiplayer.HostSilence
import GipMultiplayer.RoomListing
import GipMultiplayer.Easing
import GipMultiplayer.PlayerMotion
import GipMultiplayer.AccountAccess
