import MultiTechBus.Library.Run
import MultiTechBus.Library.Ranked
import MultiTechBus.Library.Memo
import MultiTechBus.Library.Keyed
import MultiTechBus.Library.FutureEvents
import MultiTechBus.Library.Regions
import MultiTechBus.Library.OrderedMap
import MultiTechBus.Library.Gathering
import MultiTechBus.Library.Wire
import MultiTechBus.Library.Triple
import MultiTechBus.Library.Register
import MultiTechBus.Halt
import MultiTechBus.Lifecycle
import MultiTechBus.Packet.ChunkBuffer
import MultiTechBus.Packet.ReassemblyBuffer
import MultiTechBus.Network.Address
import MultiTechBus.Network.Route
import MultiTechBus.Network.Interface
import MultiTechBus.Network.RoutingTable
import MultiTechBus.Network.Contents
import MultiTechBus.Network.Lookup
import MultiTechBus.Network.Node
import MultiTechBus.Network.Fragmentation
import MultiTechBus.Network.FragBuf
import MultiTechBus.Network.Datagrams
import MultiTechBus.Configurator.HostAutoConfigurator
import MultiTechBus.Configurator.Assignment
import MultiTechBus.Configurator.Order
import MultiTechBus.Configurator.Addresses
import MultiTechBus.Configurator.Restart
import MultiTechBus.App.DataCollection
import MultiTechBus.App.Tick
import MultiTechBus.App.Settled
import MultiTechBus.App.History
import MultiTechBus.App.Steady
import MultiTechBus.App.Lifecycle
import MultiTechBus.App.Path
import MultiTechBus.App.Lookups
import MultiTechBus.App.Association
import MultiTechBus.Ieee80211.Frames
import MultiTechBus.Ieee80211.AgentSta
import MultiTechBus.Ieee80211.MgmtSta
import MultiTechBus.Ieee80211.Nic
import MultiTechBus.Ieee80211.ApList
import MultiTechBus.Ieee80211.Moves
import MultiTechBus.Ieee80211.Sound
import MultiTechBus.Ieee80211.Progress
import MultiTechBus.Ieee80211.Scan
import MultiTechBus.Ieee80211.Phase
import MultiTechBus.Ieee80211.Faults
import MultiTechBus.Ieee80211.Discipline
import MultiTechBus.Ieee80211.Exclusion
import MultiTechBus.Ieee80211.Choice
import MultiTechBus.Ieee80211.Timers
import MultiTechBus.Ieee80211.Pending
import MultiTechBus.Ieee80211.Tracks
import MultiTechBus.Ieee80211.Signal
import MultiTechBus.Ieee80211.Host
import MultiTechBus.Ieee80211.MgmtAp
import MultiTechBus.Ieee80211.Bss
import MultiTechBus.Ieee80211.Sends
import MultiTechBus.Ieee80211.Membership
import MultiTechBus.Ieee80211.Mac.Dcf
import MultiTechBus.Ieee80211.Mac.Merge
import MultiTechBus.Ieee80211.Radio
import MultiTechBus.Ieee80211.Mac.Settings
import MultiTechBus.Ieee80211.Mac.Rename
import MultiTechBus.Ieee80211.Mac.Order
import MultiTechBus.Ieee80211.Mac.DataFrames
import MultiTechBus.Ieee80211.Mac.Addressing
import MultiTechBus.Ieee80211.Mac.Fragmentation
import MultiTechBus.Ieee80211.Mac.Originator
import MultiTechBus.Ieee80211.Mac.InProgress
import MultiTechBus.Ieee80211.Mac.Attempts
import MultiTechBus.Ieee80211.Mac.FrameSequence
import MultiTechBus.Ieee80211.Mac.Outcomes
import MultiTechBus.Ieee80211.Mac.Recipient
import MultiTechBus.Ieee80211.Mac.Exchange
import MultiTechBus.Ieee80211.Mac.Reception
import MultiTechBus.Ieee80211.Mac.Delivery
import MultiTechBus.Ieee80211.Mac.UnderWay
import MultiTechBus.Ieee80211.Mac.Acknowledgement
import MultiTechBus.Veins.TraCIBuffer
import MultiTechBus.Veins.TraCIConnection
import MultiTechBus.Veins.TraCICommandInterface
import MultiTechBus.Veins.ScenarioManager
import MultiTechBus.Veins.Talks
import MultiTechBus.Veins.Moves
import MultiTechBus.Veins.Vehicles
import MultiTechBus.Veins.Timesteps
import MultiTechBus.Veins.TimerManager
