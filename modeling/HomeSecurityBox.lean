import HomeSecurityBox.Base.Latch
import HomeSecurityBox.Base.Transitions
import HomeSecurityBox.Reassembly
import HomeSecurityBox.SetStatus
import HomeSecurityBox.DevAct
import HomeSecurityBox.StatusRelay
import HomeSecurityBox.ClientPool
import HomeSecurityBox.ResponseRouting
import HomeSecurityBox.TimerTick
import HomeSecurityBox.TimerDays
import HomeSecurityBox.Base.SharedBuffer
import HomeSecurityBox.ZigbeeLink
import HomeSecurityBox.ZigbeeMatching
import HomeSecurityBox.ZigbeeSending
import HomeSecurityBox.ZigbeeIds
import HomeSecurityBox.Base.Roster
import HomeSecurityBox.Registry
import HomeSecurityBox.Box
import HomeSecurityBox.RegistryRuns
import HomeSecurityBox.VsDriver
import HomeSecurityBox.VsRegistering
import HomeSecurityBox.ConfigStore
import HomeSecurityBox.Base.Pipeline
import HomeSecurityBox.OneReply
import HomeSecurityBox.Base.MemoryReads
import HomeSecurityBox.FieldBounds
import HomeSecurityBox.DelayRule
import HomeSecurityBox.OfflineLinkage
import HomeSecurityBox.TimerSafety
import HomeSecurityBox.VsAgreement
import HomeSecurityBox.Base.AddressBook
import HomeSecurityBox.ZigbeeDriver
import HomeSecurityBox.LatestAddress
import HomeSecurityBox.LinkageDispatch
import HomeSecurityBox.PadSim
import HomeSecurityBox.ReplyCodec
import HomeSecurityBox.ResultCodes
import HomeSecurityBox.DeviceList
import HomeSecurityBox.Discovery
import HomeSecurityBox.SilenceDetection
import HomeSecurityBox.UartMonitor
import HomeSecurityBox.UartFraming
import HomeSecurityBox.StaleBytes
import HomeSecurityBox.CommandRelay
import HomeSecurityBox.Base.Crc
import HomeSecurityBox.Crc8
import HomeSecurityBox.SmartConfig
import HomeSecurityBox.SmartSending
import HomeSecurityBox.Readline
import HomeSecurityBox.Base.Sextets
import HomeSecurityBox.Base64
import HomeSecurityBox.Base.Simulation
import HomeSecurityBox.Base.Flow
import HomeSecurityBox.ConfigRuns
import HomeSecurityBox.EventFanout
import HomeSecurityBox.WrittenFrames
import HomeSecurityBox.UnlockedPop
import HomeSecurityBox.AnsweredCalls
import HomeSecurityBox.ClientEvents
import HomeSecurityBox.ThreadControl
import HomeSecurityBox.SwitchSim
import HomeSecurityBox.Base.Alarm
import HomeSecurityBox.TimerRuns
import HomeSecurityBox.MainLoop
import HomeSecurityBox.Base.Scanf
import HomeSecurityBox.PadInput
import HomeSecurityBox.PadDialogue
import HomeSecurityBox.Base.Datagrams
import HomeSecurityBox.BoxDiscovery
import HomeSecurityBox.House
import HomeSecurityBox.HouseStatus
import HomeSecurityBox.ActCauses
import HomeSecurityBox.Automation
import HomeSecurityBox.Base.LastWord
import HomeSecurityBox.BoxThreads
import HomeSecurityBox.ClientView
