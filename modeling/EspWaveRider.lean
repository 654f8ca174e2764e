import EspWaveRider.Core.AdStructures
import EspWaveRider.Core.CommandCodec
import EspWaveRider.Core.Detection
import EspWaveRider.Core.DownloadUrl
import EspWaveRider.Core.RadarCodec
import EspWaveRider.Cpp.BleTags
import EspWaveRider.Cpp.Discovery
import EspWaveRider.Cpp.FirmwareSync
import EspWaveRider.Cpp.FirmwareUpdate
import EspWaveRider.Cpp.JsonCodec
import EspWaveRider.Cpp.MqttSession
import EspWaveRider.Cpp.PeerAdmission
import EspWaveRider.Cpp.Presence
import EspWaveRider.Cpp.RadarUart
import EspWaveRider.Cpp.ReleaseChecksum
import EspWaveRider.Cpp.ReleaseSelection
import EspWaveRider.Cpp.RoomFusion
import EspWaveRider.Cpp.SummaryPublish
import EspWaveRider.Cpp.UdpDiscovery
import EspWaveRider.Cpp.WebSocketClient
import EspWaveRider.Cpp.WebSocketReceive
import EspWaveRider.Dashboard
import EspWaveRider.DecimalFields
import EspWaveRider.DetectionParity
import EspWaveRider.DiscoveryParity
import EspWaveRider.Firmware.Announce
import EspWaveRider.Firmware.BleScan
import EspWaveRider.Firmware.BleSightings
import EspWaveRider.Firmware.CommandEffects
import EspWaveRider.Firmware.DebugStatus
import EspWaveRider.Firmware.DeviceReboot
import EspWaveRider.Firmware.DeviceRefinement
import EspWaveRider.Firmware.DeviceRuns
import EspWaveRider.Firmware.DeviceUpdates
import EspWaveRider.Firmware.DigitArrays
import EspWaveRider.Firmware.FirmwareSync
import EspWaveRider.Firmware.HttpChannels
import EspWaveRider.Firmware.HttpLength
import EspWaveRider.Firmware.HttpRoute
import EspWaveRider.Firmware.HttpTarget
import EspWaveRider.Firmware.LoopPhases
import EspWaveRider.Firmware.MainLoop
import EspWaveRider.Firmware.MqttConnect
import EspWaveRider.Firmware.MqttDelivery
import EspWaveRider.Firmware.MqttKeepAlive
import EspWaveRider.Firmware.MqttRuntime
import EspWaveRider.Firmware.MqttStatus
import EspWaveRider.Firmware.MqttStream
import EspWaveRider.Firmware.MqttTask
import EspWaveRider.Firmware.Node
import EspWaveRider.Firmware.OtaChunks
import EspWaveRider.Firmware.PartialSave
import EspWaveRider.Firmware.PeerStore
import EspWaveRider.Firmware.RadarBytes
import EspWaveRider.Firmware.RadarUart
import EspWaveRider.Firmware.RadioMode
import EspWaveRider.Firmware.RedirectChain
import EspWaveRider.Firmware.ReleaseSelection
import EspWaveRider.Firmware.ReleaseUrls
import EspWaveRider.Firmware.Sensing
import EspWaveRider.Firmware.SettingRanges
import EspWaveRider.Firmware.SettingsStore
import EspWaveRider.Firmware.Snapshot
import EspWaveRider.Firmware.StatusLed
import EspWaveRider.Firmware.SummaryTopic
import EspWaveRider.Firmware.SyncOutcome
import EspWaveRider.Firmware.WifiRuntime
import EspWaveRider.Firmware.WifiScan
import EspWaveRider.Fleet
import EspWaveRider.FleetUpdates
import EspWaveRider.HostNames
import EspWaveRider.Lib.CanonicalDecimal
import EspWaveRider.Lib.Groups
import EspWaveRider.Lib.HeldSignal
import EspWaveRider.Lib.Iteration
import EspWaveRider.Lib.JsonFields
import EspWaveRider.Lib.JsonGrammar
import EspWaveRider.Lib.NumberFields
import EspWaveRider.Lib.RecentStore
import EspWaveRider.Lib.SlotTable
import EspWaveRider.Lib.Splitting
import EspWaveRider.Lib.Suffixes
import EspWaveRider.Lib.TextBytes
import EspWaveRider.MqttTransport
import EspWaveRider.PeerExchange
import EspWaveRider.PeerNumbers
import EspWaveRider.PercentCoding
import EspWaveRider.PublishCodec
import EspWaveRider.RangeParity
import EspWaveRider.RemainingLength
import EspWaveRider.RoomParity
import EspWaveRider.TuningParity
import EspWaveRider.UsbConsole
import EspWaveRider.VersionCursor
import EspWaveRider.VersionOrder
