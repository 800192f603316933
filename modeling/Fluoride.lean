import Fluoride.Lib.Machine
import Fluoride.Lib.SeqNum
import Fluoride.L2cap.FcrTypes
import Fluoride.L2cap.Fcr
import Fluoride.L2cap.FcrLemmas
import Fluoride.L2cap.FcrSender
import Fluoride.L2cap.FcrReceiver
import Fluoride.L2cap.Sar
import Fluoride.L2cap.LeCoc
import Fluoride.Lib.Multiword
import Fluoride.Smp.Multprecision
import Fluoride.Smp.MultprecisionLemmas
import Fluoride.Smp.EccPp
import Fluoride.Lib.Loop
import Fluoride.Sdp.Utils
import Fluoride.Sdp.AttribSeqLen
import Fluoride.Gatt.Db
import Fluoride.Gatt.Sr
import Fluoride.Gatt.ReadByType
import Fluoride.Gatt.Database
import Fluoride.Gatt.DatabaseBuilder
import Fluoride.L2cap.Ble
import Fluoride.L2cap.BleEcoc
import Fluoride.Lib.Suffix
import Fluoride.Avdt.Msg
import Fluoride.Avdt.MsgCfg
import Fluoride.Avdt.MsgFrag
import Fluoride.Lib.Cmac
import Fluoride.Lib.ByteOrder
import Fluoride.Crypto.AesCmac
import Fluoride.Crypto.AesCmacRefines
import Fluoride.Btm.Sec
import Fluoride.Btm.SecAccess
import Fluoride.Lib.Regions
import Fluoride.Sdp.Db
import Fluoride.Sdp.DbInvariant
import Fluoride.Lib.Cursor
import Fluoride.Sdp.Discovery
import Fluoride.Sdp.DiscoveryReads
import Fluoride.Sdp.ExtractSeq
import Fluoride.Sdp.AttribEntry
import Fluoride.Lib.Bits
import Fluoride.A2dp.Sbc
import Fluoride.A2dp.SbcLemmas
import Fluoride.Lib.KeyedSet
import Fluoride.Avrcp.Packet
import Fluoride.Avrcp.Builders
import Fluoride.Avrcp.BuilderSizes
import Fluoride.Lib.TwoLevelQueue
import Fluoride.Acl.RoundRobinScheduler
import Fluoride.Acl.SchedulerCredits
import Fluoride.Acl.Assembler
import Fluoride.Lib.Budget
import Fluoride.AttServer.Att
import Fluoride.AttServer.Transactions
import Fluoride.AttServer.TransactionLemmas
import Fluoride.Lib.InsertionMap
import Fluoride.Storage.ConfigCache
import Fluoride.Storage.ConfigCacheInv
import Fluoride.Storage.LegacyConfigFile
import Fluoride.Storage.LegacyRoundTrip
import Fluoride.Btm.Rpa
import Fluoride.Lib.CStr
import Fluoride.Types.AddressString
import Fluoride.LeAudio.LtvMap
import Fluoride.Lib.VectorWrite
import Fluoride.LeAudio.Base
import Fluoride.LeAudio.BaseData
import Fluoride.Avrcp.FolderItemsRequest
import Fluoride.Avrcp.Notification
import Fluoride.Lib.Replay
import Fluoride.Common.LruRecency
import Fluoride.Osi.Ringbuffer
import Fluoride.Lib.Changes
import Fluoride.Common.MetricIdManager
import Fluoride.Common.MetricIdManagerInv
import Fluoride.Lib.BitList
import Fluoride.Packet.BitInserter
import Fluoride.Packet.FragmentingInserter
import Fluoride.Lib.ListSeg
import Fluoride.Osi.List
import Fluoride.Osi.ListRefines
import Fluoride.Lib.AdjacentSwap
import Fluoride.Sdp.SortAttrList
import Fluoride.Lib.LengthPrefixed
import Fluoride.Btm.AdvertiseDataParser
import Fluoride.Btm.AdvertiseDataFields
import Fluoride.Lib.Rope
import Fluoride.Packet.PacketView
import Fluoride.Packet.PacketViewContent
import Fluoride.Osi.Config
import Fluoride.Osi.ConfigInv
import Fluoride.Osi.ConfigRoundTrip
import Fluoride.Lib.KeyOrder
import Fluoride.AttServer.GattDatabase
import Fluoride.AttServer.GattDatabaseServices
import Fluoride.Lib.TimerList
import Fluoride.Osi.Alarm
import Fluoride.Osi.AlarmSchedule
import Fluoride.Osi.AlarmRuns
import Fluoride.Lib.Overwrite
import Fluoride.Stack.BtHdr
import Fluoride.Avct.LcbAct
import Fluoride.Avct.Fragments
import Fluoride.Avct.Reassembly
import Fluoride.Rfcomm.TsFrames
import Fluoride.Rfcomm.FrameLemmas
import Fluoride.Rfcomm.RoundTrip
import Fluoride.Rfcomm.MxFrames
import Fluoride.Rfcomm.MxLemmas
import Fluoride.Rfcomm.MxRoundTrip
import Fluoride.Rfcomm.MxTest
import Fluoride.Rfcomm.MxFsm
import Fluoride.Rfcomm.MxL2cap
