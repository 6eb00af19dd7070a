import EspHosted.Sdio.Credit
import EspHosted.Sdio.Throttle
import EspHosted.Sdio.DoubleBuffer
import EspHosted.Sdio.Drain
import EspHosted.Sdio.RxCount
import EspHosted.Sdio.RxPool
import EspHosted.Serial.HostToSlave
import EspHosted.Serial.SlaveToHost
import EspHosted.Serial.Splice
import EspHosted.Serial.LossToSlave
import EspHosted.Serial.TxLength
import EspHosted.Serial.ReqWalk
import EspHosted.Serial.DrvRead
import EspHosted.Serial.Accumulator
import EspHosted.Serial.WriteBuffer
import EspHosted.Rpc.Pairing
import EspHosted.Rpc.Matching
import EspHosted.Rpc.Callback
import EspHosted.Rpc.Ownership
import EspHosted.Rpc.Deadline
import EspHosted.Rpc.SendFail
import EspHosted.Rpc.CoreInit
import EspHosted.Rpc.CustomCallbacks
import EspHosted.Rpc.Arguments
import EspHosted.Rpc.IfaceMac
import EspHosted.Rpc.SuppDpp
import EspHosted.Driver.TxRelease
import EspHosted.Driver.LifeCycle
import EspHosted.Driver.Channels
import EspHosted.Driver.AddChannel
import EspHosted.Driver.TxCopy
import EspHosted.Driver.PrioQueue
import EspHosted.Power.HostWakeup
import EspHosted.Power.LightSleep
import EspHosted.Power.SleepTimer
import EspHosted.Power.WakeupHost
import EspHosted.Power.SleepEntry
import EspHosted.Jl.Timer
import EspHosted.Jl.Queue
import EspHosted.Jl.Frames
import EspHosted.Osal.Timeout
import EspHosted.Spi.Wakeup
import EspHosted.Spi.Throttle
import EspHosted.Spi.HostBuffers
import EspHosted.Spi.PoolSize
import EspHosted.SpiHd.FlowCtrl
import EspHosted.SpiHd.Accounting
import EspHosted.SpiHd.Credit
import EspHosted.SpiHd.RxTrans
import EspHosted.Ota.Update
import EspHosted.Wifi.HostEvents
import EspHosted.Wifi.StaConfig
import EspHosted.Wifi.LinkEvents
import EspHosted.Wifi.ConfigCodec
import EspHosted.Wifi.ConfigRoundTrip
import EspHosted.Wifi.ItwtCodec
import EspHosted.Wifi.ScanRecords
import EspHosted.Coprocessor.SendQueue
import EspHosted.Coprocessor.GpioGuard
import EspHosted.Coprocessor.Monitors
import EspHosted.Coprocessor.RpcMemory
import EspHosted.Coprocessor.WriteTokens
import EspHosted.Handshake.Codec
import EspHosted.Mempool.Integrity
import EspHosted.Codec.Message
import EspHosted.Codec.ParseRsp
import EspHosted.Codec.RspAccess
import EspHosted.Codec.ParseEvt
import EspHosted.Codec.EvtAccess
import EspHosted.Codec.ReqHandlers
import EspHosted.Codec.ReqAccess
import EspHosted.Codec.Reply
import EspHosted.Codec.EndToEnd
import EspHosted.Codec.Notify
import EspHosted.Serial.HandOver
import EspHosted.Serial.CustomData
import EspHosted.NwSplit.AllowedPorts
import EspHosted.NwSplit.PortCache
import EspHosted.NwSplit.Route
import EspHosted.NwSplit.DhcpDns
import EspHosted.Coprocessor.Receive
import EspHosted.Bt.NimbleAdapter
import EspHosted.Uart.Framing
import EspHosted.Bt.HciTransport
import EspHosted.Osal.EventContract
import EspHosted.Uart.HostBuffers
import EspHosted.Uart.SlavePools
import EspHosted.Wifi.TypeAdapt
import EspHosted.Wifi.Enterprise
import EspHosted.Codec.Compose
import EspHosted.Codec.RoundTrip
