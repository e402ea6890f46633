import Occ.Amec.Ceiling
import Occ.Smgr.Wof
import Occ.Smgr.Outcome
import Occ.Cmdh.SnapshotAverage
import Occ.Cmdh.TunableWrite
import Occ.Amec.DpsWindow
import Occ.Ssx.Scheduler
import Occ.Ssx.TimeQueue
import Occ.Ssx.AsyncQueue
import Occ.Ipc.Fifo
import Occ.Ipc.Msgq
import Occ.Sensor.PingPong
import Occ.Sensor.InbandProtocol
import Occ.Dimm.LockProtocol
import Occ.Pgpe.ClipContract
import Occ.Pgpe.StartSuspend
import Occ.Cent.DoubleBuffer
import Occ.Dcom.ModeStateContract
import Occ.Amec.OverCap
import Occ.Amec.HealthCallouts
import Occ.Wof.DisableLaw
import Occ.Wof.Address
import Occ.Firdata.SecDed
import Occ.Firdata.PnorUtil
import Occ.Firdata.FirDataLaw
import Occ.Firdata.PnorMbox
import Occ.Firdata.FlashWindow
import Occ.Firdata.FlashRead
import Occ.Firdata.FlashWrite
import Occ.Firdata.DoMessage
import Occ.Firdata.TranslateLaw
import Occ.Gpu.LockLaw
import Occ.Gpu.StatusLaw
import Occ.Dcom.TunableLaw
import Occ.Dcom.PcapLaw
import Occ.Dcom.DoorbellUse
import Occ.Dcom.OutboxRxLaw
import Occ.Pss.ApssLaw
import Occ.Gpe1.CollectiveLaw
import Occ.Trac.Buffer
import Occ.Trac.IsrQueue
import Occ.Trac.Lock
import Occ.Errl.Identity
import Occ.Errl.Frozen
import Occ.Amec.TraceLaw
import Occ.Cmdh.FspLaw
import Occ.Sensor.SensorLaw
import Occ.Sensor.Vector
import Occ.Wof.OverCurrent
import Occ.Amec.MemLevelLaw
import Occ.Amec.GpuCapLaw
import Occ.Amec.PowerLimited
import Occ.Amec.PpbFmax
import Occ.Amec.QuadPstate
import Occ.Proc.OpalLaw
import Occ.Proc.Pstate
import Occ.Proc.PstateLaw
import Occ.Cmdh.ApssConfig
import Occ.Cmdh.ApssConfigLaw
import Occ.Cmdh.MemConfig
import Occ.Cmdh.GpuConfig
import Occ.Cmdh.DataFormats
import Occ.Cmdh.DataCnfg
import Occ.Cmdh.ApssResidue
import Occ.Cmdh.MemResidue
import Occ.Cmdh.GpuResidue
import Occ.Cmdh.LastWriter
import Occ.Cmdh.FreqLaw
import Occ.Firdata.SbeFifoLaw
import Occ.Wof.ScalingLaw
import Occ.Wof.Capacitance
import Occ.Wof.CoreLeakageLaw
import Occ.Amec.ThermalControl
import Occ.Amec.FreqRange
import Occ.Lib.Overlay
import Occ.Trac.PartialLaw
import Occ.Lib.Residue
import Occ.Amec.DpsControl
import Occ.Amec.IdleSaver
import Occ.Amec.SoftFreq
import Occ.Amec.DimmTimeoutLaw
import Occ.Dimm.TempFilter
import Occ.Dimm.LockRetry
import Occ.Pgpe.WaitLaw
import Occ.Gpu.TempCycle
import Occ.Gpu.TempCycleLaw
import Occ.Gpu.PcapAttempt
import Occ.Gpu.PcapAttemptLaw
import Occ.Gpe1.OcmbConfig
import Occ.Gpe1.OcmbConfigLaw
import Occ.Gpe1.MemoryPowerControl
import Occ.Mem.PowerControl
import Occ.Mem.PowerControlLaw
import Occ.Amec.MemVotingBox
import Occ.Amec.MemVotingLaw
import Occ.Gpe0.CoreData
import Occ.Gpe0.DroopLaw
import Occ.Ppc405.Strtox
import Occ.Ppc405.StrtoxLaw
import Occ.Ppc405.Printf
import Occ.Ppc405.PrintfLaw
import Occ.Ppc405.StringStream
import Occ.Amec.CoreSensors
import Occ.Amec.CoreSensorsLaw
import Occ.Amec.ApssSensors
import Occ.Amec.ApssSensorsLaw
import Occ.Lib.Remainder
import Occ.Pss.AvsBus
import Occ.Pss.AvsReadLaw
import Occ.Pss.AvsRolloverLaw
import Occ.Pss.AvsRailLaw
