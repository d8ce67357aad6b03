import MindPalace.Lib.PartitionPoint
import MindPalace.Lib.LittleEndian
import MindPalace.ChampSim.CircularBuffer
import MindPalace.ChampSim.CircularBufferQueue
import MindPalace.ChampSim.DelayQueue
import MindPalace.ChampSim.VirtualMemory
import MindPalace.ChampSim.Instruction
import MindPalace.Qemu.Record
import MindPalace.ChampSim.TraceReader
import MindPalace.ChampSim.InitInstruction
import MindPalace.Lib.Ring
import MindPalace.Qemu.SimpleTrace
import MindPalace.Qemu.RecordQueue
import MindPalace.Qemu.TraceRefinement
import MindPalace.Lib.StdAlgorithm
import MindPalace.ChampSim.Packet
import MindPalace.ChampSim.Cache
import MindPalace.ChampSim.CacheMshr
import MindPalace.ChampSim.CacheMerge
import MindPalace.ChampSim.CacheBlocks
import MindPalace.Lib.RefCount
import MindPalace.ChampSim.OooBackend
import MindPalace.ChampSim.BackendInvariant
import MindPalace.ChampSim.BackendScheduling
import MindPalace.ChampSim.BackendCompletion
import MindPalace.ChampSim.BackendRegisters
import MindPalace.ChampSim.LruUtil
import MindPalace.Lib.Recency
import MindPalace.ChampSim.Replacement
import MindPalace.ChampSim.ReplacementLru
import MindPalace.ChampSim.Dib
import MindPalace.ChampSim.ReplacementRrip
import MindPalace.ChampSim.ReplacementDrrip
import MindPalace.ChampSim.ReplacementShip
import MindPalace.ChampSim.BasicBtb
import MindPalace.ChampSim.CacheRetry
import MindPalace.ChampSim.PageTableWalker
import MindPalace.ChampSim.DramController
import MindPalace.ChampSim.LoadStoreQueue
import MindPalace.ChampSim.HashedPerceptron
import MindPalace.ChampSim.SampledSets
import MindPalace.ChampSim.PrefetcherIpStride
import MindPalace.ChampSim.PrefetcherVaAmpmLite
import MindPalace.Lib.DoWhile
import MindPalace.Lib.NatSum
import MindPalace.ChampSim.PrefetcherSpp
import MindPalace.ChampSim.PrefetcherSppTables
import MindPalace.ChampSim.PrefetcherSppLookahead
import MindPalace.ChampSim.DramControllerBanks
import MindPalace.ChampSim.DramControllerRequests
import MindPalace.ChampSim.DelayQueueInvariant
import MindPalace.ChampSim.FrontEnd
import MindPalace.ChampSim.FrontEndBuffers
