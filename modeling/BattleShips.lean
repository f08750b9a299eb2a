import BattleShips.Core.AllocatorPool
import BattleShips.Core.AllocatorCalls
import BattleShips.Net.ReceiveSteps
import BattleShips.Net.SendStream
import BattleShips.Net.SocketObjects
import BattleShips.Net.ConnectionTermination
import BattleShips.Properties.QueueDelivery
import BattleShips.Properties.QueueRefusal
import BattleShips.Properties.QueueLinearizable
import BattleShips.Properties.RingLinearizable
import BattleShips.Properties.QueueWaits
import BattleShips.Properties.SchedulerHandOff
import BattleShips.Properties.FreedIndexes
import BattleShips.Properties.Dispatching
import BattleShips.Properties.JoinCodes
import BattleShips.Properties.FirstAllocation
import BattleShips.Properties.OversizedFrames
import BattleShips.Properties.DescriptorOwnership
import BattleShips.Properties.SlotOwnership
import BattleShips.Properties.Rearming
import BattleShips.Properties.ChatText
import BattleShips.Properties.ChatOrder
import BattleShips.Properties.ClientLines
import BattleShips.Properties.Introductions
import BattleShips.Properties.ControlPlane
import BattleShips.Properties.ConnectionCode
import BattleShips.Properties.HandOff
import BattleShips.Properties.LobbyRegistry
import BattleShips.Properties.BoundedQueues
import BattleShips.Properties.PoolSlots
import BattleShips.Properties.LiveIndexes
import BattleShips.Properties.BroadcastReach
import BattleShips.Properties.PassedDescriptors
import BattleShips.Properties.PageGrowth
import BattleShips.Lib.Holders
import BattleShips.Properties.SharedIndexes
import BattleShips.Properties.Reconnection
import BattleShips.Properties.AcceptedDescriptors
import BattleShips.Properties.InheritedDescriptors
import BattleShips.Properties.LobbyCreation
import BattleShips.Properties.LosslessFlow
import BattleShips.Application.AppRun
import BattleShips.Properties.OneTask
import BattleShips.Properties.ShortQueues
import BattleShips.Properties.TaskProgress
import BattleShips.Properties.OneConnection
