import Pib.MessageOrder
import Pib.SqDrained
import Pib.LockBalance
import Pib.StaleAcks
import Pib.PostTrace
import Pib.ModifyQp
import Pib.FastReg
import Pib.FlowControl
import Pib.SendOverflow
import Pib.UdReceive
import Pib.SchedulerSpin
import Pib.MrLinear
import Pib.Segmentation
import Pib.ObjNum
import Pib.LidTable
import Pib.Mcast
import Pib.MadFailure
import Pib.DirectedRoute
import Pib.ReadRetry
import Pib.Halves
