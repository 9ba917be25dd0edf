import Arping.CallOrder
import Arping.CommandLine
import Arping.Deadline
import Arping.Descriptors
import Arping.DropGroup
import Arping.Duplicates
import Arping.Extremes
import Arping.FormatOrder
import Arping.GetMac
import Arping.IcmpReplies
import Arping.InterfaceHistory
import Arping.InterfaceStack
import Arping.Link
import Arping.LossReport
import Arping.MacLanguage
import Arping.NumericOptions
import Arping.OptionOrder
import Arping.Pacing
import Arping.Parameters
import Arping.Processes
import Arping.Program
import Arping.RawDisplay
import Arping.ReceiveWindow
import Arping.ReplyFilter
import Arping.RequestCount
import Arping.RequestSequence
import Arping.RoundTripTime
import Arping.SendCount
import Arping.Session
import Arping.Sources
import Arping.SqrtDomain
import Arping.StandIn
import Arping.StopAfterReplies
import Arping.Summary
import Arping.Termination
import Arping.TimeoutReport
import Arping.Transcript
import Arping.VlanReceive
import Arping.WindDown
