import Sponge.ReassemblerOrder
import Sponge.SenderShift
import Sponge.SenderWindow
import Sponge.NetworkAcks
import Sponge.ByteStreamRuns
import Sponge.TCPState
import Sponge.ConnectionReplies
import Sponge.SenderSaturation
import Sponge.ConnectionClose
import Sponge.PassiveClose
import Sponge.ConnectionProbes
import Sponge.Buffer
import Sponge.NetParser
import Sponge.Shared.OnesComplement
import Sponge.InternetChecksum
import Sponge.IPv4Header
import Sponge.IPv4Datagram
import Sponge.IPv4RoundTrip
import Sponge.TCPCodec
import Sponge.TCPRoundTrip
import Sponge.TCPOverIPv4
import Sponge.AdapterBinding
import Sponge.ARPMessage
import Sponge.NetworkInterface
import Sponge.Shared.Deferral
import Sponge.InterfaceDelivery
import Sponge.InterfaceRequests
import Sponge.Router
import Sponge.RouterForwarding
import Sponge.RouterSafety
import Sponge.ReassemblerLimit
import Sponge.ReceiverIsn
import Sponge.ConnectionListen
import Sponge.SenderAcks
import Sponge.SenderTimer
import Sponge.SenderOpening
import Sponge.InterfaceTable
import Sponge.InterfaceFrames
import Sponge.SenderStates
import Sponge.EthernetCodec
import Sponge.BufferStorage
import Sponge.EventLoop
import Sponge.AdapterPassage
import Sponge.InterfaceResolution
import Sponge.Internetwork
import Sponge.NetworkSimulator
import Sponge.Shared.Relay
import Sponge.SimulatorDelivery
import Sponge.SimulatorVerdict
import Sponge.SocketSafety
import Sponge.StreamCopy
