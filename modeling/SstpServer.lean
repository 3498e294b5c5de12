import SstpServer.Ppp.Restart
import SstpServer.Ppp.Convergence
import SstpServer.Sstp.Iterators
import SstpServer.Sstp.Drain
import SstpServer.Sstp.Date
import SstpServer.Sstp.Handshake
import SstpServer.Kmod.Agreement
import SstpServer.Kmod.TxWorker
import SstpServer.Kmod.RxBuffer
import SstpServer.Kmod.ControlQueue
import SstpServer.Kmod.Echo
import SstpServer.Session.MssClamp
import SstpServer.Session.KernelBinding
import SstpServer.Session.PppTimers
import SstpServer.Radius.Failover
import SstpServer.Session.IdleTimeout
import SstpServer.Session.Segmentation
import SstpServer.Session.Ticks
import SstpServer.Session.Keepalive
import SstpServer.Session.Octets
import SstpServer.Radius.Forgery
import SstpServer.Shape.RateLimit
import SstpServer.Shape.MssRequests
import SstpServer.Kmod.Lifetime
import SstpServer.Kmod.Attach
import SstpServer.Kppp.BringUp
import SstpServer.Server.Shutdown
