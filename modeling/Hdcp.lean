import Hdcp.Srm.Model
import Hdcp.Srm.Exec
import Hdcp.Srm.Table
import Hdcp.Srm.Revocation
import Hdcp.Srm.Format
import Hdcp.Srm.Coverage
import Hdcp.Srm.Bounds
import Hdcp.Srm.Signed
import Hdcp.Library.Threads
import Hdcp.Port.Model
import Hdcp.Port.Steps
import Hdcp.Port.Release
import Hdcp.Port.Isolation
import Hdcp.Port.Reading
import Hdcp.Sdk.Model
import Hdcp.Sdk.Steps
import Hdcp.Sdk.Delivery
import Hdcp.Sdk.Reclaim
import Hdcp.Library.Locks
import Hdcp.Sdk.Deadlock
import Hdcp.Library.Codec
import Hdcp.Socket.Data
import Hdcp.Daemon.Model
import Hdcp.Daemon.Lifecycle
import Hdcp.Library.Dialogue
import Hdcp.Library.Monitor
import Hdcp.Sdk.Session
import Hdcp.Socket.Transaction
import Hdcp.Sdk.Transaction
import Hdcp.Daemon.Transaction
import Hdcp.Socket.LockStep
import Hdcp.Sdk.Exchange
import Hdcp.Sdk.Truthful
import Hdcp.Port.Master
import Hdcp.Daemon.Accept
import Hdcp.Daemon.RoundRobin
import Hdcp.Sdk.Handles
import Hdcp.Daemon.KsvList
import Hdcp.Port.Init
import Hdcp.Daemon.Enumeration
import Hdcp.Daemon.FanOut
import Hdcp.Sdk.Channel
import Hdcp.Sdk.Holding
import Hdcp.Sdk.Live
import Hdcp.Library.Simulation
import Hdcp.Srm.Objects
import Hdcp.Port.Orphan
import Hdcp.Daemon.Upgrade
import Hdcp.Library.Signals
import Hdcp.Port.Signals
import Hdcp.Port.Uevent
import Hdcp.Daemon.Frames
import Hdcp.Socket.Transfer
import Hdcp.Port.HotPlug
import Hdcp.Port.Integrity
import Hdcp.Daemon.SrmUpdate
import Hdcp.Daemon.SrmRestart
import Hdcp.Library.Remote
import Hdcp.Socket.Remote
import Hdcp.Sdk.Listener
import Hdcp.Daemon.Reports
import Hdcp.Socket.Events
import Hdcp.Library.Resource
import Hdcp.Port.Share
import Hdcp.Port.Protection
import Hdcp.Library.Host
import Hdcp.Daemon.Process
import Hdcp.Daemon.Lifetime
