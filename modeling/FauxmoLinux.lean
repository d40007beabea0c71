import FauxmoLinux.Base.Run
import FauxmoLinux.Base.Threads
import FauxmoLinux.Base.Simulation
import FauxmoLinux.Base.Keyed
import FauxmoLinux.Base.Pool
import FauxmoLinux.Base.Descriptors
import FauxmoLinux.Base.Heap
import FauxmoLinux.Base.Bytes
import FauxmoLinux.Base.Numeral
import FauxmoLinux.Base.Reader
import FauxmoLinux.Base.Http
import FauxmoLinux.Base.Xml
import FauxmoLinux.Base.Format
import FauxmoLinux.Base.Json.Characters
import FauxmoLinux.Base.Json.Decode
import FauxmoLinux.Base.Json.Texts
import FauxmoLinux.Bridge.Templates
import FauxmoLinux.Bridge.Address
import FauxmoLinux.Bridge.DottedQuad
import FauxmoLinux.Bridge.Device
import FauxmoLinux.Bridge.Control
import FauxmoLinux.Bridge.Names
import FauxmoLinux.Bridge.Dictionary
import FauxmoLinux.Bridge.Guard
import FauxmoLinux.Bridge.Request
import FauxmoLinux.Bridge.Meaning
import FauxmoLinux.Bridge.Scan
import FauxmoLinux.Bridge.Message
import FauxmoLinux.Bridge.Chunks
import FauxmoLinux.Bridge.Effect
import FauxmoLinux.Bridge.Server
import FauxmoLinux.Bridge.Response
import FauxmoLinux.Bridge.Stream
import FauxmoLinux.Bridge.Identity
import FauxmoLinux.Bridge.Discovery
import FauxmoLinux.Bridge.UniqueId
import FauxmoLinux.Bridge.Assigned
import FauxmoLinux.Bridge.Listing
import FauxmoLinux.Bridge.Description
import FauxmoLinux.Bridge.Body
import FauxmoLinux.Bridge.Compact
import FauxmoLinux.Bridge.Spelling
import FauxmoLinux.Bridge.Foreign
import FauxmoLinux.Bridge.Hue
import FauxmoLinux.Bridge.Ownership
import FauxmoLinux.Bridge.Clients
import FauxmoLinux.Remote.Table
import FauxmoLinux.Remote.Codes
import FauxmoLinux.Remote.Action
import FauxmoLinux.Remote.Threads
import FauxmoLinux.Remote.Channel
import FauxmoLinux.Remote.Line
import FauxmoLinux.Remote.Race
import FauxmoLinux.System.Wiring
import FauxmoLinux.System.Television
import FauxmoLinux.System.Survival
import FauxmoLinux.System.Evening
import FauxmoLinux.System.Sockets
