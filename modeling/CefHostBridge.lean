import CefHostBridge.Cpp.Bytes
import CefHostBridge.Cpp.Stream
import CefHostBridge.Codec.Url
import CefHostBridge.Codec.Escape
import CefHostBridge.Codec.Json
import CefHostBridge.Codec.Utf8
import CefHostBridge.State
import CefHostBridge.Http.Read
import CefHostBridge.Http.Parse
import CefHostBridge.Http.Accepted
import CefHostBridge.Http.Serve
import CefHostBridge.Http.Script
import CefHostBridge.Http.Numeric
import CefHostBridge.Main.Args
import CefHostBridge.Http.Send
import CefHostBridge.Http.Framing
import CefHostBridge.Libc.Memory
import CefHostBridge.Libc.String
import CefHostBridge.Newlib.Sbrk
import CefHostBridge.Newlib.Syscalls
import CefHostBridge.Newlib.Heap
import CefHostBridge.System.Bridge
import CefHostBridge.System.Frame
import CefHostBridge.System.Image
import CefHostBridge.System.Counters
import CefHostBridge.System.Listener
import CefHostBridge.System.Turn
import CefHostBridge.System.Reduction
import CefHostBridge.System.Status
import CefHostBridge.System.Answers
import CefHostBridge.System.Delivery
import CefHostBridge.System.Provenance
import CefHostBridge.System.Shutdown
import CefHostBridge.System.Requests
import CefHostBridge.System.Launch
