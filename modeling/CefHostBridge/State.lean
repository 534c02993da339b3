import CefHostBridge.Cpp.Bytes

/-!
# The session state, the tasks and the responses

`SharedState` is the one record that both threads of the bridge reach. Every access in
`src/tools/cef_host_bridge/src/main.cpp` holds its mutex `mu` for the whole access and never
nests it, so the mutex is not a field here: each locked access is one step of the model, and the
setters below (`SetError`, `SetRunning`, `SetCurrentUrl`, `SetTitle`) are record updates. The
counters are `uint64_t` and the frame size `uint32_t`, so they are `UInt64` and `UInt32`, with
the wrap-around of the C++ `++`.

A C `int` that reaches the model from outside (the viewport size of `Args`, the size passed to
`OnPaint`) is a `CInt`, which carries its 32-bit range. `Task` is the `CefTask` that the
dispatcher hands to `CefPostTask`, and `Response` what `SendHttpResponse` is called with.
-/

namespace CefHostBridge

/-- A C `int`: a 32-bit two's complement value. -/
structure CInt where
  /-- The value. -/
  val : Int
  /-- `INT32_MIN <= val`. -/
  ge : -2^31 ≤ val
  /-- `val <= INT32_MAX`. -/
  lt : val < 2^31
  deriving DecidableEq

/-- `SharedState`, without its mutex. The defaults are the member initializers of the source. -/
structure SharedState where
  running : Bool := true
  bind_addr : Bytes
  current_url : Bytes
  title : Bytes
  last_error : Bytes := []
  last_ipc : Bytes := []
  open_requests : UInt64 := 0
  eval_requests : UInt64 := 0
  input_requests : UInt64 := 0
  frame_capture : Bool := false
  frame_width : UInt32 := 0
  frame_height : UInt32 := 0
  frame_seq : UInt64 := 0
  frame_bgra : Bytes := []
  deriving DecidableEq

/-- `Args` after `ParseArgs`, which clamps the viewport to at least `320` by `200`. -/
structure Args where
  bind_addr : Bytes
  start_url : Bytes
  view_width : CInt
  view_height : CInt
  width_ge : 320 ≤ view_width.val
  height_ge : 200 ≤ view_height.val

/-- The defaults of `Args`: `127.0.0.1:37820`, `https://www.google.com`, `1024` by `640`. -/
def Args.default : Args where
  bind_addr := lit "127.0.0.1:37820"
  start_url := lit "https://www.google.com"
  view_width := ⟨1024, by decide, by decide⟩
  view_height := ⟨640, by decide, by decide⟩
  width_ge := by decide
  height_ge := by decide

/-- The `SharedState` that `main` builds before it starts the listener thread. -/
def SharedState.init (args : Args) : SharedState where
  bind_addr := args.bind_addr
  current_url := args.start_url
  title := lit "ReduxOS CEF Host Bridge (OSR)"
  frame_width := UInt32.ofNat args.view_width.val.toNat
  frame_height := UInt32.ofNat args.view_height.val.toNat

/-- `SetError`. -/
def SharedState.setError (s : SharedState) (err : Bytes) : SharedState := { s with last_error := err }

/-- `SetRunning`. -/
def SharedState.setRunning (s : SharedState) (running : Bool) : SharedState := { s with running }

/-- `SetCurrentUrl`. -/
def SharedState.setCurrentUrl (s : SharedState) (url : Bytes) : SharedState :=
  { s with current_url := url }

/-- `SetTitle`. -/
def SharedState.setTitle (s : SharedState) (title : Bytes) : SharedState := { s with title }

/-! ## The request counters -/

/-- The three request counters of `SharedState`. -/
inductive Counter
  | openRequests
  | evalRequests
  | inputRequests
  deriving DecidableEq

/-- The value of a counter. -/
def Counter.get : Counter → SharedState → UInt64
  | .openRequests, s => s.open_requests
  | .evalRequests, s => s.eval_requests
  | .inputRequests, s => s.input_requests

/-- `state->open_requests++` and its two siblings, under the lock. -/
def SharedState.bump (s : SharedState) : Counter → SharedState
  | .openRequests => { s with open_requests := s.open_requests + 1 }
  | .evalRequests => { s with eval_requests := s.eval_requests + 1 }
  | .inputRequests => { s with input_requests := s.input_requests + 1 }

/-- Raising one counter raises it by one and leaves the other two. -/
@[simp] theorem Counter.get_bump (k k' : Counter) (s : SharedState) :
    k'.get (s.bump k) = if k' = k then k'.get s + 1 else k'.get s := by
  cases k <;> cases k' <;> rfl

/-! ## Tasks and responses -/

/-- The two kinds of `NativeInputTask`. -/
inductive NativeInputKind
  | mouseClick
  | mouseScroll
  deriving DecidableEq

/-- A `CefTask` that the dispatcher posts to the control thread: `OpenUrlTask`, `EvalTask`,
`NativeInputTask` and `QuitTask`, with the values their constructors take. -/
inductive Task
  | openUrl (url : Bytes)
  | eval (js : Bytes)
  | nativeInput (kind : NativeInputKind) (x y delta : Int)
  | quit
  deriving DecidableEq

/-- The arguments of one `SendHttpResponse` call. -/
structure Response where
  status : Nat
  content_type : Bytes
  body : Bytes
  deriving DecidableEq

end CefHostBridge
