import CefHostBridge.System.Shutdown
import CefHostBridge.Http.Numeric

/-!
# The setup of the listener

Before its accept loop, `ServeHttp` reads the bind address with `ParseBindAddr`, opens a socket,
reads the host as an IPv4 address with `inet_pton` (after replacing `localhost` by `127.0.0.1`),
binds and listens. The first step that fails hands its message to `SetError`, and `ServeHttp`
returns without entering the loop. The socket calls are the environment (`SocketEnv`);
`WSAStartup` is compiled on Windows only and is not modelled.

The setup writes only `last_error`, and the control thread has no task to run before the loop
posts one, so the setup is taken as the first step of the run (`Bridge.launch`). A setup that
succeeds leaves `Bridge.init`, about which the rest of the development speaks. After one that fails
the listener is out of its loop with an empty queue, and the bridge stays up without its interface:
in every run it accepts and answers no connection, runs no task, keeps the setup's message in
`last_error`, and lowers the flag only when the browser closes (`launch_setup_failed`).
-/

namespace CefHostBridge

/-- What the setup of `ServeHttp` gets from the socket calls: whether `socket()` returns a socket,
whether `inet_pton` reads a host as an IPv4 address, and whether `bind()` and `listen()` succeed. -/
structure SocketEnv where
  socket_ok : Bool
  inet_pton : Bytes → Bool
  bind_ok : Bool
  listen_ok : Bool

/-- The setup of `ServeHttp` before its accept loop: the host and port it listens on, or the
message that it hands to `SetError` before it returns. -/
def serveHttpSetup (env : SocketEnv) (bind_addr : Bytes) : Except Bytes (Bytes × UInt16) :=
  match parseBindAddr bind_addr with
  | none => .error (lit "invalid bind addr (expected host:port)")
  | some (host, port) =>
    if !env.socket_ok then .error (lit "socket() failed")
    else
      let host := if host = lit "localhost" then lit "127.0.0.1" else host
      if !env.inet_pton host then .error (lit "invalid bind host (IPv4 required)")
      else if !env.bind_ok then .error (lit "bind() failed")
      else if !env.listen_ok then .error (lit "listen() failed")
      else .ok (host, port)

/-- The bridge once `ServeHttp` has run its setup: the bridge of `Bridge.init` when the setup
succeeds, and otherwise that bridge with the setup's message in `last_error` and the listener out of
its loop. -/
def Bridge.launch (args : Args) (env : SocketEnv) : Bridge :=
  match serveHttpSetup env args.bind_addr with
  | .ok _ => Bridge.init args
  | .error msg =>
    { Bridge.init args with shared := (SharedState.init args).setError msg, listener := .exited }

/-- A setup that succeeds leaves the bridge that `main` builds. -/
theorem Bridge.launch_of_ok {args : Args} {env : SocketEnv} {addr : Bytes × UInt16}
    (h : serveHttpSetup env args.bind_addr = .ok addr) : Bridge.launch args env = Bridge.init args := by
  rw [launch, h]

/-- With the listener out of its loop and the queue empty, a step runs no task, leaves the queue
empty, and leaves `last_error`. -/
theorem Bridge.step_idle (b : Bridge) (e : Event) (hl : b.listener = .exited) (hq : b.queue = []) :
    (b.step e).queue = [] ∧ b.runs e = [] ∧ (b.step e).shared.last_error = b.shared.last_error := by
  cases e
  case paint p =>
    refine ⟨hq, rfl, ?_⟩
    show (b.shared.onPaint p).last_error = _
    unfold SharedState.onPaint
    split <;> rfl
  case mainExit =>
    simp only [step]
    split <;> exact ⟨hq, rfl, rfl⟩
  all_goals first | exact ⟨hq, rfl, rfl⟩ | simp [step, runs, hl, hq]

/-- Along a run from a listener out of its loop and an empty queue, the queue stays empty, no task
runs, and `last_error` stays. -/
theorem Bridge.run_idle :
    ∀ (es : List Event) (b : Bridge), b.listener = .exited → b.queue = [] →
      (b.run es).queue = [] ∧ b.runsAlong es = [] ∧
        (b.run es).shared.last_error = b.shared.last_error
  | [], _, _, hq => ⟨hq, rfl, rfl⟩
  | e :: es, b, hl, hq => by
    obtain ⟨hq', hr, herr⟩ := b.step_idle e hl hq
    obtain ⟨h1, h2, h3⟩ := run_idle es (b.step e) (b.step_of_exited e hl).1 hq'
    exact ⟨h1, by rw [runsAlong, hr, h2, List.nil_append], h3.trans herr⟩

/-- **A failed setup.** When the setup of `ServeHttp` fails, in every run that follows the bridge
accepts and answers no connection and runs no task, `last_error` keeps the message of the failed
step, and the flag goes down only when the browser closes: the bridge stays up without its
interface. -/
theorem launch_setup_failed (args : Args) (env : SocketEnv) (es : List Event) {msg : Bytes}
    (h : serveHttpSetup env args.bind_addr = .error msg) :
    ((Bridge.launch args env).run es).accepts = 0 ∧ ((Bridge.launch args env).run es).sent = [] ∧
      (Bridge.launch args env).runsAlong es = [] ∧
      ((Bridge.launch args env).run es).shared.last_error = msg ∧
      (((Bridge.launch args env).run es).shared.running = false ↔ Event.beforeClose ∈ es) := by
  have hb : Bridge.launch args env =
      { Bridge.init args with shared := (SharedState.init args).setError msg, listener := .exited } := by
    rw [Bridge.launch, h]
  obtain ⟨-, h1, h2⟩ := Bridge.run_of_exited es (Bridge.launch args env) (by rw [hb])
  obtain ⟨-, hruns, herr⟩ :=
    Bridge.run_idle es (Bridge.launch args env) (by rw [hb]) (by rw [hb]; rfl)
  have hinv := Bridge.run_running_quitting es (Bridge.launch args env) (by rw [hb]; rfl)
  refine ⟨by rw [h1, hb]; rfl, by rw [h2, hb]; rfl, hruns, by rw [herr, hb]; rfl, ?_⟩
  rw [hinv, Bool.not_eq_false', Bridge.run_quitting, hruns, hb]
  simp [Bridge.init]

/-- The arguments of `main` with a bind address that has no port. -/
def portlessArgs : Args := { Args.default with bind_addr := lit "localhost" }

/-- Socket calls that all succeed. -/
def socketsUp : SocketEnv := ⟨true, fun _ => true, true, true⟩

/-- Without a port the setup fails before any socket call, and a `/status` client that the loop
would have served gets nothing. -/
theorem launch_portless :
    serveHttpSetup socketsUp portlessArgs.bind_addr =
        .error (lit "invalid bind addr (expected host:port)") ∧
      ((Bridge.launch portlessArgs socketsUp).run
          [.checkRunning, .selectReady, .acceptOk, .serve [.data statusChunk] true]).accepts = 0 ∧
      ((Bridge.launch portlessArgs socketsUp).run
          [.checkRunning, .selectReady, .acceptOk, .serve [.data statusChunk] true]).sent = [] ∧
      (Bridge.launch portlessArgs socketsUp).runsAlong
          [.checkRunning, .selectReady, .acceptOk, .serve [.data statusChunk] true] = [] ∧
      ((Bridge.launch portlessArgs socketsUp).run
          [.checkRunning, .selectReady, .acceptOk, .serve [.data statusChunk] true]).shared.last_error =
        lit "invalid bind addr (expected host:port)" ∧
      (((Bridge.launch portlessArgs socketsUp).run
          [.checkRunning, .selectReady, .acceptOk, .serve [.data statusChunk] true]).shared.running =
          false ↔
        Event.beforeClose ∈ [.checkRunning, .selectReady, .acceptOk, .serve [.data statusChunk] true]) :=
  ⟨rfl, launch_setup_failed portlessArgs socketsUp _ rfl⟩

end CefHostBridge
