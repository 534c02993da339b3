import CefHostBridge.System.Delivery
import CefHostBridge.System.Answers

/-!
# Where the current url, the title and the scripts come from

`current_url`, which `/status` reports, is written in two places only: `main` sets it to the start
url, and `OpenUrlTask::Execute` sets it to the url of its task when the browser is ready. An
`OpenUrlTask` is built only by the `/open` route, from the request's `url` parameter, and it reaches
the control thread only through the queue. So in every run the current url is the start url or the
`url` parameter of an `/open` request that a client sent and whose task `CefPostTask` took
(`run_current_url`).

The proof follows the url back along that path. A turn of the listener leaves the url
(`serveConnection_writes`) and posts an `OpenUrlTask` only for `/open`
(`handleRequest_posted_openUrl`); a step changes the url only by running such a task
(`Bridge.step_current_url`), which the queue took from some step before (`Bridge.run_queue`).

The title has one writer on the control thread, `OnTitleChange`, and `main`'s first value: in every
run it is the title of the last `OnTitleChange`, or `main`'s when there was none (`run_title`).

The scripts that `EvalTask::Execute` hands to `ExecuteJavaScript` are built in two places: `/eval`
takes its `js` parameter, and `/input` the script of `BuildInputScript`. So every script that the
control thread runs, or holds in its queue, is one of those two for a request of the run
(`run_eval_scripts`).
-/

namespace CefHostBridge

/-- The dispatch posts an `OpenUrlTask` only for `/open`, with its `url` parameter. -/
theorem handleRequest_posted_openUrl {s : SharedState} {req : HttpRequest} {accepted : Bool}
    {u : Bytes} (h : (handleRequest s req accepted).posted = some (.openUrl u)) :
    req.path = lit "/open" ∧ getParam req (lit "url") = u := by
  unfold handleRequest at h
  split_ifs at h with h1 h2
  · cases serveParam_posted h
    exact ⟨h2, rfl⟩
  · cases serveParam_posted h
  · rcases serveInput_posted h with h | ⟨_, _, _, _, h⟩ <;> cases h
  · cases h

/-- An event that is an `/open` request for `u`, which the listener at `b` serves with the post
accepted: `b` holds an accepted connection, and the event's `recv` results read and parse as the
request. -/
def Event.OpensUrl (u : Bytes) (b : Bridge) (e : Event) : Prop :=
  ∃ rs raw rest req, e = .serve rs true ∧ b.listener = .serve ∧
    readHttpRequest rs = .done (some raw) rest ∧ parseHttpRequest raw = some req ∧
    req.path = lit "/open" ∧ getParam req (lit "url") = u

/-- An `OpenUrlTask` that a step hands to the queue comes from an `/open` request for its url. -/
theorem Bridge.posts_openUrl {b : Bridge} {e : Event} {u : Bytes} (h : Task.openUrl u ∈ b.posts e) :
    e.OpensUrl u b := by
  obtain ⟨rs, o, rfl, hl, ho, hp⟩ := mem_posts h
  obtain ⟨raw, rest, req, hread, hparse, hp⟩ := serveConnection_posted ho hp
  exact ⟨rs, raw, rest, req, rfl, hl, hread, hparse, handleRequest_posted_openUrl hp⟩

/-- An `OpenUrlTask` handed to the queue along a run comes from an `/open` request of the run,
served by the listener where the run has reached. -/
theorem Bridge.postsAlong_openUrl {u : Bytes} {es : List Event} {b : Bridge}
    (h : Task.openUrl u ∈ b.postsAlong es) :
    ∃ es₁ e es₂, es = es₁ ++ e :: es₂ ∧ e.OpensUrl u (b.run es₁) := by
  obtain ⟨es₁, e, es₂, hes, h⟩ := mem_postsAlong h
  exact ⟨es₁, e, es₂, hes, posts_openUrl h⟩

/-- Running a task leaves the current url, or sets it to the url of an `OpenUrlTask`. -/
theorem Task.execute_current_url (browser : Bool) (s : SharedState) (t : Task) :
    (t.execute browser s).current_url = s.current_url ∨
      ∃ u, t = .openUrl u ∧ (t.execute browser s).current_url = u := by
  cases t <;> cases browser
  case openUrl.true u => exact .inr ⟨u, rfl, rfl⟩
  all_goals exact .inl rfl

/-- **The step of the current url.** A step leaves the current url, or runs an `OpenUrlTask` and
sets the url to the task's. -/
theorem Bridge.step_current_url (b : Bridge) (e : Event) :
    (b.step e).shared.current_url = b.shared.current_url ∨
      ∃ u, b.runs e = [.openUrl u] ∧ (b.step e).shared.current_url = u := by
  cases e
  case serve rs accepted =>
    left
    simp only [step]
    split
    · split
      · rfl
      · rw [serveConnection_writes ‹_›]
    · rfl
  case runTask =>
    cases hq : b.queue with
    | nil => exact .inl (by simp only [step, hq])
    | cons t q =>
      have hrun : (b.step .runTask).shared = t.execute b.browser b.shared := by simp only [step, hq]
      rw [hrun]
      rcases Task.execute_current_url b.browser b.shared t with h | ⟨u, rfl, h⟩
      · exact .inl h
      · exact .inr ⟨u, by simp only [runs, hq, List.take], h⟩
  case paint p =>
    left
    show (b.shared.onPaint p).current_url = _
    unfold SharedState.onPaint
    split <;> rfl
  case mainExit =>
    left
    simp only [step]
    split <;> rfl
  all_goals first | exact .inl rfl | (left; simp only [step]; split <;> rfl)

/-- Along a run, the current url stays, or it is the url of an `OpenUrlTask` that the run ran. -/
theorem Bridge.current_url_along :
    ∀ (es : List Event) (b : Bridge), (b.run es).shared.current_url = b.shared.current_url ∨
      ∃ u, Task.openUrl u ∈ b.runsAlong es ∧ (b.run es).shared.current_url = u
  | [], _ => .inl rfl
  | e :: es, b => by
    rw [run_cons, runsAlong]
    rcases current_url_along es (b.step e) with h | ⟨u, hu, h⟩
    · rcases b.step_current_url e with h' | ⟨u, hr, h'⟩
      · exact .inl (h.trans h')
      · exact .inr ⟨u, by simp [hr], h.trans h'⟩
    · exact .inr ⟨u, List.mem_append_right _ hu, h⟩

/-- **Where the current url comes from.** In every run from the state `main` builds, the current url
that `/status` reports is the start url, or the `url` parameter of an `/open` request of the run:
one that the listener, holding an accepted connection at that point of the run, read, parsed and
served with its `OpenUrlTask` taken by `CefPostTask`. -/
theorem run_current_url (args : Args) (es : List Event) :
    ((Bridge.init args).run es).shared.current_url = args.start_url ∨
      ∃ es₁ e es₂, es = es₁ ++ e :: es₂ ∧
        e.OpensUrl ((Bridge.init args).run es).shared.current_url ((Bridge.init args).run es₁) := by
  rcases Bridge.current_url_along es (Bridge.init args) with h | ⟨u, hu, h⟩
  · exact .inl h
  · have hq := Bridge.run_queue es (Bridge.init args)
    have hp : Task.openUrl u ∈ (Bridge.init args).postsAlong es := by
      rw [show (Bridge.init args).queue = [] from rfl, List.nil_append] at hq
      rw [hq]
      exact List.mem_append_left _ hu
    rw [h]
    exact .inr (Bridge.postsAlong_openUrl hp)

/-! ## The title -/

/-- The title of an `OnTitleChange` event. -/
def Event.title? : Event → Option Bytes
  | .titleChange title => some title
  | _ => none

/-- Running a task leaves the title. -/
theorem Task.execute_title (browser : Bool) (s : SharedState) (t : Task) :
    (t.execute browser s).title = s.title := by
  cases t <;> cases browser <;> rfl

/-- **The step of the title.** `OnTitleChange` sets the title, and every other step leaves it. -/
theorem Bridge.step_title (b : Bridge) (e : Event) :
    (b.step e).shared.title = e.title?.getD b.shared.title := by
  cases e
  case serve rs accepted =>
    simp only [step]
    split
    · split
      · rfl
      · rw [serveConnection_writes ‹_›]; rfl
    · rfl
  case runTask =>
    simp only [step]
    split
    · rfl
    · exact Task.execute_title _ _ _
  case paint p =>
    show (b.shared.onPaint p).title = _
    unfold SharedState.onPaint
    split <;> rfl
  case mainExit =>
    simp only [step]
    split <;> rfl
  all_goals first | rfl | (simp only [step]; split <;> rfl)

/-- Along a run, the title is that of the run's last `OnTitleChange`, or stays. -/
theorem Bridge.title_along :
    ∀ (es : List Event) (b : Bridge),
      (b.run es).shared.title = ((es.filterMap Event.title?).getLast?).getD b.shared.title
  | [], _ => rfl
  | e :: es, b => by
    rw [run_cons, title_along es, step_title]
    cases h : e.title? with
    | none => rw [List.filterMap_cons_none h]; rfl
    | some t => rw [List.filterMap_cons_some h, List.getLast?_cons]; rfl

/-- **Where the title comes from.** In every run from the state `main` builds, the title that
`/status` reports is that of the run's last `OnTitleChange`, or the one `main` sets when the run has
none: neither the listener nor a task writes it. -/
theorem run_title (args : Args) (es : List Event) :
    ((Bridge.init args).run es).shared.title =
      ((es.filterMap Event.title?).getLast?).getD (lit "ReduxOS CEF Host Bridge (OSR)") :=
  Bridge.title_along es (Bridge.init args)

/-! ## The scripts -/

/-- An event that is a request which the listener at `b`, holding an accepted connection, reads,
parses and serves with its post accepted, and whose parse satisfies `P`. -/
def Event.ServesRequest (P : HttpRequest → Prop) (b : Bridge) (e : Event) : Prop :=
  ∃ rs raw rest req, e = .serve rs true ∧ b.listener = .serve ∧
    readHttpRequest rs = .done (some raw) rest ∧ parseHttpRequest raw = some req ∧ P req

/-- The requests whose script an `EvalTask` may carry: an `/eval` with the script as `js`, or an
`/input` for which `BuildInputScript` builds it. -/
def ScriptSource (js : Bytes) (req : HttpRequest) : Prop :=
  req.path = lit "/eval" ∧ getParam req (lit "js") = js ∨
    req.path = lit "/input" ∧ buildInputScript req = js

/-- The dispatch posts an `EvalTask` only for `/eval`, with its `js` parameter, and for `/input`,
with the script of `BuildInputScript`. -/
theorem handleRequest_posted_eval {s : SharedState} {req : HttpRequest} {accepted : Bool}
    {js : Bytes} (h : (handleRequest s req accepted).posted = some (.eval js)) :
    ScriptSource js req := by
  unfold handleRequest at h
  split_ifs at h with h1 h2 h3 h4
  · cases serveParam_posted h
  · cases serveParam_posted h
    exact .inl ⟨h3, rfl⟩
  · rcases serveInput_posted h with h | ⟨_, _, _, _, h⟩ <;> cases h
    exact .inr ⟨h4, rfl⟩
  · cases h

/-- An `EvalTask` that a step hands to the queue comes from an `/eval` or an `/input` request. -/
theorem Bridge.posts_eval {b : Bridge} {e : Event} {js : Bytes} (h : Task.eval js ∈ b.posts e) :
    e.ServesRequest (ScriptSource js) b := by
  obtain ⟨rs, o, rfl, hl, ho, hp⟩ := mem_posts h
  obtain ⟨raw, rest, req, hread, hparse, hp⟩ := serveConnection_posted ho hp
  exact ⟨rs, raw, rest, req, rfl, hl, hread, hparse, handleRequest_posted_eval hp⟩

/-- **Where the scripts come from.** In every run from the state `main` builds, every script that
the control thread has run in an `EvalTask`, or holds in one in its queue, is the `js` parameter of
an `/eval` request of the run or the script that `BuildInputScript` builds for an `/input` request
of the run: a request that the listener, holding an accepted connection at that point of the
run, read, parsed and served with its task taken by `CefPostTask`. -/
theorem run_eval_scripts (args : Args) (es : List Event) (js : Bytes)
    (h : Task.eval js ∈ (Bridge.init args).runsAlong es ++ ((Bridge.init args).run es).queue) :
    ∃ es₁ e es₂, es = es₁ ++ e :: es₂ ∧
      e.ServesRequest (ScriptSource js) ((Bridge.init args).run es₁) := by
  rw [← Bridge.run_queue, show (Bridge.init args).queue = [] from rfl, List.nil_append] at h
  obtain ⟨es₁, e, es₂, hes, h⟩ := Bridge.mem_postsAlong h
  exact ⟨es₁, e, es₂, hes, Bridge.posts_eval h⟩

/-- An `/eval` turn from the state `main` builds with the default arguments. -/
def evalRun : List Event := [.checkRunning, .selectReady, .acceptOk, .serve [.data evalChunk] true]

/-- The script of `evalRun` waits in the queue, and comes from a request of the run. -/
theorem run_evalRun_script :
    Task.eval (lit "1") ∈
        (Bridge.init .default).runsAlong evalRun ++ ((Bridge.init .default).run evalRun).queue ∧
      ∃ es₁ e es₂, evalRun = es₁ ++ e :: es₂ ∧
        e.ServesRequest (ScriptSource (lit "1")) ((Bridge.init .default).run es₁) :=
  ⟨by decide, run_eval_scripts .default evalRun (lit "1") (by decide)⟩

end CefHostBridge
