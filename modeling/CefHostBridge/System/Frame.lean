import CefHostBridge.System.Bridge

/-!
# The frame store

`OnPaint` is the only writer of the frame fields of `SharedState`, and `/frame` their only reader
that looks at the pixels. The abstract frame store of a run is its last paint that `OnPaint` took
(`lastPaint`); `FrameAgrees` relates it to the fields: the viewport and no pixels before any such
paint, and the size and the first `4 * width * height` bytes of the last one after. Every step
keeps the relation (`step_frameAgrees`: an update leaves the fields alone, and a paint either is
ignored or replaces them), so it holds along every run from the state `main` builds
(`run_frameAgrees`).

`/frame` then answers `expectedFrame` of the last taken paint: 503 before there is one, because
the viewport is not empty and there are no pixels, and after it 200 with the PPM of that paint,
whose reads all fall inside its buffer.
-/

namespace CefHostBridge

/-- The frame fields of `SharedState`, which only `OnPaint` writes. -/
def SharedState.frame (s : SharedState) : Bool × UInt32 × UInt32 × UInt64 × Bytes :=
  (s.frame_capture, s.frame_width, s.frame_height, s.frame_seq, s.frame_bgra)

/-- An update leaves the frame fields alone. -/
theorem Update.frame_eq {s s' : SharedState} (h : Update s s') : s'.frame = s.frame := by
  cases h with
  | bump k => cases k <;> rfl
  | error k err => rcases k with _ | k; rfl; cases k <;> rfl
  | _ => rfl

/-- A paint event's `paint?` is its paint. -/
theorem Event.eq_paint_of_paint? {e : Event} {p : Paint} (h : e.paint? = some p) : e = .paint p := by
  cases e <;> simp_all [Event.paint?]

/-- A C `int` read as a size is below `2^31`. -/
theorem CInt.toNat_lt (x : CInt) : x.val.toNat < 2^31 := by
  have := x.lt
  omega

/-- The `uint32_t` conversion of a C `int` read as a size keeps it. -/
theorem CInt.toNat_toUInt32 (x : CInt) : (UInt32.ofNat x.val.toNat).toNat = x.val.toNat :=
  Nat.mod_eq_of_lt (by have := x.toNat_lt; omega)

/-- Four times the product of two C `int` sizes fits a `size_t`. -/
theorem CInt.size_lt (x y : CInt) : x.val.toNat * y.val.toNat * 4 < 2^64 := by
  have := Nat.mul_lt_mul'' x.toNat_lt y.toNat_lt
  omega

/-! ## The abstract store -/

/-- The last taken paint after one more event. -/
def lastPaintStep (last : Option Paint) (e : Event) : Option Paint :=
  match e.paint? with
  | some p => if p.valid then some p else last
  | none => last

/-- The last paint of a run that `OnPaint` took. -/
def lastPaint (es : List Event) : Option Paint := es.foldl lastPaintStep none

/-- The frame fields against the last taken paint: the viewport and no pixels when there is none,
and its size and the first `4 * width * height` bytes of its buffer otherwise. -/
def FrameAgrees (args : Args) (s : SharedState) : Option Paint → Prop
  | none =>
    s.frame_capture = false ∧ s.frame_width = UInt32.ofNat args.view_width.val.toNat ∧
      s.frame_height = UInt32.ofNat args.view_height.val.toNat ∧ s.frame_bgra = []
  | some p =>
    p.valid = true ∧ s.frame_capture = true ∧ s.frame_width = UInt32.ofNat p.width.val.toNat ∧
      s.frame_height = UInt32.ofNat p.height.val.toNat ∧
      s.frame_bgra = (p.buffer.getD []).take (4 * (p.width.val.toNat * p.height.val.toNat))

/-- The relation reads only the frame fields. -/
theorem FrameAgrees.of_frame_eq {args : Args} {s s' : SharedState} {last : Option Paint}
    (h : s'.frame = s.frame) (hs : FrameAgrees args s last) : FrameAgrees args s' last := by
  simp only [SharedState.frame, Prod.mk.injEq] at h
  obtain ⟨h1, h2, h3, -, h5⟩ := h
  cases last <;> simpa only [FrameAgrees, h1, h2, h3, h5] using hs

/-- A paint that `OnPaint` takes becomes the last one. -/
theorem frameAgrees_onPaint (args : Args) (s : SharedState) {p : Paint} (hp : p.valid = true) :
    FrameAgrees args (s.onPaint p) (some p) := by
  rw [s.onPaint_of_valid hp]
  exact ⟨hp, rfl, rfl, rfl, by rw [Nat.mod_eq_of_lt (CInt.size_lt _ _), Nat.mul_comm]⟩

/-- **The step of the frame store.** -/
theorem step_frameAgrees (args : Args) (b : Bridge) (e : Event) {last : Option Paint}
    (h : FrameAgrees args b.shared last) :
    FrameAgrees args (b.step e).shared (lastPaintStep last e) := by
  cases he : e.paint? with
  | none =>
    rw [lastPaintStep, he]
    exact h.of_frame_eq (b.step_update he).frame_eq
  | some p =>
    rw [Event.eq_paint_of_paint? he, Bridge.step_paint]
    cases hp : p.valid
    · simpa [lastPaintStep, Event.paint?, hp, SharedState.onPaint_of_not_valid _ hp] using h
    · simpa [lastPaintStep, Event.paint?, hp] using frameAgrees_onPaint args b.shared hp

/-- Every run keeps the relation. -/
theorem run_frameAgrees (args : Args) :
    ∀ (es : List Event) (b : Bridge) (last : Option Paint), FrameAgrees args b.shared last →
      FrameAgrees args (b.run es).shared (es.foldl lastPaintStep last)
  | [], _, _, h => h
  | e :: es, b, _, h => run_frameAgrees args es _ _ (step_frameAgrees args b e h)

/-- The state `main` builds holds the viewport and no pixels. -/
theorem frameAgrees_init (args : Args) : FrameAgrees args (SharedState.init args) none :=
  ⟨rfl, rfl, rfl, rfl⟩

/-! ## The `/frame` answer -/

/-- The `/frame` answer that a run should give after its last taken paint: 503 when there is none,
and otherwise 200 with `P6`, the width and the height in decimal, `255`, and the red, green and
blue bytes of every pixel `j` of the paint's buffer `B`, at `B[4j+2]`, `B[4j+1]` and `B[4j]`. -/
def expectedFrame : Option Paint → Response
  | none => ⟨503, json, errorJson (lit "no frame yet (wait for OnPaint)")⟩
  | some p =>
    let w := p.width.val.toNat
    let h := p.height.val.toNat
    let B := p.buffer.getD []
    ⟨200, lit "image/x-portable-pixmap",
      lit "P6\n" ++ dec w ++ lit " " ++ dec h ++ lit "\n255\n" ++
        (List.range (w * h)).flatMap fun j => [B.getD (4 * j + 2) 0, B.getD (4 * j + 1) 0, B.getD (4 * j) 0]⟩

/-- A taken paint's buffer holds the whole view. -/
theorem Paint.big_of_valid {p : Paint} (hp : p.valid = true) :
    4 * (p.width.val.toNat * p.height.val.toNat) ≤ (p.buffer.getD []).length := by
  simp only [Paint.valid, Bool.and_eq_true, decide_eq_true_eq, Option.isSome_iff_exists] at hp
  obtain ⟨⟨⟨-, b, hb⟩, hw⟩, hh⟩ := hp
  simpa [hb] using p.big b hb hw hh

/-- The pixels of a buffer cut to `4 n` bytes are those of the buffer. -/
theorem ppmPixels_take (B : Bytes) (n : Nat) :
    ppmPixels (B.take (4 * n)) (4 * n) =
      (List.range n).flatMap fun j => [B.getD (4 * j + 2) 0, B.getD (4 * j + 1) 0, B.getD (4 * j) 0] := by
  rw [ppmPixels, show (4 * n + 3) / 4 = n by omega]
  refine List.flatMap_congr fun j hj => ?_
  have hj : j < n := List.mem_range.mp hj
  simp [List.getD_eq_getElem?_getD, List.getElem?_take, show 4 * j < 4 * n by omega,
    show 4 * j + 1 < 4 * n by omega, show 4 * j + 2 < 4 * n by omega]

/-- The frame fields of a taken paint, as numbers. -/
theorem FrameAgrees.sizes {args : Args} {s : SharedState} {p : Paint}
    (h : FrameAgrees args s (some p)) :
    s.frame_width.toNat = p.width.val.toNat ∧ s.frame_height.toNat = p.height.val.toNat ∧
      s.frame_bgra.length = 4 * (p.width.val.toNat * p.height.val.toNat) := by
  obtain ⟨hp, -, hw, hh, hb⟩ := h
  have := Paint.big_of_valid hp
  refine ⟨by rw [hw, CInt.toNat_toUInt32], by rw [hh, CInt.toNat_toUInt32], ?_⟩
  rw [hb, List.length_take]
  omega

/-- The `/frame` answer on fields that agree with the last taken paint is `expectedFrame`. -/
theorem frameResponse_of_agrees {args : Args} {s : SharedState} {last : Option Paint}
    (h : FrameAgrees args s last) :
    frameResponse s.frame_width s.frame_height s.frame_bgra = expectedFrame last := by
  unfold frameResponse
  dsimp only
  cases last with
  | none =>
    -- The viewport is not empty and there are no pixels.
    obtain ⟨-, hw, hh, hb⟩ := h
    have hpos : 0 < args.view_width.val.toNat * args.view_height.val.toNat * 4 % 2^64 := by
      have := args.width_ge
      have := args.height_ge
      rw [Nat.mod_eq_of_lt (CInt.size_lt _ _)]
      exact Nat.mul_pos (Nat.mul_pos (by omega) (by omega)) (by norm_num)
    rw [if_pos (.inr (.inr (by
      rw [hb, hw, hh, CInt.toNat_toUInt32, CInt.toNat_toUInt32, List.length_nil]; exact hpos)))]
    rfl
  | some p =>
    -- The buffer holds exactly the `4 * width * height` bytes that the answer reads.
    obtain ⟨hwn, hhn, hlen⟩ := h.sizes
    obtain ⟨hp, -, -, -, hb⟩ := h
    simp only [Paint.valid, Bool.and_eq_true, decide_eq_true_eq] at hp
    have := CInt.size_lt p.width p.height
    have hexp : s.frame_width.toNat * s.frame_height.toNat * 4 % 2^64 =
        4 * (p.width.val.toNat * p.height.val.toNat) := by
      rw [hwn, hhn]; omega
    have hw0 : s.frame_width ≠ 0 := fun h0 => by rw [h0] at hwn; simp at hwn; omega
    have hh0 : s.frame_height ≠ 0 := fun h0 => by rw [h0] at hhn; simp at hhn; omega
    have hshort : ¬s.frame_bgra.length < s.frame_width.toNat * s.frame_height.toNat * 4 % 2^64 := by
      rw [hexp, hlen]; omega
    rw [if_neg (by simp only [hw0, hh0, hshort, or_self, not_false_eq_true]), hexp, hb,
      ppmPixels_take, hwn, hhn]
    rfl

/-- A parsed `/frame` request is answered from the frame fields, and changes nothing. -/
theorem handleRequest_of_frame_path (s : SharedState) {req : HttpRequest} (accepted : Bool)
    (h : req.path = lit "/frame") :
    handleRequest s req accepted = ⟨s, none, frameResponse s.frame_width s.frame_height s.frame_bgra⟩ := by
  rw [handleRequest, h, if_neg (by decide), if_neg (by decide), if_neg (by decide),
    if_neg (by decide), if_pos rfl]

/-- **The frame store over a run.** In every run from the state `main` builds, with any events of
either thread, a `/frame` request is answered `expectedFrame` of the last paint that `OnPaint`
took, whose reads fall inside its buffer; `frame_capture` says whether there is such a paint; and
while it holds, the buffer has exactly `4 * frame_width * frame_height` bytes. -/
theorem run_frame (args : Args) (es : List Event) (raw : Bytes) (req : HttpRequest)
    (accepted : Bool) (hreq : parseHttpRequest raw = some req) (hpath : req.path = lit "/frame") :
    (serveRequest ((Bridge.init args).run es).shared raw accepted).response =
        expectedFrame (lastPaint es) ∧
      (((Bridge.init args).run es).shared.frame_capture = true ↔ (lastPaint es).isSome) ∧
      (((Bridge.init args).run es).shared.frame_capture = true →
        ((Bridge.init args).run es).shared.frame_bgra.length =
          4 * ((Bridge.init args).run es).shared.frame_width.toNat *
            ((Bridge.init args).run es).shared.frame_height.toNat) ∧
      (∀ p, lastPaint es = some p →
        4 * (p.width.val.toNat * p.height.val.toNat) ≤ (p.buffer.getD []).length) := by
  have h := run_frameAgrees args es (Bridge.init args) none (frameAgrees_init args)
  refine ⟨by rw [serveRequest_of_parse hreq, handleRequest_of_frame_path _ _ hpath]; exact
    frameResponse_of_agrees h, ?_, ?_, fun p hp => ?_⟩
  · rw [lastPaint]
    cases hl : es.foldl lastPaintStep none <;> rw [hl] at h
    · simp [h.1]
    · simp [h.2.1]
  · intro hc
    cases hl : es.foldl lastPaintStep none <;> rw [hl] at h
    · simp [h.1] at hc
    · obtain ⟨hwn, hhn, hlen⟩ := h.sizes
      rw [hlen, hwn, hhn, Nat.mul_assoc]
  · rw [lastPaint] at hp
    rw [hp] at h
    exact Paint.big_of_valid h.1

/-- `GET /frame`, parsed. -/
def frameRequest : HttpRequest := ⟨lit "get", lit "/frame", [], [], [], []⟩

/-- A 2 by 1 view. -/
def twoByOne : Paint :=
  ⟨.view, some [1, 2, 3, 255, 4, 5, 6, 255], ⟨2, by decide, by decide⟩, ⟨1, by decide, by decide⟩,
    fun _ hb _ _ => by cases hb; decide⟩

/-- After a paint of `twoByOne`, `GET /frame` is answered with its two pixels, red first. -/
theorem run_frame_two_by_one :
    parseHttpRequest (lit "GET /frame HTTP/1.1\r\n\r\n") = some frameRequest ∧
      frameRequest.path = lit "/frame" ∧
      (serveRequest ((Bridge.init .default).run [.paint twoByOne]).shared
        (lit "GET /frame HTTP/1.1\r\n\r\n") true).response =
        ⟨200, lit "image/x-portable-pixmap", lit "P6\n2 1\n255\n" ++ [3, 2, 1, 6, 5, 4]⟩ :=
  ⟨rfl, rfl, (run_frame .default [.paint twoByOne] (lit "GET /frame HTTP/1.1\r\n\r\n") frameRequest true
    rfl rfl).1.trans rfl⟩

end CefHostBridge
