import CefHostBridge.System.Frame
import CefHostBridge.Http.Numeric

/-!
# The `/frame` image as a PPM reader sees it

`/frame` answers with a binary PPM (`P6`): the magic number, the width, the height and the maxval
`255` in decimal, each after white space, one more white space byte, and three bytes for each
pixel. `ppmRead` is a reader of that format, written from the format and not from the bridge, and
`run_frame_ppm` says that after every run it decodes the answer to the last painted view: its width
and height, and its pixels in RGB order, exactly `width * height` of them.

The header's numbers are `dec` of the size, which `ppmNat` reads back (`ppmNat_dec`); the raster is
`3 * width * height` bytes long (`length_pixels`).
-/

namespace CefHostBridge

/-- A white space byte of the PPM header: blank, tab, carriage return or line feed. -/
def isPpmWs (c : UInt8) : Bool := c = 32 || c = 9 || c = 13 || c = 10

/-- A decimal field of the PPM header, and what follows it. -/
def ppmNat (s : Bytes) : Option (Nat × Bytes) :=
  let ds := s.takeWhile (isDigitIn 10)
  if ds = [] then none else some (digitsValue 10 ds, s.drop ds.length)

/-- The white space before a header field, at least one byte of it. -/
def ppmSep : Bytes → Option Bytes
  | c :: r => if isPpmWs c then some (r.dropWhile isPpmWs) else none
  | [] => none

/-- A reader of binary PPM images with maxval `255` and no comments: `P6`, the width, the height
and the maxval, each after white space, then one white space byte and three bytes for each pixel.
It gives the width, the height and the raster. -/
def ppmRead : Bytes → Option (Nat × Nat × Bytes)
  | 80 :: 54 :: r =>
    ((ppmSep r).bind ppmNat).bind fun wr =>
    ((ppmSep wr.2).bind ppmNat).bind fun hr =>
    ((ppmSep hr.2).bind ppmNat).bind fun mr =>
    match mr.2 with
    | c :: raster =>
      if isPpmWs c ∧ mr.1 = 255 ∧ raster.length = 3 * (wr.1 * hr.1) then some (wr.1, hr.1, raster)
      else none
    | [] => none
  | _ => none

/-- The pixels of a buffer `B` in RGB order, `n` of them. -/
def rgbPixels (B : Bytes) (n : Nat) : Bytes :=
  (List.range n).flatMap fun j => [B.getD (4 * j + 2) 0, B.getD (4 * j + 1) 0, B.getD (4 * j) 0]

/-- Three bytes a pixel. -/
theorem length_pixels (B : Bytes) (n : Nat) : (rgbPixels B n).length = 3 * n := by
  induction n with
  | zero => rfl
  | succ n ih =>
    rw [rgbPixels, List.range_succ, List.flatMap_append, List.length_append, ← rgbPixels, ih]
    simp
    omega

/-- `ppmNat` reads back a number that `dec` printed, when no digit follows it. -/
theorem ppmNat_dec (n : Nat) {t : Bytes} (ht : ∀ c ∈ t.head?, isDigitIn 10 c = false) :
    ppmNat (dec n ++ t) = some (n, t) := by
  obtain ⟨hne, hall, hv⟩ := dec_digits n
  have hds : (dec n ++ t).takeWhile (isDigitIn 10) = dec n := by
    rw [List.takeWhile_append_of_pos hall, List.append_right_eq_self]
    cases t with
    | nil => rfl
    | cons c _ => exact List.takeWhile_cons_of_neg (by simp [ht c rfl])
  simp [ppmNat, hds, hne, hv]

/-- White space before a number that `dec` printed is skipped up to the number. -/
theorem ppmSep_dec {c : UInt8} (hc : isPpmWs c = true) (n : Nat) (t : Bytes) :
    ppmSep (c :: (dec n ++ t)) = some (dec n ++ t) := by
  obtain ⟨hne, hall, -⟩ := dec_digits n
  obtain ⟨d, ds, hd⟩ := List.exists_cons_of_ne_nil hne
  have hdig := decimalDigit_range (hall d (hd ▸ List.mem_cons_self _ _))
  have hws : isPpmWs d = false := by
    simp only [isPpmWs, Bool.or_eq_false_iff, decide_eq_false_iff_not, byte_eq_iff]
    simp
    omega
  rw [ppmSep, if_pos hc, hd, List.cons_append, List.dropWhile_cons_of_neg (by simp [hws])]

/-- A header field that `dec` printed after white space, followed by no digit, reads back. -/
theorem ppmField_dec {c : UInt8} (hc : isPpmWs c = true) (n : Nat) {t : Bytes}
    (ht : ∀ d ∈ t.head?, isDigitIn 10 d = false) :
    (ppmSep (c :: (dec n ++ t))).bind ppmNat = some (n, t) := by
  rw [ppmSep_dec hc]
  exact ppmNat_dec n ht

/-- **A PPM reads back.** The binary PPM of a size and `3 * width * height` raster bytes decodes
to the size and the raster. -/
theorem ppmRead_ppm (w h : Nat) (raster : Bytes) (hlen : raster.length = 3 * (w * h)) :
    ppmRead (lit "P6\n" ++ dec w ++ lit " " ++ dec h ++ lit "\n255\n" ++ raster) =
      some (w, h, raster) := by
  have hnd : ∀ (d : UInt8) (r : Bytes), isDigitIn 10 d = false → ∀ c ∈ (d :: r).head?,
      isDigitIn 10 c = false := fun d r hd c hc => by
    rw [List.head?_cons, Option.mem_some_iff] at hc
    exact hc ▸ hd
  simp only [List.append_assoc]
  show ppmRead (80 :: 54 :: 10 :: (dec w ++ 32 :: (dec h ++ 10 :: (dec 255 ++ 10 :: raster)))) = _
  simp only [ppmRead]
  rw [ppmField_dec (c := 10) rfl w (hnd 32 _ rfl), Option.some_bind,
    ppmField_dec (c := 32) rfl h (hnd 10 _ rfl), Option.some_bind,
    ppmField_dec (c := 10) rfl 255 (hnd 10 _ rfl), Option.some_bind]
  simp [isPpmWs, hlen]

/-- **The `/frame` image.** In every run from the state `main` builds, once `OnPaint` has taken a
paint, the answer to a `/frame` request is a binary PPM that `ppmRead` decodes to the last taken
paint: its width, its height, and the red, green and blue bytes of each of its `width * height`
pixels. -/
theorem run_frame_ppm (args : Args) (es : List Event) (raw : Bytes) (req : HttpRequest)
    (accepted : Bool) (hreq : parseHttpRequest raw = some req) (hpath : req.path = lit "/frame")
    (p : Paint) (hp : lastPaint es = some p) :
    ppmRead (serveRequest ((Bridge.init args).run es).shared raw accepted).response.body =
      some (p.width.val.toNat, p.height.val.toNat,
        rgbPixels (p.buffer.getD []) (p.width.val.toNat * p.height.val.toNat)) := by
  have h := run_frameAgrees args es (Bridge.init args) none (frameAgrees_init args)
  rw [serveRequest_of_parse hreq, handleRequest_of_frame_path _ _ hpath]
  show ppmRead (frameResponse _ _ _).body = _
  rw [frameResponse_of_agrees h, show es.foldl lastPaintStep none = lastPaint es from rfl, hp]
  exact ppmRead_ppm _ _ _ (length_pixels _ _)

/-- After a paint of `twoByOne`, the `/frame` answer decodes to its 2 by 1 pixels, red first. -/
theorem run_frame_ppm_two_by_one :
    parseHttpRequest (lit "GET /frame HTTP/1.1\r\n\r\n") = some frameRequest ∧
      frameRequest.path = lit "/frame" ∧ lastPaint [.paint twoByOne] = some twoByOne ∧
      ppmRead (serveRequest ((Bridge.init .default).run [.paint twoByOne]).shared
        (lit "GET /frame HTTP/1.1\r\n\r\n") true).response.body = some (2, 1, [3, 2, 1, 6, 5, 4]) :=
  ⟨rfl, rfl, rfl, (run_frame_ppm .default [.paint twoByOne] (lit "GET /frame HTTP/1.1\r\n\r\n")
    frameRequest true rfl rfl twoByOne rfl).trans rfl⟩

end CefHostBridge
