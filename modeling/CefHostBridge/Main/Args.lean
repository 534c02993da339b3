import CefHostBridge.Http.Numeric

/-!
# The command line: `ParseArgs`

`ParseArgs` starts from the member initializers of `Args` and walks `argv[1..]`. A flag `--bind`,
`--url`, `--width` or `--height` that is not the last argument takes the next argument as its
value, whatever it is; `--width` and `--height` read theirs with `ParseIntDefault`, the value so far
as the fallback. Any other argument that is not empty and does not start with `--` is the start
url. At the end the view is clamped to at least `320` by `200`. `RawArgs` is `Args` before the
clamp, and `parseArgsLoop` the loop.

`parseArgsLoop_pairs` reads a command line made of flag-value pairs: pair by pair, each setting its
field (`RawArgs.set`), so the last pair of a flag wins (`parseArgs_pairs`). `parseArgs_printArgs`
follows: every configuration is the one of its printed command line.
-/

namespace CefHostBridge

/-- The fields of `Args` while `ParseArgs` reads the command line, before the clamp. -/
structure RawArgs where
  bind_addr : Bytes
  start_url : Bytes
  view_width : CInt
  view_height : CInt

/-- `Args args;`: the member initializers. -/
def RawArgs.default : RawArgs :=
  ⟨Args.default.bind_addr, Args.default.start_url, Args.default.view_width, Args.default.view_height⟩

/-- An argument that is not a flag with a value: the start url when it is not empty and
`cur.rfind("--", 0) != 0`, that is, when it does not start with `--`. -/
def RawArgs.positional (a : RawArgs) (cur : Bytes) : RawArgs :=
  if cur ≠ [] ∧ ¬(lit "--").isPrefixOf cur then { a with start_url := cur } else a

/-- The loop of `ParseArgs` over `argv[1..]`; a flag takes a value only when `i + 1 < argc`. -/
def parseArgsLoop (a : RawArgs) : List Bytes → RawArgs
  | [] => a
  | [cur] => a.positional cur
  | cur :: v :: rest =>
    if cur = lit "--bind" then parseArgsLoop { a with bind_addr := v } rest
    else if cur = lit "--url" then parseArgsLoop { a with start_url := v } rest
    else if cur = lit "--width" then
      parseArgsLoop { a with view_width := parseIntDefault v a.view_width } rest
    else if cur = lit "--height" then
      parseArgsLoop { a with view_height := parseIntDefault v a.view_height } rest
    else parseArgsLoop (a.positional cur) (v :: rest)

/-- `std::max(lo, x)` on `int`, for a bound `lo` in range. -/
def CInt.atLeast (lo : Int) (hlo : -2^31 ≤ lo ∧ lo < 2^31) (x : CInt) : CInt :=
  ⟨max lo x.val, le_max_of_le_left hlo.1, max_lt hlo.2 x.lt⟩

/-- The end of `ParseArgs`: `std::max(320, view_width)` and `std::max(200, view_height)`. -/
def RawArgs.clamp (a : RawArgs) : Args where
  bind_addr := a.bind_addr
  start_url := a.start_url
  view_width := a.view_width.atLeast 320 (by decide)
  view_height := a.view_height.atLeast 200 (by decide)
  width_ge := le_max_left _ _
  height_ge := le_max_left _ _

/-- `ParseArgs(argc, argv)`: the loop from `argv[1]`, then the clamp of the view. -/
def parseArgs (argv : List Bytes) : Args := (parseArgsLoop RawArgs.default (argv.drop 1)).clamp

/-! ## Flag-value pairs -/

/-- The four flags that take a value. -/
inductive Flag
  | bind
  | url
  | width
  | height
  deriving DecidableEq

/-- The text of a flag on the command line. -/
def Flag.text : Flag → Bytes
  | .bind => lit "--bind"
  | .url => lit "--url"
  | .width => lit "--width"
  | .height => lit "--height"

/-- What a flag does with its value. -/
def RawArgs.set (a : RawArgs) : Flag → Bytes → RawArgs
  | .bind, v => { a with bind_addr := v }
  | .url, v => { a with start_url := v }
  | .width, v => { a with view_width := parseIntDefault v a.view_width }
  | .height, v => { a with view_height := parseIntDefault v a.view_height }

/-- A command line of flag-value pairs. -/
def pairsText (opts : List (Flag × Bytes)) : List Bytes := opts.flatMap fun o => [o.1.text, o.2]

/-- One pair, then what follows it. -/
theorem parseArgsLoop_pair (a : RawArgs) (f : Flag) (v : Bytes) (rest : List Bytes) :
    parseArgsLoop a (f.text :: v :: rest) = parseArgsLoop (a.set f v) rest := by
  cases f <;> rfl

/-- **Flag-value pairs.** A command line made of flag-value pairs is read pair by pair, each pair
setting its field, whatever the values are: the last pair of each flag wins. -/
theorem parseArgsLoop_pairs :
    ∀ (opts : List (Flag × Bytes)) (a : RawArgs),
      parseArgsLoop a (pairsText opts) = opts.foldl (fun a o => a.set o.1 o.2) a
  | [], _ => rfl
  | o :: opts, a => by
    rw [pairsText, List.flatMap_cons, List.cons_append, List.cons_append, List.nil_append,
      parseArgsLoop_pair, List.foldl_cons]
    exact parseArgsLoop_pairs opts _

/-- **The command line of flag-value pairs.** For every program name and every list of flag-value
pairs, whatever the values (empty, numerals or not, starting with `--` or not), `ParseArgs` reads
the pairs in order from the defaults, each setting its field, so the last pair of each flag wins,
and then clamps the view. -/
theorem parseArgs_pairs (prog : Bytes) (opts : List (Flag × Bytes)) :
    parseArgs (prog :: pairsText opts) = (opts.foldl (fun a o => a.set o.1 o.2) RawArgs.default).clamp := by
  rw [parseArgs, List.drop_one, List.tail_cons, parseArgsLoop_pairs]

/-! ## The printed command line -/

/-- The command line that asks for `a`, after the program name: each flag once, with the width and
the height in decimal. -/
def printArgs (a : Args) : List Bytes :=
  pairsText [(.bind, a.bind_addr), (.url, a.start_url), (.width, dec a.view_width.val.toNat),
    (.height, dec a.view_height.val.toNat)]

/-- Two C `int`s with the same value are the same. -/
theorem CInt.ext_val {x y : CInt} (h : x.val = y.val) : x = y := by
  cases x
  cases y
  cases h
  rfl

/-- A non-negative `int` printed in decimal is read back by `ParseIntDefault`. -/
theorem parseIntDefault_dec {x : CInt} (hx : 0 ≤ x.val) (f : CInt) :
    parseIntDefault (dec x.val.toNat) f = x := by
  apply CInt.ext_val
  have h := parseIntDefault_of_isDecimal (isDecimal_dec x.val.toNat)
    (by have := x.lt; omega) f
  rw [h]
  omega

/-- **The printed command line.** Every configuration is what `ParseArgs` reads from its printed
command line, whatever the program name, the bind address and the url. -/
theorem parseArgs_printArgs (prog : Bytes) (a : Args) : parseArgs (prog :: printArgs a) = a := by
  have hw := parseIntDefault_dec (x := a.view_width) (by have := a.width_ge; omega)
  have hh := parseIntDefault_dec (x := a.view_height) (by have := a.height_ge; omega)
  simp only [parseArgs, printArgs, List.drop_succ_cons, List.drop_zero, parseArgsLoop_pairs,
    List.foldl_cons, List.foldl_nil, RawArgs.set, hw, hh, RawArgs.clamp]
  have hw' : max 320 a.view_width.val = a.view_width.val := max_eq_right a.width_ge
  have hh' : max 200 a.view_height.val = a.view_height.val := max_eq_right a.height_ge
  cases a
  simp only [CInt.atLeast, hw', hh']

end CefHostBridge
