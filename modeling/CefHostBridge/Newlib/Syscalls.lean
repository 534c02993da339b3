import CefHostBridge.State
import CefHostBridge.Newlib.Sbrk

/-!
# The `errno` wrappers of `src/sdk/newlib_cpp/newlib_syscalls.cpp`

Newlib calls these functions for its system calls and expects the C convention from them: the
result on success, `-1` with `errno` set on failure. Most of them pass the kernel's result through
`set_errno_from_ret`, which returns `static_cast<int>(rc)` for `rc >= 0` and otherwise sets
`errno = static_cast<int>(-rc)` and returns `-1`. The results of the system calls are the
environment: the model takes each as a `long`, and the `errno` codes of `<errno.h>` that the
wrappers set themselves as parameters (`ErrnoCodes`).

The casts to `int` keep the low 32 bits, so the convention holds exactly for the kernel results
that lie within `int` (`setErrnoFromRet_vals_iff`). An `lseek` to an offset of `2^31` or more
leaves it, and its offset comes back wrapped, as `-1` with `errno` untouched at `2^32 - 1`.
-/

namespace CefHostBridge

/-- `static_cast<int>` of a wider integer: its value modulo `2^32`, as a two's complement
`int`. -/
def CInt.wrap (v : Int) : CInt := ⟨(v + 2^31) % 2^32 - 2^31, by omega, by omega⟩

/-- `-1`. -/
def CInt.minusOne : CInt := ⟨-1, by norm_num, by norm_num⟩

/-- The `errno` codes that the wrappers set without a system call, from `<errno.h>`. -/
structure ErrnoCodes where
  EFAULT : CInt
  EINVAL : CInt

/-- What a wrapper leaves: the value it returns and `errno`. -/
structure SysResult where
  ret : CInt
  errno : CInt
  deriving DecidableEq

/-- `errno = code; return -1;` -/
def SysResult.fail (code : CInt) : SysResult := ⟨CInt.minusOne, code⟩

/-- `set_errno_from_ret(rc)`, with `errno` before the call. -/
def setErrnoFromRet (errno : CInt) (rc : CLong) : SysResult :=
  if 0 ≤ rc.val then ⟨CInt.wrap rc.val, errno⟩ else SysResult.fail (CInt.wrap (-rc.val))

/-- An argument check before the system call: it fails with `code` when `bad` holds. -/
def checked (bad : Bool) (code : CInt) (call : SysResult) : SysResult :=
  if bad then SysResult.fail code else call

/-! ## The wrappers -/

/-- `_close(fd)`, where `close` returned `rc`. -/
def sysClose (errno : CInt) (rc : CLong) : SysResult := setErrnoFromRet errno rc

/-- `_kill(pid, sig)`, where `kill` returned `rc`. -/
def sysKill (errno : CInt) (rc : CLong) : SysResult := setErrnoFromRet errno rc

/-- `_lseek(fd, ptr, dir)`, where `lseek` returned `rc`. -/
def sysLseek (errno : CInt) (rc : CLong) : SysResult := setErrnoFromRet errno rc

/-- `_gettimeofday(tv, tz)`, where `gettimeofday` returned `rc`. -/
def sysGettimeofday (errno : CInt) (rc : CLong) : SysResult := setErrnoFromRet errno rc

/-- `_open(path, flags, mode)`: `EFAULT` for a null `path`, and otherwise what `openat` returned. -/
def sysOpen (E : ErrnoCodes) (path_null : Bool) (errno : CInt) (rc : CLong) : SysResult :=
  checked path_null E.EFAULT (setErrnoFromRet errno rc)

/-- `_read(fd, ptr, len)`: `EINVAL` for a negative `len`, and otherwise what `read` returned. -/
def sysRead (E : ErrnoCodes) (len : CInt) (errno : CInt) (rc : CLong) : SysResult :=
  checked (decide (len.val < 0)) E.EINVAL (setErrnoFromRet errno rc)

/-- `_write(fd, ptr, len)`: `EINVAL` for a negative `len`, and otherwise what `write` returned. -/
def sysWrite (E : ErrnoCodes) (len : CInt) (errno : CInt) (rc : CLong) : SysResult :=
  checked (decide (len.val < 0)) E.EINVAL (setErrnoFromRet errno rc)

/-- `_getpid()`: the pid, and on failure `1` with `errno` set. -/
def sysGetpid (errno : CInt) (rc : CLong) : SysResult :=
  if 0 ≤ rc.val then ⟨CInt.wrap rc.val, errno⟩ else ⟨⟨1, by norm_num, by norm_num⟩, CInt.wrap (-rc.val)⟩

/-- `_raise(sig)`: `_kill(_getpid(), sig)`, with `getpid` and `kill` returning `rc_pid` and
`rc_kill`; the process it signals, and what it leaves. -/
def sysRaise (errno : CInt) (rc_pid rc_kill : CLong) : CInt × SysResult :=
  let pid := sysGetpid errno rc_pid
  (pid.ret, sysKill pid.errno rc_kill)

/-- The fields that `fill_basic_stat` sets after zeroing `st`: a character device for the file
descriptors `0` to `2` and a regular file otherwise, both `0644`, one link, blocks of 4096. -/
structure BasicStat where
  chr : Bool
  nlink : Nat
  blksize : Nat
  deriving DecidableEq

/-- `fill_basic_stat(st, fd_hint)` on a non-null `st`. -/
def fillBasicStat (fd_hint : Int) : BasicStat := ⟨decide (0 ≤ fd_hint ∧ fd_hint ≤ 2), 1, 4096⟩

/-- `_fstat(fd, st)`: `EFAULT` for a null `st`; otherwise `0`, with `st` as `fstat` filled it
(`none`) or, when `fstat` failed, as `fill_basic_stat` fills it. -/
def sysFstat (E : ErrnoCodes) (st_null : Bool) (fd errno : CInt) (rc : CLong) :
    SysResult × Option BasicStat :=
  if st_null then (SysResult.fail E.EFAULT, none)
  else if 0 ≤ rc.val then (⟨⟨0, by norm_num, by norm_num⟩, errno⟩, none)
  else (⟨⟨0, by norm_num, by norm_num⟩, errno⟩, some (fillBasicStat fd.val))

/-- `_stat(path, st)`: `EFAULT` for a null `path` or `st`; otherwise `0`, with `st` as `fstatat`
filled it (`none`) or, when it failed, as `fill_basic_stat(st, -1)` fills it. -/
def sysStat (E : ErrnoCodes) (path_null st_null : Bool) (errno : CInt) (rc : CLong) :
    SysResult × Option BasicStat :=
  if path_null || st_null then (SysResult.fail E.EFAULT, none)
  else if 0 ≤ rc.val then (⟨⟨0, by norm_num, by norm_num⟩, errno⟩, none)
  else (⟨⟨0, by norm_num, by norm_num⟩, errno⟩, some (fillBasicStat (-1)))

/-- `_isatty(fd)`: `1` for the file descriptors `0` to `2`. -/
def sysIsatty (fd : CInt) : Bool := decide (0 ≤ fd.val ∧ fd.val ≤ 2)

/-! ## The convention -/

/-- The values of a result: the returned `int` and `errno`. -/
def SysResult.vals (r : SysResult) : Int × Int := (r.ret.val, r.errno.val)

/-- The convention for a kernel result `rc`: `rc` itself with `errno` kept on success, `-1` with
`errno = -rc` on failure. -/
def passThrough (errno : CInt) (rc : Int) : Int × Int := if 0 ≤ rc then (rc, errno.val) else (-1, -rc)

/-- `static_cast<int>` keeps exactly the values of `int`. -/
theorem CInt.wrap_val_eq_iff (v : Int) : (CInt.wrap v).val = v ↔ -2^31 ≤ v ∧ v < 2^31 := by
  simp only [CInt.wrap]
  omega

/-- The values that `set_errno_from_ret` leaves. -/
theorem setErrnoFromRet_vals (errno : CInt) (rc : CLong) :
    (setErrnoFromRet errno rc).vals =
      if 0 ≤ rc.val then ((CInt.wrap rc.val).val, errno.val) else (-1, (CInt.wrap (-rc.val)).val) := by
  unfold setErrnoFromRet
  split <;> rfl

/-- **`set_errno_from_ret` and the convention.** For every `errno` and every result of the kernel,
`set_errno_from_ret` returns the result with `errno` kept when it is not negative, and `-1` with
`errno` set to its negation when it is, exactly when the result lies strictly within `int`: a
larger result comes back wrapped modulo `2^32`, and a more negative one sets a wrapped `errno`. -/
theorem setErrnoFromRet_vals_iff (errno : CInt) (rc : CLong) :
    (setErrnoFromRet errno rc).vals = passThrough errno rc.val ↔ -2^31 < rc.val ∧ rc.val < 2^31 := by
  rw [setErrnoFromRet_vals, passThrough]
  by_cases h : 0 ≤ rc.val
  · rw [if_pos h, if_pos h, Prod.mk.injEq, CInt.wrap_val_eq_iff]
    omega
  · rw [if_neg h, if_neg h, Prod.mk.injEq, CInt.wrap_val_eq_iff]
    omega

/-- A seek to the offset `2^32 - 1` comes back as `-1`, with `errno` as it was. -/
example : (sysLseek ⟨0, by norm_num, by norm_num⟩ ⟨2^32 - 1, by norm_num, by norm_num⟩).vals = (-1, 0) :=
  by decide

end CefHostBridge
