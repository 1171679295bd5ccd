import Mathlib.Logic.Function.Basic
import Mathlib.Data.List.Basic

/-!
# The system below `SocketOperations`

A system call returns a value or `-1` with `errno` set (`Ret`). `Sys` is the part of the
process the routing code reads and writes through its calls: `errno`, the file-status flags of
each descriptor (`F_GETFL`/`F_SETFL`), and the calls made so far, oldest first (`Sys.calls`).
The answers of the system are inputs of the model: each `Sys.socket`, `Sys.connect`, ... takes
the answer the system gives and records the call.

The resource properties are stated over the recorded calls through six projections:
`sockets` (every `::socket` answer), `fdEvents` (descriptors opened and closed), `connectFds`
(the descriptors passed to `::connect`), `polls` (the descriptor and the `int` timeout of each
`poll`), `pollTimeouts` (the timeouts alone) and `frees` (the `freeaddrinfo` calls).

Implicit integer conversions of the code (`milliseconds::count()` to `int`, `unsigned int` to
`long`) wrap at the target width: `Int.bmod` (`toInt32`).
-/

namespace MysqlRouter

/-- What a system call returns: a value, or `-1` with `errno` set to `errno`. -/
inductive Ret (α : Type) where
  | ok (a : α)
  | err (errno : Int)
  deriving DecidableEq, Repr

/-- Whether the call succeeded. -/
def Ret.isOk {α : Type} : Ret α → Bool
  | .ok _ => true
  | .err _ => false

/-- What `poll` on one descriptor returns: `-1` with `errno`, `0` when the timeout expired, or
`1` with the descriptor's `revents`. -/
inductive PollResult where
  | error (errno : Int)
  | timeout
  | ready (revents : Nat)
  deriving DecidableEq, Repr

/-! ## Constants (Linux values) -/

def EINVAL : Int := 22
def ERANGE : Int := 34
def ETIMEDOUT : Int := 110
def EINPROGRESS : Int := 115
def O_NONBLOCK : BitVec 32 := 0x800
def POLLOUT : Nat := 4

/-- Whether `poll` reported the descriptor writable (`revents & POLLOUT`). -/
def PollResult.writable : PollResult → Bool
  | .ready revents => revents &&& POLLOUT != 0
  | _ => false

/-- `INT_MAX` of a 32-bit `int`. -/
def INT_MAX : Int := 2147483647

/-- An integer converted to a 32-bit `int` (two's complement wrap). -/
def toInt32 (x : Int) : Int := x.bmod 4294967296

theorem toInt32_of_le {x : Int} (h0 : 0 ≤ x) (h1 : x ≤ INT_MAX) : toInt32 x = x := by
  unfold INT_MAX at h1
  rw [toInt32, Int.bmod_def, Int.emod_eq_of_lt h0 (by omega)]
  split <;> omega

theorem toInt32_of_gt {x : Int} (h0 : INT_MAX < x) (h1 : x < 4294967296) :
    toInt32 x = x - 4294967296 := by
  unfold INT_MAX at h0
  rw [toInt32, Int.bmod_def, Int.emod_eq_of_lt (by omega) (by omega)]
  split <;> omega

/-! ## The system state and the calls -/

/-- A call that reaches the system, with what the code passes that the properties observe. -/
inductive Call where
  | socket (r : Ret Nat)
  | connect (fd : Int)
  | poll (fd : Int) (timeout : Int)
  | getsockopt (fd : Int)
  | setsockopt (fd : Int)
  | close (fd : Int)
  | freeaddrinfo
  deriving DecidableEq, Repr

structure Sys where
  errno : Int
  flags : Int → BitVec 32
  calls : List Call

namespace Sys

def call (s : Sys) (c : Call) : Sys := { s with calls := s.calls ++ [c] }

def setErrno (s : Sys) (e : Int) : Sys := { s with errno := e }

/-- `fcntl(fd, F_SETFL, v)`. -/
def setFlags (s : Sys) (fd : Int) (v : BitVec 32) : Sys :=
  { s with flags := Function.update s.flags fd v }

@[simp] theorem call_errno (s : Sys) (c : Call) : (s.call c).errno = s.errno := rfl
@[simp] theorem call_flags (s : Sys) (c : Call) : (s.call c).flags = s.flags := rfl
@[simp] theorem call_calls (s : Sys) (c : Call) : (s.call c).calls = s.calls ++ [c] := rfl
@[simp] theorem setErrno_errno (s : Sys) (e : Int) : (s.setErrno e).errno = e := rfl
@[simp] theorem setErrno_flags (s : Sys) (e : Int) : (s.setErrno e).flags = s.flags := rfl
@[simp] theorem setErrno_calls (s : Sys) (e : Int) : (s.setErrno e).calls = s.calls := rfl
@[simp] theorem setFlags_errno (s : Sys) (fd : Int) (v : BitVec 32) :
    (s.setFlags fd v).errno = s.errno := rfl
@[simp] theorem setFlags_flags (s : Sys) (fd : Int) (v : BitVec 32) :
    (s.setFlags fd v).flags = Function.update s.flags fd v := rfl
@[simp] theorem setFlags_calls (s : Sys) (fd : Int) (v : BitVec 32) :
    (s.setFlags fd v).calls = s.calls := rfl

/-- `::socket(...)` answered by `r`; a new descriptor starts with the flags `fl`. -/
def socket (s : Sys) (r : Ret Nat) (fl : BitVec 32) : Int × Sys :=
  match r with
  | .ok fd => (fd, (s.call (.socket r)).setFlags fd fl)
  | .err e => (-1, (s.call (.socket r)).setErrno e)

/-- A call `c` that returns `0`, or `-1` with `errno` set, answered by `r`. -/
def retCall (s : Sys) (c : Call) (r : Ret Unit) : Int × Sys :=
  match r with
  | .ok () => (0, s.call c)
  | .err e => (-1, (s.call c).setErrno e)

/-- `::connect(fd, ...)` answered by `r`. -/
def connect (s : Sys) (fd : Int) (r : Ret Unit) : Int × Sys := s.retCall (.connect fd) r

/-- `::poll` on `fd` for `POLLOUT` with `timeout` (an `int`), answered by `r`: the result and
`revents`. -/
def poll (s : Sys) (fd : Int) (timeout : Int) (r : PollResult) : Int × Nat × Sys :=
  match r with
  | .error e => (-1, 0, (s.call (.poll fd timeout)).setErrno e)
  | .timeout => (0, 0, s.call (.poll fd timeout))
  | .ready revents => (1, revents, s.call (.poll fd timeout))

/-- `getsockopt(fd, SOL_SOCKET, SO_ERROR, ...)` answered by `r`: the result and the value it
stores in its out-parameter (unchanged, `so_error`, on failure). -/
def getsockopt (s : Sys) (fd : Int) (soError : Int) (r : Ret Int) : Int × Int × Sys :=
  match r with
  | .ok v => (0, v, s.call (.getsockopt fd))
  | .err e => (-1, soError, (s.call (.getsockopt fd)).setErrno e)

/-- `setsockopt(fd, IPPROTO_TCP, TCP_NODELAY, ...)` answered by `r`. -/
def setsockopt (s : Sys) (fd : Int) (r : Ret Unit) : Int × Sys := s.retCall (.setsockopt fd) r

def close (s : Sys) (fd : Int) : Sys := s.call (.close fd)

def freeaddrinfo (s : Sys) : Sys := s.call .freeaddrinfo

end Sys

/-! ## What the properties observe of the calls -/

/-- A descriptor coming into or going out of use. -/
inductive FdEvent where
  | opened (fd : Int)
  | closed (fd : Int)
  deriving DecidableEq, Repr

def Call.fdEvent : Call → Option FdEvent
  | .socket (.ok fd) => some (.opened fd)
  | .close fd => some (.closed fd)
  | _ => none

def Call.socket? : Call → Option (Ret Nat)
  | .socket r => some r
  | _ => none

def Call.pollTimeout? : Call → Option Int
  | .poll _ t => some t
  | _ => none

def Call.poll? : Call → Option (Int × Int)
  | .poll fd t => some (fd, t)
  | _ => none

def Call.connect? : Call → Option Int
  | .connect fd => some fd
  | _ => none

/-- The answers to every `::socket` call, in order. -/
def sockets (cs : List Call) : List (Ret Nat) := cs.filterMap Call.socket?

/-- The descriptors opened by `::socket` and closed, in order. -/
def fdEvents (cs : List Call) : List FdEvent := cs.filterMap Call.fdEvent

/-- The timeout each `poll` received, in order. -/
def pollTimeouts (cs : List Call) : List Int := cs.filterMap Call.pollTimeout?

/-- The descriptor and the timeout of each `poll`, in order. -/
def polls (cs : List Call) : List (Int × Int) := cs.filterMap Call.poll?

/-- The descriptors `::connect` was called on, in order. -/
def connectFds (cs : List Call) : List Int := cs.filterMap Call.connect?

/-- How often `freeaddrinfo` was called. -/
def frees (cs : List Call) : Nat := cs.count .freeaddrinfo

@[simp] theorem sockets_append (cs cs' : List Call) :
    sockets (cs ++ cs') = sockets cs ++ sockets cs' := List.filterMap_append ..
@[simp] theorem fdEvents_append (cs cs' : List Call) :
    fdEvents (cs ++ cs') = fdEvents cs ++ fdEvents cs' := List.filterMap_append ..
@[simp] theorem pollTimeouts_append (cs cs' : List Call) :
    pollTimeouts (cs ++ cs') = pollTimeouts cs ++ pollTimeouts cs' := List.filterMap_append ..
@[simp] theorem polls_append (cs cs' : List Call) :
    polls (cs ++ cs') = polls cs ++ polls cs' := List.filterMap_append ..
@[simp] theorem connectFds_append (cs cs' : List Call) :
    connectFds (cs ++ cs') = connectFds cs ++ connectFds cs' := List.filterMap_append ..
@[simp] theorem frees_append (cs cs' : List Call) : frees (cs ++ cs') = frees cs + frees cs' :=
  List.count_append ..

@[simp] theorem sockets_cons (c : Call) (cs : List Call) :
    sockets (c :: cs) = (c.socket?.toList) ++ sockets cs := by
  cases h : c.socket? <;> simp [sockets, List.filterMap_cons, h]
@[simp] theorem fdEvents_cons (c : Call) (cs : List Call) :
    fdEvents (c :: cs) = (c.fdEvent.toList) ++ fdEvents cs := by
  cases h : c.fdEvent <;> simp [fdEvents, List.filterMap_cons, h]
@[simp] theorem pollTimeouts_cons (c : Call) (cs : List Call) :
    pollTimeouts (c :: cs) = (c.pollTimeout?.toList) ++ pollTimeouts cs := by
  cases h : c.pollTimeout? <;> simp [pollTimeouts, List.filterMap_cons, h]
@[simp] theorem polls_cons (c : Call) (cs : List Call) :
    polls (c :: cs) = (c.poll?.toList) ++ polls cs := by
  cases h : c.poll? <;> simp [polls, List.filterMap_cons, h]
@[simp] theorem connectFds_cons (c : Call) (cs : List Call) :
    connectFds (c :: cs) = (c.connect?.toList) ++ connectFds cs := by
  cases h : c.connect? <;> simp [connectFds, List.filterMap_cons, h]
@[simp] theorem frees_cons (c : Call) (cs : List Call) :
    frees (c :: cs) = frees cs + (if c = .freeaddrinfo then 1 else 0) := by
  simp [frees, List.count_cons]

@[simp] theorem sockets_nil : sockets [] = [] := rfl
@[simp] theorem fdEvents_nil : fdEvents [] = [] := rfl
@[simp] theorem pollTimeouts_nil : pollTimeouts [] = [] := rfl
@[simp] theorem polls_nil : polls [] = [] := rfl
@[simp] theorem connectFds_nil : connectFds [] = [] := rfl
@[simp] theorem frees_nil : frees [] = 0 := rfl

/-- The timeouts are the second components of the polls. -/
theorem pollTimeouts_eq_map_polls (cs : List Call) : pollTimeouts cs = (polls cs).map Prod.snd := by
  induction cs with
  | nil => rfl
  | cons c cs ih => cases c <;> simp [ih, Call.pollTimeout?, Call.poll?]

end MysqlRouter
