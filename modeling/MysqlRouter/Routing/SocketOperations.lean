import MysqlRouter.Libc.Sys

/-!
# `SocketOperations`: connecting to a MySQL server

The POSIX branch of `routing.cc`: `set_socket_blocking`, `SocketOperations::poll`,
`connect_non_blocking_wait`, `connect_non_blocking_status` and `get_mysql_socket`.

`get_mysql_socket` walks the `getaddrinfo` list. An entry (`AddrInfo`) is given by what the
system answers to the calls the loop makes for it, in order: `::socket` (and the flags the new
descriptor starts with), `::connect`, `poll`, `getsockopt(SO_ERROR)` and, for the entry the loop
stops at, `setsockopt(TCP_NODELAY)`. Every answer is an input, so a theorem over all entry lists
covers every mix of outcomes. Logging is not modelled: it is taken to leave `errno` as it found
it, which matters once, where `timeout_expired` reads `errno` after the `log_warning` of a failed
wait.
-/

namespace MysqlRouter.Routing

/-- An entry of the `getaddrinfo` list, given by the system's answers to the calls made for it. -/
structure AddrInfo where
  socket : Ret Nat
  flags : BitVec 32
  connect : Ret Unit
  poll : PollResult
  soError : Ret Int
  nodelay : Ret Unit
  deriving DecidableEq, Repr

/-- `set_socket_blocking(sock, blocking)`: read the flags (`F_GETFL`), clear or set
`O_NONBLOCK`, write them back (`F_SETFL`). -/
def setSocketBlocking (sock : Int) (blocking : Bool) (s : Sys) : Sys :=
  let flags := s.flags sock
  let flags := if blocking then flags &&& ~~~O_NONBLOCK else flags ||| O_NONBLOCK
  s.setFlags sock flags

/-- `SocketOperations::poll`: `::poll` with `timeout_ms.count()` converted to `int`. -/
def poll (fd : Int) (timeoutMs : Int) (r : PollResult) (s : Sys) : Int × Nat × Sys :=
  s.poll fd (toInt32 timeoutMs) r

/-- `connect_non_blocking_wait`: wait until `sock` is writable. `0`, or `-1` with `errno` set
(`ETIMEDOUT` when the timeout expired, `EINVAL` when `POLLOUT` is missing). -/
def connectNonBlockingWait (sock : Int) (timeoutMs : Int) (r : PollResult) (s : Sys) :
    Int × Sys :=
  let (res, revents, s) := poll sock timeoutMs r s
  if res = 0 then (-1, s.setErrno ETIMEDOUT)
  else if res < 0 then (-1, s)
  else if revents &&& POLLOUT = 0 then (-1, s.setErrno EINVAL)
  else (0, s)

/-- `connect_non_blocking_status(sock, so_error)`: the result and the final `so_error`. -/
def connectNonBlockingStatus (sock : Int) (soError : Int) (r : Ret Int) (s : Sys) :
    Int × Int × Sys :=
  let (ret, soError, s) := s.getsockopt sock soError r
  if ret = -1 then (-1, s.errno, s)
  else if soError ≠ 0 then (-1, soError, s)
  else (0, soError, s)

/-- The body of `get_mysql_socket`'s loop for an entry whose socket opened as `sock`:
`connection_is_good`, `timeout_expired` after the entry, and the state. -/
def tryConnect (sock : Int) (timeoutMs : Int) (info : AddrInfo) (timeoutExpired : Bool)
    (s : Sys) : Bool × Bool × Sys :=
  let s := setSocketBlocking sock false s
  let (ret, s) := s.connect sock info.connect
  if ret < 0 then
    if s.errno = EINPROGRESS then
      let (w, s) := connectNonBlockingWait sock timeoutMs info.poll s
      if w ≠ 0 then (false, decide (s.errno = ETIMEDOUT), s)
      else
        let (st, _, s) := connectNonBlockingStatus sock 0 info.soError s
        if st ≠ 0 then (false, timeoutExpired, s) else (true, timeoutExpired, s)
    else (false, timeoutExpired, s)
  else (true, timeoutExpired, s)

/-- The `for` loop over the `getaddrinfo` list: the socket and entry it stopped at (`none` when
`info` ran off the end), `timeout_expired`, and the state. -/
def connectLoop (timeoutMs : Int) :
    List AddrInfo → Bool → Sys → Option (Int × AddrInfo) × Bool × Sys
  | [], timeoutExpired, s => (none, timeoutExpired, s)
  | info :: rest, timeoutExpired, s =>
    let (sock, s) := s.socket info.socket info.flags
    if sock = -1 then connectLoop timeoutMs rest timeoutExpired s
    else
      let (good, timeoutExpired, s) := tryConnect sock timeoutMs info timeoutExpired s
      if good then (some (sock, info), timeoutExpired, s)
      else connectLoop timeoutMs rest timeoutExpired (s.close sock)

/-- `SocketOperations::get_mysql_socket(addr, connect_timeout_ms, log)`. `gai` is what
`getaddrinfo` gives for `addr`: an error code, or the list (`[]` is a null `servinfo`). The
result is the connected descriptor, `-1` (refused) or `-2` (timeout). `exit_guard` frees the
list on every return after `getaddrinfo` succeeded. -/
def getMysqlSocket (gai : Ret (List AddrInfo)) (connectTimeoutMs : Int) (s : Sys) : Int × Sys :=
  match gai with
  | .err _ => (-1, s)
  | .ok servinfo =>
    let exitGuard (s : Sys) : Sys := if servinfo.isEmpty then s else s.freeaddrinfo
    match connectLoop connectTimeoutMs servinfo false s with
    | (none, timeoutExpired, s) => (if timeoutExpired then -2 else -1, exitGuard s)
    | (some (sock, info), _, s) =>
      let s := setSocketBlocking sock true s
      let (r, s) := s.setsockopt sock info.nodelay
      if r = -1 then (-1, exitGuard (s.close sock)) else (sock, exitGuard s)

end MysqlRouter.Routing
