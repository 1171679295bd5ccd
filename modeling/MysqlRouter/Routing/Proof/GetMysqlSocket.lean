import MysqlRouter.Routing.Proof.Dial

/-!
# Properties of `get_mysql_socket`

Read off `getMysqlSocket_cases` through the projections of the calls:

* `setSocketBlocking_spec`, `setSocketBlocking_restore`: `set_socket_blocking` changes no flag
  but `O_NONBLOCK`, and non-blocking then blocking again clears it.
* `getMysqlSocket_first_connecting`: a descriptor exactly when some entry connects and
  `TCP_NODELAY` succeeds on the first such; then it is that entry's socket, no socket is opened
  for a later entry, and its flags are the ones it was opened with, `O_NONBLOCK` cleared.
* `getMysqlSocket_descriptors`: every descriptor the call opens is closed once before the next
  is opened, except the one returned; the `getaddrinfo` list is freed once.
* `getMysqlSocket_uses_open`: every call on a descriptor is on one the call opened and has not
  closed; only the returned one is left open.
* `getMysqlSocket_poll_timeouts`: each `poll` receives the whole connect timeout, once for each
  entry the loop tries whose `connect` is in progress (`waited`), on that entry's socket; past
  `INT_MAX` the timeout wraps to a negative `int` (`getMysqlSocket_poll_wraps`).
* `getMysqlSocket_timeout_rule`: with no entry connecting, `-2` exactly when the last wait that
  failed failed by timeout, whatever the entries after it did.
* `getMysqlSocket_fst_eq_dial`: the result is `dialResult`, the outcome of dialling the entries
  in turn, stated over the system's answers alone.
-/

namespace MysqlRouter.Routing.Proof

open MysqlRouter.Routing

/-! ## Blocking mode -/

theorem and_not_and_self (a b : BitVec 32) : (a &&& ~~~b) &&& b = 0 := by ext i; simp

theorem or_and_self (a b : BitVec 32) : (a ||| b) &&& b = b := by ext i; simp +contextual

/-- **One call**: `set_socket_blocking(fd, blocking)` leaves `O_NONBLOCK` of `fd` clear exactly
when `blocking`, keeps every other flag of `fd`, and changes no other descriptor's flags. -/
theorem setSocketBlocking_spec (fd : Int) (blocking : Bool) (s : Sys) :
    ((setSocketBlocking fd blocking s).flags fd &&& O_NONBLOCK = 0 ↔ blocking = true) ∧
    (setSocketBlocking fd blocking s).flags fd &&& ~~~O_NONBLOCK = s.flags fd &&& ~~~O_NONBLOCK ∧
    ∀ fd', fd' ≠ fd → (setSocketBlocking fd blocking s).flags fd' = s.flags fd' := by
  have hn : O_NONBLOCK ≠ 0 := by decide
  refine ⟨?_, ?_, fun fd' h => by simp [setSocketBlocking, h]⟩ <;> cases blocking
  · simpa [setSocketBlocking, or_and_self] using hn
  · simp [setSocketBlocking, and_not_and_self]
  · simp [setSocketBlocking, or_and_not_self]
  · simp [setSocketBlocking, BitVec.and_assoc]

/-- **Blocking mode restored**: `set_socket_blocking(fd, false)` then
`set_socket_blocking(fd, true)` leaves `fd` with the flags it had, `O_NONBLOCK` cleared, and
every other descriptor as it was. -/
theorem setSocketBlocking_restore (fd : Int) (s : Sys) :
    (setSocketBlocking fd true (setSocketBlocking fd false s)).flags =
      Function.update s.flags fd (s.flags fd &&& ~~~O_NONBLOCK) := by
  simp [setSocketBlocking, or_and_not_self]

/-! ## The calls of the failed rounds -/

/-- The descriptor `::socket` gave the entry, if any. -/
def openedFd (info : AddrInfo) : List Int :=
  match info.socket with
  | .ok fd => [fd]
  | .err _ => []

/-- A descriptor opened and then closed. -/
def openClose (fd : Int) : List FdEvent := [.opened fd, .closed fd]

theorem sockets_flatMap_failCalls (t : Int) (l : List AddrInfo) :
    sockets (l.flatMap (failCalls t)) = l.map AddrInfo.socket := by
  induction l <;> simp [*]

theorem frees_flatMap_failCalls (t : Int) (l : List AddrInfo) :
    frees (l.flatMap (failCalls t)) = 0 := by
  induction l <;> simp [*]

theorem fdEvents_failCalls (t : Int) (x : AddrInfo) :
    fdEvents (failCalls t x) = (openedFd x).flatMap openClose := by
  unfold failCalls openedFd; cases x.socket <;> simp [Call.fdEvent, openClose]

/-- The loop waits for the entry: its socket opened and `connect` reported `EINPROGRESS`. -/
def waits (x : AddrInfo) : Bool := x.socket.isOk && decide (x.connect = .err EINPROGRESS)

/-- What `sock` holds for the entry: the descriptor `::socket` gave, or `-1`. -/
def sockOf (x : AddrInfo) : Int :=
  match x.socket with
  | .ok fd => fd
  | .err _ => -1

theorem polls_failCalls (t : Int) (x : AddrInfo) :
    polls (failCalls t x) = if waits x then [(sockOf x, toInt32 t)] else [] := by
  unfold failCalls waits sockOf
  cases x.socket <;> simp [polls_attemptCalls, Call.poll?, Ret.isOk]

theorem fdEvents_flatMap_failCalls (t : Int) (l : List AddrInfo) :
    fdEvents (l.flatMap (failCalls t)) = (l.flatMap openedFd).flatMap openClose := by
  induction l <;> simp [*, fdEvents_failCalls]

theorem polls_flatMap_failCalls (t : Int) (l : List AddrInfo) :
    polls (l.flatMap (failCalls t)) = (l.filter waits).map fun x => (sockOf x, toInt32 t) := by
  induction l with
  | nil => rfl
  | cons x l ih =>
    rw [List.flatMap_cons, polls_append, polls_failCalls, ih, List.filter_cons]
    split <;> rfl

/-! ## The result -/

/-- What the call can return: `-1`, `-2`, or the socket of the first entry that connects, when
`TCP_NODELAY` succeeds on it. -/
theorem getMysqlSocket_result (gai : Ret (List AddrInfo)) (t : Int) (s : Sys) :
    (getMysqlSocket gai t s).1 = -1 ∨ (getMysqlSocket gai t s).1 = -2 ∨
      ∃ pre c post, ∃ fd : Nat, gai = .ok (pre ++ c :: post) ∧ (∀ x ∈ pre, ¬ Connects x) ∧
        Connects c ∧ c.nodelay = .ok () ∧ c.socket = .ok fd ∧ (getMysqlSocket gai t s).1 = fd := by
  rcases getMysqlSocket_cases gai t s with ⟨-, -, he⟩ | ⟨l, -, -, s', he, -⟩ |
      ⟨pre, c, post, fd, hg, hpre, hc, hfd, s', he, -, -⟩ <;> rw [he]
  · exact .inl rfl
  · split <;> simp
  · by_cases hn : c.nodelay = .ok ()
    · exact .inr (.inr ⟨pre, c, post, fd, hg, hpre, hc, hn, hfd, by simp [hn]⟩)
    · simp [hn]

/-- The call when a first entry connects and `TCP_NODELAY` succeeds on it. -/
theorem getMysqlSocket_of_first (t : Int) (s : Sys) (post : List AddrInfo) {pre : List AddrInfo}
    {c : AddrInfo}
    (hpre : ∀ x ∈ pre, ¬ Connects x) (hc : Connects c) (hn : c.nodelay = .ok ()) :
    (∃ fd : Nat, c.socket = .ok fd ∧ (getMysqlSocket (.ok (pre ++ c :: post)) t s).1 = fd) ∧
    sockets (getMysqlSocket (.ok (pre ++ c :: post)) t s).2.calls =
      sockets s.calls ++ (pre ++ [c]).map AddrInfo.socket ∧
    (getMysqlSocket (.ok (pre ++ c :: post)) t s).2.flags
      (getMysqlSocket (.ok (pre ++ c :: post)) t s).1 = c.flags &&& ~~~O_NONBLOCK := by
  obtain ⟨fd, hfd⟩ := hc.socket_eq
  obtain ⟨s', he, hf, hcalls⟩ := getMysqlSocket_found t hfd hc.2 pre post hpre s
  simp only [he, hn, if_true]
  exact ⟨⟨fd, hfd, rfl⟩, by simp [hcalls, hn, sockets_flatMap_failCalls, Call.socket?], hf⟩

theorem getMysqlSocket_first_connecting (gai : Ret (List AddrInfo)) (t : Int) (s : Sys) :
    (0 ≤ (getMysqlSocket gai t s).1 ↔
      ∃ pre c post, gai = .ok (pre ++ c :: post) ∧ (∀ x ∈ pre, ¬ Connects x) ∧ Connects c ∧
        c.nodelay = .ok ()) ∧
    (∀ pre c post, gai = .ok (pre ++ c :: post) → (∀ x ∈ pre, ¬ Connects x) → Connects c →
      c.nodelay = .ok () →
        (∃ fd : Nat, c.socket = .ok fd ∧ (getMysqlSocket gai t s).1 = fd) ∧
        sockets (getMysqlSocket gai t s).2.calls =
          sockets s.calls ++ (pre ++ [c]).map AddrInfo.socket ∧
        (getMysqlSocket gai t s).2.flags (getMysqlSocket gai t s).1 =
          c.flags &&& ~~~O_NONBLOCK) ∧
    ((getMysqlSocket gai t s).1 < 0 →
      (getMysqlSocket gai t s).1 = -1 ∨ (getMysqlSocket gai t s).1 = -2) := by
  refine ⟨⟨fun h => ?_, ?_⟩, ?_, fun h => ?_⟩
  · rcases getMysqlSocket_result gai t s with he | he | ⟨pre, c, post, -, hg, hpre, hc, hn, -⟩
    · omega
    · omega
    · exact ⟨pre, c, post, hg, hpre, hc, hn⟩
  · rintro ⟨pre, c, post, rfl, hpre, hc, hn⟩
    obtain ⟨⟨fd, -, he⟩, -⟩ := getMysqlSocket_of_first t s post hpre hc hn
    omega
  · rintro pre c post rfl hpre hc hn
    exact getMysqlSocket_of_first t s post hpre hc hn
  · rcases getMysqlSocket_result gai t s with he | he | ⟨-, -, -, fd, -, -, -, -, -, he⟩
    · exact .inl he
    · exact .inr he
    · omega

/-! ## Descriptors and the address list -/

theorem getMysqlSocket_descriptors (gai : Ret (List AddrInfo)) (t : Int) (s : Sys) :
    (∃ fds : List Int, fdEvents (getMysqlSocket gai t s).2.calls =
        fdEvents s.calls ++ fds.flatMap openClose ++
          (if 0 ≤ (getMysqlSocket gai t s).1 then [.opened (getMysqlSocket gai t s).1] else [])) ∧
    frees (getMysqlSocket gai t s).2.calls =
      frees s.calls + (match gai with | .ok l => if l.isEmpty then 0 else 1 | .err _ => 0) := by
  rcases getMysqlSocket_cases gai t s with ⟨e, rfl, he⟩ | ⟨l, rfl, -, s', he, hcalls⟩ |
      ⟨pre, c, post, fd, rfl, -, -, hfd, s', he, -, hcalls⟩ <;> rw [he]
  · exact ⟨⟨[], by simp⟩, rfl⟩
  · have hr : ¬ 0 ≤ (if l.foldl timeoutStep false then -2 else -1 : Int) := by split <;> omega
    refine ⟨⟨l.flatMap openedFd, ?_⟩, ?_⟩
    · simp [hcalls, hr, fdEvents_flatMap_failCalls]; split <;> rfl
    · by_cases hl : l = [] <;> simp [hcalls, frees_flatMap_failCalls, hl]
  · by_cases hn : c.nodelay = .ok ()
    · refine ⟨⟨pre.flatMap openedFd, ?_⟩, ?_⟩ <;>
        simp [hcalls, hn, fdEvents_flatMap_failCalls, frees_flatMap_failCalls, Call.fdEvent, hfd,
          Int.ofNat_nonneg]
    · refine ⟨⟨pre.flatMap openedFd ++ [(fd : Int)], ?_⟩, ?_⟩ <;>
        simp [hcalls, hn, fdEvents_flatMap_failCalls, frees_flatMap_failCalls, Call.fdEvent, hfd,
          openClose]

/-! ## Descriptor use

`useRun o cs` replays the calls `cs` against the open descriptors, from `o`: `::socket` adds
the one it gives, `close` removes one, and every other call on a descriptor needs it open; a
call on a descriptor that is not open stops the replay. -/

/-- One call against the open descriptors `o`; `none` when it uses one that is not open. -/
def useStep (o : List Int) : Call → Option (List Int)
  | .socket (.ok fd) => some ((fd : Int) :: o)
  | .socket (.err _) => some o
  | .connect fd | .poll fd _ | .getsockopt fd | .setsockopt fd => if fd ∈ o then some o else none
  | .close fd => if fd ∈ o then some (o.erase fd) else none
  | .freeaddrinfo => some o

/-- The calls `cs` replayed from the open descriptors `o`. -/
def useRun : List Int → List Call → Option (List Int)
  | o, [] => some o
  | o, c :: cs => (useStep o c).bind (useRun · cs)

@[simp] theorem useRun_nil (o : List Int) : useRun o [] = some o := rfl

@[simp] theorem useRun_cons (o : List Int) (c : Call) (cs : List Call) :
    useRun o (c :: cs) = (useStep o c).bind (useRun · cs) := rfl

@[simp] theorem useRun_append (o : List Int) (a b : List Call) :
    useRun o (a ++ b) = (useRun o a).bind (useRun · b) := by
  induction a generalizing o with
  | nil => rfl
  | cons c a ih => cases h : useStep o c <;> simp [h, ih]

theorem useRun_attemptCalls {o : List Int} {fd : Int} (h : fd ∈ o) (t : Int) (info : AddrInfo) :
    useRun o (attemptCalls fd t info) = some o := by
  unfold attemptCalls; split_ifs <;> simp [useStep, h]

theorem useRun_failCalls (o : List Int) (t : Int) (info : AddrInfo) :
    useRun o (failCalls t info) = some o := by
  unfold failCalls
  cases info.socket with
  | ok fd => simp [useStep, useRun_attemptCalls (List.mem_cons_self (fd : Int) o)]
  | err e => rfl

theorem useRun_flatMap_failCalls (o : List Int) (t : Int) (l : List AddrInfo) :
    useRun o (l.flatMap (failCalls t)) = some o := by
  induction l with
  | nil => rfl
  | cons x l ih => rw [List.flatMap_cons, useRun_append, useRun_failCalls]; exact ih

/-- The descriptor a result leaves open, if it is one. -/
def openedBy (r : Int) : List Int := if 0 ≤ r then [r] else []

/-- One call replayed against the open descriptors: it leaves open those it found and the one it
returns. -/
theorem getMysqlSocket_replay (gai : Ret (List AddrInfo)) (t : Int) (s : Sys) (o : List Int) :
    ∃ cs, (getMysqlSocket gai t s).2.calls = s.calls ++ cs ∧
      useRun o cs = some (openedBy (getMysqlSocket gai t s).1 ++ o) := by
  rcases getMysqlSocket_cases gai t s with ⟨e, rfl, he⟩ | ⟨l, rfl, -, s', he, hcalls⟩ |
      ⟨pre, c, post, fd, rfl, -, -, hfd, s', he, -, hcalls⟩ <;> rw [he]
  · exact ⟨[], by simp, rfl⟩
  · refine ⟨_, by rw [hcalls, List.append_assoc], ?_⟩
    rw [useRun_append, useRun_flatMap_failCalls]
    split <;> split <;> rfl
  · refine ⟨_, by rw [hcalls]; simp only [List.append_assoc, List.cons_append]; rfl, ?_⟩
    by_cases hn : c.nodelay = .ok () <;>
      simp [hn, hfd, openedBy, useStep, useRun_flatMap_failCalls,
        useRun_attemptCalls (List.mem_cons_self (fd : Int) o), Int.ofNat_nonneg]

/-- **No use of a closed descriptor.** Replayed from any open descriptors `o`, the calls of one
`get_mysql_socket` only use descriptors that are open, and leave open those of `o` and the one
returned; from `o = []`, every descriptor they use is one the call opened. -/
theorem getMysqlSocket_uses_open (gai : Ret (List AddrInfo)) (t : Int) (s : Sys) (o : List Int) :
    ∃ cs, (getMysqlSocket gai t s).2.calls = s.calls ++ cs ∧
      useRun o cs =
        some (if 0 ≤ (getMysqlSocket gai t s).1 then (getMysqlSocket gai t s).1 :: o else o) := by
  obtain ⟨cs, hc, hu⟩ := getMysqlSocket_replay gai t s o
  refine ⟨cs, hc, hu.trans ?_⟩
  unfold openedBy
  split <;> rfl

/-! ## Waiting -/

/-- The entries the loop tries: every one, or those up to and including the first that
connects. -/
def tried : List AddrInfo → List AddrInfo
  | [] => []
  | x :: l => if Connects x then [x] else x :: tried l

/-- The entries of a call that the loop waits for, in order. -/
def waited : Ret (List AddrInfo) → List AddrInfo
  | .ok l => (tried l).filter waits
  | .err _ => []

theorem tried_of_none {l : List AddrInfo} (h : ∀ x ∈ l, ¬ Connects x) : tried l = l := by
  induction l with
  | nil => rfl
  | cons x l ih => simp [tried, h x (.head _), ih fun y hy => h y (.tail _ hy)]

theorem tried_first {pre post : List AddrInfo} {c : AddrInfo} (hpre : ∀ x ∈ pre, ¬ Connects x)
    (hc : Connects c) : tried (pre ++ c :: post) = pre ++ [c] := by
  induction pre with
  | nil => simp [tried, hc]
  | cons x pre ih => simp [tried, hpre x (.head _), ih fun y hy => hpre y (.tail _ hy)]

theorem length_tried_le (l : List AddrInfo) : (tried l).length ≤ l.length := by
  induction l with
  | nil => exact le_refl _
  | cons x l ih =>
    unfold tried
    split
    · simp
    · simpa using ih

theorem waited_length_le (gai : Ret (List AddrInfo)) :
    (waited gai).length ≤ (match gai with | .ok l => l.length | .err _ => 0) := by
  cases gai with
  | err => exact le_refl _
  | ok l => exact (List.length_filter_le _ _).trans (length_tried_le l)

/-- Each `poll` is on the socket of an entry the loop waits for and receives
`connect_timeout_ms` as an `int`: one for each such entry, in order. -/
theorem getMysqlSocket_pollCalls (gai : Ret (List AddrInfo)) (t : Int) (s : Sys) :
    polls (getMysqlSocket gai t s).2.calls =
      polls s.calls ++ (waited gai).map fun x => (sockOf x, toInt32 t) := by
  rcases getMysqlSocket_cases gai t s with ⟨e, rfl, he⟩ | ⟨l, rfl, h, s', he, hcalls⟩ |
      ⟨pre, c, post, fd, rfl, hpre, hc, hfd, s', he, -, hcalls⟩ <;> rw [he]
  · simp [waited]
  · simp [hcalls, waited, tried_of_none h, polls_flatMap_failCalls]
    split <;> rfl
  · have hw : waits c = decide (c.connect = .err EINPROGRESS) := by simp [waits, hfd, Ret.isOk]
    have hs : sockOf c = fd := by simp [sockOf, hfd]
    simp only [hcalls, waited, tried_first hpre hc, polls_append, polls_cons,
      polls_flatMap_failCalls, polls_attemptCalls, List.filter_append,
      List.map_append, List.append_assoc, List.filter_singleton, hw]
    by_cases hi : c.connect = .err EINPROGRESS <;> by_cases hn : c.nodelay = .ok () <;>
      simp [hi, hn, hs, Call.poll?]

theorem getMysqlSocket_polls (gai : Ret (List AddrInfo)) (t : Int) (s : Sys) :
    pollTimeouts (getMysqlSocket gai t s).2.calls =
      pollTimeouts s.calls ++ (waited gai).map fun _ => toInt32 t := by
  rw [pollTimeouts_eq_map_polls, pollTimeouts_eq_map_polls, getMysqlSocket_pollCalls,
    List.map_append, List.map_map]
  rfl

/-- **Each wait gets the whole timeout.** For `0 ≤ t ≤ INT_MAX`, `poll` is called once for each
entry the loop waits for (`waited`, at most one per entry), on that entry's socket, with `t`. -/
theorem getMysqlSocket_poll_timeouts (gai : Ret (List AddrInfo)) (t : Int) (s : Sys)
    (h0 : 0 ≤ t) (h1 : t ≤ INT_MAX) :
    pollTimeouts (getMysqlSocket gai t s).2.calls =
      pollTimeouts s.calls ++ List.replicate (waited gai).length t ∧
    (waited gai).length ≤ (match gai with | .ok l => l.length | .err _ => 0) ∧
    polls (getMysqlSocket gai t s).2.calls =
      polls s.calls ++ (waited gai).map fun x => (sockOf x, t) :=
  ⟨by rw [getMysqlSocket_polls, toInt32_of_le h0 h1, List.map_const'], waited_length_le gai,
    by rw [getMysqlSocket_pollCalls, toInt32_of_le h0 h1]⟩

/-- An entry whose socket opens as `fd` and whose `connect` is in progress, `poll` then
answering `r`. -/
def inProgress (fd : Nat) (r : PollResult) : AddrInfo :=
  ⟨.ok fd, 0, .err EINPROGRESS, r, .ok 0, .ok ()⟩

/-- A process before any call: `errno` `0`, no flag set, no call made. -/
def initSys : Sys := ⟨0, fun _ => 0, []⟩

/-- Two entries in progress: the first one's wait times out, the second becomes writable. -/
def timeoutThenWritable : List AddrInfo := [inProgress 5 .timeout, inProgress 5 (.ready POLLOUT)]

theorem getMysqlSocket_poll_timeouts_two_waits :
    (0 : Int) ≤ 1000 ∧ (1000 : Int) ≤ INT_MAX ∧
      pollTimeouts (getMysqlSocket (.ok timeoutThenWritable) 1000 initSys).2.calls =
        [] ++ List.replicate (waited (.ok timeoutThenWritable)).length 1000 ∧
      (waited (.ok timeoutThenWritable)).length ≤ 2 ∧
      polls (getMysqlSocket (.ok timeoutThenWritable) 1000 initSys).2.calls =
        [] ++ (waited (.ok timeoutThenWritable)).map fun x => (sockOf x, 1000) :=
  ⟨by decide, by decide,
    getMysqlSocket_poll_timeouts (.ok timeoutThenWritable) 1000 initSys (by decide) (by decide)⟩

/-- **A timeout past `INT_MAX` wraps**: each `poll` then receives `connect_timeout_ms - 2^32`,
a negative `int`, which `poll` takes as no timeout at all. -/
theorem getMysqlSocket_poll_wraps (gai : Ret (List AddrInfo)) (t : Int) (s : Sys)
    (h0 : INT_MAX < t) (h1 : t < 4294967296) :
    t - 4294967296 < 0 ∧ pollTimeouts (getMysqlSocket gai t s).2.calls =
      pollTimeouts s.calls ++ List.replicate (waited gai).length (t - 4294967296) :=
  ⟨by omega, by rw [getMysqlSocket_polls, toInt32_of_gt h0 h1, List.map_const']⟩

theorem getMysqlSocket_poll_wraps_one_wait :
    INT_MAX < 2147483648 ∧ (2147483648 : Int) < 4294967296 ∧
      (2147483648 : Int) - 4294967296 < 0 ∧
      pollTimeouts (getMysqlSocket (.ok [inProgress 5 (.ready POLLOUT)]) 2147483648
        initSys).2.calls = [] ++ List.replicate
          (waited (.ok [inProgress 5 (.ready POLLOUT)])).length (2147483648 - 4294967296) :=
  ⟨by decide, by decide, getMysqlSocket_poll_wraps (.ok [inProgress 5 (.ready POLLOUT)])
    2147483648 initSys (by decide) (by decide)⟩

/-- Two entries whose `connect` is in progress and whose `poll` times out: each wait gets the
whole second, two seconds in all. -/
theorem getMysqlSocket_waits_twice :
    ∃ a b : Int, pollTimeouts (getMysqlSocket (.ok [inProgress 5 .timeout, inProgress 6 .timeout])
        1000 initSys).2.calls = [a, b] ∧ 1000 < a + b :=
  ⟨1000, 1000, by decide, by decide⟩

/-! ## Refused or timed out -/

theorem foldl_timeoutStep (l : List AddrInfo) (te : Bool) :
    l.foldl timeoutStep te = ((l.filterMap waitFailure).getLast?).getD te := by
  induction l generalizing te with
  | nil => rfl
  | cons x l ih =>
    rw [List.foldl_cons, ih, List.filterMap_cons, timeoutStep]
    cases waitFailure x <;> simp [List.getLast?_cons]

/-- **Refused or timed out.** With no entry connecting, the result is `-2` exactly when the last
entry whose wait failed had `errno` `ETIMEDOUT` then; entries after it that fail another way
(no socket, `connect` refused at once, `SO_ERROR` set) do not change it. -/
theorem getMysqlSocket_timeout_rule (l : List AddrInfo) (t : Int) (s : Sys)
    (h : ∀ x ∈ l, ¬ Connects x) :
    (getMysqlSocket (.ok l) t s).1 =
      if (l.filterMap waitFailure).getLast? = some true then -2 else -1 := by
  obtain ⟨s', he, -⟩ := getMysqlSocket_none l t s h
  rw [he, foldl_timeoutStep]
  cases (l.filterMap waitFailure).getLast? with
  | none => rfl
  | some b => cases b <;> rfl

/-- An entry whose socket opens as `fd` and whose `connect` is refused at once
(`ECONNREFUSED`). -/
def refusedAtOnce (fd : Nat) : AddrInfo := ⟨.ok fd, 0, .err 111, .timeout, .ok 0, .ok ()⟩

/-- The first entry's wait times out; the second, the last, is refused at once. -/
def timeoutThenRefused : List AddrInfo := [inProgress 5 .timeout, refusedAtOnce 6]

theorem getMysqlSocket_timeout_rule_refused_last :
    (∀ x ∈ timeoutThenRefused, ¬ Connects x) ∧
      (getMysqlSocket (.ok timeoutThenRefused) 1000 initSys).1 =
        if (timeoutThenRefused.filterMap waitFailure).getLast? = some true then -2 else -1 :=
  ⟨by decide, getMysqlSocket_timeout_rule _ 1000 initSys (by decide)⟩

/-- The first entry times out, the second (the last) is refused at once: `-2`, a timeout. -/
theorem getMysqlSocket_timeout_then_refused :
    (getMysqlSocket (.ok timeoutThenRefused) 1000 initSys).1 = -2 := by
  decide

/-! ## The outcome from the answers alone -/

/-- The descriptor of an entry that connects, once `TCP_NODELAY` is set on it; `-1` when that
fails. -/
def connectedResult (c : AddrInfo) : Int :=
  match c.socket, c.nodelay with
  | .ok fd, .ok () => fd
  | _, _ => -1

/-- Dialling the entries in turn: the first that connects decides; with none, `-2` when the last
wait that failed timed out (`te` carries that so far), else `-1`. -/
def dial (te : Bool) : List AddrInfo → Int
  | [] => if te then -2 else -1
  | x :: l => if Connects x then connectedResult x else dial (timeoutStep te x) l

/-- The outcome of a call from `getaddrinfo`'s answer. -/
def dialResult : Ret (List AddrInfo) → Int
  | .err _ => -1
  | .ok l => dial false l

theorem dial_of_none {l : List AddrInfo} (h : ∀ x ∈ l, ¬ Connects x) (te : Bool) :
    dial te l = if l.foldl timeoutStep te then -2 else -1 := by
  induction l generalizing te with
  | nil => rfl
  | cons x l ih => rw [dial, if_neg (h x (.head _)), ih (fun y hy => h y (.tail _ hy))]; rfl

theorem dial_first {pre post : List AddrInfo} {c : AddrInfo} (hpre : ∀ x ∈ pre, ¬ Connects x)
    (hc : Connects c) (te : Bool) : dial te (pre ++ c :: post) = connectedResult c := by
  induction pre generalizing te with
  | nil => exact if_pos hc
  | cons x pre ih =>
    rw [List.cons_append, dial, if_neg (hpre x (.head _))]
    exact ih (fun y hy => hpre y (.tail _ hy)) _

/-- **The result is the dial's outcome**, whatever the timeout and the state on entry: it depends
on the system's answers only, `errno` being read only after the failed wait that set it. -/
theorem getMysqlSocket_fst_eq_dial (gai : Ret (List AddrInfo)) (t : Int) (s : Sys) :
    (getMysqlSocket gai t s).1 = dialResult gai := by
  rcases getMysqlSocket_cases gai t s with ⟨e, rfl, he⟩ | ⟨l, rfl, h, s', he, -⟩ |
      ⟨pre, c, post, fd, rfl, hpre, hc, hfd, s', he, -⟩ <;> rw [he]
  · rfl
  · rw [dialResult, dial_of_none h]
  · rw [dialResult, dial_first hpre hc]
    cases hn : c.nodelay <;> simp [connectedResult, hfd, hn]

end MysqlRouter.Routing.Proof
