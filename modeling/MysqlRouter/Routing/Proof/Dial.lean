import MysqlRouter.Routing.SocketOperations

/-!
# What one dial does

`get_mysql_socket` as a connect procedure, over every `getaddrinfo` result and every answer of
the system to every call:

* `Connects`: an entry connects when its socket opens, and `connect` succeeds at once or
  reports `EINPROGRESS` and the wait then sees it writable with `SO_ERROR` 0.
* `tryConnect_spec`: the loop body, once, for every entry (`attemptCalls`, `waitFailure`).
* `connectLoop_none`, `connectLoop_found`: the loop runs off the end when no entry connects,
  and otherwise stops at the first entry that connects, having made `failCalls` for each entry
  before it.
* `getMysqlSocket_none`, `getMysqlSocket_found`: the whole call in the two cases, with the
  calls it makes; `getMysqlSocket_cases` joins them with a failed `getaddrinfo`, and every
  property of a dial is read off it.
-/

namespace MysqlRouter.Routing.Proof

open MysqlRouter.Routing

/-! ## Entries -/

/-- `connect` succeeded at once, or reported `EINPROGRESS` and `poll` then reported the socket
writable with `SO_ERROR` 0. -/
def ConnectOk (info : AddrInfo) : Prop :=
  info.connect = .ok () ∨
    info.connect = .err EINPROGRESS ∧ info.poll.writable ∧ info.soError = .ok 0

/-- The entry connects: its socket opens and `ConnectOk`. -/
def Connects (info : AddrInfo) : Prop := info.socket.isOk ∧ ConnectOk info

instance (info : AddrInfo) : Decidable (ConnectOk info) := instDecidableOr
instance (info : AddrInfo) : Decidable (Connects info) := instDecidableAnd

/-- What `connect_non_blocking_wait` leaves in `errno` when it fails. -/
def waitErrno : PollResult → Int
  | .error e => e
  | .timeout => ETIMEDOUT
  | .ready _ => EINVAL

/-- How the wait for the entry failed, when the loop waited for it and the wait failed:
`some true` when `errno` was then `ETIMEDOUT`. -/
def waitFailure (info : AddrInfo) : Option Bool :=
  if info.socket.isOk ∧ info.connect = .err EINPROGRESS ∧ ¬ info.poll.writable then
    some (decide (waitErrno info.poll = ETIMEDOUT))
  else none

/-- `timeout_expired` after the loop has seen `info`. -/
def timeoutStep (timeoutExpired : Bool) (info : AddrInfo) : Bool :=
  (waitFailure info).getD timeoutExpired

/-- The calls the loop makes for an entry after `::socket` opened `fd`. -/
def attemptCalls (fd t : Int) (info : AddrInfo) : List Call :=
  .connect fd ::
    if info.connect = .err EINPROGRESS then
      .poll fd (toInt32 t) :: if info.poll.writable then [.getsockopt fd] else []
    else []

/-- The calls the loop makes for an entry that does not connect. -/
def failCalls (t : Int) (info : AddrInfo) : List Call :=
  .socket info.socket ::
    match info.socket with
    | .ok fd => attemptCalls fd t info ++ [.close fd]
    | .err _ => []

@[simp] theorem sockets_attemptCalls (fd t : Int) (info : AddrInfo) :
    sockets (attemptCalls fd t info) = [] := by
  unfold attemptCalls; split_ifs <;> rfl

@[simp] theorem fdEvents_attemptCalls (fd t : Int) (info : AddrInfo) :
    fdEvents (attemptCalls fd t info) = [] := by
  unfold attemptCalls; split_ifs <;> rfl

@[simp] theorem frees_attemptCalls (fd t : Int) (info : AddrInfo) :
    frees (attemptCalls fd t info) = 0 := by
  unfold attemptCalls; split_ifs <;> rfl

theorem polls_attemptCalls (fd t : Int) (info : AddrInfo) :
    polls (attemptCalls fd t info) =
      if info.connect = .err EINPROGRESS then [(fd, toInt32 t)] else [] := by
  unfold attemptCalls; split_ifs <;> rfl

@[simp] theorem sockets_failCalls (t : Int) (info : AddrInfo) :
    sockets (failCalls t info) = [info.socket] := by
  unfold failCalls; split <;> simp [Call.socket?]

@[simp] theorem frees_failCalls (t : Int) (info : AddrInfo) : frees (failCalls t info) = 0 := by
  unfold failCalls; split <;> simp

/-! ## The loop body -/

theorem connectNonBlockingWait_eq (sock t : Int) (r : PollResult) (s : Sys) :
    connectNonBlockingWait sock t r s =
      if r.writable then (0, s.call (.poll sock (toInt32 t)))
      else (-1, (s.call (.poll sock (toInt32 t))).setErrno (waitErrno r)) := by
  simp only [connectNonBlockingWait, poll, Sys.poll]
  cases r with
  | ready rv => by_cases hw : rv &&& POLLOUT = 0 <;> simp [PollResult.writable, waitErrno, hw]
  | _ => simp [PollResult.writable, waitErrno]

theorem tryConnect_fields (fd t : Int) (info : AddrInfo) (te : Bool) (s : Sys)
    (hs : info.socket.isOk) :
    (tryConnect fd t info te s).1 = decide (ConnectOk info) ∧
    (tryConnect fd t info te s).2.1 = timeoutStep te info ∧
    (tryConnect fd t info te s).2.2.flags =
      Function.update s.flags fd (s.flags fd ||| O_NONBLOCK) ∧
    (tryConnect fd t info te s).2.2.calls = s.calls ++ attemptCalls fd t info := by
  obtain ⟨so, fl, conn, pl, err, nd⟩ := info
  simp only [tryConnect, setSocketBlocking, ConnectOk, timeoutStep, waitFailure, attemptCalls,
    connectNonBlockingWait_eq, connectNonBlockingStatus, Sys.connect, Sys.retCall, Sys.getsockopt]
  cases conn with
  | ok => simp
  | err e =>
    by_cases he : e = EINPROGRESS
    case neg => simp [he]
    subst he
    by_cases hw : pl.writable
    case neg => simp [hs, hw]
    cases err with
    | ok v => by_cases hv : v = 0 <;> simp [hw, hv]
    | err e => simp [hw]

theorem tryConnect_spec (fd t : Int) (info : AddrInfo) (te : Bool) (s : Sys)
    (hs : info.socket.isOk) :
    ∃ s', tryConnect fd t info te s = (decide (ConnectOk info), timeoutStep te info, s') ∧
      s'.flags = Function.update s.flags fd (s.flags fd ||| O_NONBLOCK) ∧
      s'.calls = s.calls ++ attemptCalls fd t info := by
  obtain ⟨h1, h2, h3, h4⟩ := tryConnect_fields fd t info te s hs
  exact ⟨_, Prod.ext h1 (Prod.ext h2 rfl), h3, h4⟩

/-! ## The loop -/

/-- One round of the loop for an entry that does not connect. -/
theorem connectLoop_cons_fail (t : Int) (info : AddrInfo) (rest : List AddrInfo) (te : Bool)
    (s : Sys) (h : ¬ Connects info) :
    ∃ s', connectLoop t (info :: rest) te s = connectLoop t rest (timeoutStep te info) s' ∧
      s'.calls = s.calls ++ failCalls t info := by
  cases hso : info.socket with
  | err e => exact ⟨(s.call (.socket info.socket)).setErrno e,
      by simp [connectLoop, Sys.socket, hso, timeoutStep, waitFailure, Ret.isOk],
      by simp [failCalls, hso]⟩
  | ok fd =>
    have hs : info.socket.isOk := by simp [hso, Ret.isOk]
    obtain ⟨s', he, -, hc⟩ := tryConnect_spec fd t info te
      ((s.call (.socket info.socket)).setFlags fd info.flags) hs
    have hn : ¬ ConnectOk info := fun hc => h ⟨hs, hc⟩
    refine ⟨s'.close fd, ?_, by simp [Sys.close, hc, failCalls, hso]⟩
    simp only [connectLoop, Sys.socket, hso] at he ⊢
    simp [he, hn]

/-- The loop runs off the end of a list in which no entry connects. -/
theorem connectLoop_none (t : Int) :
    ∀ (l : List AddrInfo) (te : Bool) (s : Sys), (∀ x ∈ l, ¬ Connects x) →
      ∃ s', connectLoop t l te s = (none, l.foldl timeoutStep te, s') ∧
        s'.calls = s.calls ++ l.flatMap (failCalls t)
  | [], te, s, _ => ⟨s, rfl, by simp⟩
  | info :: rest, te, s, h => by
    obtain ⟨s₁, he₁, hc₁⟩ := connectLoop_cons_fail t info rest te s (h info (.head _))
    obtain ⟨s₂, he₂, hc₂⟩ := connectLoop_none t rest (timeoutStep te info) s₁
      fun x hx => h x (.tail _ hx)
    exact ⟨s₂, by rw [he₁, he₂, List.foldl_cons], by simp [hc₂, hc₁]⟩

/-- The loop stops at the first entry that connects. -/
theorem connectLoop_found (t : Int) {c : AddrInfo} {fd : Nat} (hfd : c.socket = .ok fd)
    (hc : ConnectOk c) (post : List AddrInfo) :
    ∀ (pre : List AddrInfo) (te : Bool) (s : Sys), (∀ x ∈ pre, ¬ Connects x) →
      ∃ te' s', connectLoop t (pre ++ c :: post) te s = (some ((fd : Int), c), te', s') ∧
        s'.flags fd = c.flags ||| O_NONBLOCK ∧
        s'.calls = s.calls ++ pre.flatMap (failCalls t) ++ .socket c.socket :: attemptCalls fd t c
  | [], te, s, _ => by
    obtain ⟨s', he, hf, hcl⟩ := tryConnect_spec fd t c te
      ((s.call (.socket c.socket)).setFlags fd c.flags) (by simp [hfd, Ret.isOk])
    refine ⟨timeoutStep te c, s', ?_, by simp [hf], by simp [hcl]⟩
    simp only [List.nil_append, connectLoop, Sys.socket, hfd] at he ⊢
    simp [he, hc]
  | info :: pre, te, s, h => by
    obtain ⟨s₁, he₁, hc₁⟩ := connectLoop_cons_fail t info (pre ++ c :: post) te s
      (h info (.head _))
    obtain ⟨te', s₂, he₂, hf₂, hc₂⟩ := connectLoop_found t hfd hc post pre (timeoutStep te info) s₁
      fun x hx => h x (.tail _ hx)
    exact ⟨te', s₂, by rw [List.cons_append, he₁, he₂], hf₂, by simp [hc₂, hc₁]⟩

/-! ## The call -/

theorem or_and_not_self (a b : BitVec 32) : (a ||| b) &&& ~~~b = a &&& ~~~b := by
  ext i; simp; cases a.getLsbD i <;> cases b.getLsbD i <;> simp

theorem Connects.socket_eq {c : AddrInfo} (h : Connects c) : ∃ fd : Nat, c.socket = .ok fd := by
  obtain ⟨hs, -⟩ := h
  cases hc : c.socket with
  | ok fd => exact ⟨fd, rfl⟩
  | err e => simp [hc, Ret.isOk] at hs

/-- Either no entry connects, or there is a first one. -/
theorem first_connects (l : List AddrInfo) :
    (∀ x ∈ l, ¬ Connects x) ∨
      ∃ pre c post, l = pre ++ c :: post ∧ (∀ x ∈ pre, ¬ Connects x) ∧ Connects c := by
  cases h : l.find? (fun x => decide (Connects x)) with
  | none => exact .inl (by simpa using h)
  | some c =>
    obtain ⟨hc, pre, post, rfl, hpre⟩ := List.find?_eq_some.1 h
    exact .inr ⟨pre, c, post, rfl, by simpa using hpre, by simpa using hc⟩

/-- **No entry connects**: `-2` or `-1` from `timeout_expired`, after one round per entry. -/
theorem getMysqlSocket_none (l : List AddrInfo) (t : Int) (s : Sys) (h : ∀ x ∈ l, ¬ Connects x) :
    ∃ s', getMysqlSocket (.ok l) t s = (if l.foldl timeoutStep false then -2 else -1, s') ∧
      s'.calls = s.calls ++ l.flatMap (failCalls t) ++
        (if l.isEmpty then [] else [.freeaddrinfo]) := by
  obtain ⟨s₁, he, hc⟩ := connectLoop_none t l false s h
  refine ⟨if l.isEmpty then s₁ else s₁.freeaddrinfo, by simp [getMysqlSocket, he], ?_⟩
  split <;> simp [hc, Sys.freeaddrinfo]

/-- **A first entry connects**: its descriptor, blocking again, unless `TCP_NODELAY` fails. -/
theorem getMysqlSocket_found (t : Int) {c : AddrInfo} {fd : Nat} (hfd : c.socket = .ok fd)
    (hc : ConnectOk c) (pre post : List AddrInfo) (hpre : ∀ x ∈ pre, ¬ Connects x) (s : Sys) :
    ∃ s', getMysqlSocket (.ok (pre ++ c :: post)) t s =
        (if c.nodelay = .ok () then (fd : Int) else -1, s') ∧
      s'.flags fd = c.flags &&& ~~~O_NONBLOCK ∧
      s'.calls = s.calls ++ pre.flatMap (failCalls t) ++ .socket c.socket ::
        attemptCalls fd t c ++ .setsockopt fd ::
          (if c.nodelay = .ok () then [] else [.close fd]) ++ [.freeaddrinfo] := by
  obtain ⟨te, s₁, he, hf, hc₁⟩ := connectLoop_found t hfd hc post pre false s hpre
  cases hn : c.nodelay with
  | ok => exact ⟨_, by simp [getMysqlSocket, he, hn, Sys.setsockopt, Sys.retCall]; rfl,
      by simp [setSocketBlocking, Sys.freeaddrinfo, hf, or_and_not_self],
      by simp [setSocketBlocking, Sys.freeaddrinfo, hc₁]⟩
  | err e => exact ⟨_, by simp [getMysqlSocket, he, hn, Sys.setsockopt, Sys.retCall]; rfl,
      by simp [setSocketBlocking, Sys.freeaddrinfo, Sys.close, hf, or_and_not_self],
      by simp [setSocketBlocking, Sys.freeaddrinfo, Sys.close, hc₁]⟩

/-- **The three shapes of a call**: `getaddrinfo` failed; no entry connects; a first entry
connects. -/
theorem getMysqlSocket_cases (gai : Ret (List AddrInfo)) (t : Int) (s : Sys) :
    (∃ e, gai = .err e ∧ getMysqlSocket gai t s = (-1, s)) ∨
    (∃ l, gai = .ok l ∧ (∀ x ∈ l, ¬ Connects x) ∧ ∃ s',
      getMysqlSocket gai t s = (if l.foldl timeoutStep false then -2 else -1, s') ∧
      s'.calls = s.calls ++ l.flatMap (failCalls t) ++
        (if l.isEmpty then [] else [.freeaddrinfo])) ∨
    (∃ pre c post, ∃ fd : Nat, gai = .ok (pre ++ c :: post) ∧ (∀ x ∈ pre, ¬ Connects x) ∧
      Connects c ∧ c.socket = .ok fd ∧ ∃ s',
        getMysqlSocket gai t s = (if c.nodelay = .ok () then (fd : Int) else -1, s') ∧
        s'.flags fd = c.flags &&& ~~~O_NONBLOCK ∧
        s'.calls = s.calls ++ pre.flatMap (failCalls t) ++ .socket c.socket ::
          attemptCalls fd t c ++ .setsockopt fd ::
            (if c.nodelay = .ok () then [] else [.close fd]) ++ [.freeaddrinfo]) := by
  cases gai with
  | err e => exact .inl ⟨e, rfl, rfl⟩
  | ok l =>
    rcases first_connects l with h | ⟨pre, c, post, rfl, hpre, hc⟩
    · exact .inr (.inl ⟨l, rfl, h, getMysqlSocket_none l t s h⟩)
    · obtain ⟨fd, hfd⟩ := hc.socket_eq
      exact .inr (.inr ⟨pre, c, post, fd, rfl, hpre, hc, hfd,
        getMysqlSocket_found t hfd hc.2 pre post hpre s⟩)

end MysqlRouter.Routing.Proof
