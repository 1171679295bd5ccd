import MysqlRouter.Routing.Proof.GetMysqlSocket

/-!
# What dialling touches

`get_mysql_socket` changes the file-status flags of its own descriptors only, tries the entries
of the `getaddrinfo` list in order, each at most once, and leaves no descriptor open but the one
it returns:

* `FlagsFrame s t`: the calls of `t` extend those of `s`, and every descriptor the new calls did
  not open has the flags it had in `s`. It holds from the start (`FlagsFrame.refl`) and is kept
  by every call the loop makes (`FlagsFrame.call`, `FlagsFrame.update`), so by the loop
  (`connectLoop_frame`) and by the whole call (`getMysqlSocket_flags_frame`).
* `getMysqlSocket_tries_in_order`: `::socket` is called for the entries `attempted` (every one,
  or up to and including the first that connects: a prefix of the list), in list order, and
  `::connect` once on each socket that opened.
* `dialRun_clean`: over any run of calls (`dialRun`), replayed against the open descriptors
  (`useRun`), every call on a descriptor is on an open one, those left open are the results that
  are descriptors, and the flags frame holds from the start of the run.
-/

namespace MysqlRouter.Routing.Proof

open MysqlRouter.Routing

/-! ## The flags frame -/

/-- `t` comes after `s`: its calls extend those of `s`, and a descriptor that the new calls did
not open has the flags it had in `s`. -/
def FlagsFrame (s t : Sys) : Prop :=
  ∃ cs, t.calls = s.calls ++ cs ∧ ∀ fd, .opened fd ∉ fdEvents cs → t.flags fd = s.flags fd

/-- `fd` was opened by a call made after `s`. -/
def OpenedSince (s t : Sys) (fd : Int) : Prop :=
  ∃ cs, t.calls = s.calls ++ cs ∧ .opened fd ∈ fdEvents cs

section
variable {s₀ s t : Sys}

theorem FlagsFrame.refl (s : Sys) : FlagsFrame s s := ⟨[], by simp, fun _ _ => rfl⟩

theorem FlagsFrame.call (h : FlagsFrame s₀ s) (c : Call) : FlagsFrame s₀ (s.call c) := by
  obtain ⟨cs, hc, hf⟩ := h
  exact ⟨cs ++ [c], by simp [hc], fun fd hfd => hf fd fun hm => hfd (by simp [hm])⟩

/-- A write of the flags of a descriptor opened since `s₀`. -/
theorem FlagsFrame.update {fd : Int} {v : BitVec 32} {cs' : List Call} (h : FlagsFrame s₀ s)
    (ho : OpenedSince s₀ s fd) (hc : t.calls = s.calls ++ cs')
    (hf : t.flags = Function.update s.flags fd v) : FlagsFrame s₀ t := by
  obtain ⟨cs, hcs, hfl⟩ := h
  obtain ⟨cs₀, hcs₀, hm⟩ := ho
  rw [List.append_cancel_left (hcs₀.symm.trans hcs)] at hm
  refine ⟨cs ++ cs', by simp [hc, hcs], fun fd' h' => ?_⟩
  have hne : fd' ≠ fd := by rintro rfl; exact h' (by simp [hm])
  rw [hf, Function.update_noteq hne]
  exact hfl fd' fun hm' => h' (by simp [hm'])

theorem OpenedSince.extend {fd : Int} {cs' : List Call} (h : OpenedSince s₀ s fd)
    (hc : t.calls = s.calls ++ cs') : OpenedSince s₀ t fd := by
  obtain ⟨cs, hcs, hm⟩ := h
  exact ⟨cs ++ cs', by simp [hc, hcs], by simp [hm]⟩

theorem FlagsFrame.retCall (h : FlagsFrame s₀ s) (c : Call) (r : Ret Unit) :
    FlagsFrame s₀ (s.retCall c r).2 := by
  cases r <;> exact h.call c

/-- `::socket` answered by `fd`: the new descriptor is opened since `s₀`, and only its flags
are set. -/
theorem FlagsFrame.socket_ok (h : FlagsFrame s₀ s) (fd : Nat) (fl : BitVec 32) :
    FlagsFrame s₀ ((s.call (.socket (.ok fd))).setFlags fd fl) ∧
      OpenedSince s₀ ((s.call (.socket (.ok fd))).setFlags fd fl) fd := by
  obtain ⟨cs, hc, -⟩ := id h
  have ho : OpenedSince s₀ (s.call (.socket (.ok fd))) fd :=
    ⟨cs ++ [.socket (.ok fd)], by simp [hc], by simp [Call.fdEvent]⟩
  exact ⟨(h.call _).update ho (List.append_nil _).symm rfl,
    ho.extend (List.append_nil _).symm⟩

end

/-! ## The loop and the call -/

/-- Every round of the loop keeps the frame, and the socket it stops at was opened in it. -/
theorem connectLoop_frame (t : Int) (s₀ : Sys) :
    ∀ (l : List AddrInfo) (te : Bool) (s : Sys), FlagsFrame s₀ s →
      FlagsFrame s₀ (connectLoop t l te s).2.2 ∧ ∀ sock info,
        (connectLoop t l te s).1 = some (sock, info) →
          OpenedSince s₀ (connectLoop t l te s).2.2 sock
  | [], _, _, h => ⟨h, by simp [connectLoop]⟩
  | info :: rest, te, s, h => by
    cases hso : info.socket with
    | err e =>
      have := connectLoop_frame t s₀ rest te ((s.call (.socket info.socket)).setErrno e)
        (h.call _)
      simpa [connectLoop, Sys.socket, hso] using this
    | ok fd =>
      obtain ⟨h₁, ho₁⟩ := h.socket_ok fd info.flags
      obtain ⟨s₂, he, hf, hc⟩ := tryConnect_spec fd t info te
        ((s.call (.socket (.ok fd))).setFlags fd info.flags) (by simp [hso, Ret.isOk])
      have h₂ : FlagsFrame s₀ s₂ := h₁.update ho₁ hc hf
      simp only [connectLoop, Sys.socket, hso]
      rw [he]
      by_cases hg : ConnectOk info
      · simpa [hg] using ⟨h₂, ho₁.extend hc⟩
      · simpa [hg] using connectLoop_frame t s₀ rest _ (s₂.close fd) (h₂.call _)

/-- **Only its own descriptors.** `get_mysql_socket` leaves the flags of every descriptor that
its calls did not open as they were. -/
theorem getMysqlSocket_flags_frame (gai : Ret (List AddrInfo)) (t : Int) (s : Sys) :
    FlagsFrame s (getMysqlSocket gai t s).2 := by
  cases gai with
  | err => exact FlagsFrame.refl s
  | ok l =>
    obtain ⟨hf, ho⟩ := connectLoop_frame t s l false s (FlagsFrame.refl s)
    have hguard (s' : Sys) (h : FlagsFrame s s') :
        FlagsFrame s (if l.isEmpty then s' else s'.freeaddrinfo) := by
      split
      · exact h
      · exact h.call _
    rcases hr : connectLoop t l false s with ⟨_ | ⟨sock, info⟩, te, s₁⟩ <;>
      simp only [getMysqlSocket, hr] <;> rw [hr] at hf ho
    · exact hguard s₁ hf
    · have hb := hf.update (ho sock info rfl) (t := setSocketBlocking sock true s₁)
        (List.append_nil _).symm rfl
      split
      · exact hguard _ ((hb.retCall _ _).call _)
      · exact hguard _ (hb.retCall _ _)

/-! ## The entries tried -/

@[simp] theorem connectFds_attemptCalls (fd t : Int) (info : AddrInfo) :
    connectFds (attemptCalls fd t info) = [fd] := by
  unfold attemptCalls; split_ifs <;> rfl

theorem connectFds_failCalls (t : Int) (x : AddrInfo) :
    connectFds (failCalls t x) = openedFd x := by
  unfold failCalls openedFd; cases x.socket <;> simp [Call.connect?]

theorem connectFds_flatMap_failCalls (t : Int) (l : List AddrInfo) :
    connectFds (l.flatMap (failCalls t)) = l.flatMap openedFd := by
  induction l <;> simp [*, connectFds_failCalls]

/-- The entries of a call that the loop tries. -/
def attempted : Ret (List AddrInfo) → List AddrInfo
  | .ok l => tried l
  | .err _ => []

theorem tried_prefix (l : List AddrInfo) : tried l <+: l := by
  induction l with
  | nil => exact List.prefix_refl _
  | cons x l ih =>
    unfold tried
    split
    · exact (List.prefix_cons_inj x).2 (List.nil_prefix ..)
    · exact (List.prefix_cons_inj x).2 ih

/-- **In order, each at most once.** `::socket` is called for the entries the loop tries, a
prefix of the list, in its order, and `::connect` once on each socket of theirs that opened. -/
theorem getMysqlSocket_tries_in_order (gai : Ret (List AddrInfo)) (t : Int) (s : Sys) :
    (∀ l, gai = .ok l → attempted gai <+: l) ∧
    sockets (getMysqlSocket gai t s).2.calls =
        sockets s.calls ++ (attempted gai).map AddrInfo.socket ∧
      connectFds (getMysqlSocket gai t s).2.calls =
        connectFds s.calls ++ (attempted gai).flatMap openedFd := by
  refine ⟨fun l h => h ▸ tried_prefix l, ?_⟩
  rcases getMysqlSocket_cases gai t s with ⟨e, rfl, he⟩ | ⟨l, rfl, h, s', he, hcalls⟩ |
      ⟨pre, c, post, fd, rfl, hpre, hc, hfd, s', he, -, hcalls⟩ <;> rw [he]
  · simp [attempted]
  · rw [hcalls, attempted, tried_of_none h]
    split <;> simp [sockets_flatMap_failCalls, connectFds_flatMap_failCalls, Call.socket?,
      Call.connect?]
  · rw [hcalls, attempted, tried_first hpre hc]
    split <;> simp [sockets_flatMap_failCalls, connectFds_flatMap_failCalls, Call.socket?,
      Call.connect?, openedFd, hfd]

/-! ## Runs of calls -/

/-- Successive `get_mysql_socket` calls of one process, each with its `getaddrinfo` answer and
timeout: their results, in order, and the state after. -/
def dialRun : List (Ret (List AddrInfo) × Int) → Sys → List Int × Sys
  | [], s => ([], s)
  | (gai, t) :: rest, s =>
    let (rs, s') := dialRun rest (getMysqlSocket gai t s).2
    ((getMysqlSocket gai t s).1 :: rs, s')

@[simp] theorem dialRun_nil (s : Sys) : dialRun [] s = ([], s) := rfl

@[simp] theorem dialRun_cons (gai : Ret (List AddrInfo)) (t : Int)
    (rest : List (Ret (List AddrInfo) × Int)) (s : Sys) :
    dialRun ((gai, t) :: rest) s =
      ((getMysqlSocket gai t s).1 :: (dialRun rest (getMysqlSocket gai t s).2).1,
        (dialRun rest (getMysqlSocket gai t s).2).2) := rfl

theorem FlagsFrame.trans {s₀ s t : Sys} (h₁ : FlagsFrame s₀ s) (h₂ : FlagsFrame s t) :
    FlagsFrame s₀ t := by
  obtain ⟨cs₁, hc₁, hf₁⟩ := h₁
  obtain ⟨cs₂, hc₂, hf₂⟩ := h₂
  refine ⟨cs₁ ++ cs₂, by rw [hc₂, hc₁, List.append_assoc], fun fd h => ?_⟩
  rw [fdEvents_append, List.mem_append, not_or] at h
  rw [hf₂ fd h.2, hf₁ fd h.1]

/-- **Clean over any run.** Over successive calls replayed from the open descriptors `o`, every
call on a descriptor is on an open one, the descriptors left open are those of `o` and the
results that are descriptors, and only the flags of descriptors the run opened change. -/
theorem dialRun_clean (runs : List (Ret (List AddrInfo) × Int)) (s : Sys) (o : List Int) :
    FlagsFrame s (dialRun runs s).2 ∧ ∃ cs, (dialRun runs s).2.calls = s.calls ++ cs ∧
      useRun o cs = some ((dialRun runs s).1.reverse.flatMap openedBy ++ o) := by
  induction runs generalizing s o with
  | nil => exact ⟨FlagsFrame.refl s, [], by simp, rfl⟩
  | cons run rest ih =>
    obtain ⟨gai, t⟩ := run
    obtain ⟨cs₁, hc₁, hu₁⟩ := getMysqlSocket_replay gai t s o
    obtain ⟨hf, cs₂, hc₂, hu₂⟩ := ih (getMysqlSocket gai t s).2
      (openedBy (getMysqlSocket gai t s).1 ++ o)
    refine ⟨(getMysqlSocket_flags_frame gai t s).trans hf, cs₁ ++ cs₂, ?_, ?_⟩
    · rw [dialRun_cons, hc₂, hc₁, List.append_assoc]
    · rw [useRun_append, hu₁, Option.some_bind, hu₂, dialRun_cons, List.reverse_cons,
        List.flatMap_append, List.flatMap_singleton, List.append_assoc]

end MysqlRouter.Routing.Proof
