import Mathlib.Data.List.Forall2
import MysqlRouter.MetadataCache.PluginConfig

/-!
# What `get_bootstrap_servers` returns

`pieces l` is `l` split at every `','`, with the empty piece after a trailing `','` (and the one
piece of an empty `l`) left out: what the `std::getline(ss, address, ',')` loop reads
(`pieces_of_getline`). The loop is then a `mapM` of the parser over the pieces, its first
`std::runtime_error` turned into the `std::invalid_argument` it throws
(`getBootstrapServersLoop_eq`): an error exactly when some piece does not parse, and otherwise
one address per piece, in order (`getBootstrapServers_pieces`).

The pieces are the value cut at its commas and nothing else (`pieces_intercalate`), and a list
of addresses, when there is one, has one address per piece, each from its own piece
(`getBootstrapServers_ok`).
-/

namespace MysqlRouter.MetadataCache.Proof

open MysqlRouter MysqlRouter.MetadataCache

/-- The pieces of `l` between its commas, as `std::getline` reads them. -/
def pieces (l : List Char) : List (List Char) :=
  let fs := l.splitOn ','
  if fs.getLast? = some [] then fs.dropLast else fs

/-- The address of a parsed piece: its host, and its port unless that is `0`. -/
def tcpAddressOf (defaultPort : UInt16) (u : URI) : TCPAddress :=
  ⟨u.host, if u.port = 0 then defaultPort else u.port⟩

/-- The address each piece gives, or the parser's error. -/
def bindAddress (parse : String → Except String URI) (defaultPort : UInt16) (p : List Char) :
    Except String TCPAddress :=
  tcpAddressOf defaultPort <$> parse (String.mk p)

/-! ## The pieces `getline` reads -/

theorem pieces_nil : pieces [] = [] := rfl

theorem getline_eq_none {ss : List Char} {delim : Char} : getline ss delim = none ↔ ss = [] := by
  cases ss <;> simp [getline]

theorem splitOn_of_not_mem {l : List Char} (h : ',' ∉ l) : l.splitOn ',' = [l] :=
  List.splitOnP_eq_single _ _ fun x hx hp => h (by simpa using (beq_iff_eq.1 hp) ▸ hx)

/-- A piece that `getline` ends at a `','` is the first piece of `splitOn`. -/
theorem splitOn_getline {ss piece rest : List Char} (h : getline ss ',' = some (piece, rest))
    (hc : ',' ∈ ss) : ss.splitOn ',' = piece :: rest.splitOn ',' := by
  cases ss with
  | nil => cases h
  | cons c cs =>
    simp only [getline, Option.some.injEq, Prod.mk.injEq] at h
    obtain ⟨rfl, rfl⟩ := h
    have hne : (c :: cs).dropWhile (· ≠ ',') ≠ [] := fun h0 =>
      absurd (List.dropWhile_eq_nil_iff.1 h0 ',' hc) (by simp)
    obtain ⟨x, xs, hd⟩ := List.exists_cons_of_ne_nil hne
    have hx : x = ',' := by
      have := List.head?_dropWhile_not (fun y => decide (y ≠ ',')) (c :: cs)
      rw [hd] at this
      simpa using this
    have hsplit := List.takeWhile_append_dropWhile (fun y => decide (y ≠ ',')) (c :: cs)
    rw [hd, hx] at hsplit
    rw [hd, hx, List.drop_one, List.tail_cons]
    conv_lhs => rw [← hsplit]
    have hpre : ∀ y ∈ (c :: cs).takeWhile (· ≠ ','), ¬(y == ',') := fun y hy hp => by
      simpa [beq_iff_eq.1 hp] using List.mem_takeWhile_imp hy
    exact List.splitOnP_first _ _ hpre ',' (beq_self_eq_true _) xs

/-- One `getline` reads the first of the pieces. -/
theorem pieces_of_getline {ss piece rest : List Char} (h : getline ss ',' = some (piece, rest)) :
    pieces ss = piece :: pieces rest := by
  by_cases hc : ',' ∈ ss
  · obtain ⟨f, fs, hf⟩ := List.exists_cons_of_ne_nil (List.splitOnP_ne_nil (· == ',') rest)
    have hf : rest.splitOn ',' = f :: fs := hf
    simp only [pieces, splitOn_getline h hc, hf, List.getLast?_cons_cons, List.dropLast_cons₂]
    split_ifs <;> rfl
  · cases ss with
    | nil => cases h
    | cons c cs =>
      simp only [getline, Option.some.injEq, Prod.mk.injEq] at h
      obtain ⟨rfl, rfl⟩ := h
      have hall : ∀ y ∈ c :: cs, decide (y ≠ ',') := fun y hy => by
        simpa using ne_of_mem_of_not_mem hy hc
      rw [List.takeWhile_eq_self_iff.2 hall, List.dropWhile_eq_nil_iff.2 hall]
      simp [pieces, splitOn_of_not_mem hc]

example : pieces "a,,b,".toList = ["a".toList, [], "b".toList] := by decide

/-! ## The pieces give the value back

`List.intercalate_splitOn` joins the `splitOn` pieces back into the value; what is left to show
is that no piece holds a `','` and that dropping the empty piece after a trailing `','` loses
only that `','`. -/

/-- No piece of `splitOn` holds the separator. -/
theorem not_mem_of_mem_splitOn {l p : List Char} (hp : p ∈ l.splitOn ',') : ',' ∉ p := by
  induction l generalizing p with
  | nil => rw [List.splitOn_nil, List.mem_singleton] at hp; subst hp; exact List.not_mem_nil _
  | cons c l ih =>
    unfold List.splitOn at hp ih
    rw [List.splitOnP_cons] at hp
    split at hp
    · exact (List.mem_cons.1 hp).elim (fun h => h ▸ List.not_mem_nil _) ih
    · next hc =>
      obtain ⟨f, fs, hf⟩ := List.exists_cons_of_ne_nil (List.splitOnP_ne_nil (· == ',') l)
      rw [hf, List.modifyHead_cons] at hp
      rw [hf] at ih
      rcases List.mem_cons.1 hp with rfl | hp
      · simpa [eq_comm] using And.intro (fun h => hc (by simp [h])) (ih (.head _))
      · exact ih (.tail _ hp)

theorem intercalate_cons_cons (a b : List Char) (ps : List (List Char)) :
    [','].intercalate (a :: b :: ps) = a ++ ',' :: [','].intercalate (b :: ps) := by
  simp [List.intercalate, List.intersperse_cons_cons]

theorem intercalate_concat (ds : List (List Char)) (f : List Char) :
    [','].intercalate (ds ++ [f]) = if ds = [] then f else [','].intercalate ds ++ ',' :: f := by
  induction ds with
  | nil => simp [List.intercalate]
  | cons d ds ih =>
    rw [if_neg (List.cons_ne_nil _ _), List.cons_append]
    cases ds with
    | nil => simp [List.intercalate, List.intersperse_cons_cons]
    | cons d' ds =>
      rw [List.cons_append, intercalate_cons_cons, ← List.cons_append, ih,
        if_neg (List.cons_ne_nil _ _), intercalate_cons_cons]
      simp

/-- **Nothing lost, nothing merged.** No piece holds a `','`, and the pieces joined with `','`
give the value back, up to the trailing `','` whose empty piece is left out. -/
theorem pieces_intercalate (ss : List Char) :
    (∀ p ∈ pieces ss, ',' ∉ p) ∧
      [','].intercalate (pieces ss) ++ (if ss.getLast? = some ',' then [','] else []) = ss := by
  have hsub : pieces ss ⊆ ss.splitOn ',' := by
    unfold pieces; dsimp only; split
    · exact (List.dropLast_sublist _).subset
    · exact List.Subset.refl _
  refine ⟨fun p hp => not_mem_of_mem_splitOn (hsub hp), ?_⟩
  have hround := List.intercalate_splitOn ss ','
  obtain ⟨ds, f, hfs⟩ : ∃ ds f, ss.splitOn ',' = ds ++ [f] := by
    simpa using (List.eq_nil_or_concat _).resolve_left (List.splitOnP_ne_nil _ ss)
  rw [hfs, intercalate_concat] at hround
  simp only [pieces, hfs, List.getLast?_concat]
  by_cases hf : f = []
  · -- the value is empty or ends in `','`: its empty last piece is dropped
    subst hf
    rw [if_pos rfl, List.dropLast_concat]
    split at hround
    · subst_vars; rfl
    · rw [← hround]; simp
  · -- the last piece is not empty and holds no `','`, so neither does the end of the value
    obtain ⟨f', c, rfl⟩ : ∃ f' c, f = f' ++ [c] := by
      simpa using (List.eq_nil_or_concat f).resolve_left hf
    have hc : c ≠ ',' := fun h =>
      not_mem_of_mem_splitOn (hfs ▸ List.mem_append_right ds (List.mem_singleton_self _))
        (by simp [h])
    have hl : ss.getLast? ≠ some ',' := by
      rw [← hround]
      split
      · simpa using hc
      · rw [← List.cons_append, ← List.append_assoc, List.getLast?_concat]
        simpa using hc
    rw [if_neg (by simp [hf]), if_neg hl, List.append_nil, intercalate_concat, hround]

/-! ## The loop -/

section
variable (parse : String → Except String URI) (logLabel : String) (defaultPort : UInt16)

/-- The loop over the unread characters `ss` is the parser mapped over their pieces, its first
error reported as `"<label> is incorrect (<what>)"`. -/
theorem getBootstrapServersLoop_eq (ss : List Char) (addressVector : List TCPAddress) :
    getBootstrapServersLoop parse logLabel defaultPort ss addressVector =
      ((addressVector ++ ·) <$> (pieces ss).mapM (bindAddress parse defaultPort)).mapError
        fun what => logLabel ++ " is incorrect (" ++ what ++ ")" := by
  rw [getBootstrapServersLoop]
  split
  · next h =>
    rw [getline_eq_none.1 h, pieces_nil, List.mapM_nil]
    simp [Except.mapError, Functor.map, Except.map, pure, Except.pure]
  · next address rest h =>
    rw [pieces_of_getline h, List.mapM_cons, bindAddress]
    cases parse (String.mk address) with
    | error what => rfl
    | ok u =>
      dsimp only
      rw [getBootstrapServersLoop_eq rest]
      cases (pieces rest).mapM (bindAddress parse defaultPort) <;> by_cases hp : u.port = 0 <;>
        simp [hp, tcpAddressOf, Except.mapError, Functor.map, Except.map, bind, Except.bind, pure,
          Except.pure]
termination_by ss.length
decreasing_by exact getline_length ‹_›

theorem mapM_bindAddress_error (ps : List (List Char)) :
    (∃ what, ps.mapM (bindAddress parse defaultPort) = .error what) ↔
      ∃ p ∈ ps, ∃ what, parse (String.mk p) = .error what := by
  induction ps with
  | nil => rw [List.mapM_nil]; simp [pure, Except.pure]
  | cons p ps ih =>
    rw [List.mapM_cons, bindAddress]
    simp only [List.mem_cons, exists_eq_or_imp]
    cases parse (String.mk p) with
    | error what => simp [Functor.map, Except.map, bind, Except.bind]
    | ok u =>
      rw [← ih]
      cases ps.mapM (bindAddress parse defaultPort) <;>
        simp [Functor.map, Except.map, bind, Except.bind, pure, Except.pure]

theorem mapM_bindAddress_ok (f : List Char → URI) (ps : List (List Char))
    (h : ∀ p ∈ ps, parse (String.mk p) = .ok (f p)) :
    ps.mapM (bindAddress parse defaultPort) = .ok (ps.map fun p => tcpAddressOf defaultPort (f p)) := by
  induction ps with
  | nil => rfl
  | cons p ps ih =>
    rw [List.mapM_cons, bindAddress, h p (.head _), ih fun q hq => h q (.tail _ hq)]
    rfl

theorem getBootstrapServers_eq (value : String) :
    getBootstrapServers parse logLabel value defaultPort =
      ((pieces value.toList).mapM (bindAddress parse defaultPort)).mapError
        (fun what => logLabel ++ " is incorrect (" ++ what ++ ")") := by
  rw [getBootstrapServers, getBootstrapServersLoop_eq]
  cases (pieces value.toList).mapM (bindAddress parse defaultPort) <;> rfl

theorem getBootstrapServers_pieces (value : String) :
    getBootstrapServers parse logLabel value defaultPort =
      ((pieces value.toList).mapM (bindAddress parse defaultPort)).mapError
        (fun what => logLabel ++ " is incorrect (" ++ what ++ ")") ∧
    ((∃ what, getBootstrapServers parse logLabel value defaultPort = .error what) ↔
      ∃ p ∈ pieces value.toList, ∃ what, parse (String.mk p) = .error what) ∧
    ∀ f : List Char → URI, (∀ p ∈ pieces value.toList, parse (String.mk p) = .ok (f p)) →
      getBootstrapServers parse logLabel value defaultPort =
        .ok ((pieces value.toList).map fun p => tcpAddressOf defaultPort (f p)) := by
  refine ⟨getBootstrapServers_eq .., ?_, fun f hf => ?_⟩ <;> rw [getBootstrapServers_eq]
  · rw [← mapM_bindAddress_error]
    cases (pieces value.toList).mapM (bindAddress parse defaultPort) <;> simp [Except.mapError]
  · rw [mapM_bindAddress_ok parse defaultPort f _ hf]; rfl

theorem mapM_bindAddress_forall₂ {ps : List (List Char)} {as : List TCPAddress}
    (h : ps.mapM (bindAddress parse defaultPort) = .ok as) :
    List.Forall₂ (fun p a => ∃ u, parse (String.mk p) = .ok u ∧ a = tcpAddressOf defaultPort u)
      ps as := by
  induction ps generalizing as with
  | nil => cases h; exact .nil
  | cons p ps ih =>
    rw [List.mapM_cons, bindAddress] at h
    cases hp : parse (String.mk p) <;> cases hr : ps.mapM (bindAddress parse defaultPort) <;>
      rw [hp, hr] at h <;> cases h
    exact .cons ⟨_, hp, rfl⟩ (ih hr)

/-- **Every address from its piece.** When the call returns addresses, there is one for each
piece, in order: the host the piece parsed to, and its port, `default_port` standing for `0`;
so no address has port `0` unless `default_port` is `0`. -/
theorem getBootstrapServers_ok {value : String} {addrs : List TCPAddress}
    (h : getBootstrapServers parse logLabel value defaultPort = .ok addrs) :
    List.Forall₂ (fun p a => ∃ u, parse (String.mk p) = .ok u ∧ a.addr = u.host ∧
        a.port = if u.port = 0 then defaultPort else u.port) (pieces value.toList) addrs ∧
      (defaultPort ≠ 0 → ∀ a ∈ addrs, a.port ≠ 0) := by
  rw [getBootstrapServers_eq] at h
  cases hm : (pieces value.toList).mapM (bindAddress parse defaultPort) <;> rw [hm] at h <;>
    cases h
  have h2 := mapM_bindAddress_forall₂ parse defaultPort hm
  refine ⟨h2.imp fun p a ⟨u, hu, ha⟩ => ⟨u, hu, by rw [ha]; rfl, by rw [ha]; rfl⟩, fun hd => ?_⟩
  clear hm
  generalize pieces value.toList = ps at h2
  induction h2 with
  | nil => simp
  | cons hpa _ ih =>
    obtain ⟨u, -, rfl⟩ := hpa
    refine List.forall_mem_cons.2 ⟨?_, ih⟩
    unfold tcpAddressOf
    split <;> assumption

theorem getBootstrapServers_ok_two :
    getBootstrapServers (fun s => .ok ⟨s, 0⟩) "metadata_cache" "a,b" 3306 =
        .ok [⟨"a", 3306⟩, ⟨"b", 3306⟩] ∧
      List.Forall₂ (fun p (a : TCPAddress) =>
          ∃ u : URI, (Except.ok ⟨String.mk p, 0⟩ : Except String URI) = .ok u ∧
          a.addr = u.host ∧ a.port = if u.port = 0 then 3306 else u.port)
        (pieces "a,b".toList) [⟨"a", 3306⟩, ⟨"b", 3306⟩] ∧
      ((3306 : UInt16) ≠ 0 → ∀ a ∈ [(⟨"a", 3306⟩ : TCPAddress), ⟨"b", 3306⟩], a.port ≠ 0) :=
  ⟨by rw [getBootstrapServers_eq]; rfl,
    @getBootstrapServers_ok (fun s => .ok ⟨s, 0⟩) "metadata_cache" 3306 "a,b"
      [⟨"a", 3306⟩, ⟨"b", 3306⟩] (by rw [getBootstrapServers_eq]; rfl)⟩

end

end MysqlRouter.MetadataCache.Proof
