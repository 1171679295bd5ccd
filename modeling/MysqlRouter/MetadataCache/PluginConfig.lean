import MysqlRouter.Libc.Strtol

/-!
# `MetadataCachePluginConfig`

`get_default`, `is_required`, `get_bootstrap_servers` and `get_option_ttl` of
`plugin_config.cc`. What `get_option_string(section, option)` returns is the input `value` (or
`ttlOption`); `get_log_prefix(option)` is the input `logLabel`; `mysqlrouter::URI`'s parser is
any function `parse`, its `std::runtime_error` being `.error what`.
-/

namespace MysqlRouter.MetadataCache

/-- `get_default(option)`; `kDefaultMetadataAddress` is not in this repository's files. -/
def getDefault (kDefaultMetadataAddress : String) (option : String) : String :=
  if option = "address" then kDefaultMetadataAddress else ""

/-- `is_required(option)`. -/
def isRequired (option : String) : Bool := ["user"].contains option

/-- The fields of `mysqlrouter::URI` that `get_bootstrap_servers` reads. -/
structure URI where
  host : String
  port : UInt16
  deriving DecidableEq, Repr

/-- `mysqlrouter::TCPAddress(addr, port)`. -/
structure TCPAddress where
  addr : String
  port : UInt16
  deriving DecidableEq, Repr

theorem getline_length {ss piece rest : List Char} {delim : Char}
    (h : getline ss delim = some (piece, rest)) : rest.length < ss.length := by
  cases ss with
  | nil => cases h
  | cons c cs =>
    simp only [getline, Option.some.injEq, Prod.mk.injEq] at h
    rw [← h.2, List.length_drop]
    have := (List.dropWhile_sublist (l := c :: cs) (· ≠ delim)).length_le
    simp only [List.length_cons] at this ⊢
    omega

/-- The `while (getline(ss, address, ','))` loop of `get_bootstrap_servers` over the unread
characters `ss`, with the addresses pushed so far. -/
def getBootstrapServersLoop (parse : String → Except String URI) (logLabel : String)
    (defaultPort : UInt16) (ss : List Char) (addressVector : List TCPAddress) :
    Except String (List TCPAddress) :=
  match hline : getline ss ',' with
  | none => .ok addressVector
  | some (address, rest) =>
    match parse (String.mk address) with
    | .error what => .error (logLabel ++ " is incorrect (" ++ what ++ ")")
    | .ok u =>
      let bindInfo : String × UInt16 := (u.host, u.port)
      let bindInfo := if bindInfo.2 = 0 then (bindInfo.1, defaultPort) else bindInfo
      getBootstrapServersLoop parse logLabel defaultPort rest
        (addressVector ++ [⟨bindInfo.1, bindInfo.2⟩])
termination_by ss.length
decreasing_by exact getline_length hline

/-- `get_bootstrap_servers(section, option, default_port)` on the option's `value`: the
addresses, or the `std::invalid_argument` it throws. -/
def getBootstrapServers (parse : String → Except String URI) (logLabel : String) (value : String)
    (defaultPort : UInt16) : Except String (List TCPAddress) :=
  getBootstrapServersLoop parse logLabel defaultPort value.toList []

/-- `get_option_ttl(section, option, defaultTTL)` on the option's `ttlOption`, with `errno`
`errno` on entry and `long` of the data model `dm`: the TTL, and `errno` after. -/
def getOptionTtl (dm : DataModel) (ttlOption : String) (defaultTTL : UInt32) (errno : Int) :
    UInt32 × Int :=
  let s := ttlOption.toList
  let s := erase s 0 (findFirstNotOf s ' ')
  let s := erase s (posSucc (findLastNotOf s ' ')) none
  let (ttlTemp, p, errno) := strtol dm (cStr s) errno
  let ttlTemp :=
    if errno = ERANGE ∨ dm.toLong UINT_MAX < ttlTemp ∨ p ≠ [] ∨ ttlTemp ≤ 0 then
      dm.toLong defaultTTL.toNat
    else ttlTemp
  (UInt32.ofNat (ttlTemp % 4294967296).toNat, errno)

end MysqlRouter.MetadataCache
