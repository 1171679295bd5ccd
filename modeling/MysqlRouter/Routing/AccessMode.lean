import MysqlRouter.Libc.Strings

/-!
# Access modes

`kAccessModeNames`, `get_access_mode`, `get_access_mode_name` and `get_access_mode_names` of
`routing.cc`. `get_access_mode` compares with `strcmp` against `value.c_str()`, so it sees the
value up to its first NUL byte:

* `getAccessMode_eq`: the mode whose name is the value's C string, `kUndefined` when none is.
* `getAccessMode_name`: a mode other than `kUndefined` exactly for the two names (read up to the
  first NUL); its name is then that C string; `get_access_mode(get_access_mode_name(m)) = m` for
  each defined `m`.
* `getAccessModeNames_eq`: `get_access_mode_names` appends the names of the defined modes;
  `getAccessModeNames_accepted`: these are exactly the values `get_access_mode` accepts.
-/

namespace MysqlRouter.Routing

inductive AccessMode where
  | kUndefined
  | kReadWrite
  | kReadOnly
  deriving DecidableEq, Repr

/-- The enumerator's value. -/
def AccessMode.toNat : AccessMode → Nat
  | .kUndefined => 0
  | .kReadWrite => 1
  | .kReadOnly => 2

/-- `static_cast<AccessMode>(i)` for the indices `get_access_mode` returns. -/
def AccessMode.staticCast : Nat → AccessMode
  | 1 => .kReadWrite
  | 2 => .kReadOnly
  | _ => .kUndefined

/-- `kAccessModeNames`, indexed by the enumerator's value; `none` is `nullptr`. -/
def kAccessModeNames : List (Option String) := [none, some "read-write", some "read-only"]

/-- The loop of `get_access_mode` over the names from index `i` on (index 0, `nullptr`, is never
compared); it runs to the end of `kAccessModeNames`, which is what `i < kAccessModeCount` bounds. -/
def getAccessModeFrom (value : String) (i : Nat) : List (Option String) → AccessMode
  | [] => .kUndefined
  | name :: names =>
    if strcmp (name.getD "").toList (cStr value.toList) = 0 then AccessMode.staticCast i
    else getAccessModeFrom value (i + 1) names

/-- `get_access_mode(value)`. -/
def getAccessMode (value : String) : AccessMode :=
  getAccessModeFrom value 1 (kAccessModeNames.drop 1)

/-- `get_access_mode_name(access_mode)`; `none` for `kUndefined`, whose entry is `nullptr`. -/
def getAccessModeName (accessMode : AccessMode) : Option String :=
  kAccessModeNames.getD accessMode.toNat none

/-- The loop of `get_access_mode_names`: each name, followed by `", "` when another comes. -/
def appendAccessModeNames (valid : String) : List (Option String) → String
  | [] => valid
  | name :: names =>
    let valid := valid ++ name.getD ""
    if names = [] then valid else appendAccessModeNames (valid ++ ", ") names

/-- `get_access_mode_names(valid)`: `valid` with the names of the defined modes appended. -/
def getAccessModeNames (valid : String) : String :=
  appendAccessModeNames valid (kAccessModeNames.drop 1)

/-! ## The names -/

theorem getAccessModeNames_eq (valid : String) :
    getAccessModeNames valid = valid ++ "read-write" ++ ", " ++ "read-only" := by
  simp [getAccessModeNames, appendAccessModeNames, kAccessModeNames]

theorem getAccessMode_eq (value : String) :
    getAccessMode value =
      if cStr value.toList = "read-write".toList then .kReadWrite
      else if cStr value.toList = "read-only".toList then .kReadOnly
      else .kUndefined := by
  have h (n : String) (hn : NUL ∉ n.toList) :
      strcmp n.toList (cStr value.toList) = 0 ↔ cStr value.toList = n.toList :=
    (strcmp_eq_zero_iff hn (NUL_not_mem_cStr _)).trans eq_comm
  simp only [getAccessMode, kAccessModeNames, List.drop_one, List.tail_cons, getAccessModeFrom,
    Option.getD_some, h "read-write" (by decide), h "read-only" (by decide)]
  rfl

/-- A defined mode read from `s` is named by the C string of `s`. -/
theorem getAccessModeName_getAccessMode {s : String} (h : getAccessMode s ≠ .kUndefined) :
    ∃ n, getAccessModeName (getAccessMode s) = some n ∧ n.toList = cStr s.toList := by
  rw [getAccessMode_eq] at h ⊢
  split_ifs at h ⊢ <;> simp_all [getAccessModeName, kAccessModeNames, AccessMode.toNat]

theorem getAccessMode_name (s : String) :
    (getAccessMode s ≠ .kUndefined ↔
      cStr s.toList = "read-write".toList ∨ cStr s.toList = "read-only".toList) ∧
    (getAccessMode s ≠ .kUndefined →
      ∃ n, getAccessModeName (getAccessMode s) = some n ∧ n.toList = cStr s.toList) ∧
    (getAccessMode s ≠ .kUndefined → NUL ∉ s.toList →
      getAccessModeName (getAccessMode s) = some s) ∧
    (∀ m, m ≠ .kUndefined → (getAccessModeName m).map getAccessMode = some m) := by
  refine ⟨?_, getAccessModeName_getAccessMode, fun h hs => ?_, ?_⟩
  · rw [getAccessMode_eq]; split_ifs <;> simp_all
  · obtain ⟨n, hn, hl⟩ := getAccessModeName_getAccessMode h
    rw [hn, String.ext (hl.trans (cStr_of_not_mem hs))]
  · rintro (_ | _ | _) h
    · exact absurd rfl h
    all_goals decide

/-- A name followed by a NUL byte is read as the name: not `kUndefined`, though the value is
neither name byte for byte. -/
theorem getAccessMode_nul_suffix :
    getAccessMode ("read-write" ++ String.singleton NUL) ≠ .kUndefined ∧
      "read-write" ++ String.singleton NUL ≠ "read-write" ∧
      "read-write" ++ String.singleton NUL ≠ "read-only" := by
  decide

/-! ## The listed names are the accepted ones -/

/-- **`get_access_mode_names` lists what `get_access_mode` accepts.** Both read
`kAccessModeNames`: the names appended, separated by `", "`, are the values (without NUL) that
`get_access_mode` reads as a defined mode, and no others. -/
theorem getAccessModeNames_accepted (valid : String) :
    getAccessModeNames valid = valid ++ ", ".intercalate (kAccessModeNames.filterMap id) ∧
      ∀ s : String, NUL ∉ s.toList →
        (getAccessMode s ≠ .kUndefined ↔ s ∈ kAccessModeNames.filterMap id) := by
  refine ⟨by rw [getAccessModeNames_eq, String.append_assoc, String.append_assoc]; rfl,
    fun s hs => ?_⟩
  have key (t : String) : s = t ↔ s.toList = t.toList := String.ext_iff
  have hnames : kAccessModeNames.filterMap id = ["read-write", "read-only"] := rfl
  rw [getAccessMode_eq, cStr_of_not_mem hs, hnames, List.mem_pair, key, key]
  split_ifs with h1 h2
  · exact iff_of_true (by decide) (.inl h1)
  · exact iff_of_true (by decide) (.inr h2)
  · exact iff_of_false (fun h => h rfl) (by rintro (h | h) <;> contradiction)

end MysqlRouter.Routing
