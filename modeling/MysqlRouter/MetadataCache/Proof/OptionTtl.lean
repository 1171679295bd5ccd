import MysqlRouter.MetadataCache.PluginConfig

/-!
# What `get_option_ttl` returns

`getOptionTtl_fst`: the TTL is the number the trimmed option reads as in full, when `errno` was
not already `ERANGE` on entry and the number is in `long` and in `[1, (long) UINT_MAX]`; otherwise
`defaultTTL`. From it:

* `getOptionTtl_lp64`: on LP64, with `errno` other than `ERANGE` on entry, exactly the numerals of
  `1 .. UINT_MAX` are accepted.
* `getOptionTtl_stale_erange`: with `errno` already `ERANGE` on entry (`errno` is not cleared
  before `strtol`), every option gives `defaultTTL`.
* `getOptionTtl_llp64`: where `long` has 32 bits, `(long) UINT_MAX` is `-1` and every option
  gives `defaultTTL`.

The option is read only through `trimSpaces` (`getOptionTtl_congr`): spaces around it change
nothing (`getOptionTtl_pad`), but another trailing white-space character is not trimmed and
gives `defaultTTL` (`getOptionTtl_trailing_whitespace`). In every data model the TTL is
`defaultTTL` or the number written (`getOptionTtl_default_or_numeral`).

Across successive calls (`getOptionTtlRun`), `errno` is carried from one call to the next: after
an option whose number is beyond `long`, every later option reads as its `defaultTTL`
(`getOptionTtlRun_overflow`).
-/

namespace MysqlRouter.MetadataCache.Proof

open MysqlRouter MysqlRouter.MetadataCache

theorem toLong_emod (dm : DataModel) (x : Int) : dm.toLong x % 4294967296 = x % 4294967296 := by
  cases dm <;> simp only [DataModel.toLong, Int.bmod_def] <;> split <;> omega

theorem toLong_UINT_MAX_le (dm : DataModel) : dm.toLong UINT_MAX ≤ UINT_MAX := by
  cases dm <;> decide

/-- `defaultTTL` comes back unchanged through `long` and `unsigned int`. -/
theorem ofNat_toLong_default (dm : DataModel) (d : UInt32) :
    UInt32.ofNat (dm.toLong d.toNat % 4294967296).toNat = d := by
  have h := d.toNat_lt_size
  apply UInt32.toNat.inj
  rw [toLong_emod, UInt32.toNat_ofNat_of_lt] <;> simp [UInt32.size] at * <;> omega

theorem ofNat_of_le {v : Int} (h0 : 1 ≤ v) (h1 : v ≤ UINT_MAX) :
    UInt32.ofNat (v % 4294967296).toNat = UInt32.ofNat v.toNat := by
  unfold UINT_MAX at h1
  rw [Int.emod_eq_of_lt (by omega) (by omega)]

theorem getOptionTtl_fst (dm : DataModel) (s : String) (d : UInt32) (e : Int) :
    (getOptionTtl dm s d e).1 =
      match readNumber (cStr (trimSpaces s.toList)) with
      | some (v, []) =>
        if e ≠ ERANGE ∧ dm.longMin ≤ v ∧ v ≤ dm.longMax ∧ 1 ≤ v ∧ v ≤ dm.toLong UINT_MAX then
          UInt32.ofNat v.toNat
        else d
      | _ => d := by
  have hu := toLong_UINT_MAX_le dm
  dsimp only [getOptionTtl]
  rw [trim_eq]
  unfold strtol
  cases readNumber (cStr (trimSpaces s.toList)) with
  | none => simp [ofNat_toLong_default]
  | some r =>
    obtain ⟨v, p⟩ := r
    dsimp only
    by_cases hmax : dm.longMax < v
    · have : ¬v ≤ dm.longMax := by omega
      cases p <;> simp [hmax, this, ofNat_toLong_default]
    by_cases hmin : v < dm.longMin
    · have : ¬dm.longMin ≤ v := by omega
      cases p <;> simp [hmax, hmin, this, ofNat_toLong_default]
    simp only [hmax, hmin, if_false]
    cases p with
    | cons => simp [ofNat_toLong_default]
    | nil =>
      simp only [ne_eq, not_true_eq_false, false_or]
      by_cases hacc : e ≠ ERANGE ∧ 1 ≤ v ∧ v ≤ dm.toLong UINT_MAX
      · rw [if_neg (by omega), if_pos (by omega)]
        exact ofNat_of_le hacc.2.1 (by omega)
      · rw [if_pos (by omega), if_neg (by omega)]
        exact ofNat_toLong_default dm d

/-! ## The three readings -/

theorem getOptionTtl_stale_erange (dm : DataModel) (s : String) (d : UInt32) :
    (getOptionTtl dm s d ERANGE).1 = d := by
  rw [getOptionTtl_fst]
  split <;> simp

/-- `errno` is not cleared before `strtol`: the same option reads as its number with `errno` `0`
on entry and as `defaultTTL` with `errno` left `ERANGE` by an earlier call. -/
theorem getOptionTtl_errno_on_entry :
    Numeral (cStr (trimSpaces "5".toList)) 5 ∧ (getOptionTtl .LP64 "5" 300 0).1 = 5 ∧
      (getOptionTtl .LP64 "5" 300 ERANGE).1 = 300 :=
  ⟨numeral_iff.2 (by decide), by decide, by decide⟩

theorem getOptionTtl_lp64 (s : String) (d : UInt32) (e : Int) (he : e ≠ ERANGE) :
    (∀ n, Numeral (cStr (trimSpaces s.toList)) n → 1 ≤ n → n ≤ UINT_MAX →
      ((getOptionTtl .LP64 s d e).1.toNat : Int) = n) ∧
    ((¬∃ n, Numeral (cStr (trimSpaces s.toList)) n ∧ 1 ≤ n ∧ n ≤ UINT_MAX) →
      (getOptionTtl .LP64 s d e).1 = d) := by
  have hu : DataModel.LP64.toLong UINT_MAX = UINT_MAX := by decide
  have hU : UINT_MAX = 4294967295 := rfl
  have hmin : DataModel.LP64.longMin = -9223372036854775808 := rfl
  have hmax : DataModel.LP64.longMax = 9223372036854775807 := rfl
  rw [getOptionTtl_fst]
  constructor
  · intro n hn h1 h2
    rw [numeral_iff.1 hn]
    dsimp only
    rw [if_pos ⟨he, by omega, by omega, h1, by omega⟩, UInt32.toNat_ofNat_of_lt]
    · omega
    · simp only [UInt32.size]; omega
  · intro hn
    split
    · next v hv =>
      rw [if_neg]
      rintro ⟨-, -, -, h1, h2⟩
      exact hn ⟨v, numeral_iff.2 hv, h1, hu ▸ h2⟩
    · rfl

theorem getOptionTtl_lp64_errno_zero :
    (0 : Int) ≠ ERANGE ∧
      ((∀ n, Numeral (cStr (trimSpaces " 42 ".toList)) n → 1 ≤ n → n ≤ UINT_MAX →
        ((getOptionTtl .LP64 " 42 " 300 0).1.toNat : Int) = n) ∧
      ((¬∃ n, Numeral (cStr (trimSpaces " 42 ".toList)) n ∧ 1 ≤ n ∧ n ≤ UINT_MAX) →
        (getOptionTtl .LP64 " 42 " 300 0).1 = 300)) :=
  ⟨by decide, getOptionTtl_lp64 " 42 " 300 0 (by decide)⟩

/-- Where `long` has 32 bits, `static_cast<long>(UINT_MAX)` is `-1`: every positive `ttl_temp`
exceeds it, and every option gives `defaultTTL`. -/
theorem getOptionTtl_llp64 (s : String) (d : UInt32) (e : Int) :
    (getOptionTtl .LLP64 s d e).1 = d := by
  have hu : DataModel.LLP64.toLong UINT_MAX = -1 := by decide
  rw [getOptionTtl_fst, hu]
  split
  · rw [if_neg]; omega
  · rfl

/-- On LLP64, with `errno` `0` on entry, the numeral `5`, in `[1, 2^31 - 1]`, reads as
`defaultTTL`. -/
theorem getOptionTtl_llp64_five :
    Numeral (cStr (trimSpaces "5".toList)) 5 ∧ (getOptionTtl .LLP64 "5" 300 0).1 = 300 :=
  ⟨numeral_iff.2 (by decide), by decide⟩

/-! ## What the option is read through -/

/-- `get_option_ttl` reads the option only through what the two `erase` calls leave. -/
theorem getOptionTtl_congr (dm : DataModel) {s s' : String}
    (h : trimSpaces s.toList = trimSpaces s'.toList) (d : UInt32) (e : Int) :
    getOptionTtl dm s d e = getOptionTtl dm s' d e := by
  dsimp only [getOptionTtl]
  rw [trim_eq, trim_eq, h]

/-- **Spaces around the option change nothing**, neither the TTL nor `errno`. -/
theorem getOptionTtl_pad (dm : DataModel) (s : String) (a b : Nat) (d : UInt32) (e : Int) :
    getOptionTtl dm (String.mk (List.replicate a ' ' ++ s.toList ++ List.replicate b ' ')) d e =
      getOptionTtl dm s d e :=
  getOptionTtl_congr dm (trimSpaces_pad a b s.toList) d e

/-- **Other trailing white space is not trimmed.** Only `' '` is erased, so an option ending in
a tab, newline, `\v`, `\f` or `\r` is not read in full by `strtol` and gives `defaultTTL`,
though `strtol` skips the same characters in front of the number. -/
theorem getOptionTtl_trailing_whitespace (dm : DataModel) (s : String) {c : Char}
    (hc : isspace c) (hsp : c ≠ ' ') (hs : NUL ∉ s.toList) (d : UInt32) (e : Int) :
    (getOptionTtl dm (s.push c) d e).1 = d := by
  have hpush : (s.push c).toList = s.toList ++ [c] := rfl
  have hnul : NUL ∉ s.toList.dropWhile (· = ' ') ++ [c] := by
    simpa [(ne_NUL_of_isspace hc).symm] using fun h => hs ((List.dropWhile_suffix _).subset h)
  have hlast : (cStr (trimSpaces (s.push c).toList)).getLast? = some c := by
    rw [hpush, trimSpaces_append_of_ne hsp, cStr_of_not_mem hnul, List.getLast?_append]
    rfl
  rw [getOptionTtl_fst]
  split
  · next v hv =>
    obtain ⟨c', hc', hdig⟩ := (numeral_iff.2 hv).getLast?_isdigit
    cases Option.some.inj (hlast.symm.trans hc')
    simp [isdigit_eq_false_of_isspace hc] at hdig
  · rfl

theorem getOptionTtl_trailing_whitespace_tab :
    isspace '\t' ∧ '\t' ≠ ' ' ∧ NUL ∉ "300".toList ∧
      (getOptionTtl .LP64 ("300".push '\t') 60 0).1 = 60 :=
  ⟨by decide, by decide, by decide,
    getOptionTtl_trailing_whitespace .LP64 "300" (by decide) (by decide) (by decide) 60 0⟩

/-- **The default or the number written.** Whatever the width of `long` and `errno` on entry,
the TTL is `defaultTTL` or the number the trimmed option spells in full, in `[1, UINT_MAX]`. -/
theorem getOptionTtl_default_or_numeral (dm : DataModel) (s : String) (d : UInt32) (e : Int) :
    (getOptionTtl dm s d e).1 = d ∨
      ∃ n, Numeral (cStr (trimSpaces s.toList)) n ∧ 1 ≤ n ∧ n ≤ UINT_MAX ∧
        ((getOptionTtl dm s d e).1.toNat : Int) = n := by
  have hu := toLong_UINT_MAX_le dm
  rw [getOptionTtl_fst]
  split
  · next v hv =>
    split
    · next h =>
      have hv1 : v ≤ UINT_MAX := by omega
      refine .inr ⟨v, numeral_iff.2 hv, h.2.2.2.1, hv1, ?_⟩
      unfold UINT_MAX at hv1
      rw [UInt32.toNat_ofNat_of_lt (by simp only [UInt32.size]; omega)]
      omega
    · exact .inl rfl
  · exact .inl rfl

/-! ## `errno` across calls

`get_option_ttl` never clears `errno`, and `strtol` sets it to `ERANGE` on overflow: one option
whose number is beyond `long` leaves `ERANGE` behind, and every later call reads its option as
`defaultTTL`. -/

/-- Whether the number `strtol` reads from `l` is beyond `long`. -/
def overflows (dm : DataModel) (l : List Char) : Bool :=
  match readNumber l with
  | some (v, _) => decide (dm.longMax < v ∨ v < dm.longMin)
  | none => false

/-- `errno` after the call: `ERANGE` when the option's number is beyond `long`, else as on
entry. -/
theorem getOptionTtl_snd (dm : DataModel) (s : String) (d : UInt32) (e : Int) :
    (getOptionTtl dm s d e).2 = if overflows dm (cStr (trimSpaces s.toList)) then ERANGE else e := by
  dsimp only [getOptionTtl]
  rw [trim_eq]
  unfold strtol overflows
  cases readNumber (cStr (trimSpaces s.toList)) with
  | none => rfl
  | some r =>
    obtain ⟨v, p⟩ := r
    dsimp only
    by_cases hmax : dm.longMax < v
    · simp [hmax]
    · by_cases hmin : v < dm.longMin <;> simp [hmax, hmin]

/-- Successive `get_option_ttl` calls of one thread, each with its option and `defaultTTL`,
`errno` carried from one to the next: the TTLs, and `errno` after. -/
def getOptionTtlRun (dm : DataModel) : List (String × UInt32) → Int → List UInt32 × Int
  | [], errno => ([], errno)
  | (ttlOption, defaultTTL) :: rest, errno =>
    let r := getOptionTtl dm ttlOption defaultTTL errno
    let rs := getOptionTtlRun dm rest r.2
    (r.1 :: rs.1, rs.2)

@[simp] theorem getOptionTtlRun_nil (dm : DataModel) (e : Int) :
    getOptionTtlRun dm [] e = ([], e) := rfl

@[simp] theorem getOptionTtlRun_cons (dm : DataModel) (s : String) (d : UInt32)
    (rest : List (String × UInt32)) (e : Int) :
    getOptionTtlRun dm ((s, d) :: rest) e =
      ((getOptionTtl dm s d e).1 :: (getOptionTtlRun dm rest (getOptionTtl dm s d e).2).1,
        (getOptionTtlRun dm rest (getOptionTtl dm s d e).2).2) := rfl

theorem getOptionTtlRun_append (dm : DataModel) (pre l : List (String × UInt32)) (e : Int) :
    getOptionTtlRun dm (pre ++ l) e =
      ((getOptionTtlRun dm pre e).1 ++ (getOptionTtlRun dm l (getOptionTtlRun dm pre e).2).1,
        (getOptionTtlRun dm l (getOptionTtlRun dm pre e).2).2) := by
  induction pre generalizing e with
  | nil => rfl
  | cons sd pre ih =>
    obtain ⟨s, d⟩ := sd
    simp [ih]

theorem length_getOptionTtlRun (dm : DataModel) (l : List (String × UInt32)) (e : Int) :
    (getOptionTtlRun dm l e).1.length = l.length := by
  induction l generalizing e with
  | nil => rfl
  | cons sd l ih => obtain ⟨s, d⟩ := sd; simp [ih]

/-- From `ERANGE`, every call gives its `defaultTTL` and leaves `ERANGE`. -/
theorem getOptionTtlRun_erange (dm : DataModel) (l : List (String × UInt32)) :
    getOptionTtlRun dm l ERANGE = (l.map Prod.snd, ERANGE) := by
  induction l with
  | nil => rfl
  | cons sd l ih =>
    obtain ⟨s, d⟩ := sd
    have h1 : (getOptionTtl dm s d ERANGE).1 = d := by rw [getOptionTtl_fst]; split <;> simp
    have h2 : (getOptionTtl dm s d ERANGE).2 = ERANGE := by rw [getOptionTtl_snd]; split <;> rfl
    simp [h1, h2, ih]

/-- **One overflow poisons the rest.** After a call whose option's number is beyond `long`, every
later call in the thread returns its `defaultTTL`, whatever its option, and `errno` stays
`ERANGE`. -/
theorem getOptionTtlRun_overflow (dm : DataModel) (pre post : List (String × UInt32)) (s : String)
    (d : UInt32) (e : Int) (h : overflows dm (cStr (trimSpaces s.toList))) :
    (getOptionTtlRun dm (pre ++ (s, d) :: post) e).1.drop (pre.length + 1) = post.map Prod.snd ∧
      (getOptionTtlRun dm (pre ++ (s, d) :: post) e).2 = ERANGE := by
  have he : ∀ e', (getOptionTtl dm s d e').2 = ERANGE := fun e' => by
    rw [getOptionTtl_snd, if_pos h]
  rw [getOptionTtlRun_append, getOptionTtlRun_cons, he, getOptionTtlRun_erange]
  refine ⟨?_, rfl⟩
  rw [List.drop_append_eq_append_drop, length_getOptionTtlRun,
    List.drop_eq_nil_of_le (by rw [length_getOptionTtlRun]; omega)]
  simp

theorem getOptionTtlRun_overflow_then_valid :
    overflows .LP64 (cStr (trimSpaces "99999999999999999999".toList)) ∧
      (getOptionTtlRun .LP64 ([] ++ ("99999999999999999999", 60) :: [("300", 60)]) 0).1.drop
          (([] : List (String × UInt32)).length + 1) = [("300", (60 : UInt32))].map Prod.snd ∧
      (getOptionTtlRun .LP64 ([] ++ ("99999999999999999999", 60) :: [("300", 60)]) 0).2 =
        ERANGE :=
  ⟨by decide,
    getOptionTtlRun_overflow .LP64 [] [("300", 60)] "99999999999999999999" 60 0 (by decide)⟩

end MysqlRouter.MetadataCache.Proof
