import MysqlRouter.Libc.Sys
import MysqlRouter.Libc.Strings

/-!
# `strtol`

`strtol(nptr, &endptr, 10)` as the C standard describes it, for `long` of either width
(`DataModel`): skip white space, read an optional sign and the longest run of decimal digits
(`readNumber`); with no digit, return `0` and `endptr = nptr`; a value beyond `long` is clamped
and sets `errno` to `ERANGE`; otherwise `errno` is left as it was.

`numeral_iff`: `strtol` reads all of `l`, with value `n`, exactly when `l` is a `Numeral` of `n`
(white space, an optional sign, one or more decimal digits).
-/

namespace MysqlRouter

/-- The width of `long`: 64 bits on LP64 (Linux, macOS), 32 bits on LLP64 (Windows). -/
inductive DataModel where
  | LP64
  | LLP64
  deriving DecidableEq, Repr

/-- `LONG_MAX`. -/
def DataModel.longMax : DataModel → Int
  | .LP64 => 9223372036854775807
  | .LLP64 => 2147483647

/-- `LONG_MIN`. -/
def DataModel.longMin : DataModel → Int
  | .LP64 => -9223372036854775808
  | .LLP64 => -2147483648

/-- A value converted to `long` (two's complement wrap). -/
def DataModel.toLong : DataModel → Int → Int
  | .LP64, x => x.bmod 18446744073709551616
  | .LLP64, x => x.bmod 4294967296

/-- `UINT_MAX` of a 32-bit `unsigned int`. -/
def UINT_MAX : Int := 4294967295

/-- `isspace` in the C locale: space, `\t`, `\n`, `\v`, `\f`, `\r`. -/
def isspace (c : Char) : Bool := c = ' ' || (9 ≤ c.toNat && c.toNat ≤ 13)

/-- `isdigit`. -/
def isdigit (c : Char) : Bool := 48 ≤ c.toNat && c.toNat ≤ 57

/-- The value of a run of decimal digits. -/
def digitsValue (ds : List Char) : Nat := ds.foldl (fun n c => 10 * n + (c.toNat - 48)) 0

/-- The optional sign: whether it is `-`, and the characters after it. -/
def readSign : List Char → Bool × List Char
  | '-' :: r => (true, r)
  | '+' :: r => (false, r)
  | r => (false, r)

/-- The number `strtol` reads from `nptr`: its value and the characters after its digits, or
`none` when there is no digit. -/
def readNumber (nptr : List Char) : Option (Int × List Char) :=
  let (neg, s) := readSign (nptr.dropWhile isspace)
  let ds := s.takeWhile isdigit
  if ds = [] then none
  else some (if neg then -(digitsValue ds : Int) else digitsValue ds, s.dropWhile isdigit)

/-- `strtol(nptr, &endptr, 10)` with `errno` `errno` on entry: the value, the characters from
`endptr` on, and `errno` after. -/
def strtol (dm : DataModel) (nptr : List Char) (errno : Int) : Int × List Char × Int :=
  match readNumber nptr with
  | none => (0, nptr, errno)
  | some (v, endptr) =>
    if dm.longMax < v then (dm.longMax, endptr, ERANGE)
    else if v < dm.longMin then (dm.longMin, endptr, ERANGE)
    else (v, endptr, errno)

/-! ## What `strtol` reads in full -/

/-- `l` is white space, an optional sign and one or more decimal digits, of value `n`. -/
def Numeral (l : List Char) (n : Int) : Prop :=
  ∃ ws sgn ds, l = ws ++ sgn ++ ds ∧ (∀ c ∈ ws, isspace c) ∧
    (sgn = [] ∨ sgn = ['+'] ∨ sgn = ['-']) ∧ ds ≠ [] ∧ (∀ c ∈ ds, isdigit c) ∧
    n = if sgn = ['-'] then -(digitsValue ds : Int) else digitsValue ds

theorem readSign_spec (s : List Char) :
    ∃ sgn, s = sgn ++ (readSign s).2 ∧ (sgn = [] ∨ sgn = ['+'] ∨ sgn = ['-']) ∧
      ((readSign s).1 ↔ sgn = ['-']) ∧ (sgn = [] → (readSign s).2 = s) := by
  unfold readSign
  split
  · exact ⟨['-'], rfl, by simp⟩
  · exact ⟨['+'], rfl, by simp⟩
  · exact ⟨[], rfl, by simp⟩

theorem readSign_append {sgn ds : List Char} (hs : sgn = [] ∨ sgn = ['+'] ∨ sgn = ['-'])
    (hd : ∀ c ∈ ds.head?, isdigit c) :
    readSign (sgn ++ ds) = (decide (sgn = ['-']), ds) := by
  rcases hs with rfl | rfl | rfl
  · cases ds with
    | nil => rfl
    | cons c ds =>
      have : c ≠ '-' ∧ c ≠ '+' := by
        constructor <;> rintro rfl <;> simp [isdigit] at hd
      simp [readSign, this.1, this.2]
  · rfl
  · rfl

theorem dropWhile_isspace {sgn ds : List Char} (hs : sgn = [] ∨ sgn = ['+'] ∨ sgn = ['-'])
    (hd : ds ≠ []) (hdig : ∀ c ∈ ds, isdigit c) : (sgn ++ ds).dropWhile isspace = sgn ++ ds := by
  obtain ⟨c, ds, rfl⟩ := List.exists_cons_of_ne_nil hd
  have hc : isspace c = false := by
    have h1 := hdig c (.head _)
    simp only [isdigit, Bool.and_eq_true, decide_eq_true_eq] at h1
    have h32 : c ≠ ' ' := fun h => by subst h; simp at h1
    simp [isspace, h32]; omega
  have hp : isspace '+' = false := by decide
  have hm : isspace '-' = false := by decide
  rcases hs with rfl | rfl | rfl <;> simp [List.dropWhile_cons, hc, hp, hm]

theorem readNumber_of_numeral {l : List Char} {n : Int} (h : Numeral l n) :
    readNumber l = some (n, []) := by
  obtain ⟨ws, sgn, ds, rfl, hws, hs, hd, hdig, rfl⟩ := h
  have hsp : (ws ++ sgn ++ ds).dropWhile isspace = sgn ++ ds := by
    rw [List.append_assoc, List.dropWhile_append, List.dropWhile_eq_nil_iff.2 hws]
    exact dropWhile_isspace hs hd hdig
  have hhead : ∀ c ∈ ds.head?, isdigit c := fun c hc => hdig c (List.mem_of_mem_head? hc)
  simp only [readNumber, hsp, readSign_append hs hhead, List.takeWhile_eq_self_iff.2 hdig,
    List.dropWhile_eq_nil_iff.2 hdig, hd, if_false, decide_eq_true_eq]

theorem numeral_of_readNumber {l : List Char} {n : Int} (h : readNumber l = some (n, [])) :
    Numeral l n := by
  obtain ⟨sgn, hsgn, hs, hneg, -⟩ := readSign_spec (l.dropWhile isspace)
  rcases hr : readSign (l.dropWhile isspace) with ⟨neg, s⟩
  rw [hr] at hsgn hneg
  by_cases hd : s.takeWhile isdigit = []
  · simp [readNumber, hr, hd] at h
  simp only [readNumber, hr, hd, if_false, Option.some.injEq, Prod.mk.injEq] at h
  obtain ⟨hv, hrest⟩ := h
  have hs' : s.takeWhile isdigit = s := by
    simpa [hrest] using List.takeWhile_append_dropWhile isdigit s
  refine ⟨l.takeWhile isspace, sgn, s, ?_, fun c hc => List.mem_takeWhile_imp hc, hs,
    hs' ▸ hd, fun c hc => List.mem_takeWhile_imp (hs' ▸ hc), ?_⟩
  · rw [List.append_assoc, ← hsgn, List.takeWhile_append_dropWhile]
  · rw [← hv, hs']; simp [hneg]

theorem numeral_iff {l : List Char} {n : Int} : Numeral l n ↔ readNumber l = some (n, []) :=
  ⟨readNumber_of_numeral, numeral_of_readNumber⟩

/-- A numeral ends in a digit. -/
theorem Numeral.getLast?_isdigit {l : List Char} {n : Int} (h : Numeral l n) :
    ∃ c, l.getLast? = some c ∧ isdigit c := by
  obtain ⟨ws, sgn, ds, rfl, -, -, hd, hdig, -⟩ := h
  exact ⟨ds.getLast hd, by simp [List.getLast?_eq_getLast ds hd], hdig _ (List.getLast_mem hd)⟩

theorem isdigit_eq_false_of_isspace {c : Char} (h : isspace c) : isdigit c = false := by
  simp only [isspace, Bool.or_eq_true, decide_eq_true_eq, Bool.and_eq_true] at h
  rcases h with rfl | h
  · rfl
  · simp only [isdigit, Bool.and_eq_false_iff, decide_eq_false_iff_not]; omega

theorem ne_NUL_of_isspace {c : Char} (h : isspace c) : c ≠ NUL := by
  rintro rfl
  revert h
  decide

end MysqlRouter
