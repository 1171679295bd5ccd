import Mathlib.Data.List.Basic

/-!
# C and C++ string functions

A `std::string` is its characters (`List Char`, a byte read as a character). The functions the
routing and metadata-cache code call on strings:

* `cStr`: what a C function sees of `s.c_str()`, the characters before the first NUL.
* `strcmp`, with `strcmp_eq_zero_iff`: `0` exactly for equal strings.
* `findFirstNotOf`, `findLastNotOf`, `erase`: `std::string` positions, `std::string::npos`
  being `none`; `trim_eq` states what the two `erase` calls of `get_option_ttl` leave.
* `getline`: one `std::getline(ss, piece, delim)` on the unread characters of a stream.
-/

namespace MysqlRouter

/-- The NUL character that ends a C string. -/
def NUL : Char := Char.ofNat 0

/-- What a C function reading `s.c_str()` sees: the characters before the first NUL. -/
def cStr (s : List Char) : List Char := s.takeWhile (· ≠ NUL)

theorem NUL_not_mem_cStr (s : List Char) : NUL ∉ cStr s := fun h => by
  simpa using List.mem_takeWhile_imp h

theorem cStr_of_not_mem {s : List Char} (h : NUL ∉ s) : cStr s = s :=
  List.takeWhile_eq_self_iff.2 fun c hc => by simpa using ne_of_mem_of_not_mem hc h

/-! ## `strcmp` -/

/-- `strcmp` on two C strings (their characters before the NUL): the difference of the first
differing bytes, `0` when there is none. -/
def strcmp : List Char → List Char → Int
  | [], [] => 0
  | [], b :: _ => -(b.toNat : Int)
  | a :: _, [] => a.toNat
  | a :: as, b :: bs => if a = b then strcmp as bs else (a.toNat : Int) - b.toNat

theorem toNat_ne_zero {c : Char} (h : c ≠ NUL) : c.toNat ≠ 0 := fun h0 =>
  h (Char.ext (UInt32.toNat.inj (h0.trans rfl)))

theorem strcmp_eq_zero_iff : ∀ {a b : List Char}, NUL ∉ a → NUL ∉ b → (strcmp a b = 0 ↔ a = b)
  | [], [], _, _ => by simp [strcmp]
  | [], c :: _, _, hb => by
    have := toNat_ne_zero (ne_of_mem_of_not_mem (List.mem_cons_self c _) hb)
    simp [strcmp]; omega
  | c :: _, [], ha, _ => by
    have := toNat_ne_zero (ne_of_mem_of_not_mem (List.mem_cons_self c _) ha)
    simp [strcmp]; omega
  | a :: as, b :: bs, ha, hb => by
    rw [strcmp]
    split
    · subst_vars
      rw [strcmp_eq_zero_iff (fun h => ha (.tail _ h)) (fun h => hb (.tail _ h))]
      simp
    · have : a.toNat ≠ b.toNat := fun h => ‹¬a = b› (Char.ext (UInt32.toNat.inj h))
      simp only [List.cons.injEq, *, false_and, iff_false]
      omega

/-! ## `std::string` positions -/

/-- `s.find_first_not_of(c)`; `none` is `npos`. -/
def findFirstNotOf (s : List Char) (c : Char) : Option Nat := s.findIdx? (· ≠ c)

/-- `s.find_last_not_of(c)`; `none` is `npos`. -/
def findLastNotOf (s : List Char) (c : Char) : Option Nat :=
  (s.reverse.findIdx? (· ≠ c)).map (s.length - 1 - ·)

/-- A position plus one, as `size_t`: `npos + 1` wraps to `0`. -/
def posSucc : Option Nat → Nat
  | some i => i + 1
  | none => 0

/-- `s.erase(pos, n)`: the `n` characters from `pos` removed, `n = npos` (`none`) removing all
from `pos` on. -/
def erase (s : List Char) (pos : Nat) (n : Option Nat) : List Char :=
  s.take pos ++ match n with
    | some n => s.drop (pos + n)
    | none => []

/-- `s` with its leading and trailing spaces removed. -/
def trimSpaces (s : List Char) : List Char :=
  ((s.dropWhile (· = ' ')).reverse.dropWhile (· = ' ')).reverse

theorem findFirstNotOf_spec (s : List Char) (c : Char) :
    match findFirstNotOf s c with
    | some i => i < s.length ∧ s.drop i = s.dropWhile (· = c)
    | none => s.dropWhile (· = c) = [] := by
  induction s with
  | nil => rfl
  | cons a s ih =>
    unfold findFirstNotOf at ih ⊢
    by_cases ha : a = c
    · subst ha
      revert ih
      simp only [List.findIdx?_cons, List.findIdx?_succ, List.dropWhile_cons]
      cases s.findIdx? (· ≠ a) <;> simp
    · simp [ha]

theorem erase_findFirstNotOf (s : List Char) (c : Char) :
    erase s 0 (findFirstNotOf s c) = s.dropWhile (· = c) := by
  have h := findFirstNotOf_spec s c
  revert h
  cases findFirstNotOf s c <;> simp +contextual [erase]

theorem erase_findLastNotOf (s : List Char) (c : Char) :
    erase s (posSucc (findLastNotOf s c)) none =
      (s.reverse.dropWhile (· = c)).reverse := by
  have h := findFirstNotOf_spec s.reverse c
  unfold findLastNotOf; unfold findFirstNotOf at h
  cases hk : s.reverse.findIdx? (· ≠ c) with
  | none => rw [hk] at h; simp [erase, posSucc, h]
  | some k =>
    rw [hk] at h
    obtain ⟨hlt, hd⟩ := h
    simp only [List.length_reverse] at hlt
    simp only [Option.map_some', posSucc, erase, List.append_nil, ← hd, List.drop_reverse,
      List.reverse_reverse]
    congr 1
    omega

/-- What the two `erase` calls of `get_option_ttl` leave: the leading and trailing spaces
removed. -/
theorem trim_eq (s : List Char) :
    erase (erase s 0 (findFirstNotOf s ' '))
      (posSucc (findLastNotOf (erase s 0 (findFirstNotOf s ' ')) ' ')) none = trimSpaces s := by
  rw [erase_findLastNotOf, erase_findFirstNotOf, trimSpaces]

theorem dropWhile_replicate_append (n : Nat) (l : List Char) :
    (List.replicate n ' ' ++ l).dropWhile (· = ' ') = l.dropWhile (· = ' ') := by
  simp [List.dropWhile_append]

/-- Spaces around `l` do not change what is left of it. -/
theorem trimSpaces_pad (a b : Nat) (l : List Char) :
    trimSpaces (List.replicate a ' ' ++ l ++ List.replicate b ' ') = trimSpaces l := by
  have hb : (List.replicate b ' ').dropWhile (· = ' ') = [] := by simp
  unfold trimSpaces
  rw [List.append_assoc, dropWhile_replicate_append, List.dropWhile_append]
  split
  · next h => rw [hb, List.isEmpty_iff.1 h]
  · rw [List.reverse_append, List.reverse_replicate, dropWhile_replicate_append]

/-- A last character other than a space stays, and so does everything before it after the
leading spaces. -/
theorem trimSpaces_append_of_ne {c : Char} (hc : c ≠ ' ') (l : List Char) :
    trimSpaces (l ++ [c]) = l.dropWhile (· = ' ') ++ [c] := by
  unfold trimSpaces
  rw [List.dropWhile_append]
  split
  · next h => simp [List.dropWhile_cons, hc, List.isEmpty_iff.1 h]
  · simp [List.dropWhile_cons, hc]

/-! ## `std::getline` -/

/-- `std::getline(ss, piece, delim)` on the unread characters `ss` of a stream: it fails when
none is left, and otherwise reads the piece up to `delim`, consuming `delim` too. -/
def getline (ss : List Char) (delim : Char) : Option (List Char × List Char) :=
  match ss with
  | [] => none
  | _ :: _ => some (ss.takeWhile (· ≠ delim), (ss.dropWhile (· ≠ delim)).drop 1)

end MysqlRouter
