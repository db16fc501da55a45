import Mathlib.Data.List.Infix
import Mathlib.Data.List.Nodup

/-!
# The Python string operations the build scripts use

The scripts under `buildscripts/` are Python 2 programs that build command lines, file names and
URLs out of strings. This module gives the string methods they call a meaning over `List Char`:
`str.replace`, `str.ljust`, `str.split` (on a separator and on whitespace), `str.strip`,
`str.join`, `str.startswith`/`endswith`, `in` on strings, and `os.path.join` as `posixpath`
defines it. A Python 2 `str` is a byte string, and every literal in the scripts is ASCII, so a
character stands for a byte.

Each operation is written the way CPython computes it, by structural recursion where it scans,
so that small cases evaluate by `decide`. Two facts carry the later proofs:

* `replace_singleton`: replacing one character by one character is a `map` over the characters
  (`Char.subst`), which is how `get_coverprofile_filename` flattens an import path;
* `pathJoin_eq_of_not_startswith` and `pathJoin_inj`: joining a relative name under a directory
  is an append of a prefix fixed by the directory alone, so it is injective in the name.
-/

namespace Py

/-! ### Characters -/

/-- A byte Python 2's `str.isspace` accepts: space, tab, newline, carriage return, vertical
tab and form feed. -/
def isSpace (c : Char) : Bool :=
  c = ' ' || c = '\t' || c = '\n' || c = '\r' || c = '\x0b' || c = '\x0c'

/-- A Python 2 `str` that decodes as ASCII, as `unicode == str` decodes it to compare: every
character below 128. A character above stands for the bytes of its UTF-8 encoding, all of which
are above 127. -/
def isAscii (s : String) : Bool := s.data.all fun c ↦ c.toNat < 128

end Py

/-- The character map of a one-character `str.replace`: `a` becomes `b`, the rest stay. -/
def Char.subst (a b c : Char) : Char := if c = a then b else c

namespace Py

/-! ### `str.replace` -/

/-- The left-to-right scan of `str.replace` for a non-empty pattern `old`. `skip` counts the
characters of the occurrence just replaced that are still to be dropped, which keeps the
recursion structural and the matches non-overlapping. -/
def replaceScan (old new : List Char) : List Char → Nat → List Char
  | [], _ => []
  | _ :: cs, skip + 1 => replaceScan old new cs skip
  | c :: cs, 0 =>
    if old.isPrefixOf (c :: cs) then new ++ replaceScan old new cs (old.length - 1)
    else c :: replaceScan old new cs 0

/-- `s.replace(old, new)`. An empty `old` matches before every character and at the end, so
`"ab".replace("", "-")` is `"-a-b-"`, as in CPython. -/
def replace (s old new : String) : String :=
  if old.data = [] then ⟨new.data ++ s.data.flatMap fun c ↦ c :: new.data⟩
  else ⟨replaceScan old.data new.data s.data 0⟩

theorem replaceScan_singleton (a b : Char) (s : List Char) :
    replaceScan [a] [b] s 0 = s.map (Char.subst a b) := by
  induction s with
  | nil => rfl
  | cons c cs ih =>
    by_cases h : c = a
    · simp [replaceScan, ih, Char.subst, h]
    · simp [replaceScan, ih, Char.subst, h, Ne.symm h]

/-- **A one-character replacement is a map over the characters.** -/
theorem replace_singleton (s : String) (a b : Char) :
    replace s ⟨[a]⟩ ⟨[b]⟩ = ⟨s.data.map (Char.subst a b)⟩ := by
  simp [replace, replaceScan_singleton]

/-! ### Padding, stripping, splitting and joining -/

/-- `s.ljust(width)`: `s` padded with spaces on the right to `width` characters. -/
def ljust (s : String) (width : Nat) : String :=
  ⟨s.data ++ List.replicate (width - s.length) ' '⟩

/-- `s.strip(chars)` for the set of characters `p` accepts; `strip` is `stripBy isSpace`. -/
def stripBy (p : Char → Bool) (s : String) : String :=
  ⟨((s.data.dropWhile p).reverse.dropWhile p).reverse⟩

/-- `s.rstrip(chars)`. -/
def rstripBy (p : Char → Bool) (s : String) : String :=
  ⟨(s.data.reverse.dropWhile p).reverse⟩

/-- `s.strip()`. -/
def strip (s : String) : String := stripBy isSpace s

/-- `s.split(sep)` for a one-character separator: empty fields are kept, and `"".split("\n")`
is `[""]`. -/
def split (s : String) (sep : Char) : List String := (s.data.splitOn sep).map String.mk

/-- `s.split()`: the runs of non-whitespace, with no empty field. -/
def splitWs (s : String) : List String :=
  ((s.data.splitOnP isSpace).filter fun w ↦ !w.isEmpty).map String.mk

/-- `sep.join(xs)`. -/
def join (sep : String) (xs : List String) : String :=
  ⟨sep.data.intercalate (xs.map String.data)⟩

/-- `s.startswith(p)`. -/
def startswith (s p : String) : Bool := p.data.isPrefixOf s.data

/-- `s.endswith(p)`. -/
def endswith (s p : String) : Bool := p.data.isSuffixOf s.data

/-- `sub in s`. -/
def contains (s sub : String) : Bool := decide (sub.data <:+: s.data)

/-! ### `os.path.join` -/

/-- `posixpath.join(a, b)`: an absolute `b` replaces `a`; otherwise a `/` is put between them
unless `a` is empty or already ends with one. -/
def pathJoin (a b : String) : String :=
  if startswith b "/" then b
  else if a.data = [] || endswith a "/" then a ++ b
  else a ++ "/" ++ b

/-- The directory part `os.path.join` puts before a relative name. -/
def pathPrefix (a : String) : String :=
  if a.data = [] || endswith a "/" then a else a ++ "/"

theorem pathJoin_eq_of_not_startswith {a b : String} (hb : startswith b "/" = false) :
    pathJoin a b = pathPrefix a ++ b := by
  unfold pathJoin pathPrefix
  split_ifs <;> simp_all [String.append_assoc]

/-- **Joining is injective in the relative name**: two names that do not start with `/` give
the same path under one directory only if they are equal. -/
theorem pathJoin_inj {a b b' : String} (hb : startswith b "/" = false)
    (hb' : startswith b' "/" = false) : pathJoin a b = pathJoin a b' ↔ b = b' := by
  rw [pathJoin_eq_of_not_startswith hb, pathJoin_eq_of_not_startswith hb', String.ext_iff,
    String.ext_iff, String.data_append, String.data_append, List.append_right_inj]

end Py
