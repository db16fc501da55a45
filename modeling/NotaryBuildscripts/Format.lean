import NotaryBuildscripts.Json

/-!
# `str.format`

The harness builds its URLs and its assertion messages with `str.format`, positional fields
only: `"{}/v2/{}/_trust/changefeed".format(server, gun)`,
`"expected {0} base keys, but got {1}".format(...)`. `Py.format` interprets a format string the
way CPython's markup iterator does, one field after another from the left, so that the first
error met is the one raised:

* `{{` and `}}` are literal braces, and a lone `}` is a `ValueError`;
* `{}` takes the next argument, `{n}` the `n`-th, and mixing the two is a `ValueError`;
* a field past the last argument is an `IndexError`, and any other field name a `KeyError`,
  since the scripts pass no keyword arguments.

Whatever it fails with, `format` never raises an `AssertionError` (`noAssert_format`), so a
message that fails to build cannot pass for a failed `assert`.

Conversions (`!r`) and format specs (`:>5`) are not modelled: no format string of the scripts
has one. Every argument is a string already, as `format` turns each into `str(arg)` here.
-/

namespace Py

/-- How a format string has numbered its fields so far: not yet, automatically (`{}`) with the
next index, or manually (`{0}`). -/
inductive Numbering where
  | unset
  | auto (next : Nat)
  | manual
  deriving DecidableEq, Repr

/-- The number a field name spells in decimal digits, if it is one. -/
def fieldNumber (name : List Char) : Option Nat :=
  if name ≠ [] ∧ name.all Char.isDigit then
    some (name.foldl (fun n c ↦ 10 * n + (c.toNat - '0'.toNat)) 0)
  else none

/-- The argument a field named `name` stands for, and the numbering after it. -/
def fieldIndex (name : List Char) (n : Numbering) : Except PyError (Nat × Numbering) :=
  if name = [] then
    match n with
    | .manual => .error (.valueError
        "cannot switch from manual field specification to automatic field numbering")
    | .unset => .ok (0, .auto 1)
    | .auto k => .ok (k, .auto (k + 1))
  else
    match fieldNumber name, n with
    | some _, .auto _ => .error (.valueError
        "cannot switch from automatic field numbering to manual field specification")
    | some i, _ => .ok (i, .manual)
    | none, _ => .error (.keyError ⟨name⟩)

/-- The scan of `str.format`. `field` holds the name read so far, reversed, while inside a
replacement field. -/
def formatScan (args : List String) :
    List Char → Option (List Char) → Numbering → Except PyError (List Char)
  | [], none, _ => .ok []
  | [], some _, _ => .error (.valueError "expected '\x7d' before end of string")
  | '\x7b' :: _, some _, _ => .error (.valueError "unexpected '\x7b' in field name")
  | '\x7d' :: rest, some name, n => do
    let (i, n) ← fieldIndex name.reverse n
    match args.get? i with
    | some arg => (arg.data ++ ·) <$> formatScan args rest none n
    | none => .error (.indexError "tuple index out of range")
  | c :: rest, some name, n => formatScan args rest (some (c :: name)) n
  | '\x7b' :: '\x7b' :: rest, none, n => ('\x7b' :: ·) <$> formatScan args rest none n
  | '\x7b' :: rest, none, n => formatScan args rest (some []) n
  | '\x7d' :: '\x7d' :: rest, none, n => ('\x7d' :: ·) <$> formatScan args rest none n
  | '\x7d' :: _, none, _ => .error (.valueError "Single '\x7d' encountered in format string")
  | c :: rest, none, n => (c :: ·) <$> formatScan args rest none n

/-- `fmt.format(*args)`. -/
def format (fmt : String) (args : List String) : Except PyError String :=
  String.mk <$> formatScan args fmt.data none .unset

theorem noAssert_fieldIndex (name : List Char) (n : Numbering) : NoAssert (fieldIndex name n) := by
  unfold fieldIndex
  split
  · split <;> simp
  · split <;> simp

theorem noAssert_formatScan (args : List String) (cs : List Char) (field : Option (List Char))
    (n : Numbering) : NoAssert (formatScan args cs field n) := by
  induction cs, field, n using formatScan.induct args with
  | case4 rest name n ih =>
    simp only [formatScan]
    exact NoAssert.bind (noAssert_fieldIndex _ _) fun p ↦ by
      split
      · exact NoAssert.map _ (ih _)
      · simp
  | case6 rest n ih | case8 rest n ih => exact NoAssert.map _ ih
  | case10 c rest n h1 h2 h3 h4 ih =>
    rw [formatScan] <;> first | exact NoAssert.map _ ih | assumption
  | case5 c rest name n h1 h2 ih => rwa [formatScan] <;> assumption
  | case7 rest n h ih => rwa [formatScan]; assumption
  | _ => rw [formatScan] <;> simp_all

/-- A message or a URL built by `format` can fail to build, but never with an `AssertionError`. -/
theorem noAssert_format (fmt : String) (args : List String) : NoAssert (format fmt args) :=
  NoAssert.map _ (noAssert_formatScan _ _ _ _)

end Py
