import NotaryBuildscripts.PyStr

/-!
# Decoded JSON, and the exceptions the harness can raise

`testchangefeed.py` reads the server's answers with `requests`' `.json()` and the client's
metadata cache with `json.load`, then subscripts the result: `changes["records"][0]["GUN"]`,
`len(root_json["signed"]["keys"])`. A decoded value is a `Json`; subscripting and `len` return
`Except PyError`, failing as CPython fails (`KeyError`, `IndexError`, `TypeError`).

`PyError` lists every exception the scripts raise or let through, so the harness model can say
which one ended a run. An `AssertionError` carries the source line of its `assert`, which is
what a traceback shows, and the message the `assert` statement gives, if any.

**Two simplifications.** JSON numbers are integers: every number the scripts read is a count or
a change ID. `Json.pyEq` is Python's `==` on scalars and lists, `True == 1` included, but compares
two dicts entry by entry in order; no comparison in the scripts is between dicts.

**Two kinds of string.** `json` decodes a string as `unicode`, while the script's own strings, its
literals and the repository name it was given, are byte strings (`str`). Python 2 compares the
two by decoding the byte string as ASCII, so a decoded value is compared with the script's own
value by `Json.eqLit`, under which a repository name that is not ASCII equals no decoded string.
-/

/-- A decoded JSON value: `None`, a `bool`, an `int`, a string, a list or a `dict`. -/
inductive Json where
  | null
  | bool (b : Bool)
  | num (n : Int)
  | str (s : String)
  | arr (xs : List Json)
  | obj (kvs : List (String × Json))
  deriving Repr

/-- An exception raised, or let through, by the scripts. -/
inductive PyError where
  /-- A subprocess exited non-zero: `CalledProcessError(retcode, command, output=output)`. -/
  | calledProcessError (returncode : Int) (cmd : List String) (output : String)
  /-- `assert` at source line `line` failed, with the message it gives (empty if none). -/
  | assertionError (line : Nat) (msg : String)
  | keyError (key : String)
  | indexError (msg : String)
  | typeError (msg : String)
  | valueError (msg : String)
  /-- A file or a connection failed: `IOError`, or `requests`' `ConnectionError`. -/
  | ioError (msg : String)
  /-- A bare `raise Exception(msg)`. -/
  | exception (msg : String)
  /-- A local variable read before the function assigns it: `UnboundLocalError`. -/
  | unboundLocalError (msg : String)
  /-- The operating system refused: `Popen` could not start a program, or `os.chmod` failed. -/
  | osError (msg : String)
  deriving Repr, DecidableEq

/-- Results compare by value, so that small cases can be checked by evaluation. -/
instance exceptDecidableEq {ε α : Type} [DecidableEq ε] [DecidableEq α] :
    DecidableEq (Except ε α)
  | .ok a, .ok b => decidable_of_iff (a = b) (by simp)
  | .error a, .error b => decidable_of_iff (a = b) (by simp)
  | .ok _, .error _ => isFalse Except.noConfusion
  | .error _, .ok _ => isFalse Except.noConfusion

/-- `x` raises no `AssertionError`: if it fails, it fails with another exception. Subscripts,
`len` and `format` are such computations, so an `assert` is the only source of an
`AssertionError` in a run. -/
def NoAssert {α : Type} (x : Except PyError α) : Prop :=
  ∀ line msg, x ≠ .error (.assertionError line msg)

namespace NoAssert

variable {α β : Type}

@[simp] theorem ok (a : α) : NoAssert (.ok a : Except PyError α) := fun _ _ ↦ Except.noConfusion

@[simp] theorem error_iff (e : PyError) :
    NoAssert (.error e : Except PyError α) ↔ ∀ line msg, e ≠ .assertionError line msg := by
  simp [NoAssert]

theorem bind {x : Except PyError α} {f : α → Except PyError β} (hx : NoAssert x)
    (hf : ∀ a, NoAssert (f a)) : NoAssert (x >>= f) := by
  intro line msg h
  cases x with
  | error e => exact hx line msg (congrArg Except.error (Except.error.inj h))
  | ok a => exact hf a line msg h

theorem map {x : Except PyError α} (f : α → β) (hx : NoAssert x) : NoAssert (f <$> x) := by
  intro line msg h
  cases x with
  | error e => exact hx line msg (congrArg Except.error (Except.error.inj h))
  | ok a => exact Except.noConfusion h

end NoAssert

/-- A value the script itself writes on the right of `==`: an `int` literal, or a byte string
(`str`), such as a literal or the repository name the script was given. -/
inductive PyLit where
  | int (n : Int)
  | str (s : String)
  deriving DecidableEq, Repr

namespace Json

/-- `d[key]` for a dict `d`; a `dict` built by `json` keeps the last of repeated keys. -/
def getKey : Json → String → Except PyError Json
  | obj kvs, k =>
    match (kvs.reverse.find? fun kv ↦ kv.1 = k) with
    | some kv => .ok kv.2
    | none => .error (.keyError k)
  | arr _, _ => .error (.typeError "list indices must be integers, not str")
  | _, _ => .error (.typeError "object is not subscriptable")

/-- `xs[i]` for a list `xs`, negative indices counting from the end. -/
def getIdx : Json → Int → Except PyError Json
  | arr xs, i =>
    let j := if i < 0 then i + xs.length else i
    if h : 0 ≤ j ∧ j < xs.length then .ok (xs.get ⟨j.toNat, by omega⟩)
    else .error (.indexError "list index out of range")
  | obj _, i => .error (.keyError (toString i))
  | _, _ => .error (.typeError "object is not subscriptable")

/-- `len(v)`: the items of a list, the distinct keys of a dict, the characters of a string. -/
def len : Json → Except PyError Nat
  | arr xs => .ok xs.length
  | obj kvs => .ok (kvs.map Prod.fst).dedup.length
  | str s => .ok s.length
  | _ => .error (.typeError "object has no len()")

mutual

/-- Python's `==` on decoded values: structural, except that `True == 1` and `False == 0`. -/
def pyEq : Json → Json → Bool
  | null, null => true
  | bool a, bool b => a == b
  | num a, num b => a == b
  | bool b, num n => n == if b then 1 else 0
  | num n, bool b => n == if b then 1 else 0
  | str a, str b => a == b
  | arr xs, arr ys => pyEqList xs ys
  | obj xs, obj ys => pyEqObj xs ys
  | _, _ => false

/-- `==` on two lists. -/
def pyEqList : List Json → List Json → Bool
  | [], [] => true
  | x :: xs, y :: ys => pyEq x y && pyEqList xs ys
  | _, _ => false

/-- `==` on two dicts, entry by entry. -/
def pyEqObj : List (String × Json) → List (String × Json) → Bool
  | [], [] => true
  | (k, x) :: xs, (l, y) :: ys => k == l && pyEq x y && pyEqObj xs ys
  | _, _ => false

end

mutual

/-- `str(v)` in Python 2: the text of a string, the decimal digits of an int, `None`, `True`,
`False`; a list or a dict is printed item by item, in the order decoded (Python 2 prints a dict
in its hash order, which this does not model). -/
def pyStr : Json → String
  | null => "None"
  | bool b => if b then "True" else "False"
  | num n => toString n
  | str s => s
  | arr xs => "[" ++ pyStrList xs ++ "]"
  | obj kvs => "\x7b" ++ pyStrObj kvs ++ "\x7d"

/-- The items of a list, as `str` prints them. -/
def pyStrList : List Json → String
  | [] => ""
  | [x] => pyRepr x
  | x :: xs => pyRepr x ++ ", " ++ pyStrList xs

/-- The entries of a dict, as `str` prints them. -/
def pyStrObj : List (String × Json) → String
  | [] => ""
  | [(k, v)] => "u\x27" ++ k ++ "\x27: " ++ pyRepr v
  | (k, v) :: kvs => "u\x27" ++ k ++ "\x27: " ++ pyRepr v ++ ", " ++ pyStrObj kvs

/-- `repr(v)`, as a container prints its items: a string quoted as Python 2 writes a decoded
one, anything else as `str`. -/
def pyRepr : Json → String
  | null => "None"
  | bool b => if b then "True" else "False"
  | num n => toString n
  | str s => "u\x27" ++ s ++ "\x27"
  | arr xs => "[" ++ pyStrList xs ++ "]"
  | obj kvs => "\x7b" ++ pyStrObj kvs ++ "\x7d"

end

/-- Python 2's `v == lit` for a decoded value `v`. `json` decodes a string as `unicode`, which
Python 2 compares with a byte string by decoding the byte string as ASCII; a byte string that is
not ASCII fails to decode and compares unequal, with a `UnicodeWarning`. A string equals no
number, and `True == 1`. -/
def eqLit : Json → PyLit → Bool
  | num a, .int n => a == n
  | bool b, .int n => n == if b then 1 else 0
  | str u, .str s => Py.isAscii s && u == s
  | _, _ => false

theorem noAssert_getKey (v : Json) (k : String) : NoAssert (v.getKey k) := by
  intro line msg
  unfold getKey
  split
  · split <;> simp
  all_goals simp

theorem noAssert_getIdx (v : Json) (i : Int) : NoAssert (v.getIdx i) := by
  intro line msg
  unfold getIdx
  split
  · simp only []
    split <;> split <;> simp
  all_goals simp

theorem noAssert_len (v : Json) : NoAssert v.len := by
  intro line msg
  rcases v with _ | _ | _ | _ | _ | _ <;> simp [len]

@[simp] theorem getKey_obj (kvs : List (String × Json)) (k : String) :
    (obj kvs).getKey k =
      match (kvs.reverse.find? fun kv ↦ kv.1 = k) with
      | some kv => .ok kv.2
      | none => .error (.keyError k) := rfl

@[simp] theorem getIdx_arr_of_lt (xs : List Json) (i : Nat) (h : i < xs.length) :
    (arr xs).getIdx i = .ok xs[i] := by
  have : ¬ (i : Int) < 0 := by omega
  simp [getIdx, this, h, Int.ofNat_nonneg]

@[simp] theorem pyEq_num (m n : Int) : pyEq (num m) (num n) = (m == n) := rfl

@[simp] theorem pyEq_str (s t : String) : pyEq (str s) (str t) = (s == t) := rfl

@[simp] theorem eqLit_num (m n : Int) : eqLit (num m) (.int n) = (m == n) := rfl

@[simp] theorem eqLit_str (u s : String) : eqLit (str u) (.str s) = (Py.isAscii s && u == s) := rfl

end Json
