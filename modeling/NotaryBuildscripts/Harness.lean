import NotaryBuildscripts.Format

/-!
# The harness monad: a test run acting on the world

`testchangefeed.py`'s `Tester` drives the notary client and the server behind it, reads their
answers, and raises at the first check that fails. A `Harness σ α` step runs from an `HState`: the
world's state `σ`, which the harness reaches only through `World`'s operations, and the log of the
notary processes started so far. It returns a value or the exception raised, with the state
reached either way: an exception does not undo what a process did.

The world is supplied data (`World`): the processes the harness starts (`exec`), HTTP (`get`),
the files it reads (`load`) and writes (`write`, `chmod`), and the temporary files and
directories it makes and removes. Nothing here says how the world behaves; `FeedServer` states
what a conforming change feed does. What can fail fails as Python does: a program that cannot be
started makes `Popen` raise `OSError`, a file that cannot be written raises `IOError`, and only the
best-effort `cleanup` never raises.

## Three calculi over one monad

* `Logs x cmds`: `x` starts exactly the processes `cmds`, in order, when it returns, and a
  prefix of them when it raises. The rules follow the syntax of the step, so a scenario's script
  is read off its code.
* `Triple P x Q E`: from a state in `P`, `x` ends in `Q a` when it returns `a`, and in `E e`
  when it raises `e`. This is where what the world does enters.
* `Rel R x`: `x` relates the world's state before it to the state it ends in, whether it
  returns or raises (`StateRel`). This is for what a failed run leaves behind: the temporary
  paths it did not remove, the files it did not write.
-/

/-- A process the harness starts: its argument vector, its environment, and the text written to
its standard input before that is closed (`none`: nothing is written). -/
structure Invocation where
  argv : List String
  env : List (String × String)
  stdin : Option String
  deriving DecidableEq, Repr

/-- An HTTP GET as `requests.get` sends it: the URL, `auth=HTTPBasicAuth(user, password)`, and
the extra headers. -/
structure Request where
  url : String
  auth : Option (String × String)
  headers : List (String × String)
  deriving DecidableEq, Repr

/-- How the world fails a read: the file or the connection (`IOError`, `ConnectionError`), or a
body that is not JSON (`ValueError`). -/
inductive Failure where
  | io (msg : String)
  | decode (msg : String)
  deriving DecidableEq, Repr

/-- The exception a failed read raises in the harness. -/
def Failure.toPyError : Failure → PyError
  | .io msg => .ioError msg
  | .decode msg => .valueError msg

/-- What the harness acts on, with state `σ`. -/
structure World (σ : Type) where
  /-- Start a process and run it to its end: the state after it, what it wrote, and its return
  code; or, when the program cannot be started (no such file, no permission), the message of the
  `OSError` that `Popen` raises. -/
  exec : σ → Invocation → Except String (σ × String × Int)
  /-- `requests.get(...).json()`: a GET changes nothing, and its body decodes or fails. -/
  get : σ → Request → Except Failure Json
  /-- `json.load(open(path))`. -/
  load : σ → String → Except Failure Json
  /-- `mkstemp()`: the name of a new empty file. -/
  mkstemp : σ → σ × String
  /-- `mkdtemp(suffix=suffix)`: the name of a new empty directory. -/
  mkdtemp : σ → String → σ × String
  /-- `open(path, 'w').write(text)`: the state after it, or the message of the `IOError` raised
  when the file cannot be opened or written. -/
  write : σ → String → String → Except String σ
  /-- `os.chmod(path, mode)`: file modes are nothing the harness reads, so only whether it fails,
  with the message of the `OSError` it raises. -/
  chmod : σ → String → Nat → Except String Unit
  /-- Remove a file or a directory tree, ignoring errors. -/
  remove : σ → String → σ

/-- The harness's state: the world's, and the processes started so far, oldest first. -/
structure HState (σ : Type) where
  world : σ
  log : List Invocation

/-- A step of the harness. -/
def Harness (σ α : Type) : Type := HState σ → Except PyError α × HState σ

namespace Harness

variable {σ α β : Type}

instance : Monad (Harness σ) where
  pure a s := (.ok a, s)
  bind x f s :=
    match x s with
    | (.ok a, s) => f a s
    | (.error e, s) => (.error e, s)

/-- `raise e`. -/
def throw (e : PyError) : Harness σ α := fun s ↦ (.error e, s)

/-- A computation that cannot touch the world, such as a subscript or a `format`. -/
def liftExcept (x : Except PyError α) : Harness σ α := fun s ↦ (x, s)

@[simp] theorem bind_apply (x : Harness σ α) (f : α → Harness σ β) (s : HState σ) :
    (x >>= f) s =
      match x s with
      | (.ok a, s) => f a s
      | (.error e, s) => (.error e, s) := rfl

section Ops

variable (w : World σ)

/-- Start a process and wait for it: its output and return code. A program that cannot be
started is not logged, and `Popen` raises `OSError`. -/
def exec (inv : Invocation) : Harness σ (String × Int) := fun s ↦
  match w.exec s.world inv with
  | .ok r => (.ok r.2, ⟨r.1, s.log ++ [inv]⟩)
  | .error msg => (.error (.osError msg), s)

/-- `requests.get(...).json()`. -/
def get (req : Request) : Harness σ Json := fun s ↦
  ((w.get s.world req).mapError Failure.toPyError, s)

/-- `json.load(open(path))`. -/
def load (path : String) : Harness σ Json := fun s ↦
  ((w.load s.world path).mapError Failure.toPyError, s)

/-- `mkstemp()`. -/
def mkstemp : Harness σ String := fun s ↦
  let r := w.mkstemp s.world
  (.ok r.2, { s with world := r.1 })

/-- `mkdtemp(suffix=suffix)`. -/
def mkdtemp (suffix : String) : Harness σ String := fun s ↦
  let r := w.mkdtemp s.world suffix
  (.ok r.2, { s with world := r.1 })

/-- `open(path, 'w').write(text)`. -/
def write (path text : String) : Harness σ Unit := fun s ↦
  match w.write s.world path text with
  | .ok world => (.ok (), { s with world })
  | .error msg => (.error (.ioError msg), s)

/-- `os.chmod(path, mode)`. -/
def chmod (path : String) (mode : Nat) : Harness σ Unit := fun s ↦
  ((w.chmod s.world path mode).mapError PyError.osError, s)

/-- `cleanup(path)`: best-effort removal, which never raises. -/
def remove (path : String) : Harness σ Unit := fun s ↦
  (.ok (), { s with world := w.remove s.world path })

end Ops

/-- `try: x` then `except IOError: pass`: an `IOError` ends `x`, and the run goes on from the
state it reached. -/
def catchIOError (x : Harness σ Unit) : Harness σ Unit := fun s ↦
  match x s with
  | (.error (.ioError _), s') => (.ok (), s')
  | r => r

/-- `try: x` then `finally: y`: `y` runs after `x` whether `x` returns or raises, and what `x`
returned or raised is then returned or raised again, unless `y` raises. -/
def tryFinally (x : Harness σ α) (y : Harness σ Unit) : Harness σ α := fun s ↦
  match x s with
  | (r, s₁) =>
    match y s₁ with
    | (.ok (), s₂) => (r, s₂)
    | (.error e, s₂) => (.error e, s₂)

/-- `assert cond, msg` at source line `line`; the message is computed only when `cond` fails. -/
def pyAssertMsg (line : Nat) (cond : Bool) (msg : Harness σ String) : Harness σ Unit :=
  if cond then pure () else msg >>= fun m ↦ throw (.assertionError line m)

/-- `assert cond` at source line `line`. -/
def pyAssert (line : Nat) (cond : Bool) : Harness σ Unit :=
  pyAssertMsg line cond (pure "")

/-- `for x in v`: a list yields its items, a dict its keys, a string its characters. -/
def iter : Json → Except PyError (List Json)
  | .arr xs => .ok xs
  | .obj kvs => .ok (kvs.map fun kv ↦ .str kv.1)
  | .str s => .ok (s.data.map fun c ↦ .str ⟨[c]⟩)
  | _ => .error (.typeError "object is not iterable")

/-- `for x in xs: body(x)`. -/
def forEach (xs : List α) (body : α → Harness σ Unit) : Harness σ Unit :=
  match xs with
  | [] => pure ()
  | x :: xs => body x >>= fun _ ↦ forEach xs body

/-! ### `Logs`: the processes a step starts -/

/-- `x` starts the processes `cmds`, in order: all of them when it returns, a prefix of them
when it raises. -/
def Logs (x : Harness σ α) (cmds : List Invocation) : Prop :=
  ∀ s, match x s with
    | (.ok _, s') => s'.log = s.log ++ cmds
    | (.error _, s') => ∃ pre, pre <+: cmds ∧ s'.log = s.log ++ pre

namespace Logs

/-- A step that leaves the log alone starts nothing. -/
theorem of_log_eq {x : Harness σ α} (h : ∀ s, (x s).2.log = s.log) : Logs x [] := by
  intro s
  have hs := h s
  rcases hx : x s with ⟨_ | _, s'⟩ <;> simp_all

theorem pure (a : α) : Logs (Pure.pure a : Harness σ α) [] := of_log_eq fun _ ↦ rfl

theorem throw (e : PyError) : Logs (Harness.throw e : Harness σ α) [] := of_log_eq fun _ ↦ rfl

theorem liftExcept (x : Except PyError α) : Logs (Harness.liftExcept x : Harness σ α) [] :=
  of_log_eq fun _ ↦ rfl

/-- A process that starts is logged; one that cannot start raises having started nothing. -/
theorem exec (w : World σ) (inv : Invocation) : Logs (Harness.exec w inv) [inv] := by
  intro s
  rcases h : w.exec s.world inv with msg | r <;> simp only [Harness.exec, h]
  exact ⟨[], List.nil_prefix, (List.append_nil _).symm⟩

theorem get (w : World σ) (req : Request) : Logs (Harness.get w req) [] := of_log_eq fun _ ↦ rfl

theorem load (w : World σ) (path : String) : Logs (Harness.load w path) [] :=
  of_log_eq fun _ ↦ rfl

theorem mkstemp (w : World σ) : Logs (Harness.mkstemp w) [] := of_log_eq fun _ ↦ rfl

theorem mkdtemp (w : World σ) (suffix : String) : Logs (Harness.mkdtemp w suffix) [] :=
  of_log_eq fun _ ↦ rfl

theorem write (w : World σ) (path text : String) : Logs (Harness.write w path text) [] :=
  of_log_eq fun s ↦ by simp only [Harness.write]; split <;> rfl

theorem chmod (w : World σ) (path : String) (mode : Nat) : Logs (Harness.chmod w path mode) [] :=
  of_log_eq fun _ ↦ rfl

theorem remove (w : World σ) (path : String) : Logs (Harness.remove w path) [] :=
  of_log_eq fun _ ↦ rfl

/-- **Sequencing appends scripts**, whatever value the first step hands the second. -/
theorem bind {x : Harness σ α} {f : α → Harness σ β} {c₁ c₂ : List Invocation}
    (hx : Logs x c₁) (hf : ∀ a, Logs (f a) c₂) : Logs (x >>= f) (c₁ ++ c₂) := by
  intro s
  have h₁ := hx s
  rcases hxs : x s with ⟨_ | a, s₁⟩ <;> simp only [hxs] at h₁ <;> simp only [bind_apply, hxs]
  · obtain ⟨pre, hpre, hlog⟩ := h₁
    exact ⟨pre, hpre.trans (List.prefix_append _ _), hlog⟩
  · have h₂ := hf a s₁
    rcases hfs : f a s₁ with ⟨_ | _, s₂⟩ <;> simp only [hfs] at h₂ <;> simp only [hfs]
    · obtain ⟨pre, hpre, hlog⟩ := h₂
      exact ⟨c₁ ++ pre, (List.prefix_append_right_inj c₁).2 hpre, by simp [hlog, h₁]⟩
    · simp [h₂, h₁]

/-- A step that starts one process, then the rest. -/
theorem cons {x : Harness σ α} {f : α → Harness σ β} {i : Invocation} {c : List Invocation}
    (hx : Logs x [i]) (hf : ∀ a, Logs (f a) c) : Logs (x >>= f) (i :: c) :=
  bind hx hf

/-- A step that starts nothing, then the rest. -/
theorem nil {x : Harness σ α} {f : α → Harness σ β} {c : List Invocation}
    (hx : Logs x []) (hf : ∀ a, Logs (f a) c) : Logs (x >>= f) c :=
  bind hx hf

theorem ite {p : Prop} [Decidable p] {x y : Harness σ α} {c : List Invocation}
    (hx : Logs x c) (hy : Logs y c) : Logs (if p then x else y) c := by
  split <;> assumption

theorem pyAssertMsg {msg : Harness σ String} (line : Nat) (cond : Bool) (hmsg : Logs msg []) :
    Logs (Harness.pyAssertMsg line cond msg) [] :=
  ite (pure ()) (bind hmsg fun _ ↦ throw _)

theorem pyAssert (line : Nat) (cond : Bool) :
    Logs (Harness.pyAssert line cond : Harness σ Unit) [] :=
  pyAssertMsg line cond (pure _)

theorem forEach {xs : List α} {body : α → Harness σ Unit} (h : ∀ a, Logs (body a) []) :
    Logs (Harness.forEach xs body) [] := by
  induction xs with
  | nil => exact pure ()
  | cons x xs ih => exact bind (h x) fun _ ↦ ih

theorem catchIOError {x : Harness σ Unit} (hx : Logs x []) : Logs (Harness.catchIOError x) [] :=
  of_log_eq fun s ↦ by
    have h := hx s
    simp only [Harness.catchIOError]
    rcases hxs : x s with ⟨_ | _, s'⟩ <;> simp only [hxs] at h
    · obtain ⟨pre, hpre, hlog⟩ := h
      rw [List.prefix_nil.1 hpre, List.append_nil] at hlog
      split <;> simp_all
    · simpa using h

/-- The code of a `finally` clause runs after what it guards, and is logged after it. -/
theorem tryFinally {x : Harness σ α} {y : Harness σ Unit} {c : List Invocation} (hx : Logs x c)
    (hy : Logs y []) : Logs (Harness.tryFinally x y) c := by
  intro s
  have h₁ := hx s
  simp only [Harness.tryFinally]
  rcases hxs : x s with ⟨_ | _, s₁⟩ <;> simp only [hxs] at h₁ <;>
    have h₂ := hy s₁ <;> rcases hys : y s₁ with ⟨_ | _, s₂⟩ <;> simp only [hys] at h₂ ⊢
  · obtain ⟨pre, hpre, hlog⟩ := h₁
    obtain ⟨pre', hpre', hlog'⟩ := h₂
    exact ⟨pre, hpre, by rw [hlog', List.prefix_nil.1 hpre', List.append_nil, hlog]⟩
  · obtain ⟨pre, hpre, hlog⟩ := h₁
    exact ⟨pre, hpre, by rw [h₂, List.append_nil, hlog]⟩
  · obtain ⟨pre', hpre', hlog'⟩ := h₂
    exact ⟨c, List.prefix_refl _, by rw [hlog', List.prefix_nil.1 hpre', List.append_nil, h₁]⟩
  · rw [h₂, List.append_nil, h₁]

end Logs

/-! ### `Triple`: what a step does to the state -/

/-- From a state in `P`, `x` returns some `a` in a state in `Q a`, or raises some `e` with `E e`.
What a raising step leaves behind is not described: the run ends there. -/
def Triple (P : HState σ → Prop) (x : Harness σ α) (Q : α → HState σ → Prop)
    (E : PyError → Prop) : Prop :=
  ∀ s, P s → match x s with
    | (.ok a, s') => Q a s'
    | (.error e, _) => E e

namespace Triple

variable {P P' : HState σ → Prop} {Q Q' : α → HState σ → Prop} {E : PyError → Prop}

theorem pure (a : α) : Triple (Q a) (Pure.pure a : Harness σ α) Q E := fun _ h ↦ h

/-- A step that returns at once keeps the state. -/
theorem skip (a : α) : Triple P (Pure.pure a : Harness σ α) (fun _ ↦ P) E := fun _ h ↦ h

theorem throw (e : PyError) (he : E e) : Triple P (Harness.throw e : Harness σ α) Q E :=
  fun _ _ ↦ he

/-- **Sequencing**: the first step's postcondition is the second step's precondition. -/
theorem bind {x : Harness σ α} {f : α → Harness σ β} {R : α → HState σ → Prop}
    {Q : β → HState σ → Prop} (hx : Triple P x R E) (hf : ∀ a, Triple (R a) (f a) Q E) :
    Triple P (x >>= f) Q E := by
  intro s hs
  have h := hx s hs
  simp only [bind_apply]
  rcases hxs : x s with ⟨_ | a, s₁⟩ <;> simp only [hxs] at h ⊢
  · exact h
  · exact hf a s₁ h

theorem conseq {x : Harness σ α} (h : Triple P x Q E) (hP : ∀ s, P' s → P s)
    (hQ : ∀ a s, Q a s → Q' a s) : Triple P' x Q' E := by
  intro s hs
  have h' := h s (hP s hs)
  rcases hxs : x s with ⟨_ | a, s₁⟩ <;> simp only [hxs] at h' ⊢
  · exact h'
  · exact hQ a s₁ h'

/-- A weaker condition on what the step raises. -/
theorem error_mono {E' : PyError → Prop} {x : Harness σ α} (h : Triple P x Q E)
    (hE : ∀ e, E e → E' e) : Triple P x Q E' := by
  intro s hs
  have h' := h s hs
  rcases hxs : x s with ⟨_ | a, s₁⟩ <;> simp only [hxs] at h' ⊢
  · exact hE _ h'
  · exact h'

/-- A fact that does not depend on the state can be taken out of the precondition. -/
theorem pure_pre {p : Prop} {x : Harness σ α} (h : p → Triple P x Q E) :
    Triple (fun s ↦ p ∧ P s) x Q E :=
  fun s hs ↦ h hs.1 s hs.2

theorem exists_pre {ι : Type} {P : ι → HState σ → Prop} {x : Harness σ α}
    (h : ∀ i, Triple (P i) x Q E) : Triple (fun s ↦ ∃ i, P i s) x Q E :=
  fun s ⟨i, hs⟩ ↦ h i s hs

/-- Any step, read only for whether it returns. -/
theorem any (x : Harness σ α) : Triple P x (fun _ _ ↦ True) (fun _ ↦ True) :=
  fun s _ ↦ by rcases x s with ⟨_ | _, _⟩ <;> trivial

theorem of_false {x : Harness σ α} : Triple (fun _ ↦ False) x Q E := fun _ h ↦ h.elim

/-- A computation that cannot touch the world returns its value, or raises what it raises. -/
theorem liftExcept (x : Except PyError α) (hx : ∀ e, x = .error e → E e) :
    Triple P (Harness.liftExcept x) (fun a s ↦ x = .ok a ∧ P s) E := by
  intro s hs
  rcases hxe : x with e | a
  · exact hx e hxe
  · exact ⟨rfl, hs⟩

/-- A computation whose result is known passes it on. -/
theorem liftExcept_bind {x : Except PyError α} {a : α} {f : α → Harness σ β}
    {Q : β → HState σ → Prop} (h : x = .ok a) (hf : Triple P (f a) Q E) :
    Triple P (Harness.liftExcept x >>= f) Q E := by
  subst h
  exact hf

theorem ite {p : Prop} [Decidable p] {x y : Harness σ α} (hx : p → Triple P x Q E)
    (hy : ¬ p → Triple P y Q E) : Triple P (if p then x else y) Q E := by
  split
  · exact hx ‹_›
  · exact hy ‹_›

/-- An `assert` that holds is a no-op. -/
theorem pyAssertMsg_of_true {msg : Harness σ String} (line : Nat) {cond : Bool}
    (h : cond = true) : Triple P (Harness.pyAssertMsg line cond msg) (fun _ ↦ P) E := by
  simp only [Harness.pyAssertMsg, h, if_true]
  exact skip ()

/-- An `assert` whose failure `E` allows: it passes, or its message fails to build, or it
raises its `AssertionError`. -/
theorem pyAssertMsg_of_line {msg : Harness σ String} (line : Nat) (cond : Bool)
    (hline : ∀ m, E (.assertionError line m)) (hmsg : Triple P msg (fun _ _ ↦ True) E) :
    Triple P (Harness.pyAssertMsg line cond msg) (fun _ ↦ P) E :=
  ite (fun _ ↦ skip ()) fun _ ↦ bind hmsg fun m ↦ throw _ (hline m)

/-- **A loop keeps its invariant** when every pass through the body does. -/
theorem forEach {xs : List α} {body : α → Harness σ Unit}
    (h : ∀ a ∈ xs, Triple P (body a) (fun _ ↦ P) E) :
    Triple P (Harness.forEach xs body) (fun _ ↦ P) E := by
  induction xs with
  | nil => exact skip ()
  | cons x xs ih =>
    exact bind (h x (List.mem_cons_self _ _)) fun _ ↦ ih fun a ha ↦ h a (List.mem_cons_of_mem _ ha)

/-! The world's operations, each with the weakest precondition of its postcondition. -/

section Ops

variable (w : World σ)

theorem exec (inv : Invocation) {Q : String × Int → HState σ → Prop} :
    Triple (fun s ↦ match w.exec s.world inv with
        | .ok r => Q r.2 ⟨r.1, s.log ++ [inv]⟩
        | .error msg => E (.osError msg))
      (Harness.exec w inv) Q E := by
  intro s hs
  rcases h : w.exec s.world inv with msg | r <;> simp only [Harness.exec, h] at hs ⊢ <;> exact hs

theorem get (req : Request) {Q : Json → HState σ → Prop} :
    Triple (fun s ↦ match w.get s.world req with
        | .ok v => Q v s
        | .error f => E f.toPyError)
      (Harness.get w req) Q E := by
  intro s hs
  simp only [Harness.get]
  cases hg : w.get s.world req <;> simp only [hg] at hs <;> exact hs

theorem load (path : String) {Q : Json → HState σ → Prop} :
    Triple (fun s ↦ match w.load s.world path with
        | .ok v => Q v s
        | .error f => E f.toPyError)
      (Harness.load w path) Q E := by
  intro s hs
  simp only [Harness.load]
  cases hl : w.load s.world path <;> simp only [hl] at hs <;> exact hs

theorem mkstemp {Q : String → HState σ → Prop} :
    Triple (fun s ↦ Q (w.mkstemp s.world).2 { s with world := (w.mkstemp s.world).1 })
      (Harness.mkstemp w) Q E :=
  fun _ h ↦ h

theorem mkdtemp (suffix : String) {Q : String → HState σ → Prop} :
    Triple (fun s ↦ Q (w.mkdtemp s.world suffix).2 { s with world := (w.mkdtemp s.world suffix).1 })
      (Harness.mkdtemp w suffix) Q E :=
  fun _ h ↦ h

theorem write (path text : String) {Q : Unit → HState σ → Prop} :
    Triple (fun s ↦ match w.write s.world path text with
        | .ok world => Q () { s with world }
        | .error msg => E (.ioError msg))
      (Harness.write w path text) Q E := by
  intro s hs
  rcases h : w.write s.world path text with msg | world <;>
    simp only [Harness.write, h] at hs ⊢ <;> exact hs

theorem chmod (path : String) (mode : Nat) {Q : Unit → HState σ → Prop} :
    Triple (fun s ↦ match w.chmod s.world path mode with
        | .ok () => Q () s
        | .error msg => E (.osError msg))
      (Harness.chmod w path mode) Q E := by
  intro s hs
  rcases h : w.chmod s.world path mode with msg | _ <;>
    simp only [Harness.chmod, h, Except.mapError] at hs ⊢ <;> exact hs

theorem remove (path : String) {Q : Unit → HState σ → Prop} :
    Triple (fun s ↦ Q () { s with world := w.remove s.world path }) (Harness.remove w path) Q E :=
  fun _ h ↦ h

end Ops

/-- **`try` ... `finally`**: the guarded code's postcondition, carried through the cleanup, and
any exception either part raises. -/
theorem tryFinally {x : Harness σ α} {y : Harness σ Unit} (hx : Triple P x Q E)
    (hy : ∀ a, Triple (Q a) y (fun _ ↦ Q a) E) (hyE : ∀ s e, (y s).1 = .error e → E e) :
    Triple P (Harness.tryFinally x y) Q E := by
  intro s hs
  have h := hx s hs
  simp only [Harness.tryFinally]
  rcases hxs : x s with ⟨_ | a, s₁⟩ <;> simp only [hxs] at h ⊢ <;>
    rcases hys : y s₁ with ⟨_ | _, s₂⟩
  · exact hyE s₁ _ (by rw [hys])
  · exact h
  · simpa only [hys] using hy a s₁ h
  · simpa only [hys] using hy a s₁ h

/-- **`try` ... `except IOError: pass`**, for guarded code that keeps `P` in the state it reaches
whether it returns or raises, and raises nothing but an `IOError` or what `E` allows. -/
theorem catchIOError {x : Harness σ Unit}
    (hx : ∀ s, P s → P (x s).2 ∧ ∀ e, (x s).1 = .error e → (∃ m, e = .ioError m) ∨ E e) :
    Triple P (Harness.catchIOError x) (fun _ ↦ P) E := by
  intro s hs
  obtain ⟨hP, hE⟩ := hx s hs
  rcases hxs : x s with ⟨_ | _, s'⟩ <;> simp only [hxs] at hP hE
  · rename_i e
    cases e <;> simp only [Harness.catchIOError, hxs] <;>
      first | exact hP | exact (hE _ rfl).resolve_left (by simp)
  · simpa only [Harness.catchIOError, hxs] using hP

end Triple

/-! ### `Rel`: what a step does to the world, however it ends -/

/-- A relation between the world's states before and after a step: `ok` for a step that returns,
`err e` for one that raises `e`. The laws are what sequencing needs: a step that does nothing is
related, and a step that returns followed by one that returns or raises is related as the second
is. -/
structure StateRel (σ : Type) where
  ok : σ → σ → Prop
  err : PyError → σ → σ → Prop
  ok_refl : ∀ a, ok a a
  ok_trans : ∀ {a b c}, ok a b → ok b c → ok a c
  err_refl : ∀ e a, err e a a
  ok_err : ∀ {e a b c}, ok a b → err e b c → err e a c

/-- `x` relates the world's state before it to the state it ends in by `R`, whether it returns or
raises. Unlike `Triple`, this speaks of the state a raising step leaves. -/
def Rel (R : StateRel σ) (x : Harness σ α) : Prop :=
  ∀ s, match x s with
    | (.ok _, s') => R.ok s.world s'.world
    | (.error e, s') => R.err e s.world s'.world

namespace Rel

variable {R : StateRel σ}

/-- A step that leaves the world alone is related. -/
theorem of_world_eq {x : Harness σ α} (h : ∀ s, (x s).2.world = s.world) : Rel R x := by
  intro s
  have hs := h s
  rcases hx : x s with ⟨_ | _, s'⟩ <;> simp only [hx] at hs ⊢ <;> rw [hs]
  exacts [R.err_refl _ _, R.ok_refl _]

theorem pure (a : α) : Rel R (Pure.pure a : Harness σ α) := of_world_eq fun _ ↦ rfl

theorem throw (e : PyError) : Rel R (Harness.throw e : Harness σ α) := of_world_eq fun _ ↦ rfl

theorem liftExcept (x : Except PyError α) : Rel R (Harness.liftExcept x : Harness σ α) :=
  of_world_eq fun _ ↦ rfl

theorem get (w : World σ) (req : Request) : Rel R (Harness.get w req) := of_world_eq fun _ ↦ rfl

theorem load (w : World σ) (path : String) : Rel R (Harness.load w path) :=
  of_world_eq fun _ ↦ rfl

/-- **Sequencing**, where the second step need only be related after the values the first can
return. -/
theorem bind_of {x : Harness σ α} {f : α → Harness σ β} {p : α → Prop} (hx : Rel R x)
    (hp : ∀ s a, (x s).1 = .ok a → p a) (hf : ∀ a, p a → Rel R (f a)) : Rel R (x >>= f) := by
  intro s
  have h₁ := hx s
  rcases hxs : x s with ⟨_ | a, s₁⟩ <;> simp only [hxs] at h₁ <;> simp only [bind_apply, hxs]
  · exact h₁
  · have h₂ := hf a (hp s a (by rw [hxs])) s₁
    rcases hfs : f a s₁ with ⟨_ | _, s₂⟩ <;> simp only [hfs] at h₂ ⊢
    exacts [R.ok_err h₁ h₂, R.ok_trans h₁ h₂]

theorem bind {x : Harness σ α} {f : α → Harness σ β} (hx : Rel R x) (hf : ∀ a, Rel R (f a)) :
    Rel R (x >>= f) :=
  bind_of (p := fun _ ↦ True) hx (fun _ _ _ ↦ trivial) fun a _ ↦ hf a

theorem ite {p : Prop} [Decidable p] {x y : Harness σ α} (hx : Rel R x) (hy : Rel R y) :
    Rel R (if p then x else y) := by
  split <;> assumption

theorem pyAssertMsg {msg : Harness σ String} (line : Nat) (cond : Bool) (hmsg : Rel R msg) :
    Rel R (Harness.pyAssertMsg line cond msg) :=
  ite (pure ()) (bind hmsg fun _ ↦ throw _)

theorem pyAssert (line : Nat) (cond : Bool) : Rel R (Harness.pyAssert line cond : Harness σ Unit) :=
  pyAssertMsg line cond (pure _)

theorem forEach {xs : List α} {body : α → Harness σ Unit} (h : ∀ a ∈ xs, Rel R (body a)) :
    Rel R (Harness.forEach xs body) := by
  induction xs with
  | nil => exact pure ()
  | cons x xs ih =>
    exact bind (h x (List.mem_cons_self _ _)) fun _ ↦ ih fun a ha ↦ h a (List.mem_cons_of_mem _ ha)

end Rel

end Harness
