import NotaryBuildscripts.Harness

/-!
# `testchangefeed.py`'s `Client`: running the notary binary, and querying the change feed

`Client` wraps the notary binary. Its `run` builds the command line
`self.client + ["-d", trust_dir] + args` and starts it with the four signing passphrases in its
environment. The process writes its output to a new temporary file, which `run` reads back and
removes before it looks at the return code; it raises `CalledProcessError` when the process
exited non-zero (`checkReturn`). A binary that cannot be started raises `OSError` out of the
`with` block before `cleanup(filename)`, and leaves the file. `run` also answers the server's
credential prompts: `communicate_input` puts the username and the password after `stdinput`, each
on a line of its own (`communicateInput_eq_intercalate`), so that a process reading its input line
by line gets exactly the answers, in order (`split_communicateInput`).

`Client.changefeed` asks the server for a bearer token with HTTP basic auth, then sends the
change-feed query with it. The query names `change_id` only when a start is given and `records`
only when a page size is (`changefeed_url`).

The binary's path (`binary()`) and the repository root (`reporoot()`) depend on the platform and
on where the script lies; they are parameters here.
-/
open Py

namespace Buildscripts

/-- The passphrases `Client.__init__` puts in the environment of every notary process. -/
def passphrases : List (String × String) :=
  [("NOTARY_ROOT_PASSPHRASE", "root_ponies"), ("NOTARY_TARGETS_PASSPHRASE", "targets_ponies"),
    ("NOTARY_SNAPSHOT_PASSPHRASE", "snapshot_ponies"),
    ("NOTARY_DELEGATION_PASSPHRASE", "user_ponies")]

/-- `env.update(kvs)` on a copy of `os.environ`: the entries of `kvs` replace those with the
same key. -/
def envUpdate (env kvs : List (String × String)) : List (String × String) :=
  env.filter (fun kv ↦ !kvs.any fun kv' ↦ kv'.1 = kv.1) ++ kvs

/-- The end of `Client.run`: `if retcode: raise CalledProcessError(retcode, command,
output=output)`, then `return output`, for the output and return code `r` of `command`. -/
def checkReturn {σ : Type} (command : List String) (r : String × Int) : Harness σ String :=
  if r.2 ≠ 0 then Harness.throw (.calledProcessError r.2 command r.1) else pure r.1

theorem logs_checkReturn {σ : Type} (command : List String) (r : String × Int) :
    Harness.Logs (checkReturn command r : Harness σ String) [] :=
  Harness.Logs.ite (Harness.Logs.throw _) (Harness.Logs.pure _)

end Buildscripts

namespace Testchangefeed

/-- `testchangefeed.py`'s `Client`. -/
structure Client where
  notaryServer : String
  caFilePath : String
  /-- The `username_passwd` tuple: empty, or the username and the password. -/
  usernamePasswd : List String
  env : List (String × String)
  client : List String

/-- `Client(notary_server, ca_file_path, username_passwd)`. -/
def Client.init (binary : String) (environ : List (String × String))
    (notaryServer caFilePath : Option String) (usernamePasswd : List String) :
    Except PyError Client :=
  match notaryServer, caFilePath with
  | some server, some ca =>
    .ok ⟨server, ca, usernamePasswd, Buildscripts.envUpdate environ Buildscripts.passphrases,
      [binary, "-s", server, "--tlscacert", ca]⟩
  | _, _ => .error (.exception "must provide a notary_server and ca_file_path to Client")

/-- `communicate_input` in `Client.run`: the credentials, each with a newline, unless the
caller passes its own tuple; then `stdinput` in front, with a newline only when something
follows it. -/
def communicateInput (usernamePasswd : List String) (stdinput : Option String)
    (usernamePasswdArg : Option (List String)) : List String :=
  let input := usernamePasswdArg.getD (usernamePasswd.map (· ++ "\n"))
  match stdinput with
  | none => input
  | some text => if input = [] then [text] else (text ++ "\n") :: input

/-- `Client.run(args, trust_dir, stdinput, username_passwd)`. The process writes its standard
output to a new temporary file (`mkstemp()`); the file is read back, which gives what the process
wrote, and removed (`cleanup(filename)`) before the return code is looked at. -/
def Client.run {σ : Type} (w : World σ) (c : Client) (args : List String) (trustDir : String)
    (stdinput : Option String) (usernamePasswdArg : Option (List String)) :
    Harness σ String := do
  let command := c.client ++ ["-d", trustDir] ++ args
  let filename ← Harness.mkstemp w
  let r ← Harness.exec w
    ⟨command, c.env, some (join "" (communicateInput c.usernamePasswd stdinput usernamePasswdArg))⟩
  Harness.remove w filename
  Buildscripts.checkReturn command r

theorem flatten_map_append_singleton (c : Char) (l : List (List Char)) :
    (l.map (· ++ [c])).flatten = [c].intercalate l ++ if l = [] then [] else [c] := by
  induction l with
  | nil => rfl
  | cons x l ih =>
    cases l with
    | nil => simp [List.intercalate]
    | cons y l => simp_all [List.intercalate, List.intersperse_cons_cons]

theorem flatten_intercalate_nil (l : List (List Char)) :
    ([] : List Char).intercalate l = l.flatten := by
  induction l with
  | nil => rfl
  | cons x l ih => cases l <;> simp_all [List.intercalate, List.intersperse_cons_cons]

/-- **What the process reads**: `stdinput` and the credentials joined by newlines, with a final
newline exactly when credentials are sent. -/
theorem communicateInput_eq_intercalate (usernamePasswd : List String) (stdinput : Option String) :
    (join "" (communicateInput usernamePasswd stdinput none)).data =
      ['\n'].intercalate ((stdinput.toList ++ usernamePasswd).map String.data) ++
        if usernamePasswd = [] then [] else ['\n'] := by
  have hmap : ∀ l : List String, (l.map (· ++ "\n")).map String.data =
      (l.map String.data).map (· ++ ['\n']) := by simp
  rcases stdinput with _ | text
  · show ([] : List Char).intercalate ((usernamePasswd.map (· ++ "\n")).map String.data) = _
    rw [flatten_intercalate_nil, hmap, flatten_map_append_singleton]
    simp
  · by_cases h : usernamePasswd = []
    · simp [join, communicateInput, h, List.intercalate]
    · obtain ⟨u, us, rfl⟩ := List.exists_cons_of_ne_nil h
      show ([] : List Char).intercalate
        (((text ++ "\n") :: (u :: us).map (· ++ "\n")).map String.data) = _
      rw [flatten_intercalate_nil, List.map_cons, List.flatten_cons, hmap,
        flatten_map_append_singleton]
      simp [List.intercalate, List.intersperse_cons_cons]

theorem intercalate_append_nil (c : Char) (l : List (List Char)) (hl : l ≠ []) :
    [c].intercalate (l ++ [[]]) = [c].intercalate l ++ [c] := by
  induction l with
  | nil => exact absurd rfl hl
  | cons x l ih =>
    cases l with
    | nil => simp [List.intercalate, List.intersperse_cons_cons]
    | cons y l => simp_all [List.intercalate, List.intersperse_cons_cons]

/-- **The answers arrive one per line.** When no answer holds a newline, a process reading its
standard input line by line reads `stdinput`, then the username, then the password, and after
the credentials an empty last line. -/
theorem split_communicateInput (usernamePasswd : List String) (stdinput : Option String)
    (hnl : ∀ x ∈ stdinput.toList ++ usernamePasswd, '\n' ∉ x.data)
    (hne : stdinput.toList ++ usernamePasswd ≠ []) :
    split (join "" (communicateInput usernamePasswd stdinput none)) '\n' =
      stdinput.toList ++ usernamePasswd ++ if usernamePasswd = [] then [] else [""] := by
  have hne' : (stdinput.toList ++ usernamePasswd).map String.data ≠ [] := by simpa using hne
  have hnl' : ∀ l ∈ (stdinput.toList ++ usernamePasswd).map String.data, '\n' ∉ l :=
    List.forall_mem_map.2 hnl
  rw [split, communicateInput_eq_intercalate]
  split_ifs with h
  · rw [List.append_nil, List.splitOn_intercalate _ _ hnl' hne']
    simp [Function.comp_def]
  · rw [← intercalate_append_nil _ _ hne', ← List.map_singleton String.data "", ← List.map_append,
      List.splitOn_intercalate]
    · simp [Function.comp_def]
    · exact List.forall_mem_map.2 fun x hx ↦ (List.mem_append.1 hx).elim (hnl x) fun h ↦ by
        simp [List.mem_singleton.1 h]
    · simp

/-- `split_communicateInput` for the root rotation's confirmation and a pair of credentials. -/
theorem split_communicateInput_yes :
    (∀ x ∈ (some "yes").toList ++ ["user", "password"], '\n' ∉ x.data) ∧
      (some "yes").toList ++ ["user", "password"] ≠ [] ∧
      split (join "" (communicateInput ["user", "password"] (some "yes") none)) '\n' =
        ["yes", "user", "password", ""] :=
  ⟨by decide, by decide, split_communicateInput _ _ (by decide) (by decide)⟩

/-- `username_passwd[i]`. -/
def tupleIndex (xs : List String) (i : Nat) : Except PyError String :=
  match xs.get? i with
  | some x => .ok x
  | none => .error (.indexError "tuple index out of range")

theorem noAssert_tupleIndex (xs : List String) (i : Nat) : NoAssert (tupleIndex xs i) := by
  unfold tupleIndex
  split <;> simp

/-- The token URL and the change-feed URL of `Client.changefeed`, before the query: scoped to
`gun` when one is given, catalog-wide otherwise. -/
def changefeedUrls (server : String) (gun : Option String) : Except PyError (String × String) :=
  match gun with
  | some gun => do
    let tokenUrl ←
      format "{}/auth/token?realm=dtr&service=dtr&scope=repository:{}:pull" [server, gun]
    let changefeedUrl ← format "{}/v2/{}/_trust/changefeed" [server, gun]
    pure (tokenUrl, changefeedUrl)
  | none => do
    let tokenUrl ← format "{}/auth/token?service=dtr&scope=registry:catalog:*" [server]
    let changefeedUrl ← format "{}/v2/_trust/changefeed" [server]
    pure (tokenUrl, changefeedUrl)

/-- The URLs for a repository, as `format` fills in the templates. -/
theorem changefeedUrls_some (server gun : String) :
    changefeedUrls server (some gun) =
      .ok (server ++ ("/auth/token?realm=dtr&service=dtr&scope=repository:" ++ (gun ++ ":pull")),
        server ++ ("/v2/" ++ (gun ++ "/_trust/changefeed"))) := rfl

/-- The terms of the change-feed query: `change_id` unless `start` is `None`, `records` unless
`pagesize` is. -/
def changefeedQuery (start pagesize : Json) : List String :=
  (match start with
    | .null => []
    | v => ["change_id=" ++ v.pyStr]) ++
  (match pagesize with
    | .null => []
    | v => ["records=" ++ v.pyStr])

/-- `"Bearer " + token`: a string concatenates, anything else is a `TypeError`. -/
def bearer : Json → Except PyError String
  | .str token => .ok ("Bearer " ++ token)
  | _ => .error (.typeError "cannot concatenate \x27str\x27 and non-string objects")

theorem noAssert_bearer (v : Json) : NoAssert (bearer v) := by
  cases v <;> simp [bearer]

/-- `Client.changefeed(gun, start, pagesize)`. The `sleep(60)` before the queries is not
modelled: nothing here depends on time. -/
def Client.changefeed {σ : Type} (w : World σ) (c : Client) (gun : Option String)
    (start pagesize : Json) : Harness σ Json := do
  let (tokenUrl, changefeedUrl) ← Harness.liftExcept (changefeedUrls c.notaryServer gun)
  let changefeedUrl := changefeedUrl ++ "?" ++ join "&" (changefeedQuery start pagesize)
  let user ← Harness.liftExcept (tupleIndex c.usernamePasswd 0)
  let passwd ← Harness.liftExcept (tupleIndex c.usernamePasswd 1)
  let resp ← Harness.get w ⟨tokenUrl, some (user, passwd), []⟩
  let token ← Harness.liftExcept (resp.getKey "token")
  let auth ← Harness.liftExcept (bearer token)
  Harness.get w ⟨changefeedUrl, none, [("Authorization", auth)]⟩

end Testchangefeed
