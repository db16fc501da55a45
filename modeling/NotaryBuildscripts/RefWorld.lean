import NotaryBuildscripts.RefServer
import NotaryBuildscripts.Tester

/-!
# A reference world: a notary client, its server, and a disk

The theorems about whole runs assume contracts on the world: `Feed.Conforming` for the change
feed, `Buildscripts.TempFs` for the temporary paths. This module builds one world that meets them
and in which `testchangefeed.py`'s `run()` passes every check it makes, so that those theorems
are shown to be about runs that happen, and not only about runs that stop early.

`refWorld server` has three parts in its state (`RefHost`):

* the server's change log (`Feed.RefState`);
* a `Machine`: what the processes act on, namely the repositories' content on the server
  (published and staged targets, delegations, root key rotations), the root metadata each trust
  directory has cached, and the programs that can be started;
* the disk the script touches itself: the temporary paths that exist, and the files written.

A process runs only if its program is installed; `Popen` raises `OSError` otherwise. `go build`
installs the binary it names when the sources build (`Machine.builds`). A notary command acts as
its subcommand says (`Machine.notary`): `list` prints a repository's published targets and caches
its root metadata in the trust directory, `key list` prints a `root` line per repository,
`key rotate <gun> root` rotates the root key, and so on. Then, when the process exits 0, the
server records the change `Feed.mutation` reads off its command line: the world conforms by
construction (`refWorld_conforming`).

This is not a model of notary: it is one behaviour of the client and its server that the
scripts' checks accept, written down so that it can be run.
-/

open Py Harness Feed

namespace Buildscripts

/-- What the processes of the reference world act on. -/
structure Machine where
  /-- The published targets, as (repository, target, role). -/
  published : List (String × String × String)
  /-- The targets added and not yet published, as (repository, target, role). -/
  staged : List (String × String × String)
  /-- The delegated roles, as (repository, role). -/
  delegations : List (String × String)
  /-- The initialised repositories, each with the number of times its root key was rotated. -/
  roots : List (String × Nat)
  /-- The root metadata the trust directories have cached, by path. -/
  cache : List (String × Json)
  /-- The programs that can be started. -/
  programs : List String
  /-- Whether the client's sources build. -/
  builds : Bool

/-- The reference world's state. -/
structure RefHost where
  server : RefState
  machine : Machine
  /-- The temporary files and directories that exist. -/
  temps : List String
  /-- The files written, with their text. -/
  files : List (String × String)

/-- A path of the temporary directory longer than every path of `L`, so not one of them. -/
def freshName (L : List String) (suffix : String) : String :=
  ⟨"/tmp/tmp".data ++ (L.map String.data).flatten ++ suffix.data⟩

/-- Text printed one item a line. -/
def printLines (ls : List String) : String := String.join (ls.map (· ++ "\n"))

/-- The value of the global flag `flag` among the leading global flags of a notary command. -/
def globalFlag (flag : String) : List String → Option String
  | f :: v :: rest =>
    if f ∈ globalFlags then (if f = flag then some v else globalFlag flag rest) else none
  | _ => none

/-- The key ID of `gun`'s root key after `n` rotations. -/
def rootKeyId (gun : String) (n : Nat) : String := gun ++ "-root-" ++ toString n

/-- `gun`'s root metadata after `n` rotations: the keys of the three other base roles and every
root key so far, and the current root key as the root role's only key. -/
def rootJson (gun : String) (n : Nat) : Json :=
  .obj [("signed", .obj [
    ("keys", .obj ((["targets", "snapshot", "timestamp"].map fun role ↦
        (gun ++ "-" ++ role, .obj [])) ++
      (List.range (n + 1)).map fun k ↦ (rootKeyId gun k, .obj []))),
    ("roles", .obj [("root", .obj [("keyids", .arr [.str (rootKeyId gun n)])])])])]

namespace Machine

/-- How many times `gun`'s root key has been rotated. -/
def rotations (m : Machine) (gun : String) : Nat := (m.roots.lookup gun).getD 0

/-- A notary subcommand, run with the trust directory `dir`: the machine after it, what it
prints, and its exit code. -/
def notary (m : Machine) (dir : String) : List String → Machine × String × Int
  | ["init", gun] =>
    ({ m with roots := if (m.roots.lookup gun).isSome then m.roots else m.roots ++ [(gun, 0)] },
      "", 0)
  | ["add", gun, name, _] => ({ m with staged := m.staged ++ [(gun, name, "targets")] }, "", 0)
  | ["add", gun, name, _, "-r", role] =>
    ({ m with staged := m.staged ++ [(gun, name, role)] }, "", 0)
  | ["publish", gun] =>
    ({ m with published := m.published ++ m.staged.filter (·.1 = gun),
               staged := m.staged.filter (·.1 ≠ gun) }, "", 0)
  | ["list", gun] =>
    ({ m with
        cache := (Testchangefeed.rootJsonPath dir gun, rootJson gun (m.rotations gun)) :: m.cache },
      printLines ((m.published.filter (·.1 = gun)).map fun t ↦ t.2.1 ++ " " ++ t.2.2), 0)
  | "delegation" :: "add" :: gun :: role :: _ =>
    ({ m with delegations := m.delegations ++ [(gun, role)] }, "", 0)
  | ["delegation", "list", gun] =>
    (m, printLines ((m.delegations.filter (·.1 = gun)).map (·.2)), 0)
  | ["key", "list"] => (m, printLines (m.roots.map fun r ↦ "root " ++ rootKeyId r.1 r.2), 0)
  | ["key", "rotate", gun, "root"] =>
    ({ m with roots := m.roots.map fun r ↦ if r.1 = gun then (r.1, r.2 + 1) else r }, "", 0)
  | "key" :: "rotate" :: _ => (m, "", 0)
  | "key" :: "import" :: _ => (m, "", 0)
  | "verify" :: gun :: name :: _ =>
    if m.published.any fun t ↦ t.1 = gun ∧ t.2.1 = name then (m, "", 0)
    else (m, "target not found", 1)
  | ["delete", "--remote", gun] =>
    ({ m with published := m.published.filter (·.1 ≠ gun), staged := m.staged.filter (·.1 ≠ gun) },
      "", 0)
  | _ => (m, "unknown command", 1)

/-- `go build -o <binary> <package>`: installs the binary when the sources build. -/
def goBuild (m : Machine) : List String → Machine × String × Int
  | ["build", "-o", binary, _] =>
    if m.builds then ({ m with programs := m.programs ++ [binary] }, "", 0)
    else (m, "build failed", 2)
  | _ => (m, "unknown command", 2)

/-- Start the command line `argv`: `go` builds, any other installed program is a notary client,
and a program that is not installed cannot be started. -/
def start (m : Machine) : List String → Except String (Machine × String × Int)
  | [] => .error "[Errno 2] No such file or directory"
  | prog :: args =>
    if prog ∈ m.programs then
      .ok (if prog = "go" then m.goBuild args
        else m.notary ((globalFlag "-d" args).getD "~/.notary") (skipGlobalFlags args))
    else .error "[Errno 2] No such file or directory"

end Machine

/-- The reference world, in front of the server at `server`. A process runs on the machine, and
the server records its change when it exits 0. A token request gets a token, a change-feed GET
the page its URL asks for, and any other URL is not found. -/
def refWorld (server : String) : World RefHost where
  exec s inv :=
    match s.machine.start inv.argv with
    | .ok (m, out, code) =>
      .ok ({ s with machine := m,
                    server := if code = 0 then s.server.record (mutation inv.argv) else s.server },
        out, code)
    | .error msg => .error msg
  get s req :=
    match req.auth, parseFeedUrl server req.url with
    | some _, _ => .ok (.obj [("token", .str "token")])
    | none, some (gun, start, size) => .ok (pageJson (page (feedOf gun s.server.log) start size))
    | none, none => .error (.io "404 Not Found")
  load s path :=
    match s.machine.cache.lookup path with
    | some v => .ok v
    | none => .error (.io ("[Errno 2] No such file or directory: " ++ path))
  mkstemp s := ({ s with temps := freshName s.temps "" :: s.temps }, freshName s.temps "")
  mkdtemp s suffix :=
    ({ s with temps := freshName s.temps suffix :: s.temps }, freshName s.temps suffix)
  write s path text := .ok { s with files := (path, text) :: s.files }
  chmod s path _ :=
    if (s.files.lookup path).isSome then .ok ()
    else .error ("[Errno 2] No such file or directory: " ++ path)
  remove s path :=
    { s with temps := s.temps.filter (· ≠ path), files := s.files.filter (·.1 ≠ path) }

/-- `requests.get(url)` of the reference server: its CA certificate at `/ca`, nothing else. -/
def refFetch (server : String) (_ : RefHost) (url : String) : Except Failure (Nat × String) :=
  if url = server ++ "/ca" then .ok (200, "-----BEGIN CERTIFICATE-----") else .ok (404, "")

/-- **The reference world conforms.** -/
theorem refWorld_conforming (server : String) :
    Conforming (refWorld server) server fun s ↦ s.server.log where
  ordered s := s.server.ordered
  exec_ok s inv r h hr := by
    simp only [refWorld] at h
    split at h
    · cases h
      rw [if_pos hr]
      exact ⟨nextId s.server.log, rfl⟩
    · cases h
  get_feed s gun start size headers v h := by
    simp only [refWorld, parseFeedUrl_feedQueryUrl] at h
    exact (Except.ok.inj h).symm
  mkstemp _ := rfl
  mkdtemp _ _ := rfl
  write _ _ _ _ h := by cases h; rfl
  remove _ _ := rfl

end Buildscripts
