import Mathlib.Data.List.Sort
import Mathlib.Data.String.Basic
import NotaryBuildscripts.PyStr

/-!
# `covertest.py`: `go test` over every package, one coverage profile each

`run_test_with_coverage` lists the repository's packages with `go list`, then starts one
`go test -coverprofile <file> <pkg>` per package, in order, and stops the whole script at the
first package whose tests fail. The profile of package `pkg` is written to
`os.path.join(coverdir, get_coverprofile_filename(pkg, buildtags))`.

The `go` tool is an oracle (`GoTool`): the script only reads what it prints and its exit
status. The answer of a `go test` may depend on how many came before it, so that a package
listed twice can pass once and fail the next time. A run is recorded as a `CoverRun`: the
argument vectors of the `go test` processes started, the text written to standard output, and
how the function ended (`Exit`).

## What is proved

* `testLoop_fail_fast`: **the loop is fail-fast**. The commands started are
  those of the packages up to and including the first failing one, and the run exits with that
  package's return code; if none fails, every package is tested and the function returns.
  `testLoop_stdout`: what it writes is the shown output of those packages, then the banner
  `Tests failed.` exactly when one failed.
* `getCoverprofileFilename_eq_iff`: two packages get the same profile file exactly when their
  flattened names (`coverprofileStem`: `/` read as `-`, space as `_`) agree. The flattening is
  not injective on import paths: `x/a-b` and `x/a/b` share one file
  (`coverprofile_paths_collide`), and the later `go test` overwrites the earlier profile.
* `coverprofile_paths_nodup_iff`: over every run, the profile paths passed to the successive
  `go test` invocations are pairwise distinct exactly when the tested packages' flattened names
  are.
* `main_default_commands`: the script run without options (`main`) tests every package
  `go list` reported, in sorted order, up to the first failing one.
* `runTestWithCoverage_valueError_iff`: `max` raises `ValueError` exactly when no package is
  given and every package `go list` printed is vendored.
-/

namespace Covertest

open Py

/-! ### Package listing and profile names -/

/-- `BASE_PKG`. -/
def basePkg : String := "github.com/docker/notary"

/-- `get_all_notary_pkgs(buildtags)`, given what `go list -tags <buildtags> ./...` printed. The
vendor test reads each line before it is stripped, as the list comprehension does. -/
def getAllNotaryPkgs (out : String) : List String :=
  ((split (strip out) '\n').filter fun p ↦ !startswith p (pathJoin basePkg "vendor/")).map strip

/-- `pkg.replace('/', '-').replace(' ', '_')`: the import path flattened into one path
component. -/
def coverprofileStem (pkg : String) : String := replace (replace pkg "/" "-") " " "_"

/-- `get_coverprofile_filename(pkg, buildtags)`. -/
def getCoverprofileFilename (pkg buildtags : String) : String :=
  let buildtags := if buildtags = "" then buildtags else "." ++ replace buildtags " " "."
  coverprofileStem pkg ++ buildtags ++ ".coverage.txt"

/-- The character map of `coverprofileStem`. -/
def flatten (c : Char) : Char := Char.subst ' ' '_' (Char.subst '/' '-' c)

theorem coverprofileStem_data (pkg : String) :
    (coverprofileStem pkg).data = pkg.data.map flatten := by
  simp only [coverprofileStem, show "/" = ⟨['/']⟩ from rfl, show "-" = ⟨['-']⟩ from rfl,
    show " " = ⟨[' ']⟩ from rfl, show "_" = ⟨['_']⟩ from rfl, replace_singleton, List.map_map]
  rfl

theorem flatten_ne_slash (c : Char) : flatten c ≠ '/' := by
  unfold flatten Char.subst
  split_ifs <;> simp_all

/-- A profile file name is relative: it never starts with `/`, so `os.path.join` puts it
under `coverdir`. -/
theorem startswith_getCoverprofileFilename (pkg buildtags : String) :
    startswith (getCoverprofileFilename pkg buildtags) "/" = false := by
  rcases pkg with ⟨_ | ⟨c, cs⟩⟩ <;> unfold getCoverprofileFilename <;> split_ifs with h <;>
    simp [h, startswith, coverprofileStem_data, (flatten_ne_slash _).symm, List.isPrefixOf_cons₂,
      show "/" = ⟨['/']⟩ from rfl, show "." = ⟨['.']⟩ from rfl]

/-- **Two packages share a profile file exactly when their flattened names agree**, whatever
the build tags. -/
theorem getCoverprofileFilename_eq_iff (p q buildtags : String) :
    getCoverprofileFilename p buildtags = getCoverprofileFilename q buildtags ↔
      coverprofileStem p = coverprofileStem q := by
  simp only [getCoverprofileFilename, String.ext_iff, String.data_append, List.append_assoc,
    List.append_left_inj]

/-- On characters other than a space, flattening identifies `/` with `-` and nothing else. -/
theorem flatten_eq_iff {c d : Char} (hc : c ≠ ' ') (hd : d ≠ ' ') :
    flatten c = flatten d ↔ c = d ∨ c = '/' ∧ d = '-' ∨ c = '-' ∧ d = '/' := by
  unfold flatten Char.subst
  split_ifs <;> simp_all [eq_comm]

/-! ### The `go test` loop -/

/-- What the `go` tool answers the script. -/
structure GoTool where
  /-- `subprocess.check_output(argv)`: what the command printed, or its non-zero exit status. -/
  checkOutput : List String → Except Int String
  /-- `subprocess.Popen(argv, stdout=PIPE, stderr=STDOUT)` read to the end, for the `n`-th
  `go test` of the run (from `0`): the lines of its output, each with its newline, and
  `returncode` after `wait()`. -/
  popen : Nat → List String → List String × Int

/-- How `run_test_with_coverage` ends. -/
inductive Exit where
  /-- Every package was tested and the function returned. -/
  | returned
  /-- `go list` exited non-zero, and `check_output` raised `CalledProcessError`. -/
  | calledProcessError (code : Int)
  /-- There was no package to take the longest name of, and `max` raised `ValueError`. -/
  | valueError
  /-- A package's tests failed: `sys.exit(app.returncode)`. -/
  | systemExit (code : Int)
  deriving DecidableEq, Repr

/-- A run of `run_test_with_coverage`. -/
structure CoverRun where
  /-- The argument vector of each `go test` started, in order. -/
  commands : List (List String)
  /-- What was written to standard output, write by write: a `print` writes its text and then
  the newline. -/
  stdout : List String
  /-- How the function ended. -/
  exit : Exit
  deriving DecidableEq, Repr

/-- The `go test` warning for a package no test depends on; the loop drops it. -/
def coverageWarning : String :=
  "warning: no packages being tested depend on github.com/docker/notary"

/-- What the loop writes for one line of `go test` output: nothing for the coverage warning,
otherwise the line with the package list shortened and `pkg` padded to the longest name. -/
def showLine (allpkgString pkg : String) (longest : Nat) (line : String) : List String :=
  if startswith line coverageWarning then []
  else [replace (replace line allpkgString "<all packages>") pkg (ljust pkg longest)]

/-- `base_cmd + ["-coverprofile", os.path.join(coverdir, ...), pkg]`. -/
def testCmd (baseCmd : List String) (coverdir buildtags pkg : String) : List String :=
  baseCmd ++ ["-coverprofile", pathJoin coverdir (getCoverprofileFilename pkg buildtags), pkg]

section Loop

variable (go : GoTool) (baseCmd : List String) (coverdir buildtags allpkgString : String)
  (longest : Nat)

/-- The `for pkg in pkgs` loop of `run_test_with_coverage`, after `n` packages were tested. -/
def testLoop (n : Nat) : List String → CoverRun
  | [] => ⟨[], [], .returned⟩
  | pkg :: pkgs =>
    let cmd := testCmd baseCmd coverdir buildtags pkg
    let shown := (go.popen n cmd).1.flatMap (showLine allpkgString pkg longest)
    if (go.popen n cmd).2 ≠ 0 then
      ⟨[cmd], shown ++ ["\n\nTests failed.\n", "\n"], .systemExit (go.popen n cmd).2⟩
    else
      let rest := testLoop (n + 1) pkgs
      ⟨cmd :: rest.commands, shown ++ rest.stdout, rest.exit⟩

/-- The `i`-th package tested, `pkg`, fails when its `go test` returns non-zero. -/
def fails (p : Nat × String) : Bool :=
  (go.popen p.1 (testCmd baseCmd coverdir buildtags p.2)).2 != 0

/-- The loop starts the `go test` of every package up to and including the first failing one. -/
theorem testLoop_commands (n : Nat) (pkgs : List String) :
    (testLoop go baseCmd coverdir buildtags allpkgString longest n pkgs).commands =
      (pkgs.take ((pkgs.enumFrom n).findIdx (fails go baseCmd coverdir buildtags) + 1)).map
        (testCmd baseCmd coverdir buildtags) := by
  induction pkgs generalizing n with
  | nil => rfl
  | cons pkg pkgs ih =>
    by_cases h : (go.popen n (testCmd baseCmd coverdir buildtags pkg)).2 = 0
    · have hf : fails go baseCmd coverdir buildtags (n, pkg) = false := by simp [fails, h]
      simp [testLoop, hf, h, ih, List.findIdx_cons]
    · have hf : fails go baseCmd coverdir buildtags (n, pkg) = true := by simp [fails, h]
      simp [testLoop, hf, h, List.findIdx_cons]

/-- The loop exits with the return code of the first failing package, if any. -/
theorem testLoop_exit (n : Nat) (pkgs : List String) :
    (testLoop go baseCmd coverdir buildtags allpkgString longest n pkgs).exit =
      match (pkgs.enumFrom n).find? (fails go baseCmd coverdir buildtags) with
      | some (i, pkg) => .systemExit (go.popen i (testCmd baseCmd coverdir buildtags pkg)).2
      | none => .returned := by
  induction pkgs generalizing n with
  | nil => rfl
  | cons pkg pkgs ih =>
    by_cases h : (go.popen n (testCmd baseCmd coverdir buildtags pkg)).2 = 0
    · have hf : fails go baseCmd coverdir buildtags (n, pkg) = false := by simp [fails, h]
      simp [testLoop, hf, h, ih, List.find?_cons]
    · have hf : fails go baseCmd coverdir buildtags (n, pkg) = true := by simp [fails, h]
      simp [testLoop, hf, h, List.find?_cons]

/-- **The loop is fail-fast.** It starts the `go test` of every package up to and including
the first failing one, in order, and exits with that package's return code; when no package
fails it tests them all and returns. -/
theorem testLoop_fail_fast (n : Nat) (pkgs : List String) :
    (testLoop go baseCmd coverdir buildtags allpkgString longest n pkgs).commands =
        (pkgs.take ((pkgs.enumFrom n).findIdx (fails go baseCmd coverdir buildtags) + 1)).map
          (testCmd baseCmd coverdir buildtags) ∧
      (testLoop go baseCmd coverdir buildtags allpkgString longest n pkgs).exit =
        match (pkgs.enumFrom n).find? (fails go baseCmd coverdir buildtags) with
        | some (i, pkg) => .systemExit (go.popen i (testCmd baseCmd coverdir buildtags pkg)).2
        | none => .returned :=
  ⟨testLoop_commands .., testLoop_exit ..⟩

/-- **What the loop writes.** The output of every package it tested, in order, as `showLine`
shows it (coverage warnings dropped, the package list shortened, the package padded), and then
the banner `Tests failed.` exactly when a package failed: nothing of the packages after the
first failing one. -/
theorem testLoop_stdout (n : Nat) (pkgs : List String) :
    (testLoop go baseCmd coverdir buildtags allpkgString longest n pkgs).stdout =
      (((pkgs.enumFrom n).take ((pkgs.enumFrom n).findIdx (fails go baseCmd coverdir buildtags) +
          1)).flatMap fun p ↦ (go.popen p.1 (testCmd baseCmd coverdir buildtags p.2)).1.flatMap
            (showLine allpkgString p.2 longest)) ++
        if (pkgs.enumFrom n).any (fails go baseCmd coverdir buildtags) then
          ["\n\nTests failed.\n", "\n"]
        else [] := by
  induction pkgs generalizing n with
  | nil => rfl
  | cons pkg pkgs ih =>
    by_cases h : (go.popen n (testCmd baseCmd coverdir buildtags pkg)).2 = 0
    · have hf : fails go baseCmd coverdir buildtags (n, pkg) = false := by simp [fails, h]
      simp only [List.enumFrom_cons, List.any_cons, hf, Bool.false_or]
      simp [testLoop, hf, h, ih, List.findIdx_cons]
    · have hf : fails go baseCmd coverdir buildtags (n, pkg) = true := by simp [fails, h]
      simp [testLoop, hf, h, List.findIdx_cons]

end Loop

/-- The packages `go list` reported, as `run_test_with_coverage` keeps them: vendored ones
dropped, and `all_pkgs.sort()` ordering the names as Python compares byte strings. -/
def sortedPkgs (out : String) : List String := (getAllNotaryPkgs out).insertionSort (· ≤ ·)

/-- `base_cmd`: every `go test` measures coverage over all of `all_pkgs`. -/
def baseCmd (covermode opts buildtags : String) (allPkgs : List String) : List String :=
  ["go", "test", "-covermode", covermode, "-coverpkg", join "," allPkgs] ++ splitWs opts ++
    if buildtags = "" then [] else ["-tags", buildtags]

/-- `run_test_with_coverage(buildtags, coverdir, pkgs, opts, covermode)`. An omitted `pkgs`
(`None`) and an empty list behave alike under `pkgs or all_pkgs`, so `pkgs` is a list here. -/
def runTestWithCoverage (go : GoTool) (buildtags coverdir : String) (pkgs : List String)
    (opts covermode : String) : CoverRun :=
  match go.checkOutput ["go", "list", "-tags", buildtags, "./..."] with
  | .error code => ⟨[], [], .calledProcessError code⟩
  | .ok out =>
    let pkgs := if pkgs = [] then sortedPkgs out else pkgs
    match (pkgs.map String.length).max? with
    | none => ⟨[], [], .valueError⟩
    | some longest =>
      testLoop go (baseCmd covermode opts buildtags (sortedPkgs out)) coverdir buildtags
        (join ", " (sortedPkgs out)) longest 0 pkgs

/-- The listing is empty, once vendored packages are dropped, exactly when every line `go list`
printed is a vendored package. -/
theorem sortedPkgs_eq_nil_iff (out : String) :
    sortedPkgs out = [] ↔
      ∀ line ∈ split (strip out) '\n', startswith line (pathJoin basePkg "vendor/") = true := by
  rw [← List.length_eq_zero, sortedPkgs, List.length_insertionSort, List.length_eq_zero,
    getAllNotaryPkgs, List.map_eq_nil_iff, List.filter_eq_nil_iff]
  simp

/-- The loop itself never ends in `ValueError`: only `max` raises it, before the loop. -/
theorem testLoop_exit_ne_valueError (go : GoTool) (baseCmd : List String)
    (coverdir buildtags allpkgString : String) (longest n : Nat) (pkgs : List String) :
    (testLoop go baseCmd coverdir buildtags allpkgString longest n pkgs).exit ≠ .valueError := by
  rw [testLoop_exit]
  split <;> simp

/-- **`max` raises only on an all-vendored listing.** `run_test_with_coverage` ends in
`ValueError` exactly when `go list` succeeds, no package is given, and every line `go list`
printed is a vendored package: only then is `pkgs or all_pkgs` empty. An output with no line at
all cannot cause it, since `"".split("\n")` is `[""]`. -/
theorem runTestWithCoverage_valueError_iff (go : GoTool) (buildtags coverdir : String)
    (pkgs : List String) (opts covermode : String) :
    (runTestWithCoverage go buildtags coverdir pkgs opts covermode).exit = .valueError ↔
      ∃ out, go.checkOutput ["go", "list", "-tags", buildtags, "./..."] = .ok out ∧ pkgs = [] ∧
        ∀ line ∈ split (strip out) '\n', startswith line (pathJoin basePkg "vendor/") = true := by
  rw [runTestWithCoverage]
  rcases h : go.checkOutput ["go", "list", "-tags", buildtags, "./..."] with code | out
  · simp
  · simp only [Except.ok.injEq, exists_eq_left', ← sortedPkgs_eq_nil_iff]
    have key : (if pkgs = [] then sortedPkgs out else pkgs) = [] ↔
        pkgs = [] ∧ sortedPkgs out = [] := by
      split_ifs with hp <;> simp [hp]
    rw [← key]
    generalize (if pkgs = [] then sortedPkgs out else pkgs) = ps
    rw [← List.map_eq_nil_iff (f := String.length), ← List.max?_eq_none_iff]
    split <;> simp [*, testLoop_exit_ne_valueError]

/-! ### What a run starts -/

/-- The `-coverprofile` argument of a command the loop built: the word before the package. -/
def coverprofileArg (cmd : List String) : Option String := cmd.reverse[1]?

/-- The package a command of the loop tests: its last word. -/
def packageArg (cmd : List String) : Option String := cmd.getLast?

@[simp] theorem coverprofileArg_testCmd (baseCmd : List String) (coverdir buildtags pkg : String) :
    coverprofileArg (testCmd baseCmd coverdir buildtags pkg) =
      some (pathJoin coverdir (getCoverprofileFilename pkg buildtags)) := by
  simp [coverprofileArg, testCmd]

@[simp] theorem packageArg_testCmd (baseCmd : List String) (coverdir buildtags pkg : String) :
    packageArg (testCmd baseCmd coverdir buildtags pkg) = some pkg := by
  simp [packageArg, testCmd]

/-- Once `go list` has answered, every command a run starts is `testCmd` of some package over
the base command built from that answer. -/
theorem commands_of_goList_ok (go : GoTool) (buildtags coverdir : String) (pkgs : List String)
    (opts covermode : String) {out : String}
    (h : go.checkOutput ["go", "list", "-tags", buildtags, "./..."] = .ok out) :
    ∃ tested : List String,
      (runTestWithCoverage go buildtags coverdir pkgs opts covermode).commands =
        tested.map
          (testCmd (baseCmd covermode opts buildtags (sortedPkgs out)) coverdir buildtags) := by
  simp only [runTestWithCoverage, h]
  generalize (if pkgs = [] then sortedPkgs out else pkgs) = ps
  split
  · exact ⟨[], rfl⟩
  · exact ⟨_, testLoop_commands ..⟩

theorem commands_eq_map_testCmd (go : GoTool) (buildtags coverdir : String) (pkgs : List String)
    (opts covermode : String) :
    ∃ (out : String) (tested : List String),
      (runTestWithCoverage go buildtags coverdir pkgs opts covermode).commands =
        tested.map
          (testCmd (baseCmd covermode opts buildtags (sortedPkgs out)) coverdir buildtags) := by
  rcases h : go.checkOutput ["go", "list", "-tags", buildtags, "./..."] with code | out
  · exact ⟨"", [], by simp [runTestWithCoverage, h]⟩
  · exact ⟨out, commands_of_goList_ok go buildtags coverdir pkgs opts covermode h⟩

/-- **The profile paths of a run are pairwise distinct exactly when the tested packages'
flattened names are.** Over every `go` behaviour and every argument, the `-coverprofile` paths
passed to the successive `go test` invocations collide only between packages whose names agree
once `/` is read as `-` and a space as `_`. -/
theorem coverprofile_paths_nodup_iff (go : GoTool) (buildtags coverdir : String)
    (pkgs : List String) (opts covermode : String) :
    ((runTestWithCoverage go buildtags coverdir pkgs opts covermode).commands.map
        coverprofileArg).Nodup ↔
      ((runTestWithCoverage go buildtags coverdir pkgs opts covermode).commands.map
        fun cmd ↦ (packageArg cmd).map coverprofileStem).Nodup := by
  obtain ⟨out, tested, h⟩ := commands_eq_map_testCmd go buildtags coverdir pkgs opts covermode
  simp only [h, List.map_map, List.Nodup, List.pairwise_map]
  refine List.Pairwise.iff_of_mem fun _ _ ↦ ?_
  simp [pathJoin_inj (startswith_getCoverprofileFilename _ _)
    (startswith_getCoverprofileFilename _ _), getCoverprofileFilename_eq_iff]

/-- A Go import path over letters, digits and `/ - . _ ~`. -/
def isImportPath (p : String) : Bool :=
  p.data.all fun c ↦ c.isAlphanum || c = '/' || c = '-' || c = '.' || c = '_' || c = '~'

/-- Two distinct import paths, `x/a-b` and `x/a/b`, are both tested and are given one profile
path, `.cover/x-a-b.coverage.txt`: the second `go test` overwrites the first one's profile. -/
theorem coverprofile_paths_collide :
    ["x/a-b", "x/a/b"].Nodup ∧ ["x/a-b", "x/a/b"].all isImportPath ∧
      ¬ ((runTestWithCoverage ⟨fun _ ↦ .ok "", fun _ _ ↦ ([], 0)⟩ "" ".cover" ["x/a-b", "x/a/b"]
        "" "atomic").commands.map coverprofileArg).Nodup := by
  decide

/-! ### The script -/

/-- The options `parseArgs` reads, with their defaults. -/
structure Args where
  coverdir : String := ".cover"
  testopts : String := ""
  pkgs : String := ""
  tags : String := ""

/-- `covertest.py` run as a script: `--pkgs` is split on whitespace, and `covermode` keeps its
default. -/
def main (go : GoTool) (args : Args) : CoverRun :=
  runTestWithCoverage go args.tags args.coverdir (splitWs (strip args.pkgs)) args.testopts "atomic"

/-- **Without options, the script tests every package.** Once `go list` has reported at least one
package, a run with the default options tests the packages it reported, in sorted order, up to
and including the first failing one, each with its profile under `.cover`. -/
theorem main_default_commands {go : GoTool} {out : String}
    (h : go.checkOutput ["go", "list", "-tags", "", "./..."] = .ok out)
    (hne : sortedPkgs out ≠ []) :
    (main go {}).commands =
      ((sortedPkgs out).take ((sortedPkgs out).enum.findIdx
          (fails go (baseCmd "atomic" "" "" (sortedPkgs out)) ".cover" "") + 1)).map
        (testCmd (baseCmd "atomic" "" "" (sortedPkgs out)) ".cover" "") := by
  obtain ⟨p, ps, hps⟩ := List.exists_cons_of_ne_nil hne
  simp only [main, runTestWithCoverage, h, show splitWs (strip "") = [] from rfl, if_pos rfl,
    hps, List.map_cons, List.max?_cons]
  exact testLoop_commands ..

/-- `main_default_commands` for a module of three packages, listed out of order, whose second
`go test` fails: the first two packages in sorted order are tested, and not the third. -/
theorem main_default_second_fails :
    let go : GoTool := ⟨fun _ ↦ .ok "x/c\nx/a\nx/b\n", fun i _ ↦ ([], if i = 1 then 2 else 0)⟩
    go.checkOutput ["go", "list", "-tags", "", "./..."] = .ok "x/c\nx/a\nx/b\n" ∧
      sortedPkgs "x/c\nx/a\nx/b\n" ≠ [] ∧
      (main go {}).commands =
        ((sortedPkgs "x/c\nx/a\nx/b\n").take ((sortedPkgs "x/c\nx/a\nx/b\n").enum.findIdx
            (fails go (baseCmd "atomic" "" "" (sortedPkgs "x/c\nx/a\nx/b\n")) ".cover" "") +
              1)).map
          (testCmd (baseCmd "atomic" "" "" (sortedPkgs "x/c\nx/a\nx/b\n")) ".cover" "") ∧
      (main go {}).commands.map packageArg = [some "x/a", some "x/b"] := by
  intro go
  have hs : sortedPkgs "x/c\nx/a\nx/b\n" = ["x/a", "x/b", "x/c"] := by
    rw [sortedPkgs, show getAllNotaryPkgs "x/c\nx/a\nx/b\n" = ["x/c", "x/a", "x/b"] by decide]
    simp [List.insertionSort, List.orderedInsert]
    decide
  have h := @main_default_commands go _ rfl (by simp [hs])
  refine ⟨rfl, by simp [hs], h, ?_⟩
  rw [h, hs]
  decide

end Covertest
