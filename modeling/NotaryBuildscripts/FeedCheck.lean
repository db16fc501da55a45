import NotaryBuildscripts.RefWorld

/-!
# Against a conforming server, no change-feed assertion fails

`Tester.run` checks the change feed at nineteen `assert`s (`feedAssertLines`): the count after
each scenario, the repository and the category of every record, and the pages of
`changefeed_test`. This module proves that these checks follow from the spec's server contract
(`Feed.Conforming`) and from the commands the scenarios start: if the repository has no history
when the run starts and its name is ASCII, a run that raises does not raise at any of these
lines (`run_feedSafe`). It may still fail elsewhere, at a process that cannot be started or exits
non-zero, a listing that differs between the two directories, or a key count; those depend on the
notary client, which is not modelled.

The name has to be ASCII. The scripts compare the decoded `GUN` of a record, a `unicode`, with
the name they were given, a byte string, and Python 2 finds the two unequal when the byte string
is not ASCII (`Json.eqLit`): with such a name `basic_repo_test` fails its own check at line 209
against any conforming server (`basicRepoTest_nonAscii`).

`pagination_correct`: what `Client.changefeed` returns for each query `changefeed_test` sends is
the page of the history the spec describes (`Feed.page_first`, ...).

## How

The state assertion is `FeedAfter log gun cs cats`: the repository's history is `cs` followed by
changes whose categories are `cats`. One lemma per kind of step says what it does to it:

* `triple_clientRun`: a notary command that exits 0 appends the categories of the change it
  records, so the scenarios' counts are sums over their command lines; each command of a
  scenario is taken by `triple_clientRun_keep` or `triple_clientRun_record`, with its change
  computed by `rfl`;
* `triple_changefeed`: `Client.changefeed` with integer cursors sends the spec's query
  (`changefeed_num`), so what it returns is the page the cursors select, of a history that is
  ordered and about `gun` alone;
* the other steps, reads and `assert`s at other lines, keep the assertion and raise nothing at a
  change-feed line.

Each scenario is then a chain of these lemmas in the order of its code (`triple_basicRepoTest`,
...), and the change-feed `assert`s are discharged by the page lemmas of `Feed`. The witnesses
run in `refWorld`, where every check of the run passes.
-/

open Py Harness Feed Buildscripts

namespace Testchangefeed

/-- The source lines of the `assert`s about the change feed. -/
def feedAssertLines : List Nat :=
  [208, 209, 210, 256, 258, 259, 335, 337, 338, 345, 348, 350, 351, 355, 356, 360, 361, 364, 365]

/-- `e` is not a failed change-feed assertion. -/
def FeedSafe (e : PyError) : Prop :=
  ∀ line msg, e = .assertionError line msg → line ∉ feedAssertLines

theorem FeedSafe.of_noAssert {α : Type} {x : Except PyError α} (hx : NoAssert x) {e : PyError}
    (he : x = .error e) : FeedSafe e :=
  fun line msg h ↦ absurd (h ▸ he) (hx line msg)

theorem FeedSafe.failure (f : Failure) : FeedSafe f.toPyError := by
  cases f <;> simp [FeedSafe, Failure.toPyError]

/-- What a conforming server's history of `gun` satisfies in every state. -/
structure History (gun : String) (cs : List Change) : Prop where
  ordered : Ordered cs
  gun_eq : ∀ c ∈ cs, c.gun = gun

/-- The history of `gun` in the state `s`: `cs`, then changes whose categories are `cats`. -/
def FeedAfter {σ : Type} (log : σ → List Change) (gun : String) (cs : List Change)
    (cats : List String) (s : HState σ) : Prop :=
  ∃ new : List Change, new.map (·.category) = cats ∧ feedOf gun (log s.world) = cs ++ new

/-- A history known record by record is one known by its categories. -/
theorem FeedAfter.fold {σ : Type} {log : σ → List Change} {gun : String} {cs : List Change}
    {s : HState σ} (h : FeedAfter log gun cs [] s) :
    FeedAfter log gun [] (cs.map (·.category)) s := by
  obtain ⟨rest, hrest, hfeed⟩ := h
  exact ⟨cs, rfl, by simpa [List.map_eq_nil_iff.1 hrest] using hfeed⟩

theorem FeedAfter.of_log_eq {σ : Type} {log : σ → List Change} {gun : String} {cs : List Change}
    {cats : List String} {s s' : HState σ} (hs : FeedAfter log gun cs cats s)
    (h : log s'.world = log s.world) : FeedAfter log gun cs cats s' :=
  let ⟨new, hcats, hfeed⟩ := hs
  ⟨new, hcats, h ▸ hfeed⟩

/-! ### The URL `Client.changefeed` requests -/

theorem changefeed_query_url (server gun : String) (a b : Int) :
    server ++ ("/v2/" ++ (gun ++ "/_trust/changefeed")) ++ "?" ++
      join "&" (changefeedQuery (.num a) (.num b)) = feedQueryUrl server gun a b := by
  simp [changefeedQuery, join, Json.pyStr, feedQueryUrl, String.ext_iff, List.intercalate]

theorem liftExcept_ok_bind {σ α β : Type} (a : α) (f : α → Harness σ β) :
    (liftExcept (.ok a) >>= f) = f a := rfl

/-- **The harness sends the spec's query.** For integer cursors, `Client.changefeed` fetches a
token with the client's credentials, then requests `feedQueryUrl` with it. -/
theorem changefeed_num {σ : Type} (w : World σ) (c : Client) (gun : String) (a b : Int) :
    c.changefeed w (some gun) (.num a) (.num b) = (do
      let user ← liftExcept (tupleIndex c.usernamePasswd 0)
      let passwd ← liftExcept (tupleIndex c.usernamePasswd 1)
      let resp ← get w ⟨c.notaryServer ++
        ("/auth/token?realm=dtr&service=dtr&scope=repository:" ++ (gun ++ ":pull")),
        some (user, passwd), []⟩
      let token ← liftExcept (resp.getKey "token")
      let auth ← liftExcept (bearer token)
      get w ⟨feedQueryUrl c.notaryServer gun a b, none, [("Authorization", auth)]⟩) := by
  simp only [Client.changefeed, changefeedUrls_some, liftExcept_ok_bind, changefeed_query_url]

/-! ### One lemma per kind of step -/

section Steps

variable {σ : Type} {w : World σ} {log : σ → List Change} {P : HState σ → Prop}

theorem triple_liftExcept {α : Type} {x : Except PyError α} (hx : NoAssert x) :
    Triple P (liftExcept x) (fun _ ↦ P) FeedSafe :=
  (Triple.liftExcept x fun _ he ↦ FeedSafe.of_noAssert hx he).conseq (fun _ h ↦ h)
    fun _ _ h ↦ h.2

theorem triple_get (req : Request) : Triple P (get w req) (fun _ ↦ P) FeedSafe :=
  (Triple.get w req).conseq (fun s hs ↦ by split <;> simp [hs, FeedSafe.failure]) fun _ _ h ↦ h

theorem triple_load (path : String) : Triple P (load w path) (fun _ ↦ P) FeedSafe :=
  (Triple.load w path).conseq (fun s hs ↦ by split <;> simp [hs, FeedSafe.failure]) fun _ _ h ↦ h

/-- An `assert` at another line, with a message `format` builds. -/
theorem triple_assertMsg {line : Nat} (hline : line ∉ feedAssertLines) (cond : Bool)
    {x : Except PyError String} (hx : NoAssert x) :
    Triple P (pyAssertMsg line cond (liftExcept x)) (fun _ ↦ P) FeedSafe :=
  Triple.pyAssertMsg_of_line line cond (fun _ _ _ h ↦ by cases h; exact hline)
    ((triple_liftExcept hx).conseq (fun _ h ↦ h) fun _ _ _ ↦ trivial)

/-- An `assert` at another line, with a fixed message or none. -/
theorem triple_assertText {line : Nat} (hline : line ∉ feedAssertLines) (cond : Bool) (m : String) :
    Triple P (pyAssertMsg line cond (Pure.pure m)) (fun _ ↦ P) FeedSafe :=
  Triple.pyAssertMsg_of_line line cond (fun _ _ _ h ↦ by cases h; exact hline) fun _ _ ↦ trivial

/-- `assert changes[key] == v`, when it holds. -/
theorem triple_assertKeyEq {E : PyError → Prop} (line : Nat) {changes x : Json} {key : String}
    (v : PyLit) (h : changes.getKey key = .ok x) (hx : x.eqLit v = true) :
    Triple P (assertKeyEq line changes key v) (fun _ ↦ P) E :=
  .liftExcept_bind h (Triple.pyAssertMsg_of_true line hx)

@[simp] theorem pageJson_count (cs : List Change) :
    (pageJson cs).getKey "count" = .ok (.num cs.length) := rfl

@[simp] theorem pageJson_records (cs : List Change) :
    (pageJson cs).getKey "records" = .ok (.arr (cs.map Change.toJson)) := rfl

theorem triple_assertCount {E : PyError → Prop} (line : Nat) {cs : List Change} {n : Nat}
    (h : cs.length = n) :
    Triple P (assertKeyEq line (pageJson cs) "count" (.int n)) (fun _ ↦ P) E :=
  triple_assertKeyEq line _ (pageJson_count cs) (by simp [h])

/-- The loop over the records of a page whose changes are all updates of `gun`, for a name that
is ASCII. -/
theorem triple_assertAllUpdates {E : PyError → Prop} (line : Nat) {cs : List Change}
    {gun : String} (hascii : isAscii gun = true)
    (h : ∀ c ∈ cs, c.gun = gun ∧ c.category = "update") :
    Triple P (assertAllUpdates line (pageJson cs) gun) (fun _ ↦ P) E := by
  refine .liftExcept_bind
    (show (pageJson cs).getKey "records" >>= iter = .ok (cs.map Change.toJson) from rfl)
    (Triple.forEach fun r hr ↦ ?_)
  obtain ⟨c, hc, rfl⟩ := List.mem_map.1 hr
  exact .bind (triple_assertKeyEq line _ rfl (by simp [(h c hc).1, hascii])) fun _ ↦
    triple_assertKeyEq (line + 1) _ rfl
      (by simp [(h c hc).2, show isAscii "update" = true from rfl])

section Files

variable {server gun : String} {cs : List Change} {cats : List String}

/-! The temporary files and directories of a run leave the history alone. -/

theorem triple_mkstemp (hw : Conforming w server log) :
    Triple (FeedAfter log gun cs cats) (mkstemp w) (fun _ ↦ FeedAfter log gun cs cats) FeedSafe :=
  fun _ hs ↦ hs.of_log_eq (hw.mkstemp _)

theorem triple_mkdtemp (hw : Conforming w server log) (suffix : String) :
    Triple (FeedAfter log gun cs cats) (mkdtemp w suffix) (fun _ ↦ FeedAfter log gun cs cats)
      FeedSafe :=
  fun _ hs ↦ hs.of_log_eq (hw.mkdtemp _ _)

theorem triple_write (hw : Conforming w server log) (path text : String) :
    Triple (FeedAfter log gun cs cats) (write w path text) (fun _ ↦ FeedAfter log gun cs cats)
      FeedSafe :=
  (Triple.write w path text).conseq (fun s hs ↦ by
    split
    · exact hs.of_log_eq (hw.write _ _ _ _ ‹_›)
    · simp [FeedSafe]) fun _ _ h ↦ h

theorem triple_remove (hw : Conforming w server log) (path : String) :
    Triple (FeedAfter log gun cs cats) (remove w path) (fun _ ↦ FeedAfter log gun cs cats)
      FeedSafe :=
  fun _ hs ↦ hs.of_log_eq (hw.remove _ _)

/-- A pass of `Tester.run`'s loop does to the history what its scenario does. -/
theorem triple_runTest (hw : Conforming w server log) {cats' : List String} (name : String)
    {test : String → String → Harness σ Unit}
    (htest : ∀ tempfile tempdir, Triple (FeedAfter log gun cs cats) (test tempfile tempdir)
      (fun _ ↦ FeedAfter log gun cs cats') FeedSafe) :
    Triple (FeedAfter log gun cs cats) (runTest w name test) (fun _ ↦ FeedAfter log gun cs cats')
      FeedSafe :=
  .bind (triple_mkstemp hw) fun _ ↦ .bind (triple_write hw _ _) fun _ ↦
  .bind (triple_mkdtemp hw _) fun _ ↦ .bind (htest _ _) fun _ ↦
  .bind (triple_remove hw _) fun _ ↦ triple_remove hw _

end Files

/-- Behind the client's global flags, a command line records what its subcommand records. -/
theorem mutation_clientCommand (binary server ca dir : String) (args : List String) :
    mutation ([binary, "-s", server, "--tlscacert", ca] ++ ["-d", dir] ++ args) =
      change (skipGlobalFlags args) := by
  simp [mutation, skipGlobalFlags, globalFlags]

/-- **A notary command appends its change.** When it exits 0 the history grows by the category
of the change its command line records; otherwise it raises `CalledProcessError`, or `OSError`
when it cannot be started. The output file it makes and removes leaves the history alone. -/
theorem triple_clientRun {server binary ca : String} (hw : Conforming w server log) {c : Client}
    (hc : c.client = [binary, "-s", c.notaryServer, "--tlscacert", ca]) (gun : String)
    (cs : List Change) (cats : List String) (args : List String) (trustDir : String)
    (stdinput : Option String) (up : Option (List String)) :
    Triple (FeedAfter log gun cs cats) (c.run w args trustDir stdinput up)
      (fun _ ↦ FeedAfter log gun cs (cats ++ catsOf gun (change (skipGlobalFlags args))))
      FeedSafe := by
  rintro s ⟨new, hcats, hfeed⟩
  simp only [Client.run, bind_apply, Harness.mkstemp, Harness.exec]
  rcases hx : w.exec (w.mkstemp s.world).1 _ with msg | r
  · simp [FeedSafe]
  simp only [Harness.remove, bind_apply, checkReturn]
  split_ifs with h
  · simp [Harness.throw, FeedSafe]
  · obtain ⟨id, hid⟩ := hw.exec_ok _ _ _ hx (not_not.1 h)
    refine ⟨new ++ (catsOf gun (change (skipGlobalFlags args))).map fun cat ↦ ⟨id, gun, cat⟩,
      by simp [hcats, Function.comp_def], ?_⟩
    rw [hw.remove, hid, hw.mkstemp, hc, mutation_clientCommand, feedOf_append_mutation, hfeed,
      List.append_assoc]

section Commands

variable {server binary ca : String} {c : Client} {gun trustDir : String} {cs : List Change}
  {cats args : List String} {stdinput : Option String} {up : Option (List String)}

/-- A command that records no change leaves the history as it is. -/
theorem triple_clientRun_keep (hw : Conforming w server log)
    (hc : c.client = [binary, "-s", c.notaryServer, "--tlscacert", ca])
    (h : change (skipGlobalFlags args) = none) :
    Triple (FeedAfter log gun cs cats) (c.run w args trustDir stdinput up)
      (fun _ ↦ FeedAfter log gun cs cats) FeedSafe :=
  (triple_clientRun hw hc gun cs cats args trustDir stdinput up).conseq (fun _ h ↦ h)
    fun _ _ hs ↦ by rwa [h, catsOf_none, List.append_nil] at hs

/-- A command that records a change of `gun` appends its category. -/
theorem triple_clientRun_record (hw : Conforming w server log)
    (hc : c.client = [binary, "-s", c.notaryServer, "--tlscacert", ca]) (cat : String)
    (h : change (skipGlobalFlags args) = some (gun, cat)) :
    Triple (FeedAfter log gun cs cats) (c.run w args trustDir stdinput up)
      (fun _ ↦ FeedAfter log gun cs (cats ++ [cat])) FeedSafe :=
  (triple_clientRun hw hc gun cs cats args trustDir stdinput up).conseq (fun _ h ↦ h)
    fun _ _ hs ↦ by rwa [h, catsOf_self] at hs

end Commands

/-- The feed GET: a conforming server answers it with the page of the history it holds. -/
theorem triple_getFeed {server : String} (hw : Conforming w server log) (gun : String)
    (cs : List Change) (cats : List String) (a b : Int) (headers : List (String × String)) :
    Triple (FeedAfter log gun cs cats) (get w ⟨feedQueryUrl server gun a b, none, headers⟩)
      (fun v s ↦ ∃ new, (new.map (·.category) = cats ∧ History gun (cs ++ new) ∧
        v = pageJson (page (cs ++ new) a b)) ∧ FeedAfter log gun (cs ++ new) [] s) FeedSafe := by
  refine (Triple.get w _).conseq (fun s ⟨new, hcats, hfeed⟩ ↦ ?_) fun _ _ h ↦ h
  split
  · next v hv =>
    refine ⟨new, ⟨hcats, ?_, ?_⟩, [], rfl, by simpa using hfeed⟩
    · rw [← hfeed]
      exact ⟨(hw.ordered _).feedOf gun, fun _ hc ↦ gun_of_mem_feedOf hc⟩
    · rw [hw.get_feed _ _ _ _ _ _ hv, hfeed]
  · exact FeedSafe.failure _

/-- **`Client.changefeed` returns a page.** For integer cursors, what it returns is the page they
select, of the repository's history at that point, which is ordered and about `gun` alone. -/
theorem triple_changefeed {c : Client} (hw : Conforming w c.notaryServer log) (gun : String)
    (cs : List Change) (cats : List String) (a b : Int) :
    Triple (FeedAfter log gun cs cats) (c.changefeed w (some gun) (.num a) (.num b))
      (fun v s ↦ ∃ new, (new.map (·.category) = cats ∧ History gun (cs ++ new) ∧
        v = pageJson (page (cs ++ new) a b)) ∧ FeedAfter log gun (cs ++ new) [] s) FeedSafe := by
  rw [changefeed_num]
  exact .bind (triple_liftExcept (noAssert_tupleIndex _ _)) fun _ ↦
    .bind (triple_liftExcept (noAssert_tupleIndex _ _)) fun _ ↦ .bind (triple_get _) fun _ ↦
    .bind (triple_liftExcept (Json.noAssert_getKey _ _)) fun _ ↦
    .bind (triple_liftExcept (noAssert_bearer _)) fun _ ↦ triple_getFeed hw _ _ _ _ _ _

/-- A step read in a run that may also raise what `p` allows. -/
theorem orFeedSafe {α : Type} {x : Harness σ α} {P : HState σ → Prop}
    {Q : α → HState σ → Prop} {p : PyError → Prop} (h : Triple P x Q FeedSafe) :
    Triple P x Q (fun e ↦ FeedSafe e ∨ p e) :=
  h.error_mono fun _ ↦ .inl

/-- `assert changes[key] == v`, when it fails. -/
theorem triple_assertKeyEq_false {E : PyError → Prop} {Q : Unit → HState σ → Prop} (line : Nat)
    {changes x : Json} {key : String} (v : PyLit) (h : changes.getKey key = .ok x)
    (hx : x.eqLit v = false) (he : E (.assertionError line "")) :
    Triple P (assertKeyEq line changes key v) Q E :=
  .liftExcept_bind h fun _ _ ↦ by rw [pyAssert, pyAssertMsg, hx]; exact he

end Steps

/-! ### The scenarios -/

section Scenarios

variable {σ : Type} {w : World σ} {log : σ → List Change} {binary ca : String} {t : Tester}

/-- `basic_repo_test` publishes once, and its change-feed checks hold. -/
theorem triple_basicRepoTest (hw : Conforming w t.client.notaryServer log)
    (hc : t.client.client = [binary, "-s", t.client.notaryServer, "--tlscacert", ca])
    (hascii : isAscii t.repoName = true)
    (tempfile tempdir : String) :
    Triple (FeedAfter log t.repoName [] []) (t.basicRepoTest w tempfile tempdir)
      (fun _ ↦ FeedAfter log t.repoName [] ["update"]) FeedSafe :=
  .bind (triple_clientRun_keep hw hc (by rfl)) fun _ ↦
  .bind (triple_clientRun_keep hw hc (by rfl)) fun _ ↦
  .bind (triple_clientRun_record hw hc "update" (by rfl)) fun _ ↦
  .bind (triple_clientRun_keep hw hc (by rfl)) fun _ ↦
  .bind (triple_clientRun_keep hw hc (by rfl)) fun _ ↦
  .bind (triple_assertMsg (by decide) _ (noAssert_format _ _)) fun _ ↦
  .bind (triple_assertMsg (by decide) _ (noAssert_format _ _)) fun _ ↦
  .bind (triple_clientRun_keep hw hc (by rfl)) fun _ ↦
  .bind (triple_changefeed hw _ _ _ _ _) fun _ ↦ .exists_pre fun new ↦
  .pure_pre fun ⟨hcats, hh, hv⟩ ↦ by
    obtain ⟨d, l, rfl, hd, hl⟩ := List.map_eq_cons_iff.1 hcats
    obtain rfl := List.map_eq_nil_iff.1 hl
    have hpage : page ([] ++ [d]) 0 100 = [d] := by rw [page_zero hh.ordered (by decide)]; rfl
    rw [hpage] at hv
    subst hv
    have hrec : (pageJson [d]).getKey "records" >>= (·.getIdx 0) = .ok d.toJson := rfl
    exact .bind (triple_assertCount 208 rfl) fun _ ↦
      .liftExcept_bind hrec <|
      .bind (triple_assertKeyEq 209 _ rfl (by simp [hh.gun_eq d (by simp), hascii]))
      fun _ ↦ .liftExcept_bind hrec <| ((triple_assertKeyEq 210 (.str "update")
        (show d.toJson.getKey "Category" = .ok (.str d.category) from rfl) (by rw [hd]; rfl)).conseq
        (fun _ h ↦ h) fun _ _ h ↦ by simpa [hd] using h.fold)

/-- The checks that end `add_delegation_test` and `root_rotation_test`: the count of a page of
the whole history, then the repository and the category of every record. -/
theorem triple_countAllUpdates {gun : String} {new : List Change} (n countLine recordLine : Nat)
    (hascii : isAscii gun = true) (hh : History gun ([] ++ new))
    (hcats : new.map (·.category) = List.replicate n "update")
    (hn : n ≤ 100) :
    Triple (FeedAfter log gun ([] ++ new) [])
      (assertKeyEq countLine (pageJson (page ([] ++ new) 0 100)) "count" (.int n) >>= fun _ ↦
        assertAllUpdates recordLine (pageJson (page ([] ++ new) 0 100)) gun)
      (fun _ ↦ FeedAfter log gun [] (List.replicate n "update")) FeedSafe := by
  have hlen : new.length = n := by simpa using congrArg List.length hcats
  have hpage : page ([] ++ new) 0 100 = new := by
    rw [page_zero hh.ordered (by decide), List.nil_append, List.take_of_length_le (by omega)]
  rw [hpage]
  refine .bind (triple_assertCount countLine hlen) fun _ ↦
    (triple_assertAllUpdates recordLine hascii fun c hc ↦
      ⟨hh.gun_eq c (by simpa using hc), ?_⟩).conseq
      (fun _ h ↦ h) fun _ _ h ↦ by simpa [hcats] using h.fold
  exact List.eq_of_mem_replicate (hcats ▸ List.mem_map_of_mem _ hc)

/-- `add_delegation_test` records three more updates, and its change-feed checks hold. -/
theorem triple_addDelegationTest (hw : Conforming w t.client.notaryServer log)
    (hc : t.client.client = [binary, "-s", t.client.notaryServer, "--tlscacert", ca])
    (hascii : isAscii t.repoName = true)
    (reporoot tempfile tempdir : String) :
    Triple (FeedAfter log t.repoName [] ["update"])
      (t.addDelegationTest w reporoot tempfile tempdir)
      (fun _ ↦ FeedAfter log t.repoName [] ["update", "update", "update", "update"]) FeedSafe :=
  .bind (triple_clientRun_record hw hc "update" (by rfl)) fun _ ↦
  .bind (triple_clientRun_keep hw hc (by rfl)) fun _ ↦
  .bind (triple_clientRun_record hw hc "update" (by rfl)) fun _ ↦
  .bind (triple_clientRun_keep hw hc (by rfl)) fun _ ↦
  .bind (triple_clientRun_keep hw hc (by rfl)) fun _ ↦
  .bind (triple_assertMsg (by decide) _ (noAssert_format _ _)) fun _ ↦
  .bind (triple_assertText (by decide) _ _) fun _ ↦
  .bind (triple_clientRun_keep hw hc (by rfl)) fun _ ↦
  .bind (triple_clientRun_keep hw hc (by rfl)) fun _ ↦
  .bind (triple_clientRun_record hw hc "update" (by rfl)) fun _ ↦
  .bind (triple_clientRun_keep hw hc (by rfl)) fun _ ↦
  .bind (triple_clientRun_keep hw hc (by rfl)) fun _ ↦
  .bind (triple_assertMsg (by decide) _ (noAssert_format _ _)) fun _ ↦
  .bind (triple_assertText (by decide) _ _) fun _ ↦
  .bind (triple_changefeed hw _ _ _ _ _) fun _ ↦ .exists_pre fun new ↦
  .pure_pre fun ⟨hcats, hh, hv⟩ ↦ by
    subst hv
    exact triple_countAllUpdates 4 256 258 hascii hh hcats (by decide)

/-- `root_rotation_test` records three more updates, and its change-feed checks hold. -/
theorem triple_rootRotationTest (hw : Conforming w t.client.notaryServer log)
    (hc : t.client.client = [binary, "-s", t.client.notaryServer, "--tlscacert", ca])
    (hascii : isAscii t.repoName = true)
    (reporoot tempfile tempdir : String) :
    Triple (FeedAfter log t.repoName [] ["update", "update", "update", "update"])
      (t.rootRotationTest w reporoot tempfile tempdir)
      (fun _ ↦ FeedAfter log t.repoName [] (List.replicate 7 "update")) FeedSafe :=
  .bind (triple_clientRun_keep hw hc (by rfl)) fun _ ↦
  .bind (triple_clientRun_keep hw hc (by rfl)) fun _ ↦
  .bind (triple_assertText (by decide) _ _) fun _ ↦ .bind (triple_load _) fun _ ↦
  .bind (triple_liftExcept (NoAssert.bind (noAssert_signedKeys _) fun _ ↦ Json.noAssert_len _))
    fun _ ↦
  .bind (triple_liftExcept (noAssert_rootKeyids _)) fun _ ↦
  .bind (triple_liftExcept (noAssert_lenEq _ _)) fun _ ↦ .bind (triple_assertText (by decide) _ _)
    fun _ ↦
  .bind (triple_clientRun_record hw hc "update" (by rfl)) fun _ ↦
  .bind (triple_clientRun_keep hw hc (by rfl)) fun _ ↦
  .bind (triple_liftExcept (noAssert_tupleIndex _ _)) fun _ ↦
  .bind (triple_assertText (by decide) _ _) fun _ ↦
  .bind (triple_clientRun_keep hw hc (by rfl)) fun _ ↦
  .bind (triple_load _) fun _ ↦
  .bind (triple_liftExcept (NoAssert.bind (noAssert_signedKeys _) fun _ ↦ Json.noAssert_len _))
    fun _ ↦
  .bind (triple_assertMsg (by decide) _ (noAssert_format _ _)) fun _ ↦
  .bind (triple_liftExcept (noAssert_rootKeyids _)) fun _ ↦
  .bind (triple_liftExcept (Json.noAssert_len _)) fun _ ↦
  .bind (triple_assertMsg (by decide) _ (noAssert_format _ _)) fun _ ↦
  .bind (triple_assertText (by decide) _ _) fun _ ↦
  .bind (triple_clientRun_keep hw hc (by rfl)) fun _ ↦
  .bind (triple_clientRun_keep hw hc (by rfl)) fun _ ↦
  .bind (triple_clientRun_record hw hc "update" (by rfl)) fun _ ↦
  .bind (triple_clientRun_keep hw hc (by rfl)) fun _ ↦
  .bind (triple_clientRun_record hw hc "update" (by rfl)) fun _ ↦
  .bind (triple_clientRun_keep hw hc (by rfl)) fun _ ↦
  .bind (triple_clientRun_keep hw hc (by rfl)) fun _ ↦
  .bind (triple_assertMsg (by decide) _ (noAssert_format _ _)) fun _ ↦
  .bind (triple_assertText (by decide) _ _) fun _ ↦
  .bind (triple_changefeed hw _ _ _ _ _) fun _ ↦ .exists_pre fun new ↦
  .pure_pre fun ⟨hcats, hh, hv⟩ ↦ by
    subst hv
    exact triple_countAllUpdates 7 335 337 hascii hh hcats (by decide)

theorem triple_changefeed_exact {c : Client} (hw : Conforming w c.notaryServer log) (gun : String)
    (cs : List Change) (a b : Int) :
    Triple (FeedAfter log gun cs []) (c.changefeed w (some gun) (.num a) (.num b))
      (fun v s ↦ (History gun cs ∧ v = pageJson (page cs a b)) ∧ FeedAfter log gun cs [] s)
      FeedSafe :=
  (triple_changefeed hw gun cs [] a b).conseq (fun _ h ↦ h)
    fun _ _ ⟨new, ⟨hnil, hh, hv⟩, hs⟩ ↦ by
      obtain rfl := List.map_eq_nil_iff.1 hnil
      exact ⟨⟨by simpa using hh, by simpa using hv⟩, by simpa using hs⟩

/-- `changefeed_test` pages over the seven updates and the deletion it adds after them, and gets
the records it expects. -/
theorem triple_changefeedTest (hw : Conforming w t.client.notaryServer log)
    (hc : t.client.client = [binary, "-s", t.client.notaryServer, "--tlscacert", ca])
    (hascii : isAscii t.repoName = true)
    (tempfile tempdir : String) :
    Triple (FeedAfter log t.repoName [] (List.replicate 7 "update"))
      (t.changefeedTest w tempfile tempdir)
      (fun _ ↦ FeedAfter log t.repoName [] (List.replicate 7 "update" ++ ["deletion"]))
      FeedSafe := by
  refine .bind (triple_changefeed hw _ _ _ _ _) fun _ ↦ .exists_pre fun hist ↦
    .pure_pre fun ⟨hcats, hh, hv⟩ ↦ ?_
  simp only [List.nil_append] at hh hv ⊢
  subst hv
  have hlen : hist.length = 7 := by simpa using congrArg List.length hcats
  have hupd : ∀ c ∈ hist, c.gun = t.repoName ∧ c.category = "update" := fun c hc ↦
    ⟨hh.gun_eq c hc, List.eq_of_mem_replicate (hcats ▸ List.mem_map_of_mem _ hc)⟩
  have hall : page hist 0 1000 = hist := by
    rw [page_zero hh.ordered (by decide), List.take_of_length_le (by omega)]
  refine .bind (triple_assertCount 345 (by simp [page_zero hh.ordered, hlen])) fun _ ↦
    .bind (triple_changefeed_exact hw _ _ _ _) fun _ ↦ .pure_pre fun ⟨_, hv⟩ ↦ ?_
  rw [hall] at hv
  subst hv
  refine .bind (triple_assertCount 348 hlen) fun _ ↦
    .bind (triple_assertAllUpdates 350 hascii hupd) fun _ ↦
    .bind (triple_clientRun_record hw hc "deletion" (by rfl)) fun _ ↦
    .bind (triple_changefeed hw _ _ _ _ _) fun _ ↦ .exists_pre fun new ↦
    .pure_pre fun ⟨hdel, hh', hv⟩ ↦ ?_
  obtain ⟨d, l, rfl, hd, hl⟩ := List.map_eq_cons_iff.1 hdel
  obtain rfl := List.map_eq_nil_iff.1 hl
  have hlast : page (hist ++ [d]) (-1) 1 = [d] := by
    rw [page_latest _ (by decide) (by decide)]
    simp
  rw [hlast] at hv
  subst hv
  obtain ⟨c₀, c₁, c₂, c₃, c₄, c₅, c₆, rfl⟩ :
      ∃ c₀ c₁ c₂ c₃ c₄ c₅ c₆, hist = [c₀, c₁, c₂, c₃, c₄, c₅, c₆] := by
    match hist, hlen with
    | [c₀, c₁, c₂, c₃, c₄, c₅, c₆], _ => exact ⟨_, _, _, _, _, _, _, rfl⟩
  have hnext : page ([c₀, c₁, c₂, c₃, c₄, c₅, c₆] ++ [d]) c₄.id 1 = [c₅] := by
    simpa using page_after hh'.ordered 4 (by simp) (show (0 : Int) ≤ 1 by decide)
  have hprev : page ([c₀, c₁, c₂, c₃, c₄, c₅, c₆] ++ [d]) c₄.id (-1) = [c₃] := by
    simpa using page_before hh'.ordered 4 (by simp) (show (-1 : Int) < 0 by decide)
  refine .bind (triple_assertCount 355 rfl) fun _ ↦
    .liftExcept_bind
      (show recordField (pageJson [d]) 0 "Category" = .ok (.str d.category) from rfl) <|
    .bind (Triple.pyAssertMsg_of_true 356 (by rw [hd]; rfl)) fun _ ↦
    .liftExcept_bind (show recordField (pageJson [c₀, c₁, c₂, c₃, c₄, c₅, c₆]) 4 "ID" =
      .ok (.num c₄.id) from rfl) <|
    .bind (triple_changefeed_exact hw _ _ _ _) fun _ ↦ .pure_pre fun ⟨_, hv⟩ ↦ ?_
  rw [hnext] at hv
  subst hv
  refine .bind (triple_assertCount 360 rfl) fun _ ↦
    .liftExcept_bind (show recordField (pageJson [c₅]) 0 "ID" = .ok (.num c₅.id) from rfl) <|
    .liftExcept_bind (show recordField (pageJson [c₀, c₁, c₂, c₃, c₄, c₅, c₆]) 5 "ID" =
      .ok (.num c₅.id) from rfl) <|
    .bind (Triple.pyAssertMsg_of_true 361 (by simp)) fun _ ↦
    .bind (triple_changefeed_exact hw _ _ _ _) fun _ ↦ .pure_pre fun ⟨_, hv⟩ ↦ ?_
  rw [hprev] at hv
  subst hv
  exact .bind (triple_assertCount 364 rfl) fun _ ↦
    .liftExcept_bind (show recordField (pageJson [c₃]) 0 "ID" = .ok (.num c₃.id) from rfl) <|
    .liftExcept_bind (show recordField (pageJson [c₀, c₁, c₂, c₃, c₄, c₅, c₆]) 3 "ID" =
      .ok (.num c₃.id) from rfl) <|
    (Triple.pyAssertMsg_of_true 365 (by simp)).conseq (fun _ h ↦ h) fun _ _ h ↦ by
      simpa [hd, ← hcats] using h.fold

/-- The four scenarios in a row: one update, three more, three more, then a deletion. -/
theorem triple_run (hw : Conforming w t.client.notaryServer log)
    (hc : t.client.client = [binary, "-s", t.client.notaryServer, "--tlscacert", ca])
    (hascii : isAscii t.repoName = true)
    (reporoot : String) :
    Triple (FeedAfter log t.repoName [] []) (t.run w reporoot)
      (fun _ ↦ FeedAfter log t.repoName [] (List.replicate 7 "update" ++ ["deletion"]))
      FeedSafe :=
  .bind (.bind (triple_runTest hw _ (triple_basicRepoTest hw hc hascii)) fun _ ↦
    .bind (triple_runTest hw _ (triple_addDelegationTest hw hc hascii reporoot)) fun _ ↦
    .bind (triple_runTest hw _ (triple_rootRotationTest hw hc hascii reporoot)) fun _ ↦
    .bind (triple_runTest hw _ (triple_changefeedTest hw hc hascii)) fun _ ↦ Triple.skip ()) fun _ ↦
    triple_remove hw _

/-- **No change-feed assertion fails against a conforming server.** Started on a repository with
no history and an ASCII name, with a client built by `Client(notary_server, ca_file_path, ...)`
for the server behind the world, `Tester.run` either raises an exception that is not a failed
change-feed `assert`, or returns, leaving seven updates and a deletion as the repository's
history. -/
theorem run_feedSafe {environ : List (String × String)} {server : String}
    {up : List String} (hw : Conforming w server log)
    (hinit : Client.init binary environ (some server) (some ca) up = .ok t.client)
    (hascii : isAscii t.repoName = true) (reporoot : String) :
    Triple (FeedAfter log t.repoName [] []) (t.run w reporoot)
      (fun _ ↦ FeedAfter log t.repoName [] (List.replicate 7 "update" ++ ["deletion"]))
      FeedSafe := by
  simp only [Client.init, Except.ok.injEq] at hinit
  have hs : t.client.notaryServer = server := by rw [← hinit]
  have hc : t.client.client = [binary, "-s", t.client.notaryServer, "--tlscacert", ca] := by
    rw [← hinit]
  rw [← hs] at hw
  exact triple_run hw hc hascii reporoot

/-- `run_feedSafe` in the reference world, with the client `run()` builds for its server. -/
theorem run_feedSafe_refWorld :
    Conforming (refWorld "https://notary-server:4443") "https://notary-server:4443"
        (fun s ↦ s.server.log) ∧
      Client.init "/notary/bin/notary" [] (some "https://notary-server:4443") (some "/tmp/ca.crt")
          ["user", "password"] =
        .ok ⟨"https://notary-server:4443", "/tmp/ca.crt", ["user", "password"],
          envUpdate [] passphrases,
          ["/notary/bin/notary", "-s", "https://notary-server:4443", "--tlscacert",
            "/tmp/ca.crt"]⟩ ∧
      isAscii "repo" = true ∧
      Triple (FeedAfter (fun s ↦ s.server.log) "repo" [] [])
        (Tester.run (refWorld "https://notary-server:4443") "/notary"
          ⟨"repo", ⟨"https://notary-server:4443", "/tmp/ca.crt", ["user", "password"],
            envUpdate [] passphrases,
            ["/notary/bin/notary", "-s", "https://notary-server:4443", "--tlscacert",
              "/tmp/ca.crt"]⟩, "/tmp/main"⟩)
        (fun _ ↦ FeedAfter (fun s ↦ s.server.log) "repo" []
          (List.replicate 7 "update" ++ ["deletion"]))
        FeedSafe :=
  ⟨refWorld_conforming _, rfl, rfl,
    @run_feedSafe _ _ _ _ _ ⟨"repo", _, "/tmp/main"⟩ _ _ _ (refWorld_conforming _) rfl rfl
      "/notary"⟩

/-- **A repository name that is not ASCII fails the scripts' own check.** Against a conforming
server, on a repository with no history, `basic_repo_test` with such a name never returns: the
record of its publish names the repository, but `json` decodes the name as `unicode`, which
Python 2 finds unequal to the byte string the script compares it with, so the `assert` at
line 209 fails, if nothing before it has. -/
theorem basicRepoTest_nonAscii (hw : Conforming w t.client.notaryServer log)
    (hc : t.client.client = [binary, "-s", t.client.notaryServer, "--tlscacert", ca])
    (hname : isAscii t.repoName = false) (tempfile tempdir : String) :
    Triple (FeedAfter log t.repoName [] []) (t.basicRepoTest w tempfile tempdir)
      (fun _ _ ↦ False) (fun e ↦ FeedSafe e ∨ ∃ m, e = .assertionError 209 m) :=
  .bind (orFeedSafe (triple_clientRun_keep hw hc (by rfl))) fun _ ↦
  .bind (orFeedSafe (triple_clientRun_keep hw hc (by rfl))) fun _ ↦
  .bind (orFeedSafe (triple_clientRun_record hw hc "update" (by rfl))) fun _ ↦
  .bind (orFeedSafe (triple_clientRun_keep hw hc (by rfl))) fun _ ↦
  .bind (orFeedSafe (triple_clientRun_keep hw hc (by rfl))) fun _ ↦
  .bind (orFeedSafe (triple_assertMsg (by decide) _ (noAssert_format _ _))) fun _ ↦
  .bind (orFeedSafe (triple_assertMsg (by decide) _ (noAssert_format _ _))) fun _ ↦
  .bind (orFeedSafe (triple_clientRun_keep hw hc (by rfl))) fun _ ↦
  .bind (orFeedSafe (triple_changefeed hw _ _ _ _ _)) fun _ ↦ .exists_pre fun new ↦
  .pure_pre fun ⟨hcats, hh, hv⟩ ↦ by
    obtain ⟨d, l, rfl, -, hl⟩ := List.map_eq_cons_iff.1 hcats
    obtain rfl := List.map_eq_nil_iff.1 hl
    have hpage : page ([] ++ [d]) 0 100 = [d] := by rw [page_zero hh.ordered (by decide)]; rfl
    rw [hpage] at hv
    subst hv
    have hrec : (pageJson [d]).getKey "records" >>= (·.getIdx 0) = .ok d.toJson := rfl
    exact .bind (triple_assertCount 208 rfl) fun _ ↦ .liftExcept_bind hrec <|
      .bind (triple_assertKeyEq_false 209 _ rfl (by simp [hh.gun_eq d (by simp), hname])
        (.inr ⟨"", rfl⟩)) fun _ ↦ .of_false

/-- `basic_repo_test` in the reference world, for a repository named `dépôt`. -/
theorem basicRepoTest_nonAscii_refWorld :
    Conforming (refWorld "https://notary-server:4443") "https://notary-server:4443"
        (fun s ↦ s.server.log) ∧
      isAscii "dépôt" = false ∧
      Triple (FeedAfter (fun s ↦ s.server.log) "dépôt" [] [])
        (Tester.basicRepoTest (refWorld "https://notary-server:4443")
          ⟨"dépôt", ⟨"https://notary-server:4443", "/tmp/ca.crt", ["user", "password"], [],
            ["/notary/bin/notary", "-s", "https://notary-server:4443", "--tlscacert",
              "/tmp/ca.crt"]⟩, "/tmp/main"⟩ "/tmp/f" "/tmp/d")
        (fun _ _ ↦ False) (fun e ↦ FeedSafe e ∨ ∃ m, e = .assertionError 209 m) :=
  ⟨refWorld_conforming _, rfl,
    @basicRepoTest_nonAscii _ _ _ "/notary/bin/notary" "/tmp/ca.crt"
      ⟨"dépôt", ⟨"https://notary-server:4443", "/tmp/ca.crt", ["user", "password"], [],
        ["/notary/bin/notary", "-s", "https://notary-server:4443", "--tlscacert", "/tmp/ca.crt"]⟩,
        "/tmp/main"⟩ (refWorld_conforming "https://notary-server:4443") rfl rfl "/tmp/f" "/tmp/d"⟩

end Scenarios

end Testchangefeed
