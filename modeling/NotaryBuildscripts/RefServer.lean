import NotaryBuildscripts.FeedServer
import Mathlib.Data.Nat.Digits

/-!
# A reference change-feed server

`Feed.Conforming` is a contract on the world, and `run_feedSafe` assumes it. This module builds
the server half of a world that meets it (`RefWorld` builds the rest): `RefState` keeps the
server's log as a list of changes whose order is a field of the state, `RefState.record` records
a change under the next identifier, and `parseFeedUrl` reads a change-feed URL back, so that a GET
can be answered with the page it asks for.

**Reading the URL back is the work.** A repository name may hold any character, `?` and `&`
included, so `parseFeedUrl` reads from the right: the page size is the decimal number after the
last `&records=`, the start the one before it, after `/_trust/changefeed?change_id=`, and the
repository is what lies between that and the server's `/v2/` prefix. `parseFeedUrl_feedQueryUrl`
proves that this reads back every query, whatever the repository's name: the query URL encodes
the repository and the cursor without loss (`feedQueryUrl_inj`).

The decimal numbers are read with `Py.fieldNumber`, the reading `str.format` gives a field name;
`fieldNumber_toDigits` proves that it inverts `str(n)`.
-/

open Py

namespace Feed

/-! ### Decimal numbers -/

theorem digitChar_isDigit : ∀ d < 10, (Nat.digitChar d).isDigit = true := by decide

theorem digitChar_val : ∀ d < 10, (Nat.digitChar d).toNat - '0'.toNat = d := by decide

theorem toDigitsCore_isDigit (fuel n : Nat) (ds : List Char) (hds : ∀ c ∈ ds, c.isDigit = true) :
    ∀ c ∈ Nat.toDigitsCore 10 fuel n ds, c.isDigit = true := by
  induction fuel generalizing n ds with
  | zero => exact hds
  | succ fuel ih =>
    have hd : ∀ c ∈ Nat.digitChar (n % 10) :: ds, c.isDigit = true :=
      List.forall_mem_cons.2 ⟨digitChar_isDigit _ (Nat.mod_lt _ (by decide)), hds⟩
    simp only [Nat.toDigitsCore]
    split
    exacts [hd, ih _ _ hd]

/-- With enough fuel, reading the digits `toDigitsCore` writes in front of `ds` starts the reading
of `ds` from `n`. -/
theorem toDigitsCore_foldl (fuel n : Nat) (ds : List Char) (hn : n < fuel) :
    (Nat.toDigitsCore 10 fuel n ds).foldl (fun n c ↦ 10 * n + (c.toNat - '0'.toNat)) 0 =
      ds.foldl (fun n c ↦ 10 * n + (c.toNat - '0'.toNat)) n := by
  induction fuel generalizing n ds with
  | zero => omega
  | succ fuel ih =>
    have hd := digitChar_val (n % 10) (Nat.mod_lt _ (by decide))
    simp only [Nat.toDigitsCore]
    split
    · rw [List.foldl_cons]
      congr 1
      omega
    · rw [ih _ _ (by omega), List.foldl_cons]
      congr 1
      omega

theorem toDigitsCore_ne_nil (fuel n : Nat) (ds : List Char) :
    Nat.toDigitsCore 10 (fuel + 1) n ds ≠ [] := by
  induction fuel generalizing n ds with
  | zero => simp [Nat.toDigitsCore]
  | succ fuel ih =>
    simp only [Nat.toDigitsCore]
    split
    · simp
    · exact ih _ _

/-- The digits of `str(n)` are read back as `n`. -/
theorem fieldNumber_toDigits (n : Nat) : fieldNumber (Nat.toDigits 10 n) = some n := by
  have hall : ∀ c ∈ Nat.toDigits 10 n, c.isDigit = true :=
    toDigitsCore_isDigit _ _ _ fun _ h ↦ absurd h (List.not_mem_nil _)
  simp only [fieldNumber, List.all_eq_true]
  rw [if_pos ⟨toDigitsCore_ne_nil _ _ _, hall⟩]
  exact congrArg some (toDigitsCore_foldl (n + 1) n [] (by omega))

/-- A character of a decimal integer. -/
def isNumChar (c : Char) : Bool := c.isDigit || c == '-'

/-- A decimal integer, as `str(int)` writes it. -/
def parseInt : List Char → Option Int
  | '-' :: ds => (fieldNumber ds).map fun n ↦ -(n : Int)
  | ds => (fieldNumber ds).map fun n ↦ (n : Int)

theorem parseInt_toString (a : Int) : parseInt (toString a).data = some a := by
  cases a with
  | ofNat m =>
    obtain ⟨c, cs, hcs⟩ := List.exists_cons_of_ne_nil (toDigitsCore_ne_nil m m [])
    have hc : c ≠ '-' := by
      have := toDigitsCore_isDigit (m + 1) m [] (fun _ h ↦ absurd h (List.not_mem_nil _)) c
        (by rw [hcs]; exact List.mem_cons_self _ _)
      rintro rfl
      exact absurd this (by decide)
    show parseInt (Nat.toDigits 10 m) = _
    rw [Nat.toDigits, hcs, parseInt.eq_2 _ (by simpa using hc), ← hcs, ← Nat.toDigits,
      fieldNumber_toDigits]
    rfl
  | negSucc m =>
    show parseInt ('-' :: Nat.toDigits 10 (m + 1)) = _
    simp [parseInt, fieldNumber_toDigits, Int.negSucc_eq]

theorem isNumChar_toString (a : Int) : ∀ c ∈ (toString a).data, isNumChar c = true := by
  have hdig : ∀ n, ∀ c ∈ Nat.toDigits 10 n, isNumChar c = true := fun n c hc ↦ by
    simp [isNumChar, toDigitsCore_isDigit _ _ _ (fun _ h ↦ absurd h (List.not_mem_nil _)) c hc]
  cases a with
  | ofNat m => exact hdig m
  | negSucc m => exact List.forall_mem_cons.2 ⟨rfl, hdig (m + 1)⟩

/-! ### Reading a change-feed URL -/

/-- `l` without the prefix `p`, if it starts with it. -/
def stripPrefix : List Char → List Char → Option (List Char)
  | [], l => some l
  | _ :: _, [] => none
  | c :: p, d :: l => if c = d then stripPrefix p l else none

theorem stripPrefix_append_append (p q l : List Char) :
    stripPrefix (p ++ q) (p ++ l) = stripPrefix q l := by
  induction p with
  | nil => rfl
  | cons c p ih => simp [stripPrefix, ih]

/-- The reference server's reading of a change-feed URL, from the right: the page size, the
start, then the repository between the feed path and the server's `/v2/` prefix. -/
def parseFeedUrl (server url : String) : Option (String × Int × Int) := do
  let rev := url.data.reverse
  let rest ← stripPrefix "&records=".data.reverse (rev.dropWhile isNumChar)
  let path ← stripPrefix "/_trust/changefeed?change_id=".data.reverse (rest.dropWhile isNumChar)
  let gun ← stripPrefix (server ++ "/v2/").data path.reverse
  let start ← parseInt (rest.takeWhile isNumChar).reverse
  let size ← parseInt (rev.takeWhile isNumChar).reverse
  pure (⟨gun⟩, start, size)

/-- A number read from the right stops at the first character that is not one of its own. -/
theorem numeral_takeWhile (a : Int) (c : Char) (l : List Char) (hc : isNumChar c = false) :
    ((toString a).data.reverse ++ c :: l).takeWhile isNumChar = (toString a).data.reverse := by
  have h : ∀ x ∈ (toString a).data.reverse, isNumChar x = true := by
    simpa using isNumChar_toString a
  simp [List.takeWhile_append_of_pos h, hc]

theorem numeral_dropWhile (a : Int) (c : Char) (l : List Char) (hc : isNumChar c = false) :
    ((toString a).data.reverse ++ c :: l).dropWhile isNumChar = c :: l := by
  have h : ∀ x ∈ (toString a).data.reverse, isNumChar x = true := by
    simpa using isNumChar_toString a
  simp [List.dropWhile_append_of_pos h, hc]

/-- **The query URL reads back**, whatever characters the repository's name holds. -/
theorem parseFeedUrl_feedQueryUrl (server gun : String) (start size : Int) :
    parseFeedUrl server (feedQueryUrl server gun start size) = some (gun, start, size) := by
  simp only [parseFeedUrl, feedQueryUrl, String.data_append, List.reverse_append, List.append_assoc]
  simp [numeral_takeWhile, numeral_dropWhile, isNumChar, stripPrefix, stripPrefix_append_append,
    parseInt_toString]

/-- Distinct queries to one server have distinct URLs. -/
theorem feedQueryUrl_inj {server gun gun' : String} {start start' size size' : Int}
    (h : feedQueryUrl server gun start size = feedQueryUrl server gun' start' size') :
    gun = gun' ∧ start = start' ∧ size = size' := by
  have := parseFeedUrl_feedQueryUrl server gun start size
  rw [h, parseFeedUrl_feedQueryUrl] at this
  simp only [Option.some.injEq, Prod.mk.injEq] at this
  exact ⟨this.1.symm, this.2.1.symm, this.2.2.symm⟩

/-! ### The server -/

/-- The reference server's state: its log, which is ordered. -/
structure RefState where
  log : List Change
  ordered : Ordered log

/-- The identifier of the next change: one above every identifier so far. -/
def nextId (log : List Change) : Int := (log.map (·.id)).foldr max 0 + 1

theorem foldr_max_bound (log : List Change) :
    0 ≤ (log.map (·.id)).foldr max 0 ∧ ∀ c ∈ log, c.id ≤ (log.map (·.id)).foldr max 0 := by
  induction log with
  | nil => simp
  | cons c log ih =>
    simp only [List.map_cons, List.foldr_cons, List.mem_cons, forall_eq_or_imp]
    exact ⟨by omega, by omega, fun x hx ↦ by have := ih.2 x hx; omega⟩

/-- A change recorded under `nextId` keeps the log ordered. -/
theorem Ordered.record {log : List Change} (h : Ordered log) (m : Option (String × String)) :
    Ordered (log ++ (m.map fun m ↦ (⟨nextId log, m.1, m.2⟩ : Change)).toList) := by
  have hb := foldr_max_bound log
  rcases m with _ | ⟨g, cat⟩
  · simpa using h
  · refine ⟨List.pairwise_append.2 ⟨h.1, by simp, ?_⟩, ?_⟩
    · simp only [Option.map_some', Option.toList_some, List.mem_singleton]
      rintro c hc _ rfl
      have := hb.2 c hc
      simp only [nextId]
      omega
    · simp only [Option.map_some', Option.toList_some, List.mem_append, List.mem_singleton]
      rintro c (hc | rfl)
      · exact h.2 c hc
      · simp only [nextId]
        omega

/-- The reference server's state once it has recorded the change `m`. -/
def RefState.record (s : RefState) (m : Option (String × String)) : RefState :=
  ⟨s.log ++ (m.map fun m ↦ (⟨nextId s.log, m.1, m.2⟩ : Change)).toList, s.ordered.record m⟩

end Feed
