import Mathlib.Data.List.AList
import TypedPython.Dispatch

/-!
# The walk cache and its verifier

`mPastVisits` is a `std::unordered_map<TypeOrPyobj, std::vector<VisitRecord>>`: an `AList`, whose
key column has no duplicate by construction, and whose list order stands for the map's
unspecified iteration order. The member functions that touch it run in `EStateM`, so that the
cache a C++ exception leaves behind is part of the result.

`checkForInstability` re-walks every cached node and raises when one of them walks differently,
with a report built in a loop that also reads the cache through `operator[]`, which inserts a
missing key. Its main lemma, `checkForInstability_run`, gives the whole run in closed form: the
cache is never written, the check returns exactly when every cached node is stable, and
otherwise it raises the report, written out byte by byte: the number of unstable nodes, then the
first `1000` of them, each with its index, its name and its new and stored records side by side.

* `unstableObjects_eq`: the first loop collects the unstable nodes, in iteration order;
* `reportBlocks_run`: the report loop reads each node's stored record without inserting a key.
-/

namespace TypedPython

/-- `mPastVisits`: the record of the first walk of each visited node. -/
abbrev PastVisits := AList fun _ : TypeOrPyobj => List VisitRecord

/-- `mPastVisits[obj]` read through `operator[]`: the stored record, or an empty one that is
inserted under `obj`. -/
def PastVisits.subscript (obj : TypeOrPyobj) (past : PastVisits) : List VisitRecord × PastVisits :=
  match past.lookup obj with
  | some records => (records, past)
  | none => ([], past.insert obj [])

theorem PastVisits.subscript_of_lookup {obj : TypeOrPyobj} {past : PastVisits}
    {records : List VisitRecord} (h : past.lookup obj = some records) :
    past.subscript obj = (records, past) := by
  rw [subscript, h]

/-- A step that reads no cache and may raise. -/
def liftExcept {α : Type} : Except Raised α → EStateM Raised PastVisits α
  | .ok a => pure a
  | .error e => throw e

/-! ## The report -/

/-- `std::ostringstream << n` for a count or an index. -/
def decimal (n : ℕ) : CString := cstr (Nat.repr n)

/-- The `pad` lambda: `s` cut to `ct` bytes, or filled with spaces up to `ct`. -/
def pad (s : CString) (ct : ℕ) : CString :=
  if s.length > ct then s.take ct else s ++ List.replicate (ct - s.length) (byteOf ' ')

@[simp] theorem length_pad (s : CString) (ct : ℕ) : (pad s ct).length = ct := by
  unfold pad
  split_ifs with h
  · simp only [List.length_take]
    omega
  · simp only [List.length_append, List.length_replicate]
    omega

/-- The lines of the inner loop of the report: line `j` of each side padded to 80 columns, an
empty column past the end of a side, while either side has a line `j`. -/
def sideBySide (linesLeft linesRight : List CString) : List CString :=
  (List.range (max linesLeft.length linesRight.length)).map fun j =>
    cstr "    " ++ pad (linesLeft.getD j []) 80 ++ cstr "   |   " ++
      pad (linesRight.getD j []) 80 ++ cstr "\n"

@[simp] theorem length_sideBySide (linesLeft linesRight : List CString) :
    (sideBySide linesLeft linesRight).length = max linesLeft.length linesRight.length := by
  simp [sideBySide]

/-- What the report loop writes for the `k`-th unstable node. -/
def reportBlock (k : ℕ) (name : CString) (linesLeft linesRight : List CString) : CString :=
  decimal k ++ cstr " -> " ++ name ++ cstr "\n" ++ (sideBySide linesLeft linesRight).flatten

namespace Runtime

variable (rt : Runtime)

/-- `stringifyVisitRecord`: one line per record. -/
def stringifyVisitRecord (records : List VisitRecord) : List CString :=
  records.map (VisitRecord.toString rt.digestAsHexString rt.name)

/-- The first loop of `checkForInstability`: the cached nodes whose stored record differs from a
fresh `recordWalk`, in iteration order. -/
def unstableObjects :
    List (Σ _ : TypeOrPyobj, List VisitRecord) → Except Raised (List TypeOrPyobj)
  | [] => .ok []
  | ⟨obj, stored⟩ :: rest => do
    let records ← rt.recordWalk obj
    let unstable ← unstableObjects rest
    pure (if !recordsEqual stored records then obj :: unstable else unstable)

/-- The report loop from its `k`-th node on: the node's name, then its fresh record against the one
`operator[]` reads from the cache. -/
def reportBlocks : ℕ → List TypeOrPyobj → EStateM Raised PastVisits CString
  | _, [] => pure []
  | k, obj :: rest => do
    let linesLeft ← liftExcept ((rt.recordWalk obj).map rt.stringifyVisitRecord)
    let stored ← modifyGet (PastVisits.subscript obj)
    let more ← reportBlocks (k + 1) rest
    pure (reportBlock k (rt.name obj) linesLeft (rt.stringifyVisitRecord stored) ++ more)

/-- `checkForInstability`: return when every cached node walks as it did, and otherwise raise a
report of the unstable ones, at most `1000` of them shown. -/
def checkForInstability : EStateM Raised PastVisits Unit := do
  let past ← get
  let unstable ← liftExcept (rt.unstableObjects past.entries)
  if unstable.length = 0 then pure ()
  else do
    let blocks ← rt.reportBlocks 0 (unstable.take 1000)
    throw (.runtimeError
      (cstr "Found " ++ decimal unstable.length ++ cstr " unstable objects\n" ++ blocks))

/-! ## The check in closed form -/

/-- The verdict of the first loop on one cached node: the node with its fresh and its stored
record, when they differ. -/
def unstableEntry (e : Σ _ : TypeOrPyobj, List VisitRecord) :
    Option (TypeOrPyobj × List VisitRecord × List VisitRecord) :=
  match rt.recordWalk e.1 with
  | .ok records => if recordsEqual e.2 records then none else some (e.1, records, e.2)
  | .error _ => none

/-- The unstable entries of a cache, in iteration order. -/
def unstableEntries (entries : List (Σ _ : TypeOrPyobj, List VisitRecord)) :
    List (TypeOrPyobj × List VisitRecord × List VisitRecord) :=
  entries.filterMap rt.unstableEntry

/-- The report on a list of unstable entries: their number, then the first `1000` of them. -/
def instabilityReport (unstable : List (TypeOrPyobj × List VisitRecord × List VisitRecord)) :
    CString :=
  cstr "Found " ++ decimal unstable.length ++ cstr " unstable objects\n" ++
    ((unstable.take 1000).enum.map fun (k, obj, records, stored) =>
      reportBlock k (rt.name obj) (rt.stringifyVisitRecord records)
        (rt.stringifyVisitRecord stored)).flatten

variable {rt}

theorem unstableEntry_eq_some {obj : TypeOrPyobj} {stored : List VisitRecord}
    {u : TypeOrPyobj × List VisitRecord × List VisitRecord} :
    rt.unstableEntry ⟨obj, stored⟩ = some u ↔
      ∃ records, rt.recordWalk obj = .ok records ∧ recordsEqual stored records = false ∧
        u = (obj, records, stored) := by
  unfold unstableEntry
  cases rt.recordWalk obj with
  | error _ => simp
  | ok records =>
    simp only [Except.ok.injEq, exists_eq_left']
    cases recordsEqual stored records
    · simp only [Bool.false_eq_true, if_false, Option.some.injEq, true_and]
      exact eq_comm
    · simp

theorem mem_unstableEntries {entries : List (Σ _ : TypeOrPyobj, List VisitRecord)}
    {obj : TypeOrPyobj} {records stored : List VisitRecord} :
    (obj, records, stored) ∈ rt.unstableEntries entries ↔
      ⟨obj, stored⟩ ∈ entries ∧ rt.recordWalk obj = .ok records ∧
        recordsEqual stored records = false := by
  simp only [unstableEntries, List.mem_filterMap, Sigma.exists, unstableEntry_eq_some,
    Prod.mk.injEq]
  constructor
  · rintro ⟨o, s, hmem, records', hw, hne, rfl, rfl, rfl⟩
    exact ⟨hmem, hw, hne⟩
  · rintro ⟨hmem, hw, hne⟩
    exact ⟨obj, stored, hmem, records, hw, hne, rfl, rfl, rfl⟩

theorem map_fst_unstableEntries_sublist (entries : List (Σ _ : TypeOrPyobj, List VisitRecord)) :
    List.Sublist ((rt.unstableEntries entries).map Prod.fst) (entries.map Sigma.fst) := by
  induction entries with
  | nil => exact .slnil
  | cons e entries ih =>
    obtain ⟨obj, stored⟩ := e
    unfold unstableEntries at ih ⊢
    rw [List.filterMap_cons]
    cases h : rt.unstableEntry ⟨obj, stored⟩ with
    | none => exact ih.cons _
    | some u =>
      obtain ⟨records, -, -, rfl⟩ := unstableEntry_eq_some.mp h
      exact ih.cons₂ _

/-- **The first loop collects the unstable nodes**, when no re-walk raises. -/
theorem unstableObjects_eq {entries : List (Σ _ : TypeOrPyobj, List VisitRecord)}
    (hok : ∀ e ∈ entries, ∃ records, rt.recordWalk e.1 = .ok records) :
    rt.unstableObjects entries = .ok ((rt.unstableEntries entries).map Prod.fst) := by
  induction entries with
  | nil => rfl
  | cons e entries ih =>
    obtain ⟨obj, stored⟩ := e
    obtain ⟨records, hw⟩ := hok _ (List.mem_cons_self _ _)
    rw [unstableObjects, hw, except_ok_bind, ih fun e he => hok e (List.mem_cons_of_mem _ he),
      except_ok_bind]
    simp only [unstableEntries, List.filterMap_cons, unstableEntry, hw]
    cases recordsEqual stored records <;> rfl

theorem reportBlocks_run {past : PastVisits} :
    ∀ (k : ℕ) (unstable : List (TypeOrPyobj × List VisitRecord × List VisitRecord)),
      (∀ u ∈ unstable, rt.recordWalk u.1 = .ok u.2.1 ∧ past.lookup u.1 = some u.2.2) →
      (rt.reportBlocks k (unstable.map Prod.fst)).run past =
        .ok ((unstable.enumFrom k).map fun (j, obj, records, stored) =>
          reportBlock j (rt.name obj) (rt.stringifyVisitRecord records)
            (rt.stringifyVisitRecord stored)).flatten past
  | _, [], _ => rfl
  | k, (obj, records, stored) :: unstable, hu => by
    obtain ⟨hw, hl⟩ := hu _ (List.mem_cons_self _ _)
    have ih : rt.reportBlocks (k + 1) (unstable.map Prod.fst) past = _ :=
      reportBlocks_run (k + 1) unstable fun u h => hu u (List.mem_cons_of_mem _ h)
    show rt.reportBlocks k (obj :: unstable.map Prod.fst) past = _
    simp only [reportBlocks, bind, EStateM.bind, hw, Except.map, liftExcept, pure,
      EStateM.pure, modifyGet, MonadStateOf.modifyGet, EStateM.modifyGet,
      PastVisits.subscript_of_lookup hl, ih]
    rfl

theorem mem_unstableEntries_iff_lookup {past : PastVisits} {obj : TypeOrPyobj}
    {records stored : List VisitRecord} :
    (obj, records, stored) ∈ rt.unstableEntries past.entries ↔
      past.lookup obj = some stored ∧ rt.recordWalk obj = .ok records ∧
        recordsEqual stored records = false := by
  rw [mem_unstableEntries, ← AList.mem_lookup_iff]
  rfl

variable (rt)

/-- When no re-walk raises, `checkForInstability` returns on a cache with no unstable entry and
otherwise raises their report, the cache untouched either way. -/
theorem run_checkForInstability (past : PastVisits)
    (hok : ∀ obj ∈ past.keys, ∃ records, rt.recordWalk obj = .ok records) :
    rt.checkForInstability.run past =
      if rt.unstableEntries past.entries = [] then .ok () past
      else
        .error (.runtimeError (rt.instabilityReport (rt.unstableEntries past.entries))) past := by
  have hU := @unstableObjects_eq rt _ fun e he => hok e.1 (List.mem_map_of_mem _ he)
  have hblocks : rt.reportBlocks 0 (((rt.unstableEntries past.entries).take 1000).map Prod.fst)
      past = _ := reportBlocks_run 0 _ fun u hu => by
    obtain ⟨hl, hw, -⟩ := mem_unstableEntries_iff_lookup.mp (List.mem_of_mem_take hu)
    exact ⟨hw, hl⟩
  rw [List.map_take] at hblocks
  show rt.checkForInstability past = _
  simp only [checkForInstability, bind, EStateM.bind, get, getThe, MonadStateOf.get, EStateM.get,
    hU, liftExcept, pure, EStateM.pure, List.length_map, List.length_eq_zero]
  split_ifs
  · rfl
  · simp only [EStateM.bind, hblocks]
    rfl

/-- **The instability check in closed form.** When no re-walk raises, `checkForInstability`
leaves the cache as it was and returns exactly when no cached node is unstable, the unstable nodes
being those whose fresh record differs from the stored one, each once. Otherwise it raises
`"Found N unstable objects\n"`, `N` their number, then for each of the first `1000` of them, at its
index `k`, the line `"k -> "` and its name, then one line per line of the longer of its fresh and
stored records: the two lines side by side, each cut or padded with spaces to 80 bytes. -/
theorem checkForInstability_run (past : PastVisits)
    (hok : ∀ obj ∈ past.keys, ∃ records, rt.recordWalk obj = .ok records) :
    rt.checkForInstability.run past =
        (if rt.unstableEntries past.entries = [] then .ok () past
          else .error (.runtimeError (cstr "Found " ++
            cstr (Nat.repr (rt.unstableEntries past.entries).length) ++
            cstr " unstable objects\n" ++
            (((rt.unstableEntries past.entries).take 1000).enum.map
              fun (k, obj, records, stored) =>
                cstr (Nat.repr k) ++ cstr " -> " ++ rt.name obj ++ cstr "\n" ++
                ((List.range (max records.length stored.length)).map fun j =>
                  cstr "    " ++
                  (if ((records.map (VisitRecord.toString rt.digestAsHexString rt.name)).getD j
                      []).length > 80
                    then ((records.map (VisitRecord.toString rt.digestAsHexString rt.name)).getD
                      j []).take 80
                    else (records.map (VisitRecord.toString rt.digestAsHexString rt.name)).getD j
                      [] ++ List.replicate (80 - ((records.map
                      (VisitRecord.toString rt.digestAsHexString rt.name)).getD j []).length)
                      (byteOf ' ')) ++
                  cstr "   |   " ++
                  (if ((stored.map (VisitRecord.toString rt.digestAsHexString rt.name)).getD j
                      []).length > 80
                    then ((stored.map (VisitRecord.toString rt.digestAsHexString rt.name)).getD
                      j []).take 80
                    else (stored.map (VisitRecord.toString rt.digestAsHexString rt.name)).getD j
                      [] ++ List.replicate (80 - ((stored.map
                      (VisitRecord.toString rt.digestAsHexString rt.name)).getD j []).length)
                      (byteOf ' ')) ++
                  cstr "\n").flatten).flatten)) past) ∧
      (∀ obj records stored, (obj, records, stored) ∈ rt.unstableEntries past.entries ↔
        past.lookup obj = some stored ∧ rt.recordWalk obj = .ok records ∧
          recordsEqual stored records = false) ∧
      ((rt.unstableEntries past.entries).map Prod.fst).Nodup := by
  refine ⟨?_, fun _ _ _ => mem_unstableEntries_iff_lookup,
    (map_fst_unstableEntries_sublist _).nodup past.keys_nodup⟩
  rw [rt.run_checkForInstability past hok]
  simp only [instabilityReport, reportBlock, sideBySide, pad, decimal, stringifyVisitRecord,
    List.length_map]

end Runtime

set_option maxRecDepth 2000 in
/-- A cache that stored an empty record for a plain object: the check reports it, with the line
`"Topo()"` of its fresh record beside the empty stored one. -/
theorem checkForInstability_run_sample :
    (∀ obj ∈ (AList.singleton (.pyobj 1) [] : PastVisits).keys,
        ∃ records, Runtime.sample.recordWalk obj = .ok records) ∧
      Runtime.sample.checkForInstability.run (AList.singleton (.pyobj 1) []) =
        .error (.runtimeError (cstr "Found 1 unstable objects\n" ++ cstr "0 -> \n" ++
          cstr "    Topo()" ++ List.replicate 74 (byteOf ' ') ++ cstr "   |   " ++
          List.replicate 80 (byteOf ' ') ++ cstr "\n"))
        (AList.singleton (.pyobj 1) []) :=
  have hok : ∀ obj ∈ (AList.singleton (.pyobj 1) [] : PastVisits).keys,
      ∃ records, Runtime.sample.recordWalk obj = .ok records :=
    fun _ h => List.mem_singleton.mp h ▸ ⟨_, rfl⟩
  ⟨hok, (Runtime.checkForInstability_run Runtime.sample _ hok).1.trans rfl⟩

end TypedPython
