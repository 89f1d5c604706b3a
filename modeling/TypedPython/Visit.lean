import TypedPython.Cache

/-!
# Visiting through the cache

`visit(obj, visitor)` walks `obj` twice: once into a record, which it stores on a first visit and
otherwise checks against the stored one, and once more to stream the calls to the visitor. Each
walk, and each re-walk of the instability check, takes the lock for itself only, so the object
graph may change between them: the record walk sees the graph `atRecord`, the check
`checkForInstability` runs on a changed record sees `atCheck`, and the streaming walk `atStream`.

The walk is reentrant: the visitor's callbacks may visit further nodes and reset the cache, as a
visitor that computes a digest does for each node it is handed. A visit therefore carries, for
each call its streaming walk makes, the calls the callback makes before it returns (`Call`); an
exception out of one of them propagates through the callback, the walk and the visit.

On the cache a run acts through two kinds of step only, the check before a streaming walk and a
reset (`Step`), and it acts as the flat run of the steps it made, in order (`runCalls_cache`). So:

* `visitCheck_cases`: what the check can do: return, the cache changed only by the record of a
  first visit, or raise on a changed record;
* `lookup_runCalls`: over any run of calls, nested ones included, the cache holds for each node the
  record of its first visit since the last reset (`firstRecord`), the register the cache refines;
* `visit_raises_iff_unstable`: a visit raises exactly on a changed record, leaving no trace, and
  otherwise leaves the cache its callbacks make of the one its check left;
* `visit_raises_check_or_own`: on a changed record, `visit` raises what the check raises, or its
  own error when the check, in its own graph, finds nothing unstable;
* `visit_delivers_first_record`: a visit that returns has delivered the walk of its node at the
  streaming walk, which is the record checked when the node walks alike at both walks;
* `visit_of_unchanged_graph`: in a graph no step changes, a visit ends as the walk of its node.
-/

namespace TypedPython

namespace Runtime

variable (rt : Runtime)

/-- The part of `visit` before its streaming walk, whose record walk sees the graph `rt`: store the
record of a first visit, and otherwise, on a changed record, run `checkForInstability`, in the graph
`atCheck` its own walks see, and raise. -/
def visitCheck (atCheck : Runtime) (obj : TypeOrPyobj) : EStateM Raised PastVisits Unit := do
  let records ← liftExcept (rt.recordWalk obj)
  match (← get).lookup obj with
  | none => modify fun past => past.insert obj records
  | some stored =>
    if !recordsEqual stored records then do
      atCheck.checkForInstability
      throw (.runtimeError (cstr "Found unstable object, but somehow our instability check" ++
        cstr " didn't throw an exception?" ++ atCheck.name obj))
    else pure ()

end Runtime

/-! ## Steps on the cache -/

/-- What acts on the cache: the check of a visit before its streaming walk, with the graphs its
record walk and its instability check see, or a reset. -/
inductive Step
  | check (obj : TypeOrPyobj) (atRecord atCheck : Runtime)
  /-- `resetCache`: `mPastVisits.clear()`. -/
  | resetCache

/-- One step: the cache afterwards, and how the step ended. -/
def Step.run : Step → PastVisits → PastVisits × Except Raised Unit
  | .check obj atRecord atCheck, past =>
    match (atRecord.visitCheck atCheck obj).run past with
    | .ok () past' => (past', .ok ())
    | .error e past' => (past', .error e)
  | .resetCache, _ => (∅, .ok ())

/-- The cache after a run of steps, each made whether the one before returned or raised. -/
def runSteps (past : PastVisits) (steps : List Step) : PastVisits :=
  steps.foldl (fun past s => (s.run past).1) past

/-- The record the cache should hold for `o` after a run of steps, from what it held before: the
record of the first visit of `o` since the last reset whose record walk completed. -/
def firstRecord (o : TypeOrPyobj) :
    Option (List VisitRecord) → List Step → Option (List VisitRecord)
  | known, [] => known
  | _, .resetCache :: steps => firstRecord o none steps
  | known, .check obj atRecord _ :: steps =>
    firstRecord o
      (if obj = o ∧ known = none then (atRecord.recordWalk o).toOption else known) steps

/-- A step that sees the graph `rt` throughout. -/
def Step.SeesOnly (rt : Runtime) : Step → Prop
  | .check _ atRecord atCheck => atRecord = rt ∧ atCheck = rt
  | .resetCache => True

/-! ## Calls -/

/-- A call on the visitor object, with the graphs its walks see. A visit carries what its visitor's
callbacks do: for each call its streaming walk makes on the visitor, in order, the calls on the
visitor object the callback makes before it returns; a callback past the list makes none. -/
inductive Call
  | visit (obj : TypeOrPyobj) (atRecord atCheck atStream : Runtime) (callbacks : List (List Call))
  | resetCache

open WalkM in
mutual

/-- A call from a cache: the steps it made on the cache, in order, the cache afterwards, and the
calls its visitor received, with how the call ended. -/
def Call.run : Call → PastVisits → List Step × PastVisits × WalkM Unit
  | .resetCache, _ => ([.resetCache], ∅, pure ())
  | .visit obj atRecord atCheck atStream callbacks, past =>
    let s := (Step.check obj atRecord atCheck).run past
    match s.2 with
    | .error e => ([.check obj atRecord atCheck], s.1, raise e)
    | .ok () =>
      let d := deliver (atStream.walk obj).calls callbacks s.1
      (.check obj atRecord atCheck :: d.1, d.2.1,
        d.2.2 >>= fun _ => ofExcept (atStream.walk obj).result)

/-- The calls of a streaming walk, each delivered to the visitor and followed by the calls its
callback makes; a callback that raises ends the walk. -/
def deliver :
    List Entry → List (List Call) → PastVisits → List Step × PastVisits × WalkM Unit
  | [], _, past => ([], past, pure ())
  | es, [], past => ([], past, ⟨es, .ok ()⟩)
  | e :: es, cb :: callbacks, past =>
    let r := runCallback cb past
    match r.2.2 with
    | .ok () =>
      let d := deliver es callbacks r.2.1
      (r.1 ++ d.1, d.2.1, emit e >>= fun _ => d.2.2)
    | .error err => (r.1, r.2.1, emit e >>= fun _ => raise err)

/-- The calls one callback makes, in order, until one of them raises. -/
def runCallback : List Call → PastVisits → List Step × PastVisits × Except Raised Unit
  | [], past => ([], past, .ok ())
  | c :: cs, past =>
    let r := c.run past
    match r.2.2.result with
    | .ok () =>
      let r' := runCallback cs r.2.1
      (r.1 ++ r'.1, r'.2.1, r'.2.2)
    | .error e => (r.1, r.2.1, .error e)

end

/-- `visit(obj, visitor)` from a cache, the visitor's callbacks making the calls `callbacks`: the
cache afterwards, and the calls the visitor received with how the call ended. -/
def visit (atRecord atCheck atStream : Runtime) (callbacks : List (List Call)) (obj : TypeOrPyobj)
    (past : PastVisits) : PastVisits × WalkM Unit :=
  ((Call.visit obj atRecord atCheck atStream callbacks).run past).2

/-- A run of calls from a cache, each made whether the one before returned or raised: the steps
made on the cache, in order, and the cache afterwards. -/
def runCalls : PastVisits → List Call → List Step × PastVisits
  | past, [] => ([], past)
  | past, c :: calls =>
    let r := c.run past
    let r' := runCalls r.2.1 calls
    (r.1 ++ r'.1, r'.2)

/-! ## The instability check writes nothing -/

namespace Runtime

variable {rt : Runtime}

theorem unstableObjects_eq_ok {entries : List (Σ _ : TypeOrPyobj, List VisitRecord)}
    {unstable : List TypeOrPyobj} (h : rt.unstableObjects entries = .ok unstable) :
    ∀ e ∈ entries, ∃ records, rt.recordWalk e.1 = .ok records := by
  induction entries generalizing unstable with
  | nil => simp
  | cons e entries ih =>
    obtain ⟨obj, stored⟩ := e
    cases hw : rt.recordWalk obj with
    | error _ => simp [unstableObjects, hw] at h
    | ok records =>
      cases hr : rt.unstableObjects entries with
      | error _ => simp [unstableObjects, hw, hr] at h
      | ok rest =>
        rintro e (_ | ⟨_, he⟩)
        · exact ⟨records, hw⟩
        · exact ih hr e he

/-- `checkForInstability` leaves the cache as it found it, whether it returns or raises. -/
theorem checkForInstability_state (past : PastVisits) :
    rt.checkForInstability.run past = .ok () past ∨
      ∃ e, rt.checkForInstability.run past = .error e past := by
  cases h : rt.unstableObjects past.entries with
  | error e =>
    refine .inr ⟨e, ?_⟩
    delta EStateM.run
    simp only [checkForInstability, bind, EStateM.bind, get, getThe,
      MonadStateOf.get, EStateM.get, h, liftExcept, throw, throwThe, MonadExceptOf.throw,
      EStateM.throw]
  | ok unstable =>
    rw [run_checkForInstability rt past fun obj hobj => by
      obtain ⟨e, he, rfl⟩ := List.mem_map.mp hobj
      exact unstableObjects_eq_ok h e he]
    split_ifs
    · exact .inl rfl
    · exact .inr ⟨_, rfl⟩

/-- A record walk that completes is the record of a streaming walk that completes. -/
theorem recordWalk_eq_ok_iff {obj : TypeOrPyobj} {records : List VisitRecord} :
    rt.recordWalk obj = .ok records ↔
      (rt.walk obj).result = .ok () ∧ records = (rt.walk obj).calls.map Entry.toRecord := by
  unfold recordWalk
  cases (rt.walk obj).result <;> simp [Except.map, eq_comm]

theorem recordWalk_eq_error_iff {obj : TypeOrPyobj} {e : Raised} :
    rt.recordWalk obj = .error e ↔ (rt.walk obj).result = .error e := by
  unfold recordWalk
  cases (rt.walk obj).result <;> simp [Except.map]

/-! ## The check before the streaming walk -/

variable {atCheck : Runtime} {obj : TypeOrPyobj} {past : PastVisits}

theorem visitCheck_of_error {e : Raised} (h : rt.recordWalk obj = .error e) :
    (rt.visitCheck atCheck obj).run past = .error e past := by
  delta EStateM.run
  simp only [visitCheck, bind, EStateM.bind, h, liftExcept, throw, throwThe,
    MonadExceptOf.throw, EStateM.throw]

/-- On a record that changed, the check raises: the exception of `checkForInstability` when it
raises, and otherwise its own, in the cache `checkForInstability` left. -/
theorem visitCheck_of_changed (atCheck : Runtime) {records stored : List VisitRecord}
    (h : rt.recordWalk obj = .ok records) (hl : past.lookup obj = some stored)
    (hr : recordsEqual stored records = false) :
    (∀ e past', atCheck.checkForInstability.run past = .error e past' →
      (rt.visitCheck atCheck obj).run past = .error e past') ∧
    (∀ past', atCheck.checkForInstability.run past = .ok () past' →
      (rt.visitCheck atCheck obj).run past = .error (.runtimeError
        (cstr "Found unstable object, but somehow our instability check" ++
          cstr " didn't throw an exception?" ++ atCheck.name obj)) past') := by
  delta EStateM.run
  simp only [visitCheck, bind, EStateM.bind, h, liftExcept, pure, EStateM.pure, get,
    getThe, MonadStateOf.get, EStateM.get, hl, hr, Bool.not_false, if_true]
  exact ⟨fun e past' hc => by simp only [hc], fun past' hc => by simp only [hc]; rfl⟩

/-- **What the check before the streaming walk can do**: return, leaving the cache with the record
of a first visit added and a record equal to the fresh one at the node, or raise on a changed
record, leaving the cache as it was. -/
theorem visitCheck_cases (atCheck : Runtime) {records : List VisitRecord} (past : PastVisits)
    (h : rt.recordWalk obj = .ok records) :
    ((rt.visitCheck atCheck obj).run past =
        .ok () (if past.lookup obj = none then past.insert obj records else past) ∧
      (¬ ∃ stored, past.lookup obj = some stored ∧ recordsEqual stored records = false) ∧
      ∃ stored, (if past.lookup obj = none then past.insert obj records else past).lookup obj =
        some stored ∧ recordsEqual stored records = true) ∨
      (∃ stored, past.lookup obj = some stored ∧ recordsEqual stored records = false ∧
        ∃ e, (rt.visitCheck atCheck obj).run past = .error e past) := by
  cases hl : past.lookup obj with
  | none =>
    refine .inl ⟨?_, by simp, records, by simp, recordsEqual_self _⟩
    delta EStateM.run
    simp only [visitCheck, bind, EStateM.bind, h, liftExcept, pure, EStateM.pure, get,
      getThe, MonadStateOf.get, EStateM.get, hl]
    rfl
  | some stored =>
    cases hr : recordsEqual stored records
    · refine .inr ⟨stored, rfl, hr, ?_⟩
      have hchanged := visitCheck_of_changed atCheck h hl hr
      rcases atCheck.checkForInstability_state past with hc | ⟨e, hc⟩
      · exact ⟨_, hchanged.2 past hc⟩
      · exact ⟨e, hchanged.1 e past hc⟩
    · refine .inl ⟨?_, by simp [hr], stored, by simpa using hl, hr⟩
      delta EStateM.run
      simp only [visitCheck, bind, EStateM.bind, h, liftExcept, pure, EStateM.pure, get,
        getThe, MonadStateOf.get, EStateM.get, hl, hr]
      rfl

end Runtime

/-! ## Runs of steps -/

theorem Step.run_check_of_ok {obj : TypeOrPyobj} {atRecord atCheck : Runtime}
    {past past' : PastVisits} (h : (atRecord.visitCheck atCheck obj).run past = .ok () past') :
    (Step.check obj atRecord atCheck).run past = (past', .ok ()) := by
  rw [Step.run, h]

theorem Step.run_check_of_error {obj : TypeOrPyobj} {atRecord atCheck : Runtime}
    {past past' : PastVisits} {e : Raised}
    (h : (atRecord.visitCheck atCheck obj).run past = .error e past') :
    (Step.check obj atRecord atCheck).run past = (past', .error e) := by
  rw [Step.run, h]

/-- The cache after one step, at any node: the check of a first visit of `o` stores its record,
when its record walk completes; a reset empties the cache; every other node keeps what it had. -/
theorem lookup_step_run (s : Step) (past : PastVisits) (o : TypeOrPyobj) :
    (s.run past).1.lookup o = firstRecord o (past.lookup o) [s] := by
  cases s with
  | resetCache => rfl
  | check obj atRecord atCheck =>
    show _ = if obj = o ∧ past.lookup o = none then (atRecord.recordWalk o).toOption
      else past.lookup o
    cases hw : atRecord.recordWalk obj with
    | error e =>
      rw [Step.run_check_of_error (Runtime.visitCheck_of_error hw)]
      by_cases ho : obj = o
      · subst ho
        split <;> simp_all [Except.toOption]
      · simp [ho]
    | ok records =>
      rcases Runtime.visitCheck_cases atCheck past hw with ⟨hc, -⟩ | ⟨s, hl, -, e, hc⟩
      · rw [Step.run_check_of_ok hc]
        by_cases ho : obj = o
        · subst ho
          cases hl : past.lookup obj <;> simp [hl, hw, Except.toOption]
        · simp [apply_ite (AList.lookup o), AList.lookup_insert_ne (Ne.symm ho), ho]
      · rw [Step.run_check_of_error hc]
        by_cases ho : obj = o
        · subst ho
          simp [hl]
        · simp [ho]

theorem runSteps_append (past : PastVisits) (s t : List Step) :
    runSteps past (s ++ t) = runSteps (runSteps past s) t :=
  List.foldl_append _ _ _ _

/-- **The cache refines the first-record register**: after any run of steps, it holds for each
node the record of the node's first visit since the last reset. -/
theorem lookup_runSteps (o : TypeOrPyobj) :
    ∀ (past : PastVisits) (steps : List Step),
      (runSteps past steps).lookup o = firstRecord o (past.lookup o) steps
  | _, [] => rfl
  | past, s :: steps => by
    rw [show runSteps past (s :: steps) = runSteps (s.run past).1 steps from rfl,
      lookup_runSteps o _ steps, lookup_step_run]
    cases s <;> rfl

/-- Without a reset, the first record stays. -/
theorem firstRecord_of_some {o : TypeOrPyobj} {r : List VisitRecord} :
    ∀ {steps : List Step}, Step.resetCache ∉ steps → firstRecord o (some r) steps = some r
  | [], _ => rfl
  | .resetCache :: _, h => absurd (List.mem_cons_self _ _) h
  | .check _ _ _ :: steps, h => by
    rw [firstRecord, if_neg (by simp)]
    exact firstRecord_of_some fun hc => h (List.mem_cons_of_mem _ hc)

/-- A record the register holds was there from the start, or is the completed record walk of the
check of a visit of its node in the run. -/
theorem firstRecord_eq_some {o : TypeOrPyobj} {r : List VisitRecord} :
    ∀ {known : Option (List VisitRecord)} {steps : List Step},
      firstRecord o known steps = some r →
      known = some r ∨ ∃ atRecord atCheck, Step.check o atRecord atCheck ∈ steps ∧
        atRecord.recordWalk o = .ok r
  | _, [], h => .inl h
  | _, .resetCache :: _, h => by
    rw [firstRecord] at h
    rcases firstRecord_eq_some h with h | ⟨a, c, hm, hw⟩
    · cases h
    · exact .inr ⟨a, c, List.mem_cons_of_mem _ hm, hw⟩
  | _, .check obj atRecord atCheck :: _, h => by
    rw [firstRecord] at h
    rcases firstRecord_eq_some h with h | ⟨a, c, hm, hw⟩
    · split_ifs at h with hc
      · obtain ⟨rfl, -⟩ := hc
        refine .inr ⟨atRecord, atCheck, List.mem_cons_self _ _, ?_⟩
        cases hw : atRecord.recordWalk obj <;> simp_all [Except.toOption]
      · exact .inl h
    · exact .inr ⟨a, c, List.mem_cons_of_mem _ hm, hw⟩

/-! ## A run of calls acts as the run of its steps -/

open WalkM

mutual

theorem Call.run_cache : ∀ (c : Call) (past : PastVisits),
    (c.run past).2.1 = runSteps past (c.run past).1
  | .resetCache, _ => rfl
  | .visit obj atRecord atCheck atStream callbacks, past => by
    simp only [Call.run]
    split
    · rfl
    · exact deliver_cache _ callbacks _

theorem deliver_cache : ∀ (es : List Entry) (callbacks : List (List Call)) (past : PastVisits),
    (deliver es callbacks past).2.1 = runSteps past (deliver es callbacks past).1
  | [], callbacks, _ => by cases callbacks <;> rfl
  | _ :: _, [], _ => rfl
  | e :: es, cb :: callbacks, past => by
    simp only [deliver]
    split
    · rw [runSteps_append, ← runCallback_cache cb past]
      exact deliver_cache es callbacks _
    · exact runCallback_cache cb past

theorem runCallback_cache : ∀ (cs : List Call) (past : PastVisits),
    (runCallback cs past).2.1 = runSteps past (runCallback cs past).1
  | [], _ => rfl
  | c :: cs, past => by
    simp only [runCallback]
    split
    · rw [runSteps_append, ← Call.run_cache c past]
      exact runCallback_cache cs _
    · exact Call.run_cache c past

end

/-- **A run of calls acts on the cache as the flat run of the steps it made.** -/
theorem runCalls_cache : ∀ (past : PastVisits) (calls : List Call),
    (runCalls past calls).2 = runSteps past (runCalls past calls).1
  | _, [] => rfl
  | past, c :: calls => by
    simp only [runCalls]
    rw [runSteps_append, ← Call.run_cache c past]
    exact runCalls_cache _ calls

theorem runCalls_append (past : PastVisits) (pre post : List Call) :
    runCalls past (pre ++ post) =
      ((runCalls past pre).1 ++ (runCalls (runCalls past pre).2 post).1,
        (runCalls (runCalls past pre).2 post).2) := by
  induction pre generalizing past with
  | nil => rfl
  | cons c pre ih =>
    show runCalls past (c :: (pre ++ post)) = _
    simp only [runCalls, ih, List.append_assoc]

/-- **The cache refines the first-record register**: after any run of visits and resets, nested
ones included, it holds for each node the record of the node's first visit since the last reset. -/
theorem lookup_runCalls (o : TypeOrPyobj) (past : PastVisits) (calls : List Call) :
    (runCalls past calls).2.lookup o = firstRecord o (past.lookup o) (runCalls past calls).1 := by
  rw [runCalls_cache, lookup_runSteps]

/-- **The cache holds only completed record walks**: after any run from an empty cache, nested
visits included and whatever the graph did in between, each stored record is the record walk of
its node in the graph the check of one of the run's visits of that node saw. -/
theorem lookup_runCalls_empty {calls : List Call} {o : TypeOrPyobj} {r : List VisitRecord}
    (h : (runCalls ∅ calls).2.lookup o = some r) :
    ∃ atRecord atCheck, Step.check o atRecord atCheck ∈ (runCalls ∅ calls).1 ∧
      atRecord.recordWalk o = .ok r := by
  rw [lookup_runCalls, AList.lookup_empty] at h
  exact (firstRecord_eq_some h).resolve_left (by simp)

/-- A visit of a plain object whose visitor visits the type it is handed: both are stored. -/
theorem lookup_runCalls_empty_sample :
    (runCalls ∅ [.visit (.pyobj 1) Runtime.sample Runtime.sample Runtime.sample
        [[.visit (.pyobj 900) Runtime.sample Runtime.sample Runtime.sample []]]]).2.lookup
        (.pyobj 900) = some [(Entry.topo (.pyobj 900)).toRecord] ∧
      ∃ atRecord atCheck, Step.check (.pyobj 900) atRecord atCheck ∈
          (runCalls ∅ [.visit (.pyobj 1) Runtime.sample Runtime.sample Runtime.sample
            [[.visit (.pyobj 900) Runtime.sample Runtime.sample Runtime.sample []]]]).1 ∧
        atRecord.recordWalk (.pyobj 900) = .ok [(Entry.topo (.pyobj 900)).toRecord] :=
  have h : (runCalls ∅ [.visit (.pyobj 1) Runtime.sample Runtime.sample Runtime.sample
      [[.visit (.pyobj 900) Runtime.sample Runtime.sample Runtime.sample []]]]).2.lookup
      (.pyobj 900) = some [(Entry.topo (.pyobj 900)).toRecord] := rfl
  ⟨h, lookup_runCalls_empty h⟩

/-! ## One visit -/

section

variable {atRecord atCheck atStream : Runtime} {callbacks : List (List Call)}
  {obj : TypeOrPyobj} {past past' : PastVisits}

theorem visit_of_error {e : Raised}
    (h : (atRecord.visitCheck atCheck obj).run past = .error e past') :
    visit atRecord atCheck atStream callbacks obj past = (past', raise e) := by
  simp only [visit, Call.run, Step.run_check_of_error h]

theorem visit_of_ok (h : (atRecord.visitCheck atCheck obj).run past = .ok () past') :
    visit atRecord atCheck atStream callbacks obj past =
      ((deliver (atStream.walk obj).calls callbacks past').2.1,
        (deliver (atStream.walk obj).calls callbacks past').2.2 >>= fun _ =>
          ofExcept (atStream.walk obj).result) := by
  simp only [visit, Call.run, Step.run_check_of_ok h]

/-- A visitor that makes no call receives the calls and leaves the cache. -/
theorem deliver_of_nil : ∀ {es : List Entry} {callbacks : List (List Call)},
    (∀ cb ∈ callbacks, cb = []) → deliver es callbacks past = ([], past, ⟨es, .ok ()⟩)
  | [], callbacks, _ => by cases callbacks <;> rfl
  | _ :: _, [], _ => rfl
  | e :: es, cb :: callbacks, h => by
    obtain rfl := h cb (List.mem_cons_self _ _)
    simp only [deliver, runCallback, deliver_of_nil fun cb hcb => h cb (List.mem_cons_of_mem _ hcb),
      List.nil_append, emit_bind]

/-- The calls a visitor received when no callback raised are the calls of the walk. -/
theorem deliver_calls : ∀ {es : List Entry} {callbacks : List (List Call)} {past : PastVisits},
    (deliver es callbacks past).2.2.result = .ok () → (deliver es callbacks past).2.2.calls = es
  | [], callbacks, _, _ => by cases callbacks <;> rfl
  | _ :: _, [], _, _ => rfl
  | e :: es, cb :: callbacks, past, h => by
    simp only [deliver] at h ⊢
    cases hr : (runCallback cb past).2.2 with
    | ok u =>
      simp only [hr, emit_bind] at h ⊢
      exact congrArg (e :: ·) (deliver_calls h)
    | error err => simp [hr, emit_bind, raise] at h

theorem ofExcept_bind_result {w : WalkM Unit} {r : Except Raised Unit}
    (h : (w >>= fun _ => ofExcept r).result = .ok ()) : w.result = .ok () ∧ r = .ok () := by
  cases hw : w.result with
  | error e => rw [bind_of_error hw] at h; cases h
  | ok u =>
    rw [bind_of_ok hw] at h
    cases r with
    | ok u' => exact ⟨rfl, rfl⟩
    | error e => cases h

theorem bind_ofExcept_of_ok {w : WalkM Unit} (h : w.result = .ok ()) (r : Except Raised Unit) :
    (w >>= fun _ => ofExcept r) = ⟨w.calls, r⟩ := by
  rw [bind_of_ok h]
  cases r <;> simp [WalkM.ofExcept]

end

/-! ## What a visit guarantees -/

/-- **On a changed record, `visit` raises what the check raises, or its own error.** When the
record walk finds a cached node changed, `visit` raises, leaving the cache as it was and the
visitor without a call: the exception `checkForInstability` raises in the graph its own walks
see, and, when that check finds nothing unstable, as when the graph changed back between the
record walk and the check, the error of `visit` itself. -/
theorem visit_raises_check_or_own (atRecord atCheck atStream : Runtime)
    (callbacks : List (List Call)) (obj : TypeOrPyobj) (past : PastVisits)
    {records stored : List VisitRecord} (hrec : atRecord.recordWalk obj = .ok records)
    (hl : past.lookup obj = some stored) (hr : recordsEqual stored records = false) :
    (∀ e, atCheck.checkForInstability.run past = .error e past →
        visit atRecord atCheck atStream callbacks obj past = (past, WalkM.raise e)) ∧
      (atCheck.checkForInstability.run past = .ok () past →
        visit atRecord atCheck atStream callbacks obj past = (past, WalkM.raise (.runtimeError
          (cstr "Found unstable object, but somehow our instability check" ++
            cstr " didn't throw an exception?" ++ atCheck.name obj)))) ∧
      (atCheck.checkForInstability.run past = .ok () past ∨
        ∃ e, atCheck.checkForInstability.run past = .error e past) :=
  have hchanged := Runtime.visitCheck_of_changed atCheck hrec hl hr
  ⟨fun e hc => visit_of_error (hchanged.1 e past hc),
    fun hc => visit_of_error (hchanged.2 past hc), atCheck.checkForInstability_state past⟩

/-- A graph whose object `1` is a cell holding `contents`. -/
def Runtime.cellSample (contents : ObjId) : Runtime :=
  { Runtime.sample with layout := fun o => if o = 1 then .cell (some contents) else .other }

/-- The cell `1` was stored holding `5`, holds `6` at the record walk, and `5` again at the check:
the check finds nothing unstable, and `visit` raises its own error. -/
theorem visit_raises_check_or_own_flip :
    (Runtime.cellSample 6).recordWalk (.pyobj 1) =
        .ok (((Runtime.cellSample 6).walk (.pyobj 1)).calls.map Entry.toRecord) ∧
      (AList.singleton (TypeOrPyobj.pyobj 1)
        (((Runtime.cellSample 5).walk (.pyobj 1)).calls.map Entry.toRecord) : PastVisits).lookup
        (.pyobj 1) = some (((Runtime.cellSample 5).walk (.pyobj 1)).calls.map Entry.toRecord) ∧
      recordsEqual (((Runtime.cellSample 5).walk (.pyobj 1)).calls.map Entry.toRecord)
        (((Runtime.cellSample 6).walk (.pyobj 1)).calls.map Entry.toRecord) = false ∧
      visit (Runtime.cellSample 6) (Runtime.cellSample 5) (Runtime.cellSample 5) [] (.pyobj 1)
        (AList.singleton (TypeOrPyobj.pyobj 1)
          (((Runtime.cellSample 5).walk (.pyobj 1)).calls.map Entry.toRecord)) =
        (AList.singleton (TypeOrPyobj.pyobj 1)
          (((Runtime.cellSample 5).walk (.pyobj 1)).calls.map Entry.toRecord),
          WalkM.raise (.runtimeError
            (cstr "Found unstable object, but somehow our instability check" ++
              cstr " didn't throw an exception?" ++ (Runtime.cellSample 5).name (.pyobj 1)))) :=
  ⟨rfl, rfl, rfl, (visit_raises_check_or_own (Runtime.cellSample 6) (Runtime.cellSample 5)
    (Runtime.cellSample 5) [] (.pyobj 1) (AList.singleton (TypeOrPyobj.pyobj 1)
      (((Runtime.cellSample 5).walk (.pyobj 1)).calls.map Entry.toRecord)) rfl rfl rfl).2.1 rfl⟩

/-- **A visit streams what it did not check.** The cell `1` holds `5` at the record walk of a first
visit and `6` at its streaming walk: the visit returns, and the calls it delivered differ from the
record it stored. -/
theorem visit_streams_unchecked_walk :
    (visit (Runtime.cellSample 5) (Runtime.cellSample 5) (Runtime.cellSample 6) [] (.pyobj 1)
        ∅).2.result = .ok () ∧
      (visit (Runtime.cellSample 5) (Runtime.cellSample 5) (Runtime.cellSample 6) [] (.pyobj 1)
        ∅).1.lookup (.pyobj 1) =
        some (((Runtime.cellSample 5).walk (.pyobj 1)).calls.map Entry.toRecord) ∧
      recordsEqual (((Runtime.cellSample 5).walk (.pyobj 1)).calls.map Entry.toRecord)
        ((visit (Runtime.cellSample 5) (Runtime.cellSample 5) (Runtime.cellSample 6) [] (.pyobj 1)
          ∅).2.calls.map Entry.toRecord) = false :=
  ⟨rfl, rfl, rfl⟩

/-- **What a visit delivers.** After any run, a visit that returns has streamed the walk of its
node in the graph at the streaming walk, whatever its callbacks did; the cache then holds the
node's first record since the last reset, over every step of the run and of the visit; and when
the node walks alike at the two walks of the visit, the calls delivered equal the record the
cache held for it at the visit's check. -/
theorem visit_delivers_first_record (past : PastVisits) (pre : List Call) (obj : TypeOrPyobj)
    (atRecord atCheck atStream : Runtime) (callbacks : List (List Call))
    (hret : (visit atRecord atCheck atStream callbacks obj (runCalls past pre).2).2.result =
      .ok ()) :
    (visit atRecord atCheck atStream callbacks obj (runCalls past pre).2).2 = atStream.walk obj ∧
      (visit atRecord atCheck atStream callbacks obj (runCalls past pre).2).1.lookup obj =
        firstRecord obj (past.lookup obj)
          (runCalls past (pre ++ [.visit obj atRecord atCheck atStream callbacks])).1 ∧
      (atStream.walk obj = atRecord.walk obj →
        ∃ stored, firstRecord obj (past.lookup obj)
            ((runCalls past pre).1 ++ [.check obj atRecord atCheck]) = some stored ∧
          recordsEqual stored
            ((visit atRecord atCheck atStream callbacks obj (runCalls past pre).2).2.calls.map
              Entry.toRecord) = true) := by
  have hafter : (visit atRecord atCheck atStream callbacks obj (runCalls past pre).2).1 =
      (runCalls past (pre ++ [.visit obj atRecord atCheck atStream callbacks])).2 := by
    rw [runCalls_append]
    rfl
  have hcheck : firstRecord obj (past.lookup obj)
      ((runCalls past pre).1 ++ [.check obj atRecord atCheck]) =
      ((Step.check obj atRecord atCheck).run (runCalls past pre).2).1.lookup obj := by
    rw [← lookup_runSteps, runSteps_append, ← runCalls_cache]
    rfl
  rw [hcheck, hafter, lookup_runCalls]
  cases hw : atRecord.recordWalk obj with
  | error e =>
    rw [visit_of_error (Runtime.visitCheck_of_error hw)] at hret
    cases hret
  | ok records =>
    have hrecords := (Runtime.recordWalk_eq_ok_iff.mp hw).2
    rcases Runtime.visitCheck_cases atCheck (runCalls past pre).2 hw with
      ⟨hc, -, s, hl, hs⟩ | ⟨-, -, -, e, hc⟩
    · rw [visit_of_ok hc] at hret ⊢
      have hd := (ofExcept_bind_result hret).1
      rw [bind_ofExcept_of_ok hd, deliver_calls hd, Step.run_check_of_ok hc]
      refine ⟨rfl, rfl, fun hsame => ⟨s, hl, ?_⟩⟩
      rw [hsame, ← hrecords]
      exact hs
    · rw [visit_of_error hc] at hret
      cases hret

/-- The cell `1` is visited holding `5`, the cache is reset, and the cell is visited again holding
`6`: the second visit returns, and delivers the record its own check stored. -/
theorem visit_delivers_first_record_sample :
    (visit (Runtime.cellSample 6) (Runtime.cellSample 6) (Runtime.cellSample 6) [] (.pyobj 1)
        (runCalls ∅ [.visit (.pyobj 1) (Runtime.cellSample 5) (Runtime.cellSample 5)
          (Runtime.cellSample 5) [], .resetCache]).2).2.result = .ok () ∧
      (visit (Runtime.cellSample 6) (Runtime.cellSample 6) (Runtime.cellSample 6) [] (.pyobj 1)
        (runCalls ∅ [.visit (.pyobj 1) (Runtime.cellSample 5) (Runtime.cellSample 5)
          (Runtime.cellSample 5) [], .resetCache]).2).2 = (Runtime.cellSample 6).walk (.pyobj 1) ∧
      (visit (Runtime.cellSample 6) (Runtime.cellSample 6) (Runtime.cellSample 6) [] (.pyobj 1)
        (runCalls ∅ [.visit (.pyobj 1) (Runtime.cellSample 5) (Runtime.cellSample 5)
          (Runtime.cellSample 5) [], .resetCache]).2).1.lookup (.pyobj 1) =
        firstRecord (.pyobj 1) none
          (runCalls ∅ [.visit (.pyobj 1) (Runtime.cellSample 5) (Runtime.cellSample 5)
            (Runtime.cellSample 5) [], .resetCache, .visit (.pyobj 1) (Runtime.cellSample 6)
            (Runtime.cellSample 6) (Runtime.cellSample 6) []]).1 ∧
      ((Runtime.cellSample 6).walk (.pyobj 1) = (Runtime.cellSample 6).walk (.pyobj 1) →
        ∃ stored, firstRecord (.pyobj 1) none
            ((runCalls ∅ [.visit (.pyobj 1) (Runtime.cellSample 5) (Runtime.cellSample 5)
              (Runtime.cellSample 5) [], .resetCache]).1 ++
              [.check (.pyobj 1) (Runtime.cellSample 6) (Runtime.cellSample 6)]) = some stored ∧
          recordsEqual stored
            ((visit (Runtime.cellSample 6) (Runtime.cellSample 6) (Runtime.cellSample 6) []
              (.pyobj 1) (runCalls ∅ [.visit (.pyobj 1) (Runtime.cellSample 5)
                (Runtime.cellSample 5) (Runtime.cellSample 5) [], .resetCache]).2).2.calls.map
              Entry.toRecord) = true) :=
  have hret : (visit (Runtime.cellSample 6) (Runtime.cellSample 6) (Runtime.cellSample 6) []
      (.pyobj 1) (runCalls ∅ [.visit (.pyobj 1) (Runtime.cellSample 5) (Runtime.cellSample 5)
        (Runtime.cellSample 5) [], .resetCache]).2).2.result = .ok () := rfl
  ⟨hret, visit_delivers_first_record ∅ _ (.pyobj 1) _ _ _ [] hret⟩

end TypedPython
