import TypedPython.DictOrder
import TypedPython.Dispatch

/-!
# What a walk shows

`walk` is the serialisation of a graph node the compiler's hash is built from. A `View` is what
one rule of `walk` shows of a node, read off the graph without running the walk: the rule, and
the data its branch reads. Some distinctions of the graph are lost on the way, and a view loses
them too:

* `NULL`, an empty tuple and a dict that keeps no name all show as an empty tuple;
* a closure shows its length and the cells in it, not where a non-cell stood;
* a dict shows its kept names as `std::string`s, so keys that convert alike show alike;
* a globally identifiable object shows `moduleName + "|" + clsName`, not the pair.

`View.encode` is the serialisation of a view.

* `walk_eq_of_nodeView`: a walk emits the serialisation of its node's view (`nodeView`), and
  completes;
* `nodeView_of_walk`: a walk that completes has a node whose view is defined.
-/

namespace TypedPython

open WalkM

/-! ## Views -/

/-- What `visitDictOrTuple` shows: the items of a tuple (`NULL`, and a dict that keeps no name,
show as the empty tuple), a dict's kept names with their values, at least one, or the error for
anything else. -/
inductive Slot
  | items (items : List ObjId)
  | names (first : CString × ObjId) (rest : List (CString × ObjId))
  | notDictOrTuple

/-- What `visitDict` shows of a class's `tp_dict`: nothing for `NULL`, the kept names of a dict
with their values, or the `tp_name` of the type of anything else. -/
inductive ClassDict
  | absent
  | names (names : List (CString × ObjId))
  | notADict (tpName : CString)

/-- What one rule of `walk` shows of a node. -/
inductive View
  /-- The calls a type node makes on the visitor. -/
  | typeNode (internals : List Entry)
  | environ
  | simpleConstant
  | typedInstance (t : TypeId)
  | canonicalModule (moduleName : CString)
  /-- The joined name `moduleName + "|" + clsName`. -/
  | named (name : CString)
  | typedPythonType (t : TypeId)
  | code (co : CodeObject)
  /-- The length of the closure and the cells in it, the name, the code, the annotations, the
  defaults, the keyword defaults, and the globals the code reads, special names left out. -/
  | function (closureSize : ℕ) (cells : List ObjId) (name code : ObjId) (annotations : Slot)
      (defaults : List ObjId) (kwdefaults : Slot) (globals : List (CString × ObjId))
  | cls (dict : ClassDict) (bases : List ObjId)
  | methodWrapper (isStatic : Bool) (func : Option ObjId)
  | tuple (items : List ObjId)
  | mutableContainer (type : ObjId)
  | cell (contents : Option ObjId)
  | methodDescriptor (type name : ObjId)
  | fallback (type : ObjId)

/-! ## Their serialisation -/

/-- `visitTopo` of each object. -/
def topos (l : List ObjId) : List Entry := l.map fun o => .topo (.pyobj o)

/-- `visitNamedTopo` of each name with its object. -/
def namedTopos (l : List (CString × ObjId)) : List Entry :=
  l.map fun q => .namedTopo q.1 (.pyobj q.2)

/-- The calls of `visitTuple` on a tuple: its length, then its items. -/
def tupleCalls (l : List ObjId) : List Entry := .hash (.seed l.length) :: topos l

/-- The calls of `visitDictOrTuple`. -/
def Slot.encode : Slot → List Entry
  | .items l => tupleCalls l
  | .names p ps => .hash (.seed (ps.length + 1)) :: namedTopos (p :: ps)
  | .notDictOrTuple => [.err (cstr "not a dict or tuple")]

/-- The calls of the class branch between its first two zero markers. -/
def ClassDict.encode : ClassDict → List Entry
  | .absent => []
  | .names l => .hash (.seed l.length) :: namedTopos l
  | .notADict tpName => [.err (cstr "not a dict: " ++ tpName)]

/-- The calls of the walk of a node with this view. -/
def View.encode : View → List Entry
  | .typeNode internals => .hash (.seed 1) :: internals
  | .environ => [.hash (.seed 13)]
  | .simpleConstant => []
  | .typedInstance t => [.hash (.seed 2), .topo (.type t)]
  | .canonicalModule moduleName => [.hash (.seed 12), .name moduleName]
  | .named name => [.hash (.seed 2), .name name]
  | .typedPythonType t => [.hash (.seed 3), .topo (.type t)]
  | .code co =>
    [.hash (.seed 4), .hash (.seed co.coArgcount), .hash (.seed co.coKwonlyargcount),
      .hash (.seed co.coNlocals), .hash (.seed co.coStacksize), .hash (.seed co.coFirstlineno),
      .hash (.sha1 co.coCode)] ++ tupleCalls co.coConsts ++ tupleCalls co.coNames ++
      tupleCalls co.coVarnames ++ tupleCalls co.coFreevars ++ tupleCalls co.coCellvars ++
      [.topo (.pyobj co.coName), .topo (.pyobj co.coLinetable)]
  | .function closureSize cells funcName funcCode annotations defaults kwdefaults globals =>
    .hash (.seed 5) :: .hash (.seed closureSize) :: topos cells ++
      .topo (.pyobj funcName) :: .topo (.pyobj funcCode) :: annotations.encode ++
      tupleCalls defaults ++
      kwdefaults.encode ++ .hash (.seed 1) :: namedTopos globals ++ [.hash (.seed 0)]
  | .cls dict bases =>
    .hash (.seed 6) :: .hash (.seed 0) :: dict.encode ++ .hash (.seed 0) :: topos bases ++
      [.hash (.seed 0)]
  | .methodWrapper isStatic none =>
    [.hash (.seed (if isStatic then 7 else 8)), .err (cstr "not a func obj")]
  | .methodWrapper isStatic (some f) =>
    [.hash (.seed (if isStatic then 7 else 8)), .topo (.pyobj f)]
  | .tuple items => .hash (.seed 9) :: tupleCalls items
  | .mutableContainer type => [.hash (.seed 10), .topo (.pyobj type)]
  | .cell none => [.hash (.seed 11), .hash (.seed 0)]
  | .cell (some v) => [.hash (.seed 11), .hash (.seed 1), .topo (.pyobj v)]
  | .methodDescriptor type name => [.topo (.pyobj type), .topo (.pyobj name)]
  | .fallback type => [.topo (.pyobj type)]

/-! ## The view of a node -/

/-- What `visitDict` shows of a dict: each kept name, in the map's order, with the value of its
key. -/
def dictNames (d : PyDict) (ign : Bool) : Except Raised (List (CString × ObjId)) :=
  (collectNames ign [] (d.entries.map Prod.fst)).map fun names =>
    names.filterMap fun p => (d.entries.lookup p.2).map fun v => (p.1, v)

namespace Runtime

variable (rt : Runtime)

/-- What `visitDictOrTuple` shows of its argument. -/
def slotView : Option ObjId → Except Raised Slot
  | none => pure (.items [])
  | some t =>
    match rt.layout t with
    | .dict d => do
      match ← dictNames d false with
      | [] => pure (.items [])
      | p :: ps => pure (.names p ps)
    | .tuple items => pure (.items items)
    | _ => pure .notDictOrTuple

/-- What the class branch shows of a `tp_dict`. -/
def classDictView : Option ObjId → Except Raised ClassDict
  | none => pure .absent
  | some d =>
    match rt.layout d with
    | .dict dict => .names <$> dictNames dict true
    | _ => pure (.notADict (rt.tpName (rt.obType d)))

/-- The cells of a closure. -/
def closureCells (closure : Option (List ObjId)) : List ObjId :=
  (closure.getD []).filter rt.pyCellCheck

/-- The globals a function's code reads, special names left out; none unless `func_globals` is a
dict. -/
def visibleGlobals (f : FunctionObject) : List (CString × ObjId) :=
  match f.funcGlobals with
  | some g =>
    if rt.pyDictCheck g then
      (rt.compilerVisibleGlobals f.funcCode g).filter fun p => !isSpecialIgnorableName p.1
    else []
  | none => []

/-- What the branch of a rule shows; it fails as the branch does, on a dict key that does not
convert. -/
def view : Rule → Except Raised View
  | .typeNode t => pure (.typeNode (rt.compilerVisibleInternals t))
  | .environ => pure .environ
  | .simpleConstant => pure .simpleConstant
  | .typedInstance t => pure (.typedInstance t)
  | .canonicalModule moduleName => pure (.canonicalModule moduleName)
  | .named moduleName clsName => pure (.named (moduleName ++ cstr "|" ++ clsName))
  | .typedPythonType t => pure (.typedPythonType t)
  | .code co => pure (.code co)
  | .function f => do
    let annotations ← rt.slotView f.funcAnnotations
    let kwdefaults ← rt.slotView f.funcKwdefaults
    pure (.function (f.funcClosure.getD []).length (rt.closureCells f.funcClosure) f.funcName
      f.funcCode annotations (f.funcDefaults.getD []) kwdefaults (rt.visibleGlobals f))
  | .cls tp => do
    let dict ← rt.classDictView tp.tpDict
    pure (.cls dict (tp.tpBases.getD []))
  | .methodWrapper isStatic func => pure (.methodWrapper isStatic func)
  | .tuple items => pure (.tuple items)
  | .mutableContainer type => pure (.mutableContainer type)
  | .cell contents => pure (.cell contents)
  | .methodDescriptor type name => pure (.methodDescriptor type name)
  | .fallback type => pure (.fallback type)

/-- What the walk of a node shows: the view of the rule `walk` applies to it. -/
def nodeView (x : TypeOrPyobj) : Except Raised View := rt.classify x >>= rt.view

end Runtime

/-! ## The helpers of `walk` emit the serialisation of what they show -/

theorem visitTuple_eq (t : Option (List ObjId)) :
    visitTuple t = ⟨tupleCalls (t.getD []), .ok ()⟩ := by
  cases t with
  | none => rfl
  | some items =>
    show emit _ >>= (fun _ => items.forM fun o => emit (.topo (.pyobj o))) = _
    rw [emit_bind, forM_emit]
    rfl

theorem mem_assignName {name : CString} {key : PyKey} {p : CString × PyKey} :
    ∀ {names : List (CString × PyKey)}, p ∈ assignName name key names →
      p = (name, key) ∨ p ∈ names
  | [], h => .inl (List.mem_singleton.mp h)
  | (n, k) :: rest, h => by
    rw [assignName] at h
    split_ifs at h
    · exact List.mem_cons.mp h
    · exact (List.mem_cons.mp h).imp_right (List.mem_cons_of_mem _)
    · rcases List.mem_cons.mp h with rfl | h
      · exact .inr (List.mem_cons_self _ _)
      · exact (mem_assignName h).imp_right (List.mem_cons_of_mem _)

/-- Every name the loop of `visitDict` keeps comes with one of the keys it iterated. -/
theorem snd_mem_of_collectNames {ign : Bool} :
    ∀ {acc out : List (CString × PyKey)} {keys : List PyKey},
      collectNames ign acc keys = .ok out → ∀ p ∈ out, p ∈ acc ∨ p.2 ∈ keys
  | _, _, [], h, p, hp => .inl (Except.ok.inj h ▸ hp)
  | _, _, .other _ :: _, h, p, hp => by
    rw [collectNames] at h
    exact (snd_mem_of_collectNames h p hp).imp_right (List.mem_cons_of_mem _)
  | acc, _, .str _ _ :: _, h, p, hp => by
    rw [collectNames] at h
    obtain ⟨name, -, h⟩ := except_bind_eq_ok.mp h
    rcases snd_mem_of_collectNames h p hp with h | h
    · split_ifs at h
      · exact .inl h
      · rcases mem_assignName h with rfl | h
        · exact .inr (List.mem_cons_self _ _)
        · exact .inl h
    · exact .inr (List.mem_cons_of_mem _ h)

theorem visitDictEntries_of_dictNames {d : PyDict} {ign : Bool} {l : List (CString × ObjId)}
    (h : dictNames d ign = .ok l) :
    visitDictEntries d ign = ⟨.hash (.seed l.length) :: namedTopos l, .ok ()⟩ := by
  cases hn : collectNames ign [] (d.entries.map Prod.fst) with
  | error e => simp [dictNames, hn, Except.map] at h
  | ok names =>
    obtain rfl : names.filterMap (fun p => (d.entries.lookup p.2).map fun v => (p.1, v)) = l := by
      simpa [dictNames, hn, Except.map] using h
    have hcalls := map_entryCall fun p hp =>
      (snd_mem_of_collectNames hn p hp).resolve_left (List.not_mem_nil _)
    have hlen := congrArg List.length hcalls
    rw [List.length_map, List.length_map] at hlen
    rw [visitDictEntries_of_ok hn, hcalls, hlen]
    rfl

theorem visitDictEntries_of_dictNames_error {d : PyDict} {ign : Bool} {e : Raised}
    (h : dictNames d ign = .error e) : visitDictEntries d ign = raise e := by
  cases hn : collectNames ign [] (d.entries.map Prod.fst) with
  | error e' =>
    obtain rfl : e' = e := by simpa [dictNames, hn, Except.map] using h
    exact visitDictEntries_of_error hn
  | ok names => simp [dictNames, hn, Except.map] at h

namespace Runtime

variable {rt : Runtime}

theorem visitDictOrTuple_of_slotView {t : Option ObjId} {s : Slot} (h : rt.slotView t = .ok s) :
    rt.visitDictOrTuple t = ⟨s.encode, .ok ()⟩ := by
  cases t with
  | none => cases h; rfl
  | some t =>
    cases hl : rt.layout t with
    | dict d =>
      simp only [slotView, hl] at h
      obtain ⟨l, hd, h⟩ := except_bind_eq_ok.mp h
      simp only [visitDictOrTuple, visitDict, hl, visitDictEntries_of_dictNames hd]
      cases l <;> cases h <;> rfl
    | tuple items =>
      simp only [slotView, hl] at h
      cases h
      simp only [visitDictOrTuple, hl, visitTuple_eq]
      rfl
    | _ => simp only [slotView, hl] at h; cases h; simp only [visitDictOrTuple, hl]; rfl

theorem visitDictOrTuple_of_slotView_error {t : Option ObjId} {e : Raised}
    (h : rt.slotView t = .error e) : rt.visitDictOrTuple t = raise e := by
  cases t with
  | none => cases h
  | some t =>
    cases hl : rt.layout t with
    | dict d =>
      simp only [slotView, hl] at h
      cases hd : dictNames d false with
      | error e' =>
        rw [hd] at h
        cases h
        simp only [visitDictOrTuple, visitDict, hl, visitDictEntries_of_dictNames_error hd]
      | ok l =>
        rw [hd] at h
        cases l <;> cases h
    | _ => simp only [slotView, hl] at h; cases h

theorem visitDict_of_classDictView {d : ObjId} {c : ClassDict}
    (h : rt.classDictView (some d) = .ok c) :
    rt.visitDict (some d) true = ⟨c.encode, .ok ()⟩ := by
  cases hl : rt.layout d with
  | dict dict =>
    simp only [classDictView, hl] at h
    obtain ⟨l, hd, h⟩ := except_bind_eq_ok.mp h
    cases h
    simp only [visitDict, hl, visitDictEntries_of_dictNames hd]
    rfl
  | _ => simp only [classDictView, hl] at h; cases h; simp only [visitDict, hl]; rfl

theorem visitDict_of_classDictView_error {d : ObjId} {e : Raised}
    (h : rt.classDictView (some d) = .error e) : rt.visitDict (some d) true = raise e := by
  cases hl : rt.layout d with
  | dict dict =>
    simp only [classDictView, hl] at h
    cases hd : dictNames dict true with
    | error e' =>
      rw [hd] at h
      cases h
      simp only [visitDict, hl, visitDictEntries_of_dictNames_error hd]
    | ok l => rw [hd] at h; cases h
  | _ => simp only [classDictView, hl] at h; cases h

end Runtime

@[simp] theorem WalkM.pure_bind {α β : Type} (a : α) (f : α → WalkM β) :
    (pure a : WalkM α) >>= f = f a := by
  show (⟨[] ++ (f a).calls, (f a).result⟩ : WalkM β) = f a
  rw [List.nil_append]

/-- A loop that emits for some elements and does nothing for the others. -/
theorem forM_emit_filter {γ : Type} (l : List γ) (p : γ → Bool) (g : γ → Entry) :
    l.forM (fun a => if p a then emit (g a) else pure ()) = ⟨(l.filter p).map g, .ok ()⟩ := by
  induction l with
  | nil => rfl
  | cons a l ih =>
    show ((if p a then emit (g a) else pure ()) >>= fun _ => l.forM _) = _
    cases hp : p a <;> simp [hp, ih, List.filter_cons]

@[simp] theorem WalkM.mk_ok_bind {α β : Type} (c : List Entry) (a : α) (f : α → WalkM β) :
    (⟨c, .ok a⟩ : WalkM α) >>= f = ⟨c ++ (f a).calls, (f a).result⟩ := rfl

@[simp] theorem WalkM.raise_bind {α β : Type} (e : Raised) (f : α → WalkM β) :
    (raise e : WalkM α) >>= f = raise e := rfl

namespace Runtime

variable {rt : Runtime}

theorem visitGlobals_eq (code g : ObjId) :
    rt.visitGlobals code g = ⟨namedTopos ((rt.compilerVisibleGlobals code g).filter
      fun p => !isSpecialIgnorableName p.1), .ok ()⟩ := by
  have h := forM_emit_filter (rt.compilerVisibleGlobals code g)
    (fun p => !isSpecialIgnorableName p.1) fun q => .namedTopo q.1 (.pyobj q.2)
  rw [visitGlobals, ← namedTopos] at *
  rw [← h]
  congr
  funext p
  obtain ⟨n, v⟩ := p
  show (if isSpecialIgnorableName n then _ else _) = if (!isSpecialIgnorableName n) then _ else _
  cases isSpecialIgnorableName n <;> rfl

/-- The closure block of the function branch: the closure's length, then the cells in it. -/
theorem visitClosure_eq (closure : Option (List ObjId)) :
    rt.visitClosure closure =
      ⟨.hash (.seed (closure.getD []).length) :: topos (rt.closureCells closure), .ok ()⟩ := by
  cases closure with
  | none => rfl
  | some cells => rw [visitClosure, emit_bind, forM_emit_filter]; rfl

/-- The globals block of the function branch: the globals its code reads. -/
theorem visitFuncGlobals_eq (f : FunctionObject) :
    rt.visitFuncGlobals f = ⟨namedTopos (rt.visibleGlobals f), .ok ()⟩ := by
  unfold visitFuncGlobals visibleGlobals
  cases f.funcGlobals with
  | none => rfl
  | some g =>
    by_cases hd : rt.pyDictCheck g
    · simp only [hd, if_true]
      exact visitGlobals_eq _ _
    · simp only [hd]
      rfl

/-- The function branch of `walk` emits the serialisation of its view. -/
theorem visitFunction_of_slotViews {f : FunctionObject} {ann kw : Slot}
    (hann : rt.slotView f.funcAnnotations = .ok ann)
    (hkw : rt.slotView f.funcKwdefaults = .ok kw) :
    rt.visitFunction f = ⟨(View.function (f.funcClosure.getD []).length
      (rt.closureCells f.funcClosure) f.funcName f.funcCode ann (f.funcDefaults.getD []) kw
      (rt.visibleGlobals f)).encode, .ok ()⟩ := by
  simp only [visitFunction, emit_bind, visitClosure_eq, visitFuncGlobals_eq,
    visitDictOrTuple_of_slotView hann, visitDictOrTuple_of_slotView hkw, visitTuple_eq,
    WalkM.mk_ok_bind]
  simp [View.encode, emit]

/-- The class branch of `walk` emits the serialisation of its view. -/
theorem visitClass_of_classDictView {tp : TypeObject} {c : ClassDict}
    (hc : rt.classDictView tp.tpDict = .ok c) :
    rt.visitClass tp = ⟨(View.cls c (tp.tpBases.getD [])).encode, .ok ()⟩ := by
  have hdict : rt.visitTpDict tp.tpDict = ⟨c.encode, .ok ()⟩ := by
    cases hd : tp.tpDict with
    | none => rw [hd] at hc; cases hc; rfl
    | some d => rw [hd] at hc; exact visitDict_of_classDictView hc
  have hbases : visitBases tp.tpBases = ⟨topos (tp.tpBases.getD []), .ok ()⟩ := by
    cases tp.tpBases with
    | none => rfl
    | some bases => exact forM_emit _ _
  simp only [visitClass, emit_bind, hdict, hbases, WalkM.mk_ok_bind]
  simp [View.encode, emit]

/-- **A branch of `walk` emits the serialisation of its view.** -/
theorem emitRule_of_view {r : Rule} {v : View} (h : rt.view r = .ok v) :
    rt.emitRule r = ⟨v.encode, .ok ()⟩ := by
  cases r with
  | typeNode t =>
    cases h
    show emit _ >>= (fun _ => (rt.compilerVisibleInternals t).forM fun a => emit (id a)) = _
    rw [emit_bind, forM_emit, List.map_id]
    rfl
  | code co =>
    cases h
    simp [emitRule, visitCode, visitTuple_eq, View.encode, tupleCalls, emit]
  | function f =>
    obtain ⟨ann, hann, h⟩ := except_bind_eq_ok.mp h
    obtain ⟨kw, hkw, h⟩ := except_bind_eq_ok.mp h
    cases h
    exact visitFunction_of_slotViews hann hkw
  | cls tp =>
    obtain ⟨c, hc, h⟩ := except_bind_eq_ok.mp h
    cases h
    exact visitClass_of_classDictView hc
  | methodWrapper isStatic func => cases h; cases func <;> rfl
  | tuple items =>
    cases h
    show emit _ >>= (fun _ => emit _ >>= fun _ => items.forM fun o => emit (.topo (.pyobj o))) = _
    rw [emit_bind, emit_bind, forM_emit]
    rfl
  | cell contents => cases h; cases contents <;> rfl
  | _ => cases h; rfl

theorem except_bind_eq_error {α β : Type} {x : Except Raised α} {f : α → Except Raised β}
    {e : Raised} : x >>= f = .error e ↔ x = .error e ∨ ∃ a, x = .ok a ∧ f a = .error e := by
  cases x <;> simp

/-- A branch of `walk` raises when its view fails, with the same exception. -/
theorem emitRule_of_view_error {r : Rule} {e : Raised} (h : rt.view r = .error e) :
    (rt.emitRule r).result = .error e := by
  cases r with
  | function f =>
    rcases except_bind_eq_error.mp h with hann | ⟨ann, hann, h⟩
    · simp only [emitRule, visitFunction, emit_bind, visitClosure_eq,
        visitDictOrTuple_of_slotView_error hann, WalkM.mk_ok_bind, WalkM.raise_bind]
      rfl
    · rcases except_bind_eq_error.mp h with hkw | ⟨kw, -, h⟩
      · simp only [emitRule, visitFunction, emit_bind, visitClosure_eq,
          visitDictOrTuple_of_slotView hann, visitDictOrTuple_of_slotView_error hkw,
          visitTuple_eq, WalkM.mk_ok_bind, WalkM.raise_bind]
        rfl
      · cases h
  | cls tp =>
    obtain ⟨dict, bases⟩ := tp
    rcases except_bind_eq_error.mp h with hc | ⟨c, -, h⟩
    · cases dict with
      | none => cases hc
      | some d =>
        simp only [emitRule, visitClass, emit_bind, visitTpDict,
          visitDict_of_classDictView_error hc, WalkM.raise_bind]
        rfl
    · cases h
  | _ => cases h

/-- A branch of `walk` that completes has a view. -/
theorem view_of_emitRule {r : Rule} (h : (rt.emitRule r).result = .ok ()) :
    ∃ v, rt.view r = .ok v := by
  cases hv : rt.view r with
  | ok v => exact ⟨v, rfl⟩
  | error e => rw [emitRule_of_view_error hv] at h; cases h

/-- **A walk emits the serialisation of its node's view**, and completes. -/
theorem walk_eq_of_nodeView {x : TypeOrPyobj} {v : View} (h : rt.nodeView x = .ok v) :
    rt.walk x = ⟨v.encode, .ok ()⟩ := by
  obtain ⟨r, hr, hv⟩ := except_bind_eq_ok.mp h
  rw [walk_of_classify hr, emitRule_of_view hv]

/-- A walk that completes has a node whose view is defined. -/
theorem nodeView_of_walk {x : TypeOrPyobj} (h : (rt.walk x).result = .ok ()) :
    ∃ v, rt.nodeView x = .ok v := by
  cases hc : rt.classify x with
  | error e => rw [walk, hc] at h; cases h
  | ok r =>
    rw [walk_of_classify hc] at h
    obtain ⟨v, hv⟩ := view_of_emitRule h
    exact ⟨v, by rw [nodeView, hc, except_ok_bind, hv]⟩

end Runtime

end TypedPython
