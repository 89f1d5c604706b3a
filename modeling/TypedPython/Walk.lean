import Mathlib.Data.List.Sort
import TypedPython.Runtime

/-!
# The walker

`CompilerVisibleObjectVisitor::walk` decomposes one graph node into calls on a visitor. Its body is
a chain of tests, first match wins; `classify` is that chain, returning the `Rule` it selects
with what the rule's test read, and `emitRule` is the branch each rule runs. `walk` runs both.
`recordWalk` keeps the calls of a walk as `VisitRecord`s.

The visitor's view of a walk is a `WalkM`: the calls made, in order, and whether the walk ended
normally or by a C++ exception. The only exception raised inside a walk is `Raised.nullString`,
a `std::string` built from the `NULL` of a failed `PyUnicode_AsUTF8`.

The shared helpers are the three lambdas of `walk`: `visitTuple`, `visitDict`, which walks a
dictionary's `str` keys in the byte order of a `std::map<std::string, PyObject*>`
(`collectNames`, `assignName`), and `visitDictOrTuple`. The function and class branches are split
into the blocks of their `if`s (`visitClosure`, `visitFuncGlobals`, `visitTpDict`, `visitBases`).
-/

namespace TypedPython

/-- A walk as its visitor sees it: the calls made, in order, and how it ended, with a value or with
the exception that stopped it. -/
structure WalkM (α : Type) where
  calls : List Entry
  result : Except Raised α

namespace WalkM

instance : Monad WalkM where
  pure a := ⟨[], .ok a⟩
  bind x f :=
    match x.result with
    | .ok a => ⟨x.calls ++ (f a).calls, (f a).result⟩
    | .error e => ⟨x.calls, .error e⟩

/-- One call on the visitor. -/
def emit (e : Entry) : WalkM Unit := ⟨[e], .ok ()⟩

/-- A C++ exception: the walk stops here. -/
def raise {α : Type} (e : Raised) : WalkM α := ⟨[], .error e⟩

/-- A step that makes no call on the visitor and may raise. -/
def ofExcept {α : Type} : Except Raised α → WalkM α
  | .ok a => ⟨[], .ok a⟩
  | .error e => ⟨[], .error e⟩

variable {α β : Type}

@[simp] theorem calls_pure (a : α) : (pure a : WalkM α).calls = [] := rfl

@[simp] theorem result_pure (a : α) : (pure a : WalkM α).result = .ok a := rfl

@[simp] theorem emit_bind (e : Entry) (f : Unit → WalkM β) :
    emit e >>= f = ⟨e :: (f ()).calls, (f ()).result⟩ := rfl

theorem bind_of_ok {x : WalkM α} {a : α} (h : x.result = .ok a) (f : α → WalkM β) :
    x >>= f = ⟨x.calls ++ (f a).calls, (f a).result⟩ := by
  show (match x.result with | .ok a => _ | .error e => _) = _
  rw [h]

theorem bind_of_error {x : WalkM α} {e : Raised} (h : x.result = .error e) (f : α → WalkM β) :
    x >>= f = ⟨x.calls, .error e⟩ := by
  show (match x.result with | .ok a => _ | .error e => _) = _
  rw [h]

/-- A loop that only emits makes one call per element. -/
theorem forM_emit {γ : Type} (l : List γ) (g : γ → Entry) :
    l.forM (fun a => emit (g a)) = ⟨l.map g, .ok ()⟩ := by
  induction l with
  | nil => rfl
  | cons a l ih =>
    show (emit (g a) >>= fun _ => l.forM fun a => emit (g a)) = _
    rw [emit_bind, ih]
    rfl

end WalkM

open WalkM

/-! ## The lambdas of `walk` -/

/-- `visitTuple(t)`: `NULL` gives the hash `0`; a tuple gives its length, then each item. -/
def visitTuple : Option (List ObjId) → WalkM Unit
  | none => emit (.hash (.seed 0))
  | some items => do
    emit (.hash (.seed items.length))
    items.forM fun o => emit (.topo (.pyobj o))

/-- `std::string`'s `<`: byte by byte, as unsigned characters, a proper prefix first. -/
def stringLt : CString → CString → Bool
  | [], [] => false
  | [], _ :: _ => true
  | _ :: _, [] => false
  | a :: as, b :: bs => a < b || (a = b && stringLt as bs)

/-- `names[name] = key` on the `std::map<std::string, PyObject*>` of `visitDict`: the entries
stay sorted by name, and an entry of the same name is overwritten. -/
def assignName (name : CString) (key : PyKey) :
    List (CString × PyKey) → List (CString × PyKey)
  | [] => [(name, key)]
  | (n, k) :: rest =>
    if stringLt name n then (name, key) :: (n, k) :: rest
    else if name = n then (name, key) :: rest
    else (n, k) :: assignName name key rest

/-- The loop of `visitDict` over a dict's keys in iteration order: a `str` key becomes a
`std::string`, which raises on a key `PyUnicode_AsUTF8` cannot encode, and is assigned into the
map unless it is a special name to ignore; a key of another type is skipped. -/
def collectNames (ignoreSpecialNames : Bool) :
    List (CString × PyKey) → List PyKey → Except Raised (List (CString × PyKey))
  | names, [] => .ok names
  | names, .other _ :: keys => collectNames ignoreSpecialNames names keys
  | names, .str o s :: keys => do
    let name ← stdString (asUTF8 s)
    collectNames ignoreSpecialNames
      (if ignoreSpecialNames && isSpecialIgnorableName name then names
        else assignName name (.str o s) names) keys

/-- `visitDict` on a dict: the number of names kept, then each name with its value
(`PyDict_GetItem` of the key the name came from). -/
def visitDictEntries (d : PyDict) (ignoreSpecialNames : Bool) : WalkM Unit := do
  let names ← ofExcept (collectNames ignoreSpecialNames [] (d.entries.map Prod.fst))
  emit (.hash (.seed names.length))
  names.forM fun (name, key) =>
    match d.entries.lookup key with
    | some val => emit (.namedTopo name (.pyobj val))
    | none => emit (.err (cstr "dict getitem empty"))

namespace Runtime

variable (rt : Runtime)

/-- `visitDict(d, ignoreSpecialNames)`. -/
def visitDict (d : Option ObjId) (ignoreSpecialNames : Bool) : WalkM Unit :=
  match d with
  | none => emit (.hash (.seed 0))
  | some d =>
    match rt.layout d with
    | .dict dict => visitDictEntries dict ignoreSpecialNames
    | _ => emit (.err (cstr "not a dict: " ++ rt.tpName (rt.obType d)))

/-- `visitDictOrTuple(t)`. -/
def visitDictOrTuple : Option ObjId → WalkM Unit
  | none => emit (.hash (.seed 0))
  | some t =>
    match rt.layout t with
    | .dict _ => rt.visitDict (some t) false
    | .tuple items => visitTuple (some items)
    | _ => emit (.err (cstr "not a dict or tuple"))

end Runtime

/-! ## The rules -/

/-- The rules of `walk`, in the order it tries them, each with what its test read. -/
inductive Rule
  /-- A typed_python `Type*`. -/
  | typeNode (t : TypeId)
  /-- An `os._Environ`: never walked. -/
  | environ
  /-- `isSimpleConstant`: a leaf. -/
  | simpleConstant
  /-- An instance of a typed_python type. -/
  | typedInstance (t : TypeId)
  /-- A module registered under its own canonical name. -/
  | canonicalModule (moduleName : CString)
  /-- A globally identifiable and stable object, known by module and name. -/
  | named (moduleName clsName : CString)
  /-- A Python type object standing for a typed_python type. -/
  | typedPythonType (t : TypeId)
  | code (co : CodeObject)
  | function (f : FunctionObject)
  /-- A class. -/
  | cls (tp : TypeObject)
  /-- A `staticmethod` (`isStatic`) or `classmethod`, with its `__func__`. -/
  | methodWrapper (isStatic : Bool) (func : Option ObjId)
  | tuple (items : List ObjId)
  /-- A dict, set, list or weak container: its type only. -/
  | mutableContainer (type : ObjId)
  | cell (contents : Option ObjId)
  /-- A method descriptor: its type and name. -/
  | methodDescriptor (type name : ObjId)
  /-- Anything else: its type only. -/
  | fallback (type : ObjId)

/-- The position of a rule in `walk`'s chain. -/
def Rule.index : Rule → ℕ
  | .typeNode _ => 0
  | .environ => 1
  | .simpleConstant => 2
  | .typedInstance _ => 3
  | .canonicalModule _ => 4
  | .named _ _ => 5
  | .typedPythonType _ => 6
  | .code _ => 7
  | .function _ => 8
  | .cls _ => 9
  | .methodWrapper _ _ => 10
  | .tuple _ => 11
  | .mutableContainer _ => 12
  | .cell _ => 13
  | .methodDescriptor _ _ => 14
  | .fallback _ => 15

namespace Runtime

variable (rt : Runtime)

/-- The module test of `walk`: a module that is `sys.modules[name]` for its own `__name__`, with
that name as a `std::string` when `isCanonicalName` accepts it. A failed lookup falls through. -/
def canonicalModuleName (o : ObjId) : Except Raised (Option CString) :=
  match rt.layout o with
  | .module =>
    match rt.getAttrString o (pystr "__name__") with
    | some nameObject =>
      match rt.strValue nameObject with
      | some name =>
        if rt.sysModules nameObject = some o then do
          let moduleName ← stdString (asUTF8 name)
          pure (if isCanonicalName moduleName then some moduleName else none)
        else pure none
      | none => pure none
    | none => pure none
  | _ => pure none

/-- The tests of `walk` after the globally identifiable one; none of them raises. -/
def classifyStructural (o : ObjId) : Rule :=
  let b := rt.builtins
  let ty := rt.obType o
  match rt.layout o, rt.extractTypeFrom o with
  | .type _, some t => .typedPythonType t
  | .code co, _ => .code co
  | .function f, _ => .function f
  | .type tp, none => .cls tp
  | l, _ =>
    if ty = b.staticMethodType ∨ ty = b.classMethodType then
      .methodWrapper (ty = b.staticMethodType) (rt.getAttrString o (pystr "__func__"))
    else
      match l with
      | .tuple items => .tuple items
      | .dict _ | .set | .list => .mutableContainer ty
      | _ =>
        if ty = b.weakSetType ∨ ty = b.weakKeyDictType ∨ ty = b.weakValueDictType then
          .mutableContainer ty
        else
          match l with
          | .cell c => .cell c
          | _ =>
            if ty = b.classMethodDescrType ∨ ty = b.methodDescrType then
              .methodDescriptor (rt.descrType o) (rt.descrName o)
            else .fallback ty

/-- The tests of `walk` on a Python object, first match wins. -/
def classifyObject (o : ObjId) : Except Raised Rule :=
  if rt.obType o = rt.builtins.environType then .ok .environ
  else if rt.isSimpleConstant o then .ok .simpleConstant
  else
    match rt.extractTypeFrom (rt.obType o) with
    | some t => .ok (.typedInstance t)
    | none => do
      match ← rt.canonicalModuleName o with
      | some moduleName => pure (.canonicalModule moduleName)
      | none =>
        if ← rt.isPyObjectGloballyIdentifiableAndStable o then do
          let moduleName ← stdString (rt.attrUTF8 o (pystr "__module__"))
          let clsName ← stdString (rt.attrUTF8 o (pystr "__name__"))
          pure (.named moduleName clsName)
        else pure (rt.classifyStructural o)

/-- The rule `walk` applies to a node. -/
def classify : TypeOrPyobj → Except Raised Rule
  | .type t => .ok (.typeNode t)
  | .pyobj o => rt.classifyObject o

/-- The code object branch of `walk`. -/
def visitCode (co : CodeObject) : WalkM Unit := do
  emit (.hash (.seed 4))
  emit (.hash (.seed co.coArgcount))
  emit (.hash (.seed co.coKwonlyargcount))
  emit (.hash (.seed co.coNlocals))
  emit (.hash (.seed co.coStacksize))
  emit (.hash (.seed co.coFirstlineno))
  emit (.hash (.sha1 co.coCode))
  visitTuple (some co.coConsts)
  visitTuple (some co.coNames)
  visitTuple (some co.coVarnames)
  visitTuple (some co.coFreevars)
  visitTuple (some co.coCellvars)
  emit (.topo (.pyobj co.coName))
  emit (.topo (.pyobj co.coLinetable))

/-- The globals a function's code reads, by name, special names left out. -/
def visitGlobals (code globals : ObjId) : WalkM Unit :=
  (rt.compilerVisibleGlobals code globals).forM fun (name, val) =>
    if isSpecialIgnorableName name then pure () else emit (.namedTopo name (.pyobj val))

/-- The closure block of the function branch: the length of `func_closure` (0 for `NULL`), then
each cell in it. -/
def visitClosure : Option (List ObjId) → WalkM Unit
  | some cells => do
    emit (.hash (.seed cells.length))
    cells.forM fun o => if rt.pyCellCheck o then emit (.topo (.pyobj o)) else pure ()
  | none => emit (.hash (.seed 0))

/-- The globals block of the function branch: the globals the code reads, when `func_globals` is a
dict. -/
def visitFuncGlobals (f : FunctionObject) : WalkM Unit :=
  match f.funcGlobals with
  | some g => if rt.pyDictCheck g then rt.visitGlobals f.funcCode g else pure ()
  | none => pure ()

/-- The function branch of `walk`. -/
def visitFunction (f : FunctionObject) : WalkM Unit := do
  emit (.hash (.seed 5))
  rt.visitClosure f.funcClosure
  emit (.topo (.pyobj f.funcName))
  emit (.topo (.pyobj f.funcCode))
  rt.visitDictOrTuple f.funcAnnotations
  visitTuple f.funcDefaults
  rt.visitDictOrTuple f.funcKwdefaults
  emit (.hash (.seed 1))
  rt.visitFuncGlobals f
  emit (.hash (.seed 0))

/-- The bases block of the class branch: each base, unless `tp_bases` is `NULL`. -/
def visitBases : Option (List ObjId) → WalkM Unit
  | some bases => bases.forM fun t => emit (.topo (.pyobj t))
  | none => pure ()

/-- The dict block of the class branch: `visitDict` of `tp_dict`, special names left out, unless
it is `NULL`. -/
def visitTpDict : Option ObjId → WalkM Unit
  | some d => rt.visitDict (some d) true
  | none => pure ()

/-- The class branch of `walk`: its dict, special names left out, between zero markers, then its
bases. -/
def visitClass (tp : TypeObject) : WalkM Unit := do
  emit (.hash (.seed 6))
  emit (.hash (.seed 0))
  rt.visitTpDict tp.tpDict
  emit (.hash (.seed 0))
  visitBases tp.tpBases
  emit (.hash (.seed 0))

/-- The branch each rule of `walk` runs. -/
def emitRule : Rule → WalkM Unit
  | .typeNode t => do
    emit (.hash (.seed 1))
    (rt.compilerVisibleInternals t).forM emit
  | .environ => emit (.hash (.seed 13))
  | .simpleConstant => pure ()
  | .typedInstance t => do
    emit (.hash (.seed 2))
    emit (.topo (.type t))
  | .canonicalModule moduleName => do
    emit (.hash (.seed 12))
    emit (.name moduleName)
  | .named moduleName clsName => do
    emit (.hash (.seed 2))
    emit (.name (moduleName ++ cstr "|" ++ clsName))
  | .typedPythonType t => do
    emit (.hash (.seed 3))
    emit (.topo (.type t))
  | .code co => visitCode co
  | .function f => rt.visitFunction f
  | .cls tp => rt.visitClass tp
  | .methodWrapper isStatic func => do
    emit (.hash (.seed (if isStatic then 7 else 8)))
    match func with
    | none => emit (.err (cstr "not a func obj"))
    | some f => emit (.topo (.pyobj f))
  | .tuple items => do
    emit (.hash (.seed 9))
    emit (.hash (.seed items.length))
    items.forM fun o => emit (.topo (.pyobj o))
  | .mutableContainer type => do
    emit (.hash (.seed 10))
    emit (.topo (.pyobj type))
  | .cell contents => do
    emit (.hash (.seed 11))
    match contents with
    | some v => do
      emit (.hash (.seed 1))
      emit (.topo (.pyobj v))
    | none => emit (.hash (.seed 0))
  | .methodDescriptor type name => do
    emit (.topo (.pyobj type))
    emit (.topo (.pyobj name))
  | .fallback type => emit (.topo (.pyobj type))

/-- `walk(obj, visitor)`: the calls the visitor receives. -/
def walk (obj : TypeOrPyobj) : WalkM Unit :=
  match rt.classify obj with
  | .ok r => rt.emitRule r
  | .error e => raise e

/-- `recordWalk(obj)`: the calls of a walk as records; it raises when the walk does. -/
def recordWalk (obj : TypeOrPyobj) : Except Raised (List VisitRecord) :=
  (rt.walk obj).result.map fun _ => (rt.walk obj).calls.map Entry.toRecord

end Runtime

end TypedPython
