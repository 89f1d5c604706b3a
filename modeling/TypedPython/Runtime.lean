import TypedPython.VisitRecord

/-!
# The object graph as the walker sees it

The walker inspects live Python objects through the CPython API. A `Runtime` is the state of the
object graph as those calls observe it:

* `obType` and `layout`: an object's type (`Py_TYPE`) and the C struct it is, which decides the
  `Py*_Check` tests it passes and carries the fields the walker reads (`Layout`). CPython forbids
  a class two incompatible layouts, so an object has exactly one;
* `getAttrString` and `getAttr` (`PyObject_GetAttrString` by a C string, `PyObject_GetAttr` by
  a name object; `none` when they raise) and `sysModules` (`PyObject_GetItem` on `sys.modules`).
  A lookup by a name object goes through the name's own `__eq__` and `__hash__`, which a subclass
  of `str` may override, so it is keyed by the object and not by its code points;
* `builtins`, the interpreter's fixed objects the walker compares pointers against;
* the collaborators outside this file: `PyInstance::extractTypeFrom`,
  `Type::visitCompilerVisibleInternals`, `Function::Overload::visitCompilerVisibleGlobals`, and the
  labels of the diagnostics.

A `PyDict` carries the invariant of Python dictionaries: no key twice.
-/

namespace TypedPython

/-- A key of a `dict` as `visitDict` sees it: an object that passes `PyUnicode_Check`, with its
code points, or another object. -/
inductive PyKey
  | str (o : ObjId) (s : PyStr)
  | other (o : ObjId)
  deriving DecidableEq

/-- The key object. -/
def PyKey.obj : PyKey → ObjId
  | .str o _ | .other o => o

/-- A Python `dict`: its entries in iteration (insertion) order, no key object twice. A dict tells
its keys apart by their own `__eq__` and `__hash__`: two `str` keys of equal code points are one
key unless a subclass of `str` overrides them, so only the key objects are known to differ. -/
structure PyDict where
  entries : List (PyKey × ObjId)
  nodup : (entries.map fun e => e.1.obj).Nodup

/-- The fields of a `PyCodeObject` the walker reads (`co_flags` and `co_filename` it skips). -/
structure CodeObject where
  coArgcount : ℕ
  coKwonlyargcount : ℕ
  coNlocals : ℕ
  coStacksize : ℕ
  coFirstlineno : ℕ
  /-- The bytecode, `co_code`. -/
  coCode : List Byte
  coConsts : List ObjId
  coNames : List ObjId
  coVarnames : List ObjId
  coFreevars : List ObjId
  coCellvars : List ObjId
  coName : ObjId
  /-- `co_linetable` (`co_lnotab` before Python 3.10). -/
  coLinetable : ObjId

/-- The fields of a `PyFunctionObject` the walker reads; `none` is `NULL`. -/
structure FunctionObject where
  /-- The closure: `NULL` or a tuple. -/
  funcClosure : Option (List ObjId)
  funcName : ObjId
  funcCode : ObjId
  funcAnnotations : Option ObjId
  /-- The defaults: `NULL` or a tuple. -/
  funcDefaults : Option (List ObjId)
  funcKwdefaults : Option ObjId
  funcGlobals : Option ObjId

/-- The fields of a `PyTypeObject` the walker reads. -/
structure TypeObject where
  tpDict : Option ObjId
  /-- The bases: `NULL` or a tuple. -/
  tpBases : Option (List ObjId)

/-- The C struct of an object, which decides the `Py*_Check` tests it passes. -/
inductive Layout
  /-- `PyLong_Check` (`bool` included). -/
  | long
  | float
  | bytes
  /-- `PyUnicode_Check`, with the code points. -/
  | unicode (s : PyStr)
  | dict (d : PyDict)
  | set
  | list
  | tuple (items : List ObjId)
  /-- `PyType_Check`: a class. -/
  | type (tp : TypeObject)
  | module
  | code (co : CodeObject)
  | function (f : FunctionObject)
  /-- `PyCell_Check`, with the cell's contents. -/
  | cell (contents : Option ObjId)
  /-- Any other object. -/
  | other

/-- The interpreter's objects the walker compares pointers against. -/
structure Builtins where
  pyNone : ObjId
  pyTrue : ObjId
  pyFalse : ObjId
  builtinsModule : ObjId
  builtinsModuleDict : ObjId
  /-- `PyDict_Type.tp_base`, that is `object`. -/
  objectType : ObjId
  typeType : ObjId
  dictType : ObjId
  listType : ObjId
  setType : ObjId
  longType : ObjId
  unicodeType : ObjId
  floatType : ObjId
  bytesType : ObjId
  boolType : ObjId
  /-- `Py_None->ob_type`. -/
  noneType : ObjId
  propertyType : ObjId
  classMethodDescrType : ObjId
  getSetDescrType : ObjId
  memberDescrType : ObjId
  methodDescrType : ObjId
  wrapperDescrType : ObjId
  dictProxyType : ObjId
  methodWrapperType : ObjId
  cFunctionType : ObjId
  functionType : ObjId
  staticMethodType : ObjId
  classMethodType : ObjId
  /-- `os._Environ`. -/
  environType : ObjId
  /-- `weakref.WeakSet`. -/
  weakSetType : ObjId
  weakKeyDictType : ObjId
  weakValueDictType : ObjId

/-- The object graph, as the CPython calls of the walker observe it. -/
structure Runtime where
  builtins : Builtins
  /-- `Py_TYPE`. -/
  obType : ObjId → ObjId
  layout : ObjId → Layout
  /-- A type's `tp_name`. -/
  tpName : ObjId → CString
  /-- `PyObject_GetAttrString`, by the name a C string gives; `none` when it raises. -/
  getAttrString : ObjId → PyStr → Option ObjId
  /-- `PyObject_GetAttr`, by a name object; `none` when it raises. -/
  getAttr : ObjId → ObjId → Option ObjId
  /-- `PyObject_GetItem` on `sys.modules`, the dict the walker captured at its first use, by a
  name object; `none` when it raises. -/
  sysModules : ObjId → Option ObjId
  /-- `PyInstance::extractTypeFrom`: the typed_python type a Python type object stands for. -/
  extractTypeFrom : ObjId → Option TypeId
  /-- `PyDescr_TYPE`. -/
  descrType : ObjId → ObjId
  /-- `PyDescr_NAME`. -/
  descrName : ObjId → ObjId
  /-- `Type::visitCompilerVisibleInternals`: the calls a type node makes on the visitor. -/
  compilerVisibleInternals : TypeId → List Entry
  /-- `Function::Overload::visitCompilerVisibleGlobals`: the globals a code object reads from
  a globals dict, by name. -/
  compilerVisibleGlobals : ObjId → ObjId → List (CString × ObjId)
  /-- `TypeOrPyobj::name`. -/
  name : TypeOrPyobj → CString
  /-- `ShaHash::digestAsHexString`. -/
  digestAsHexString : ShaHash → CString

namespace Runtime

variable (rt : Runtime)

/-- The code points of a `str` object; `none` when `PyUnicode_Check` fails. -/
def strValue (o : ObjId) : Option PyStr :=
  match rt.layout o with
  | .unicode s => some s
  | _ => none

/-- `PyDict_Check`. -/
def pyDictCheck (o : ObjId) : Bool :=
  match rt.layout o with
  | .dict _ => true
  | _ => false

/-- `PyCell_Check`. -/
def pyCellCheck (o : ObjId) : Bool :=
  match rt.layout o with
  | .cell _ => true
  | _ => false

/-- `isSimpleConstant`: `None`, `True`, `False`, an `int`, `bytes`, `str` or `float`, one of the
fixed modules and types, or an instance of a descriptor type. -/
def isSimpleConstant (h : ObjId) : Bool :=
  let b := rt.builtins
  let l := rt.layout h
  h == b.pyNone || h == b.pyTrue || h == b.pyFalse ||
    (match l with | .long => true | _ => false) ||
    (match l with | .bytes => true | _ => false) ||
    (match l with | .unicode _ => true | _ => false) ||
    [b.builtinsModule, b.builtinsModuleDict, b.objectType, b.typeType, b.dictType, b.listType,
      b.setType, b.longType, b.unicodeType, b.floatType, b.bytesType, b.boolType, b.noneType,
      b.propertyType, b.classMethodDescrType, b.getSetDescrType, b.memberDescrType,
      b.methodDescrType, b.wrapperDescrType, b.dictProxyType, b.methodWrapperType,
      b.cFunctionType, b.functionType].contains h ||
    (match l with | .float => true | _ => false) ||
    [b.propertyType, b.getSetDescrType, b.memberDescrType, b.wrapperDescrType, b.dictProxyType,
      b.methodWrapperType].contains (rt.obType h)

/-- The code points of an attribute that is a `str`. -/
def attrStr (h : ObjId) (attr : PyStr) : Option PyStr :=
  (rt.getAttrString h attr).bind rt.strValue

/-- `PyUnicode_AsUTF8(PyObject_GetAttrString(h, attr))`: `NULL` when the attribute is missing,
is not a `str`, or cannot be encoded. -/
def attrUTF8 (h : ObjId) (attr : PyStr) : Option CString :=
  (rt.attrStr h attr).bind asUTF8

/-- `isPyObjectGloballyIdentifiable`: `h` has `str` attributes `__module__` and `__name__`, and the
attribute of `sys.modules[__module__]` named by its `__name__` is `h` itself, both lookups made
with the name objects. Failed lookups are cleared and answer `false`. -/
def isPyObjectGloballyIdentifiable (h : ObjId) : Bool :=
  match rt.getAttrString h (pystr "__module__"), rt.getAttrString h (pystr "__name__") with
  | some moduleName, some clsName =>
    if (rt.strValue moduleName).isSome && (rt.strValue clsName).isSome then
      match rt.sysModules moduleName with
      | some moduleObject => rt.getAttr moduleObject clsName == some h
      | none => false
    else false
  | _, _ => false

/-- `isPyObjectGloballyIdentifiableAndStable`: globally identifiable, and either its module is
canonical or it is a builtin function. Both names are converted to `std::string` first, which
raises on a name `PyUnicode_AsUTF8` cannot encode. -/
def isPyObjectGloballyIdentifiableAndStable (h : ObjId) : Except Raised Bool :=
  if rt.isPyObjectGloballyIdentifiable h then do
    let moduleName ← stdString (rt.attrUTF8 h (pystr "__module__"))
    let _clsName ← stdString (rt.attrUTF8 h (pystr "__name__"))
    pure (isCanonicalName moduleName || rt.obType h == rt.builtins.cFunctionType)
  else pure false

end Runtime

/-! ## A small object graph -/

/-- The builtins at the addresses `1000` to `1031`. -/
def Builtins.sample : Builtins where
  pyNone := 1000
  pyTrue := 1001
  pyFalse := 1002
  builtinsModule := 1003
  builtinsModuleDict := 1004
  objectType := 1005
  typeType := 1006
  dictType := 1007
  listType := 1008
  setType := 1009
  longType := 1010
  unicodeType := 1011
  floatType := 1012
  bytesType := 1013
  boolType := 1014
  noneType := 1015
  propertyType := 1016
  classMethodDescrType := 1017
  getSetDescrType := 1018
  memberDescrType := 1019
  methodDescrType := 1020
  wrapperDescrType := 1021
  dictProxyType := 1022
  methodWrapperType := 1023
  cFunctionType := 1024
  functionType := 1025
  staticMethodType := 1026
  classMethodType := 1027
  environType := 1028
  weakSetType := 1029
  weakKeyDictType := 1030
  weakValueDictType := 1031

/-- An object graph in which every object below the builtins is a plain instance of the class at
`900`, with no attributes and no module registered: the concrete cases start from it. -/
def Runtime.sample : Runtime where
  builtins := Builtins.sample
  obType _ := 900
  layout _ := .other
  tpName _ := []
  getAttrString _ _ := none
  getAttr _ _ := none
  sysModules _ := none
  extractTypeFrom _ := none
  descrType _ := 0
  descrName _ := 0
  compilerVisibleInternals _ := []
  compilerVisibleGlobals _ _ := []
  name _ := []
  digestAsHexString _ := []

end TypedPython
