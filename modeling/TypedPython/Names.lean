import TypedPython.Strings

/-!
# The two name tests of the walker

* `isCanonicalName` decides whether a module belongs to the standard library of Python 3.8 or to a
  short list of common third-party packages, by the root of its dotted name: such modules are
  taken to be immutable during a session, so the walker summarises them, and the objects named
  through them, by name alone.
* `isSpecialIgnorableName` decides which names of a class dictionary or of a function's globals
  the walker leaves out: those that begin and end with `__` and are not one of
  `canonicalMagicMethods`. The prefix and the suffix may overlap, so `"__"` and `"___"` are left
  out as well as every `"__" ++ x ++ "__"` (`isSpecialIgnorableName_iff`).
-/

namespace TypedPython

/-- The byte of an ASCII character. -/
def byteOf (c : Char) : Byte := Fin.ofNat' 256 c.toNat

/-- `"__"`, the prefix and suffix of special names. -/
def dunder : CString := cstr "__"

/-- The modules `isCanonicalName` accepts: the standard library of Python 3.8, then the common
third-party packages. -/
def canonicalPythonModuleNames : List CString := List.map cstr [
  "abc", "aifc", "antigravity", "argparse", "ast", "asynchat", "asyncio", "asyncore", "base64",
  "bdb", "binhex", "bisect", "_bootlocale", "bz2", "calendar", "cgi", "cgitb", "chunk", "cmd",
  "codecs", "codeop", "code", "collections", "_collections_abc", "colorsys", "_compat_pickle",
  "compileall", "_compression", "concurrent", "configparser", "contextlib", "contextvars", "copy",
  "copyreg", "cProfile", "crypt", "csv", "ctypes", "curses", "dataclasses", "datetime", "dbm",
  "decimal", "difflib", "dis", "distutils", "doctest", "dummy_threading", "_dummy_thread",
  "email", "encodings", "ensurepip", "enum", "filecmp", "fileinput", "fnmatch", "formatter",
  "fractions", "ftplib", "functools", "__future__", "genericpath", "getopt", "getpass", "gettext",
  "glob", "gzip", "hashlib", "heapq", "hmac", "html", "http", "idlelib", "imaplib", "imghdr",
  "importlib", "imp", "inspect", "io", "ipaddress", "json", "keyword", "lib2to3", "linecache",
  "locale", "logging", "lzma", "mailbox", "mailcap", "marshal", "_markupbase", "mimetypes",
  "modulefinder", "msilib", "multiprocessing", "netrc", "nntplib", "ntpath", "nturl2path",
  "numbers", "opcode", "operator", "optparse", "os", "_osx_support", "pathlib", "pdb", "pickle",
  "pickletools", "pipes", "pkgutil", "platform", "plistlib", "poplib", "posixpath", "pprint",
  "profile", "pstats", "pty", "_py_abc", "pyclbr", "py_compile", "_pydecimal", "pydoc_data",
  "pydoc", "_pyio", "queue", "quopri", "random", "reprlib", "re", "rlcompleter", "runpy", "sched",
  "secrets", "selectors", "shelve", "shlex", "shutil", "signal", "_sitebuiltins", "site-packages",
  "site", "smtpd", "smtplib", "sndhdr", "socket", "socketserver", "sqlite3", "sre_compile",
  "sre_constants", "sre_parse", "ssl", "statistics", "stat", "stringprep", "string", "_strptime",
  "struct", "subprocess", "sunau", "symbol", "symtable", "sysconfig", "tabnanny", "tarfile",
  "telnetlib", "tempfile", "test", "textwrap", "this", "_threading_local", "threading", "timeit",
  "tkinter", "tokenize", "token", "traceback", "tracemalloc", "trace", "tty", "turtledemo",
  "turtle", "types", "typing", "unittest", "urllib", "uuid", "uu", "venv", "warnings", "wave",
  "weakref", "_weakrefset", "webbrowser", "wsgiref", "xdrlib", "xml", "xmlrpc", "zipapp",
  "zipfile", "zipimport", "pytz", "psutil", "numpy", "pandas", "scipy", "pytest", "_pytest",
  "typed_python", "object_database", "llvmlite", "requests", "redis", "websockets", "boto3", "py",
  "xdist", "pytest_jsonreport", "pytest_metadata", "flask", "flaky", "coverage", "pyasn1",
  "cryptography", "paramiko", "six", "torch"
]

/-- `isCanonicalName`: whether the root of a module name, its part before the first `.`, is one of
`canonicalPythonModuleNames`. -/
def isCanonicalName (name : CString) : Bool :=
  canonicalPythonModuleNames.contains (name.takeWhile (· != byteOf '.'))

/-- The special method names the walker keeps (`__round__` is listed twice in the source). -/
def canonicalMagicMethods : List CString := List.map cstr [
  "__abs__", "__add__", "__and__", "__bool__", "__bytes__", "__call__", "__contains__", "__del__",
  "__delattr__", "__eq__", "__float__", "__floordiv__", "__format__", "__ge__", "__getitem__",
  "__gt__", "__hash__", "__iadd__", "__iand__", "__ieq__", "__ifloordiv__", "__ige__", "__igt__",
  "__ile__", "__ilshift__", "__ilt__", "__imatmul__", "__imod__", "__imul__", "__index__",
  "__ine__", "__init__", "__int__", "__invert__", "__ior__", "__ipow__", "__irshift__",
  "__isub__", "__itruediv__", "__ixor__", "__le__", "__len__", "__lshift__", "__lt__",
  "__matmul__", "__mod__", "__mul__", "__ne__", "__neg__", "__not__", "__or__", "__pos__",
  "__pow__", "__radd__", "__rand__", "__repr__", "__rfloordiv__", "__rlshift__", "__rmatmul__",
  "__rmod__", "__rmul__", "__ror__", "__round__", "__round__", "__rpow__", "__rrshift__",
  "__rshift__", "__rsub__", "__rtruediv__", "__rxor__", "__setattr__", "__setitem__", "__str__",
  "__sub__", "__truediv__", "__xor__"
]

/-- `isSpecialIgnorableName`: `name.substr(0, 2) == "__" && name.substr(name.size() - 2) == "__"`,
and `name` is not a canonical magic method. The `&&` stops before the second `substr` on a name
shorter than two bytes, so it never reads out of range. -/
def isSpecialIgnorableName (name : CString) : Bool :=
  name.take 2 == dunder && name.drop (name.length - 2) == dunder &&
    !canonicalMagicMethods.contains name

theorem take_two_eq_dunder_iff {n : CString} : n.take 2 = dunder ↔ ∃ y, n = dunder ++ y := by
  constructor
  · intro h
    exact ⟨n.drop 2, by rw [← h, List.take_append_drop]⟩
  · rintro ⟨y, rfl⟩
    rfl

theorem drop_eq_dunder_iff {n : CString} :
    n.drop (n.length - 2) = dunder ↔ ∃ x, n = x ++ dunder := by
  constructor
  · intro h
    exact ⟨n.take (n.length - 2), by rw [← h, List.take_append_drop]⟩
  · rintro ⟨x, rfl⟩
    rw [List.length_append, show dunder.length = 2 from rfl, Nat.add_sub_cancel, List.drop_left]

/-- A name that begins and ends with `"__"` is `"__"`, `"___"`, or `"__" ++ x ++ "__"`. -/
theorem dunder_prefix_suffix_iff {n : CString} :
    ((∃ y, n = dunder ++ y) ∧ ∃ x, n = x ++ dunder) ↔
      n = dunder ∨ n = cstr "___" ∨ ∃ x, n = dunder ++ x ++ dunder := by
  constructor
  · rintro ⟨⟨y, rfl⟩, x, hx⟩
    rcases List.append_eq_append_iff.mp hx with ⟨a, rfl, rfl⟩ | ⟨c, h₁, h₂⟩
    · exact .inr (.inr ⟨a, by rw [List.append_assoc]⟩)
    · rcases x with _ | ⟨p, _ | ⟨q, _ | ⟨r, x⟩⟩⟩ <;> simp_all [dunder, cstr]
  · rintro (rfl | rfl | ⟨x, rfl⟩)
    · exact ⟨⟨[], rfl⟩, [], rfl⟩
    · exact ⟨⟨[byteOf '_'], rfl⟩, [byteOf '_'], rfl⟩
    · exact ⟨⟨x ++ dunder, by rw [List.append_assoc]⟩, dunder ++ x, rfl⟩

/-- **The names the walker leaves out**: `"__"`, `"___"` and every `"__" ++ x ++ "__"`, the
canonical magic methods apart. -/
theorem isSpecialIgnorableName_iff (n : CString) :
    isSpecialIgnorableName n = true ↔
      (n = dunder ∨ n = cstr "___" ∨ ∃ x, n = dunder ++ x ++ dunder) ∧
        n ∉ canonicalMagicMethods := by
  simp only [isSpecialIgnorableName, Bool.and_eq_true, beq_iff_eq, Bool.not_eq_true',
    List.contains, List.elem_eq_mem, decide_eq_false_iff_not, take_two_eq_dunder_iff,
    drop_eq_dunder_iff, ← dunder_prefix_suffix_iff]

end TypedPython
