import TypedPython.Names

/-!
# Graph nodes, visitor calls and visit records

A walk reports what it finds through five callbacks, `visitHash`, `visitName`, `visitTopo`,
`visitNamedTopo` and `visitErr`; an `Entry` is one such call. `recordWalk` keeps the calls of a walk
as a `std::vector<VisitRecord>`, where `VisitRecord` is a class holding a kind tag and one field
per payload, the fields of the other kinds left at their defaults. Its `operator==` compares the
kind, then only the fields of that kind.

On the records `recordWalk` builds, `operator==` is equality of the calls
(`Entry.equals_toRecord_iff`), and `recordsEqual_map_iff` lifts this to `std::vector`'s `==`: the
cache of `visit` compares exactly the callback sequences of two walks.
-/

namespace TypedPython

/-- Modelled from the spec: `ShaHash.hpp` is not among the sources. A hash contribution is kept as
what it was built from, a small integer (`ShaHash(n)`) or the SHA-1 of some bytes
(`ShaHash::SHA1`), so that two contributions are equal exactly when they were built the same
way: the collision freedom the spec asks of the digest. -/
inductive ShaHash
  | seed (n : ℕ)
  | sha1 (bytes : List Byte)
  deriving DecidableEq

/-- The identity of a live Python object: its address. -/
abbrev ObjId := ℕ

/-- The identity of a node of typed_python's own type graph: a `Type*`. -/
abbrev TypeId := ℕ

/-- `TypeOrPyobj`: a graph node, a typed_python `Type*` or a Python object. Two nodes are equal
when they are the same pointer. -/
inductive TypeOrPyobj
  | type (t : TypeId)
  | pyobj (o : ObjId)
  deriving DecidableEq

/-- One call a walk makes on its visitor. -/
inductive Entry
  /-- `visitHash(h)`. -/
  | hash (h : ShaHash)
  /-- `visitName(name)`. -/
  | name (s : CString)
  /-- `visitTopo(node)`. -/
  | topo (node : TypeOrPyobj)
  /-- `visitNamedTopo(name, node)`. -/
  | namedTopo (s : CString) (node : TypeOrPyobj)
  /-- `visitErr(err)`. -/
  | err (e : CString)
  deriving DecidableEq

/-- `VisitRecord::kind`. -/
inductive Kind
  | hash
  | string
  | topo
  | nameValuePair
  | error
  deriving DecidableEq

/-- `VisitRecord`: a kind and every payload field, those a constructor does not set left at their
defaults (`TypeOrPyobj()` is the null node, `none`). -/
structure VisitRecord where
  mKind : Kind
  mName : CString := []
  mErr : CString := []
  mHash : ShaHash := .seed 0
  mTopo : Option TypeOrPyobj := none
  deriving DecidableEq

/-- The record `recordWalk` pushes for a call: `VisitRecord(h)`, `VisitRecord(name)`,
`VisitRecord(topo)`, `VisitRecord(name, topo)` and `VisitRecord::Err(err)`. -/
def Entry.toRecord : Entry → VisitRecord
  | .hash h => { mKind := .hash, mHash := h }
  | .name s => { mKind := .string, mName := s }
  | .topo t => { mKind := .topo, mTopo := some t }
  | .namedTopo s t => { mKind := .nameValuePair, mName := s, mTopo := some t }
  | .err e => { mKind := .error, mErr := e }

/-- `VisitRecord::operator==`. -/
def VisitRecord.equals (a b : VisitRecord) : Bool :=
  if a.mKind != b.mKind then false
  else
    match a.mKind with
    | .hash => a.mHash == b.mHash
    | .topo => a.mTopo == b.mTopo
    | .string => a.mName == b.mName
    | .nameValuePair => a.mName == b.mName && a.mTopo == b.mTopo
    | .error => a.mErr == b.mErr

/-- `==` on `std::vector<VisitRecord>`: the same length, and `operator==` at every position. -/
def recordsEqual : List VisitRecord → List VisitRecord → Bool
  | [], [] => true
  | a :: as, b :: bs => a.equals b && recordsEqual as bs
  | _, _ => false

@[simp] theorem recordsEqual_cons (a b : VisitRecord) (as bs : List VisitRecord) :
    recordsEqual (a :: as) (b :: bs) = (a.equals b && recordsEqual as bs) := rfl

theorem VisitRecord.equals_self (a : VisitRecord) : a.equals a = true := by
  cases a with
  | mk k => cases k <;> simp [equals]

theorem recordsEqual_self : ∀ l : List VisitRecord, recordsEqual l l = true
  | [] => rfl
  | a :: l => by rw [recordsEqual_cons, a.equals_self, recordsEqual_self l, Bool.and_self]

/-- On the records of two calls, `operator==` is equality of the calls. -/
theorem Entry.equals_toRecord_iff (a b : Entry) :
    a.toRecord.equals b.toRecord = true ↔ a = b := by
  cases a <;> cases b <;> simp [toRecord, VisitRecord.equals]

/-- **Record equality is call equality**: `std::vector`'s `==` on two record walks holds exactly
when the walks made the same calls. -/
theorem recordsEqual_map_iff : ∀ l m : List Entry,
    recordsEqual (l.map Entry.toRecord) (m.map Entry.toRecord) = true ↔ l = m
  | [], [] => by simp [recordsEqual]
  | [], _ :: _ => by simp [recordsEqual]
  | _ :: _, [] => by simp [recordsEqual]
  | a :: l, b :: m => by
    simp only [List.map_cons, recordsEqual_cons, Bool.and_eq_true, Entry.equals_toRecord_iff,
      recordsEqual_map_iff l m, List.cons.injEq]

/-- The label `VisitRecord::toString` gives a node of a record; the null node has none. -/
def nodeLabel (label : TypeOrPyobj → CString) : Option TypeOrPyobj → CString
  | some t => label t
  | none => []

/-- `VisitRecord::toString`, given `ShaHash::digestAsHexString` and `TypeOrPyobj::name`. -/
def VisitRecord.toString (hex : ShaHash → CString) (label : TypeOrPyobj → CString)
    (r : VisitRecord) : CString :=
  match r.mKind with
  | .error => cstr "Err(" ++ r.mErr ++ cstr ")"
  | .string => cstr "String(" ++ r.mName ++ cstr ")"
  | .hash => cstr "Hash(" ++ hex r.mHash ++ cstr ")"
  | .topo => cstr "Topo(" ++ nodeLabel label r.mTopo ++ cstr ")"
  | .nameValuePair =>
    cstr "NameValuePair(" ++ r.mName ++ cstr "=" ++ nodeLabel label r.mTopo ++ cstr ")"

end TypedPython
