import TypedPython.View

/-!
# Reading a walk back

The calls of a walk are a code for the view of its node. Every segment of a branch carries its
own length (`visitTuple`, `visitDict`) or ends where a call of another kind begins, so `decode`
reads the view back off the calls:

* `decode_encode`: `decode` inverts the serialisation of every view;
* `walk_calls_eq_iff`: two walks that complete, in any two graphs, make the same calls exactly
  when their nodes show the same view. The hash of a node is a function of its view, and of
  nothing it does not show.
-/

namespace TypedPython

/-! ## Readers of the segments -/

/-- Reads `visitTopo` calls on Python objects off the front, as many as there are. -/
def readTopos : List Entry → List ObjId × List Entry
  | .topo (.pyobj o) :: rest => (readTopos rest).map (o :: ·) id
  | rest => ([], rest)

/-- Reads `visitNamedTopo` calls on Python objects off the front, as many as there are. -/
def readNamed : List Entry → List (CString × ObjId) × List Entry
  | .namedTopo name (.pyobj o) :: rest => (readNamed rest).map ((name, o) :: ·) id
  | rest => ([], rest)

/-- Reads exactly `n` `visitTopo` calls on Python objects. -/
def readItems : ℕ → List Entry → Option (List ObjId × List Entry)
  | 0, rest => some ([], rest)
  | n + 1, .topo (.pyobj o) :: rest => (readItems n rest).map (Prod.map (o :: ·) id)
  | _ + 1, _ => none

/-- Reads exactly `n` `visitNamedTopo` calls on Python objects. -/
def readNamedItems : ℕ → List Entry → Option (List (CString × ObjId) × List Entry)
  | 0, rest => some ([], rest)
  | n + 1, .namedTopo name (.pyobj o) :: rest =>
    (readNamedItems n rest).map (Prod.map ((name, o) :: ·) id)
  | _ + 1, _ => none

/-- Reads the calls of `visitTuple` on a tuple. -/
def readTuple : List Entry → Option (List ObjId × List Entry)
  | .hash (.seed n) :: rest => readItems n rest
  | _ => none

/-- Reads the calls of `visitDictOrTuple`. -/
def readSlot : List Entry → Option (Slot × List Entry)
  | .hash (.seed 0) :: rest => some (.items [], rest)
  | .hash (.seed (n + 1)) :: rest =>
    match readItems (n + 1) rest with
    | some (items, rest) => some (.items items, rest)
    | none =>
      match readNamedItems (n + 1) rest with
      | some (p :: ps, rest) => some (.names p ps, rest)
      | _ => none
  | .err msg :: rest =>
    if msg = cstr "not a dict or tuple" then some (.notDictOrTuple, rest) else none
  | _ => none

/-- Reads the bases of a class and its last zero marker. -/
def readBases (calls : List Entry) : Option (List ObjId) :=
  match readTopos calls with
  | (bases, [.hash (.seed 0)]) => some bases
  | _ => none

/-- Reads the class branch after its first two calls. A dict that keeps no name is told from
`NULL` by the zero marker after its count. -/
def readClass : List Entry → Option View
  | .err msg :: .hash (.seed 0) :: rest =>
    if msg.take (cstr "not a dict: ").length = cstr "not a dict: " then
      (readBases rest).map (.cls (.notADict (msg.drop (cstr "not a dict: ").length)))
    else none
  | .hash (.seed 0) :: rest =>
    match readBases rest with
    | some bases => some (.cls .absent bases)
    | none =>
      match rest with
      | .hash (.seed 0) :: rest => (readBases rest).map (.cls (.names []))
      | _ => none
  | .hash (.seed (n + 1)) :: rest =>
    match readNamedItems (n + 1) rest with
    | some (names, .hash (.seed 0) :: rest) => (readBases rest).map (.cls (.names names))
    | _ => none
  | _ => none

/-- Reads the code object branch after its discriminant. -/
def readCode : List Entry → Option View
  | .hash (.seed argcount) :: .hash (.seed kwonlyargcount) :: .hash (.seed nlocals) ::
      .hash (.seed stacksize) :: .hash (.seed firstlineno) :: .hash (.sha1 code) :: rest => do
    let (consts, rest) ← readTuple rest
    let (names, rest) ← readTuple rest
    let (varnames, rest) ← readTuple rest
    let (freevars, rest) ← readTuple rest
    let (cellvars, rest) ← readTuple rest
    match rest with
    | [.topo (.pyobj name), .topo (.pyobj linetable)] =>
      some (.code ⟨argcount, kwonlyargcount, nlocals, stacksize, firstlineno, code, consts, names,
        varnames, freevars, cellvars, name, linetable⟩)
    | _ => none
  | _ => none

/-- Reads the function branch after its discriminant. The cells, the name and the code are the
`visitTopo` calls before the annotations, which start with a hash or an error. -/
def readFunction : List Entry → Option View
  | .hash (.seed closureSize) :: rest =>
    match (readTopos rest).1.reverse with
    | code :: name :: cells => do
      let (annotations, rest) ← readSlot (readTopos rest).2
      let (defaults, rest) ← readTuple rest
      let (kwdefaults, rest) ← readSlot rest
      match rest with
      | .hash (.seed 1) :: rest =>
        match readNamed rest with
        | (globals, [.hash (.seed 0)]) =>
          some (.function closureSize cells.reverse name code annotations defaults kwdefaults
            globals)
        | _ => none
      | _ => none
    | _ => none
  | _ => none

/-- Reads a `staticmethod`'s or `classmethod`'s branch after its discriminant. -/
def readWrapper (isStatic : Bool) : List Entry → Option View
  | [.err msg] => if msg = cstr "not a func obj" then some (.methodWrapper isStatic none) else none
  | [.topo (.pyobj f)] => some (.methodWrapper isStatic (some f))
  | _ => none

/-- Reads a branch that starts with the discriminant `n`. -/
def decodeTagged (n : ℕ) (rest : List Entry) : Option View :=
  match n with
  | 1 => some (.typeNode rest)
  | 2 =>
    match rest with
    | [.topo (.type t)] => some (.typedInstance t)
    | [.name name] => some (.named name)
    | _ => none
  | 3 =>
    match rest with
    | [.topo (.type t)] => some (.typedPythonType t)
    | _ => none
  | 4 => readCode rest
  | 5 => readFunction rest
  | 6 =>
    match rest with
    | .hash (.seed 0) :: rest => readClass rest
    | _ => none
  | 7 => readWrapper true rest
  | 8 => readWrapper false rest
  | 9 =>
    match readTuple rest with
    | some (items, []) => some (.tuple items)
    | _ => none
  | 10 =>
    match rest with
    | [.topo (.pyobj type)] => some (.mutableContainer type)
    | _ => none
  | 11 =>
    match rest with
    | [.hash (.seed 0)] => some (.cell none)
    | [.hash (.seed 1), .topo (.pyobj v)] => some (.cell (some v))
    | _ => none
  | 12 =>
    match rest with
    | [.name moduleName] => some (.canonicalModule moduleName)
    | _ => none
  | 13 =>
    match rest with
    | [] => some .environ
    | _ => none
  | _ => none

/-- Reads the view of a node off the calls of its walk. -/
def decode : List Entry → Option View
  | [] => some .simpleConstant
  | .hash (.seed n) :: rest => decodeTagged n rest
  | [.topo (.pyobj type), .topo (.pyobj name)] => some (.methodDescriptor type name)
  | [.topo (.pyobj type)] => some (.fallback type)
  | _ => none

/-! ## Each reader reads back what its segment wrote -/

section

variable {rest : List Entry}

theorem readTopos_append (l : List ObjId) (h : ∀ o r, rest ≠ .topo (.pyobj o) :: r) :
    readTopos (topos l ++ rest) = (l, rest) := by
  induction l with
  | nil =>
    show readTopos rest = ([], rest)
    match rest, h with
    | [], _ => rfl
    | .topo (.pyobj o) :: r, h => exact absurd rfl (h o r)
    | .topo (.type _) :: _, _ => rfl
    | .hash _ :: _, _ => rfl
    | .name _ :: _, _ => rfl
    | .namedTopo _ _ :: _, _ => rfl
    | .err _ :: _, _ => rfl
  | cons o l ih =>
    show (readTopos (topos l ++ rest)).map (o :: ·) id = _
    rw [ih]
    rfl

theorem readNamed_append (l : List (CString × ObjId)) :
    readNamed (namedTopos l ++ [.hash (.seed 0)]) = (l, [.hash (.seed 0)]) := by
  induction l with
  | nil => rfl
  | cons p l ih =>
    show (readNamed (namedTopos l ++ _)).map (p :: ·) id = _
    rw [ih]
    rfl

theorem readItems_append (l : List ObjId) :
    readItems l.length (topos l ++ rest) = some (l, rest) := by
  induction l with
  | nil => rfl
  | cons o l ih =>
    show (readItems l.length (topos l ++ rest)).map _ = _
    rw [ih]
    rfl

theorem readNamedItems_append (l : List (CString × ObjId)) :
    readNamedItems l.length (namedTopos l ++ rest) = some (l, rest) := by
  induction l with
  | nil => rfl
  | cons p l ih =>
    show (readNamedItems l.length (namedTopos l ++ rest)).map _ = _
    rw [ih]
    rfl

theorem readTuple_append (l : List ObjId) : readTuple (tupleCalls l ++ rest) = some (l, rest) :=
  readItems_append l

theorem readSlot_append (s : Slot) : readSlot (s.encode ++ rest) = some (s, rest) := by
  cases s with
  | items l =>
    cases l with
    | nil => rfl
    | cons o l =>
      have h := @readItems_append rest (o :: l)
      rw [List.length_cons] at h
      simp only [Slot.encode, tupleCalls, List.length_cons, List.cons_append, readSlot, h]
  | names p ps =>
    have h := @readNamedItems_append rest (p :: ps)
    have hitems : readItems (ps.length + 1) (namedTopos (p :: ps) ++ rest) = none := rfl
    rw [List.length_cons] at h
    simp only [Slot.encode, List.cons_append, readSlot, hitems, h]
  | notDictOrTuple => simp [Slot.encode, readSlot]

theorem slot_encode_ne_topo (s : Slot) (o : ObjId) (r : List Entry) :
    s.encode ++ rest ≠ .topo (.pyobj o) :: r := by
  cases s <;> simp [Slot.encode, tupleCalls]

theorem readBases_append (bases : List ObjId) :
    readBases (topos bases ++ [.hash (.seed 0)]) = some bases := by
  rw [readBases, readTopos_append bases (by simp)]

end

theorem readClass_append (dict : ClassDict) (bases : List ObjId) :
    readClass (dict.encode ++ .hash (.seed 0) :: (topos bases ++ [.hash (.seed 0)])) =
      some (.cls dict bases) := by
  cases dict with
  | absent => simp only [ClassDict.encode, List.nil_append, readClass, readBases_append]
  | names l =>
    cases l with
    | nil =>
      have hnone : readBases (.hash (.seed 0) :: (topos bases ++ [.hash (.seed 0)])) = none := by
        cases bases <;> rfl
      simp only [ClassDict.encode, namedTopos, List.map_nil, List.length_nil, List.cons_append,
        List.nil_append, readClass, hnone, readBases_append, Option.map_some']
    | cons p l =>
      have h := @readNamedItems_append (.hash (.seed 0) :: (topos bases ++ [.hash (.seed 0)]))
        (p :: l)
      rw [List.length_cons] at h
      simp only [ClassDict.encode, List.length_cons, List.cons_append, readClass, h,
        readBases_append, Option.map_some']
  | notADict tpName =>
    simp only [ClassDict.encode, List.singleton_append, readClass, List.append_assoc,
      List.take_left, List.drop_left, if_pos, readBases_append, Option.map_some']

theorem readCode_append (co : CodeObject) :
    readCode (.hash (.seed co.coArgcount) :: .hash (.seed co.coKwonlyargcount) ::
      .hash (.seed co.coNlocals) :: .hash (.seed co.coStacksize) ::
      .hash (.seed co.coFirstlineno) :: .hash (.sha1 co.coCode) :: (tupleCalls co.coConsts ++
      (tupleCalls co.coNames ++ (tupleCalls co.coVarnames ++ (tupleCalls co.coFreevars ++
      (tupleCalls co.coCellvars ++ [.topo (.pyobj co.coName), .topo (.pyobj co.coLinetable)]))))))
      = some (.code co) := by
  simp only [readCode, readTuple_append, Option.bind_eq_bind, Option.some_bind]

theorem readFunction_append (closureSize : ℕ) (cells : List ObjId) (name code : ObjId)
    (annotations : Slot) (defaults : List ObjId) (kwdefaults : Slot)
    (globals : List (CString × ObjId)) :
    readFunction (.hash (.seed closureSize) :: (topos (cells ++ [name, code]) ++
      (annotations.encode ++ (tupleCalls defaults ++ (kwdefaults.encode ++
      .hash (.seed 1) :: (namedTopos globals ++ [.hash (.seed 0)])))))) =
      some (.function closureSize cells name code annotations defaults kwdefaults globals) := by
  simp only [readFunction, readTopos_append _ (slot_encode_ne_topo annotations), readSlot_append,
    readTuple_append, readNamed_append, List.reverse_append, List.reverse_cons, List.reverse_nil,
    List.nil_append, List.singleton_append, List.cons_append, List.reverse_reverse,
    Option.bind_eq_bind, Option.some_bind]

/-- **The serialisation of a view is read back to it.** -/
theorem decode_encode : ∀ v : View, decode v.encode = some v
  | .typeNode _ => rfl
  | .environ => rfl
  | .simpleConstant => rfl
  | .typedInstance _ => rfl
  | .canonicalModule _ => rfl
  | .named _ => rfl
  | .typedPythonType _ => rfl
  | .code co => by
    simpa only [View.encode, List.append_assoc, List.cons_append, List.singleton_append,
      List.nil_append] using readCode_append co
  | .function closureSize cells name code annotations defaults kwdefaults globals => by
    simpa only [View.encode, topos, List.map_append, List.map_cons, List.map_nil,
      List.append_assoc, List.cons_append, List.singleton_append, List.nil_append] using
      readFunction_append closureSize cells name code annotations defaults kwdefaults globals
  | .cls dict bases => by
    simpa only [View.encode, List.append_assoc, List.cons_append, List.singleton_append] using
      readClass_append dict bases
  | .methodWrapper isStatic func => by cases isStatic <;> cases func <;> rfl
  | .tuple items => by
    have h := @readTuple_append [] items
    rw [List.append_nil] at h
    show (match readTuple (tupleCalls items) with
      | some (items, []) => some (View.tuple items)
      | _ => none) = _
    rw [h]
  | .mutableContainer _ => rfl
  | .cell none => rfl
  | .cell (some _) => rfl
  | .methodDescriptor _ _ => rfl
  | .fallback _ => rfl

/-! ## Walks that make the same calls -/

/-- **Two walks that complete make the same calls exactly when their nodes show the same view**,
in any two graphs. The calls, and so the hash built from them, tell apart the rules of `walk` and
everything each rule's view holds: a function's code object, name, defaults, cells and visible
globals, the parts of a code object, a class's kept names and bases; and they tell apart nothing
else. -/
theorem walk_calls_eq_iff {rt rt' : Runtime} {x y : TypeOrPyobj}
    (hx : (rt.walk x).result = .ok ()) (hy : (rt'.walk y).result = .ok ()) :
    (rt.walk x).calls = (rt'.walk y).calls ↔ rt.nodeView x = rt'.nodeView y := by
  obtain ⟨v, hv⟩ := Runtime.nodeView_of_walk hx
  obtain ⟨w, hw⟩ := Runtime.nodeView_of_walk hy
  rw [Runtime.walk_eq_of_nodeView hv, Runtime.walk_eq_of_nodeView hw, hv, hw]
  constructor
  · intro h
    have hvw := congrArg decode h
    rw [decode_encode, decode_encode] at hvw
    rw [Option.some.inj hvw]
  · intro h
    cases h
    rfl

/-- The objects `1` and `2` of `registrySample`, known as `"os.x|y".z` and `"os.x"."y|z"`, show
the same joined name and make the same calls. -/
theorem walk_calls_eq_iff_registry :
    (Runtime.registrySample.walk (.pyobj 1)).result = .ok () ∧
      (Runtime.registrySample.walk (.pyobj 2)).result = .ok () ∧
      ((Runtime.registrySample.walk (.pyobj 1)).calls =
          (Runtime.registrySample.walk (.pyobj 2)).calls ↔
        Runtime.registrySample.nodeView (.pyobj 1) = Runtime.registrySample.nodeView (.pyobj 2)) :=
  ⟨rfl, rfl, walk_calls_eq_iff rfl rfl⟩

end TypedPython
