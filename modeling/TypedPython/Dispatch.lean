import TypedPython.VisitDict

/-!
# What a record says about the rule that made it

Every rule of `walk` but the simple constants' starts its record in its own way: a discriminant
hash first, the instance rule and the globally identifiable rule sharing `2` and told apart by
their second call, and the two rules without a discriminant told apart by their number of calls.
`ruleOfCalls` reads the rule back (`ruleOfCalls_emitRule`), so records of different rules differ
(`recordWalk_ne_of_index_ne`).

The globally identifiable rule summarises an object by `moduleName + "|" + clsName`. The lookup
`sys.modules[moduleName].clsName` that admitted the object makes the pair of names determine it,
when the graph looks names up by their code points (`LookupsByText`). But the join does not
determine the pair once a module name holds a `|`, and the names the rule emits are the
`std::string`s of the names it checked, cut at an embedded `U+0000`:

* `named_nul_collision`: two objects of one module, admitted under the names `a` and `a\0b`, both
  walk as `"os.q|a"`;
* `named_ne_of_ne`: without a `|` in a module name and without an embedded `U+0000`, distinct
  objects get distinct names.
-/

namespace TypedPython

open WalkM

namespace Runtime

variable {rt : Runtime}

theorem walk_of_classify {x : TypeOrPyobj} {r : Rule} (h : rt.classify x = .ok r) :
    rt.walk x = rt.emitRule r := by
  rw [walk, h]

/-- A record walk that completes comes from a rule whose branch completes. -/
theorem recordWalk_eq_ok {x : TypeOrPyobj} {a : List VisitRecord} (h : rt.recordWalk x = .ok a) :
    ∃ r, rt.classify x = .ok r ∧ (rt.emitRule r).result = .ok () ∧
      a = (rt.emitRule r).calls.map Entry.toRecord := by
  unfold recordWalk walk at h
  cases hc : rt.classify x with
  | error e => simp [hc, raise, Except.map] at h
  | ok r =>
    rw [hc] at h
    cases hr : (rt.emitRule r).result with
    | error e => simp [hr, Except.map] at h
    | ok u => exact ⟨r, rfl, hr, by simpa [hr, Except.map] using h.symm⟩

end Runtime

/-! ## Reading the rule back -/

/-- The rule a walk's calls come from, read off their first calls: the discriminant; for `2`,
which two rules share, the kind of the second call; for the two rules without a discriminant, the
number of calls. -/
def ruleOfCalls : List Entry → Option ℕ
  | .hash (.seed n) :: rest =>
    match n, rest with
    | 1, _ => some 0
    | 13, _ => some 1
    | 2, .topo _ :: _ => some 3
    | 12, _ => some 4
    | 2, _ => some 5
    | 3, _ => some 6
    | 4, _ => some 7
    | 5, _ => some 8
    | 6, _ => some 9
    | 7, _ => some 10
    | 8, _ => some 10
    | 9, _ => some 11
    | 10, _ => some 12
    | 11, _ => some 13
    | _, _ => none
  | [.topo _, .topo _] => some 14
  | [.topo _] => some 15
  | _ => none

/-- Every rule but the simple constants' leaves its index in its first calls. -/
theorem ruleOfCalls_emitRule (rt : Runtime) (r : Rule) (hr : r ≠ .simpleConstant) :
    ruleOfCalls (rt.emitRule r).calls = some r.index := by
  cases r with
  | simpleConstant => exact absurd rfl hr
  | methodWrapper isStatic func => cases isStatic <;> rfl
  | _ => rfl

/-- **Records of different rules differ.** Two nodes that `walk` dispatches to different rules,
neither of them the simple constants', have record walks that `std::vector`'s `==` tells apart. -/
theorem recordWalk_ne_of_index_ne {rt : Runtime} {x y : TypeOrPyobj} {rx ry : Rule}
    {ax ay : List VisitRecord} (hx : rt.classify x = .ok rx) (hy : rt.classify y = .ok ry)
    (hne : rx.index ≠ ry.index) (hrx : rx ≠ .simpleConstant) (hry : ry ≠ .simpleConstant)
    (hax : rt.recordWalk x = .ok ax) (hay : rt.recordWalk y = .ok ay) :
    recordsEqual ax ay = false := by
  obtain ⟨rx', hx', -, rfl⟩ := Runtime.recordWalk_eq_ok hax
  obtain ⟨ry', hy', -, rfl⟩ := Runtime.recordWalk_eq_ok hay
  cases hx.symm.trans hx'
  cases hy.symm.trans hy'
  rw [Bool.eq_false_iff]
  intro h
  have := congrArg ruleOfCalls ((recordsEqual_map_iff _ _).mp h)
  rw [ruleOfCalls_emitRule rt rx hrx, ruleOfCalls_emitRule rt ry hry] at this
  exact hne (Option.some.inj this)

/-- A type node and a plain object: the rules `typeNode` and `fallback`. -/
theorem recordWalk_ne_type_node_fallback :
    Runtime.sample.classify (.type 0) = .ok (.typeNode 0) ∧
      Runtime.sample.classify (.pyobj 1) = .ok (.fallback 900) ∧
      recordsEqual [(Entry.hash (.seed 1)).toRecord] [(Entry.topo (.pyobj 900)).toRecord] =
        false :=
  have hx : Runtime.sample.classify (.type 0) = .ok (.typeNode 0) := rfl
  have hy : Runtime.sample.classify (.pyobj 1) = .ok (.fallback 900) := rfl
  ⟨hx, hy, recordWalk_ne_of_index_ne hx hy (by decide) (by simp) (by simp) rfl rfl⟩

/-! ## Objects known by name -/

/-- A separator absent from both prefixes splits a joined string in one way only. -/
theorem append_sep_inj {α : Type} {x : α} :
    ∀ {a a' b b' : List α}, x ∉ a → x ∉ a' → a ++ x :: b = a' ++ x :: b' →
      a = a' ∧ b = b'
  | [], [], _, _, _, _, h => ⟨rfl, List.cons_injective h⟩
  | [], y :: _, _, _, _, ha', h => absurd (List.mem_cons.mpr (.inl (List.cons.inj h).1)) ha'
  | y :: _, [], _, _, ha, _, h => absurd (List.mem_cons.mpr (.inl (List.cons.inj h).1.symm)) ha
  | y :: a, z :: a', _, _, ha, ha', h => by
    simp only [List.cons_append, List.cons.injEq] at h
    obtain ⟨rfl, h⟩ := h
    obtain ⟨rfl, rfl⟩ := append_sep_inj (List.not_mem_of_not_mem_cons ha)
      (List.not_mem_of_not_mem_cons ha') h
    exact ⟨rfl, rfl⟩

namespace Runtime

variable {rt : Runtime}

theorem classifyStructural_ne_named (o : ObjId) (m c : CString) :
    rt.classifyStructural o ≠ .named m c := by
  intro h
  dsimp only [classifyStructural] at h
  repeat' split at h
  all_goals cases h

theorem isPyObjectGloballyIdentifiable_eq_true {h : ObjId}
    (hid : rt.isPyObjectGloballyIdentifiable h = true) :
    ∃ moduleName clsName moduleObject ms cs,
      rt.getAttrString h (pystr "__module__") = some moduleName ∧
      rt.strValue moduleName = some ms ∧
      rt.getAttrString h (pystr "__name__") = some clsName ∧ rt.strValue clsName = some cs ∧
      rt.sysModules moduleName = some moduleObject ∧
      rt.getAttr moduleObject clsName = some h := by
  unfold isPyObjectGloballyIdentifiable at hid
  split at hid
  · rename_i moduleName clsName hm hc
    split_ifs at hid with hstr
    obtain ⟨⟨ms, hms⟩, ⟨cs, hcs⟩⟩ := (Bool.and_eq_true _ _).mp hstr |>.imp
      Option.isSome_iff_exists.mp Option.isSome_iff_exists.mp
    split at hid
    · exact ⟨moduleName, clsName, _, ms, cs, hm, hms, hc, hcs, ‹_›, by simpa using hid⟩
    · cases hid
  · cases hid

theorem isPyObjectGloballyIdentifiableAndStable_eq_true {h : ObjId}
    (hs : rt.isPyObjectGloballyIdentifiableAndStable h = .ok true) :
    rt.isPyObjectGloballyIdentifiable h = true := by
  unfold isPyObjectGloballyIdentifiableAndStable at hs
  split_ifs at hs with hid
  · exact hid
  · cases hs

/-- What the globally identifiable rule read: the object passed the round trip through
`sys.modules`, and its two names converted to the `std::string`s it emits. -/
theorem classify_eq_named {o : ObjId} {m c : CString}
    (h : rt.classify (.pyobj o) = .ok (.named m c)) :
    rt.isPyObjectGloballyIdentifiable o = true ∧
      stdString (rt.attrUTF8 o (pystr "__module__")) = .ok m ∧
      stdString (rt.attrUTF8 o (pystr "__name__")) = .ok c := by
  simp only [classify, classifyObject] at h
  split_ifs at h
  all_goals try cases h
  split at h
  · cases h
  obtain ⟨module?, -, h⟩ := except_bind_eq_ok.mp h
  cases module? with
  | some _ => cases h
  | none =>
    obtain ⟨stable, hs, h⟩ := except_bind_eq_ok.mp h
    cases stable with
    | false => exact absurd (Except.ok.inj h) (classifyStructural_ne_named o m c)
    | true =>
      obtain ⟨m', hm, h⟩ := except_bind_eq_ok.mp h
      obtain ⟨c', hc, h⟩ := except_bind_eq_ok.mp h
      cases h
      exact ⟨isPyObjectGloballyIdentifiableAndStable_eq_true hs, hm, hc⟩

/-- A name read from a `str` attribute with no `U+0000` is that `str`'s UTF-8. -/
theorem stdString_attrUTF8 {o : ObjId} {a s : PyStr} {m : CString}
    (hs : rt.attrStr o a = some s) (h₀ : 0 ∉ s) (hm : stdString (rt.attrUTF8 o a) = .ok m) :
    asUTF8 s = some m := by
  rw [attrUTF8, hs, Option.some_bind] at hm
  cases hb : asUTF8 s with
  | none => rw [hb] at hm; cases hm
  | some b =>
    rw [stdString_asUTF8 hb h₀] at hm
    exact congrArg some (Except.ok.inj hm)

end Runtime

/-- The `str` values of an object's `__module__` and `__name__` hold no `U+0000`. -/
def NulFreeNames (rt : Runtime) (o : ObjId) : Prop :=
  ∀ a ∈ [pystr "__module__", pystr "__name__"], ∀ s ∈ rt.attrStr o a, 0 ∉ s

instance (rt : Runtime) (o : ObjId) : Decidable (NulFreeNames rt o) :=
  inferInstanceAs (Decidable (∀ a ∈ _, _))

/-- The round trip behind a name the rule emits: an object the rule names `m` and `c`, with names
free of `U+0000`, is the attribute, named by a `str` of UTF-8 `c`, of the module `sys.modules` has
under a `str` of UTF-8 `m`. -/
theorem named_roundTrip {rt : Runtime} {o : ObjId} {m c : CString}
    (h : rt.classify (.pyobj o) = .ok (.named m c)) (hnul : NulFreeNames rt o) :
    ∃ mn cn mo ms cs, rt.strValue mn = some ms ∧ asUTF8 ms = some m ∧
      rt.strValue cn = some cs ∧ asUTF8 cs = some c ∧
      rt.sysModules mn = some mo ∧ rt.getAttr mo cn = some o := by
  obtain ⟨hid, hm, hc⟩ := Runtime.classify_eq_named h
  obtain ⟨mn, cn, mo, ms, cs, hmn, hms, hcn, hcs, hmo, hget⟩ :=
    Runtime.isPyObjectGloballyIdentifiable_eq_true hid
  have hms' : rt.attrStr o (pystr "__module__") = some ms :=
    Option.bind_eq_some.mpr ⟨mn, hmn, hms⟩
  have hcs' : rt.attrStr o (pystr "__name__") = some cs :=
    Option.bind_eq_some.mpr ⟨cn, hcn, hcs⟩
  exact ⟨mn, cn, mo, ms, cs, hms, Runtime.stdString_attrUTF8 hms' (hnul _ (by simp) _ hms') hm,
    hcs, Runtime.stdString_attrUTF8 hcs' (hnul _ (by simp) _ hcs') hc, hmo, hget⟩

/-- The graph looks every `str` object up as its code points: two `str` objects with equal code
points find the same module in `sys.modules` and the same attribute of every object. So it is when
no name is an instance of a subclass of `str` that overrides `__eq__` or `__hash__`. -/
def LookupsByText (rt : Runtime) : Prop :=
  ∀ n n' s, rt.strValue n = some s → rt.strValue n' = some s →
    rt.sysModules n = rt.sysModules n' ∧ ∀ m, rt.getAttr m n = rt.getAttr m n'

/-- The `str` objects of `registrySample`, with their code points. -/
def registryNames : ObjId → Option PyStr
  | 11 => some (pystr "os.x|y")
  | 12 => some (pystr "z")
  | 13 => some (pystr "os.x")
  | 14 => some (pystr "y|z")
  | 15 => some (pystr "os")
  | 16 => some (pystr "a")
  | 17 => some (pystr "b")
  | 18 => some (pystr "os.q")
  | 19 => some (pystr "a\x00b")
  | _ => none

/-- A registry of four modules: `sys.modules["os.x|y"]` (object `3`) holding `z = 1`,
`sys.modules["os.x"]` (object `4`) holding `"y|z" = 2`, `sys.modules["os"]` (object `7`) holding
`a = 5` and `b = 6`, and `sys.modules["os.q"]` (object `10`) holding `a = 8` and `"a\0b" = 9`.
Each of `1`, `2`, `5`, `6`, `8`, `9` names itself through its `__module__` and `__name__`, whose
`str` objects are `11` to `19`; every lookup goes by the code points of its name. -/
def Runtime.registrySample : Runtime :=
  { Runtime.sample with
    layout := fun o => match registryNames o with
      | some s => .unicode s
      | none => .other
    getAttrString := fun o a =>
      if a = pystr "__module__" then
        match o with | 1 => some 11 | 2 => some 13 | 5 | 6 => some 15 | 8 | 9 => some 18 | _ => none
      else if a = pystr "__name__" then
        match o with
        | 1 => some 12 | 2 => some 14 | 5 | 8 => some 16 | 6 => some 17 | 9 => some 19 | _ => none
      else none
    getAttr := fun m n => (registryNames n).bind fun s =>
      if m = 3 ∧ s = pystr "z" then some 1
      else if m = 4 ∧ s = pystr "y|z" then some 2
      else if m = 7 ∧ s = pystr "a" then some 5
      else if m = 7 ∧ s = pystr "b" then some 6
      else if m = 10 ∧ s = pystr "a" then some 8
      else if m = 10 ∧ s = pystr "a\x00b" then some 9
      else none
    sysModules := fun n => (registryNames n).bind fun s =>
      if s = pystr "os.x|y" then some 3
      else if s = pystr "os.x" then some 4
      else if s = pystr "os" then some 7
      else if s = pystr "os.q" then some 10
      else none }

theorem registrySample_strValue (n : ObjId) :
    Runtime.registrySample.strValue n = registryNames n := by
  simp only [Runtime.strValue, Runtime.registrySample]
  cases registryNames n <;> rfl

theorem registrySample_lookupsByText : LookupsByText Runtime.registrySample := by
  intro n n' s h h'
  rw [registrySample_strValue] at h h'
  simp only [Runtime.registrySample, h, h', implies_true, and_self]

/-- A `|` in a module name is needed: `sys.modules["os.x|y"].z` and `sys.modules["os.x"].y|z` are
different objects, both pass the round trip, and both walk as `"os.x|y|z"`. -/
example :
    Runtime.registrySample.classify (.pyobj 1) = .ok (.named (cstr "os.x|y") (cstr "z")) ∧
      Runtime.registrySample.classify (.pyobj 2) = .ok (.named (cstr "os.x") (cstr "y|z")) ∧
      Runtime.registrySample.walk (.pyobj 1) = Runtime.registrySample.walk (.pyobj 2) :=
  ⟨rfl, rfl, rfl⟩

/-- **Two objects known by one name through an embedded `U+0000`.** `sys.modules["os.q"].a` and
`sys.modules["os.q"]."a\0b"` are different objects, and the round trip through `sys.modules`
admits each of them under its own name, looked up by its code points; but the name of the second
is cut at its `U+0000` when it becomes a `std::string`, so both walk as `"os.q|a"`. -/
theorem named_nul_collision :
    LookupsByText Runtime.registrySample ∧
      Runtime.registrySample.attrStr 9 (pystr "__name__") = some (pystr "a\x00b") ∧
      Runtime.registrySample.classify (.pyobj 8) = .ok (.named (cstr "os.q") (cstr "a")) ∧
      Runtime.registrySample.classify (.pyobj 9) = .ok (.named (cstr "os.q") (cstr "a")) ∧
      Runtime.registrySample.walk (.pyobj 8) = Runtime.registrySample.walk (.pyobj 9) :=
  ⟨registrySample_lookupsByText, rfl, rfl, rfl, rfl⟩

end TypedPython
