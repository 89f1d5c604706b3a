import TypedPython.Walk

/-!
# Walking a dictionary

`visitDictEntries` is the body of `walk`'s `visitDict` lambda once its argument is known to be a
dict: it collects the dict's `str` keys into a `std::map<std::string, PyObject*>` and emits the
count, then each name with its value, in the map's byte order. The conversion of a key to a
`std::string` decides everything here:

* the walk of a dict raises, before any call, exactly when one of its `str` keys holds a
  surrogate, and otherwise completes (`visitDictEntries_eq_raise_iff`);
* two keys that agree up to an embedded `U+0000` get one name, and the key iterated last wins
  (`visitDictEntries_nul_keys`).
-/

namespace TypedPython

open WalkM

/-! ## When the walk of a dict raises -/

theorem collectNames_eq_error {ign : Bool} {e : Raised} (names : List (CString × PyKey))
    (keys : List PyKey) (h : collectNames ign names keys = .error e) : e = .nullString := by
  induction keys generalizing names with
  | nil => cases h
  | cons k keys ih =>
    cases k with
    | other => exact ih names h
    | str o s =>
      cases hs : asUTF8 s with
      | none =>
        simp only [collectNames, hs, stdString, except_error_bind, Except.error.injEq] at h
        exact h.symm
      | some b =>
        simp only [collectNames, hs, stdString, except_ok_bind] at h
        exact ih _ h

/-- The loop of `visitDict` raises exactly when a `str` key cannot be encoded. -/
theorem collectNames_eq_error_iff (ign : Bool) (names : List (CString × PyKey))
    (keys : List PyKey) :
    collectNames ign names keys = .error .nullString ↔
      ∃ o s, PyKey.str o s ∈ keys ∧ asUTF8 s = none := by
  induction keys generalizing names with
  | nil => simp [collectNames]
  | cons k keys ih =>
    cases k with
    | other => simp [collectNames, ih]
    | str o s =>
      cases hs : asUTF8 s with
      | none => exact iff_of_true (by simp [collectNames, hs, stdString]) ⟨o, s, .head _, hs⟩
      | some b =>
        simp only [collectNames, hs, stdString, except_ok_bind, ih, List.mem_cons,
          PyKey.str.injEq]
        constructor
        · rintro ⟨o', t, ht, ht'⟩
          exact ⟨o', t, .inr ht, ht'⟩
        · rintro ⟨o', t, ⟨rfl, rfl⟩ | ht, ht'⟩
          · exact absurd (hs.symm.trans ht') (by simp)
          · exact ⟨o', t, ht, ht'⟩

/-- The call the loop of `visitDict` makes for one entry of its map: the name with the value of
its key, or an error when `PyDict_GetItem` finds none. -/
def entryCall (d : PyDict) (p : CString × PyKey) : Entry :=
  match d.entries.lookup p.2 with
  | some val => .namedTopo p.1 (.pyobj val)
  | none => .err (cstr "dict getitem empty")

theorem visitDictEntries_of_ok {d : PyDict} {ign : Bool} {names : List (CString × PyKey)}
    (h : collectNames ign [] (d.entries.map Prod.fst) = .ok names) :
    visitDictEntries d ign =
      ⟨.hash (.seed names.length) :: names.map (entryCall d), .ok ()⟩ := by
  have body : (fun p : CString × PyKey => match d.entries.lookup p.2 with
      | some val => emit (.namedTopo p.1 (.pyobj val))
      | none => emit (.err (cstr "dict getitem empty"))) = fun p => emit (entryCall d p) := by
    funext p
    unfold entryCall
    split <;> rfl
  rw [visitDictEntries, h]
  erw [bind_of_ok rfl, emit_bind, body, forM_emit]
  rfl

theorem visitDictEntries_of_error {d : PyDict} {ign : Bool} {e : Raised}
    (h : collectNames ign [] (d.entries.map Prod.fst) = .error e) :
    visitDictEntries d ign = raise e := by
  rw [visitDictEntries, h]
  exact bind_of_error rfl _

/-- The walk of a dict completes, or raises `nullString` before any call. -/
theorem visitDictEntries_result (d : PyDict) (ign : Bool) :
    (visitDictEntries d ign).result = .ok () ∨ visitDictEntries d ign = raise .nullString := by
  cases h : collectNames ign [] (d.entries.map Prod.fst) with
  | error e => exact .inr (by rw [visitDictEntries_of_error h, collectNames_eq_error _ _ h])
  | ok names => exact .inl (by rw [visitDictEntries_of_ok h])

/-- **The walk of a dict raises, before any call, exactly when one of its `str` keys holds a
surrogate**, and then with `nullString`; otherwise it completes. -/
theorem visitDictEntries_eq_raise_iff (d : PyDict) (ign : Bool) :
    (visitDictEntries d ign = raise .nullString ↔
        ∃ o s, PyKey.str o s ∈ d.entries.map Prod.fst ∧ ∃ c ∈ s, isSurrogate c = true) ∧
      ((visitDictEntries d ign).result = .ok () ↔
        ¬ ∃ o s, PyKey.str o s ∈ d.entries.map Prod.fst ∧
          ∃ c ∈ s, isSurrogate c = true) := by
  have hraise : visitDictEntries d ign = raise .nullString ↔
      ∃ o s, PyKey.str o s ∈ d.entries.map Prod.fst ∧ ∃ c ∈ s, isSurrogate c = true := by
    simp only [← asUTF8_eq_none_iff, ← collectNames_eq_error_iff ign []]
    cases h : collectNames ign [] (d.entries.map Prod.fst) with
    | error e =>
      rw [visitDictEntries_of_error h, collectNames_eq_error _ _ h]
      simp
    | ok names =>
      rw [visitDictEntries_of_ok h]
      simp [raise]
  refine ⟨hraise, ⟨fun hok h => ?_, fun hno => ?_⟩⟩
  · rw [hraise.mpr h] at hok
    cases hok
  · exact (visitDictEntries_result d ign).resolve_right fun h => hno (hraise.mp h)

/-- A dict whose only key is a lone surrogate, as `setattr(cls, "\ud800", v)` leaves in a class
dict: its walk raises, whichever `ignoreSpecialNames`. -/
theorem visitDictEntries_surrogate_key (ign : Bool) :
    visitDictEntries ⟨[(.str 21 [0xD800], 7)], by decide⟩ ign = raise .nullString := by
  cases ign <;> rfl

/-! ## Keys with an embedded NUL -/

/-- The keys `"a\0b"` and `"a\0c"` share one name `"a"`: two dicts with different keys walk
alike, and a dict holding both walks differently in its two insertion orders. -/
theorem visitDictEntries_nul_keys (ign : Bool) :
    visitDictEntries ⟨[(.str 21 (pystr "a\x00b"), 7)], by decide⟩ ign =
        visitDictEntries ⟨[(.str 22 (pystr "a\x00c"), 7)], by decide⟩ ign ∧
      (visitDictEntries
          ⟨[(.str 21 (pystr "a\x00b"), 7), (.str 22 (pystr "a\x00c"), 8)], by decide⟩
          ign).calls ≠
        (visitDictEntries
          ⟨[(.str 22 (pystr "a\x00c"), 8), (.str 21 (pystr "a\x00b"), 7)], by decide⟩
          ign).calls := by
  cases ign <;> exact ⟨rfl, by decide⟩

/-! ## Short special names -/

/-- With `ignoreSpecialNames` set, as for a class dict, the names `"__"`, `"___"` and `"____"`
are all left out. -/
theorem visitDictEntries_short_dunders :
    visitDictEntries ⟨[(.str 21 (pystr "__"), 7), (.str 22 (pystr "___"), 8),
      (.str 23 (pystr "____"), 9)], by decide⟩ true = ⟨[.hash (.seed 0)], .ok ()⟩ := rfl

end TypedPython
