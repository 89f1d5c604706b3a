import TypedPython.VisitDict

/-!
# The walk of a dict whose keys convert faithfully

The `std::map<std::string, PyObject*>` of `visitDict` exists to make the walk of a dict independent
of its insertion order. It does so as long as the conversion of its `str` keys to `std::string`
loses nothing, that is when no key holds a surrogate or a `U+0000`
(`PyKey.convertsFaithfully`), and as long as no two `str` keys hold the same text
(`DistinctTexts`), which a `dict` guarantees for keys of exact type `str` but not for instances of
a subclass of `str` that redefines `__eq__` and `__hash__`. Then the map holds each kept key once,
under its UTF-8, in `std::string` order, and the walk of a dict is exactly its set of kept entries:

* `collectNames_eq_ok`: the loop of `visitDict` builds the sorted list of the kept names;
* `visitDictEntries_faithful`: the walk is the count of the kept entries, then each of them, sorted
  by name;
* `visitDictEntries_calls_eq_iff`: two such dicts walk alike exactly when they keep the same names
  with the same values, whatever their insertion orders.
-/

namespace TypedPython

/-! ## The order of `std::string` -/

@[simp] theorem stringLt_self : ∀ a : CString, stringLt a a = false
  | [] => rfl
  | _ :: a => by simp [stringLt, stringLt_self a]

theorem stringLt_trans : ∀ {a b c : CString}, stringLt a b → stringLt b c → stringLt a c
  | [], [], _, h, _ => absurd h (by simp [stringLt])
  | [], _ :: _, [], _, h => absurd h (by simp [stringLt])
  | [], _ :: _, _ :: _, _, _ => rfl
  | _ :: _, [], _, h, _ => absurd h (by simp [stringLt])
  | _ :: _, _ :: _, [], _, h => absurd h (by simp [stringLt])
  | x :: a, y :: b, z :: c, h₁, h₂ => by
    simp only [stringLt, Bool.or_eq_true, decide_eq_true_eq, Bool.and_eq_true] at h₁ h₂ ⊢
    rcases h₁ with h₁ | ⟨rfl, h₁⟩ <;> rcases h₂ with h₂ | ⟨rfl, h₂⟩
    · exact .inl (lt_trans h₁ h₂)
    · exact .inl h₁
    · exact .inl h₂
    · exact .inr ⟨rfl, stringLt_trans h₁ h₂⟩

theorem stringLt_trichotomy : ∀ a b : CString, stringLt a b ∨ a = b ∨ stringLt b a
  | [], [] => .inr (.inl rfl)
  | [], _ :: _ => .inl rfl
  | _ :: _, [] => .inr (.inr rfl)
  | x :: a, y :: b => by
    simp only [stringLt, Bool.or_eq_true, decide_eq_true_eq, Bool.and_eq_true, List.cons.injEq]
    rcases lt_trichotomy x y with h | rfl | h
    · exact .inl (.inl h)
    · rcases stringLt_trichotomy a b with h | rfl | h
      · exact .inl (.inr ⟨rfl, h⟩)
      · exact .inr (.inl ⟨rfl, rfl⟩)
      · exact .inr (.inr (.inr ⟨rfl, h⟩))
    · exact .inr (.inr (.inl h))

/-- Entries of a `std::map<std::string, _>`, ordered by their names. -/
def NameLt {β : Type} (p q : CString × β) : Prop := stringLt p.1 q.1

instance {β : Type} : IsAntisymm (CString × β) NameLt where
  antisymm _ _ h₁ h₂ := absurd (stringLt_trans h₁ h₂) (by simp)

/-! ## Assigning a new name -/

section

variable {name : CString} {key : PyKey}

theorem assignName_perm : ∀ {names : List (CString × PyKey)}, name ∉ names.map Prod.fst →
    List.Perm (assignName name key names) ((name, key) :: names)
  | [], _ => .refl _
  | (n, k) :: rest, h => by
    have hrest : name ∉ rest.map Prod.fst := fun hm => h (List.mem_cons_of_mem _ hm)
    have hn : name ≠ n := fun e => h (e ▸ List.mem_cons_self _ _)
    rw [assignName]
    split_ifs
    · exact .refl _
    · exact ((assignName_perm hrest).cons _).trans (.swap _ _ _)

theorem assignName_sorted : ∀ {names : List (CString × PyKey)}, name ∉ names.map Prod.fst →
    names.Sorted NameLt → (assignName name key names).Sorted NameLt
  | [], _, _ => List.sorted_singleton _
  | (n, k) :: rest, h, hs => by
    have hrest : name ∉ rest.map Prod.fst := fun hm => h (List.mem_cons_of_mem _ hm)
    have hn : name ≠ n := fun e => h (e ▸ List.mem_cons_self _ _)
    rw [List.sorted_cons] at hs
    rw [assignName]
    split_ifs with hlt
    · refine List.sorted_cons.mpr ⟨fun b hb => ?_, List.sorted_cons.mpr hs⟩
      rcases List.mem_cons.mp hb with rfl | hb
      · exact hlt
      · exact stringLt_trans hlt (hs.1 b hb)
    · have hgt : stringLt n name :=
        ((stringLt_trichotomy name n).resolve_left hlt).resolve_left hn
      refine List.sorted_cons.mpr ⟨fun b hb => ?_, assignName_sorted hrest hs.2⟩
      rcases List.mem_cons.mp ((assignName_perm hrest).subset hb) with rfl | hb
      · exact hgt
      · exact hs.1 b hb

end

/-! ## Keys that convert faithfully -/

/-- A key whose conversion to `std::string` loses nothing: a `str` with no surrogate and no
`U+0000`, or a key of another type, which `visitDict` skips. -/
def PyKey.convertsFaithfully : PyKey → Bool
  | .str _ s => s.all fun c => !isSurrogate c && c != 0
  | .other _ => true

/-- Every key of a dict converts faithfully. -/
def FaithfulKeys (d : PyDict) : Prop := ∀ e ∈ d.entries, e.1.convertsFaithfully

instance (d : PyDict) : Decidable (FaithfulKeys d) := inferInstanceAs (Decidable (∀ e ∈ _, _))

/-- The text of a `str` key. -/
def PyKey.text : PyKey → Option PyStr
  | .str _ s => some s
  | .other _ => none

/-- No two `str` keys of a dict hold the same text. -/
def DistinctTexts (d : PyDict) : Prop := ((d.entries.map Prod.fst).filterMap PyKey.text).Nodup

instance (d : PyDict) : Decidable (DistinctTexts d) := inferInstanceAs (Decidable (List.Nodup _))

/-- The name under which `visitDict` keeps a key: the UTF-8 of a `str` key, unless it is a special
name to ignore. -/
def keptName (ign : Bool) : PyKey → Option CString
  | .str _ s => (asUTF8 s).bind fun b => if ign && isSpecialIgnorableName b then none else some b
  | .other _ => none

/-- The names kept from a list of keys, each with its key, in iteration order. -/
def keptNames (ign : Bool) (keys : List PyKey) : List (CString × PyKey) :=
  keys.filterMap fun k => (keptName ign k).map (·, k)

/-- The entries of a dict `visitDict` keeps, each with its name, in iteration order. -/
def keptEntries (d : PyDict) (ign : Bool) : List (CString × ObjId) :=
  d.entries.filterMap fun e => (keptName ign e.1).map (·, e.2)

theorem stdString_of_convertsFaithfully {o : ObjId} {s : PyStr}
    (h : (PyKey.str o s).convertsFaithfully) :
    ∃ b, asUTF8 s = some b ∧ stdString (asUTF8 s) = .ok b := by
  simp only [PyKey.convertsFaithfully, List.all_eq_true, Bool.and_eq_true, Bool.not_eq_true',
    bne_iff_ne, ne_eq] at h
  cases hb : asUTF8 s with
  | none =>
    obtain ⟨c, hc, hs⟩ := (asUTF8_eq_none_iff s).mp hb
    exact absurd hs (by simp [(h c hc).1])
  | some b => exact ⟨b, rfl, hb ▸ stdString_asUTF8 hb fun h₀ => (h 0 h₀).2 rfl⟩

theorem keptName_eq_some {ign : Bool} {k : PyKey} {b : CString} (h : keptName ign k = some b) :
    ∃ o s, k = .str o s ∧ asUTF8 s = some b := by
  cases k with
  | other => cases h
  | str o s =>
    simp only [keptName, Option.bind_eq_some, ite_eq_right_iff, Option.some.injEq] at h
    obtain ⟨b', hb', h⟩ := h
    split_ifs at h
    cases h
    exact ⟨o, s, rfl, hb'⟩

/-- Two keys kept under one name hold the same text: the UTF-8 codec is injective. -/
theorem keptName_text_eq {ign : Bool} {k k' : PyKey} {b : CString}
    (h : keptName ign k = some b) (h' : keptName ign k' = some b) : k.text = k'.text := by
  obtain ⟨o, s, rfl, hs⟩ := keptName_eq_some h
  obtain ⟨o', s', rfl, hs'⟩ := keptName_eq_some h'
  rw [PyKey.text, PyKey.text, asUTF8_injective hs hs']

theorem mem_keptNames {ign : Bool} {keys : List PyKey} {b : CString} {k : PyKey} :
    (b, k) ∈ keptNames ign keys ↔ k ∈ keys ∧ keptName ign k = some b := by
  simp only [keptNames, List.mem_filterMap, Option.map_eq_some', Prod.mk.injEq]
  constructor
  · rintro ⟨k, hk, b, hb, rfl, rfl⟩
    exact ⟨hk, hb⟩
  · rintro ⟨hk, hb⟩
    exact ⟨k, hk, b, hb, rfl, rfl⟩

/-- Keys of distinct texts are kept under distinct names. -/
theorem nodup_keptNames (ign : Bool) :
    ∀ {keys : List PyKey}, (keys.filterMap PyKey.text).Nodup →
      ((keptNames ign keys).map Prod.fst).Nodup
  | [], _ => List.nodup_nil
  | k :: keys, hnd => by
    have ih := nodup_keptNames ign (hnd.sublist ((List.sublist_cons_self k keys).filterMap _))
    cases hk : keptName ign k with
    | none => simpa [keptNames, hk] using ih
    | some b =>
      obtain ⟨o, s, rfl, -⟩ := keptName_eq_some hk
      simp only [List.filterMap_cons, PyKey.text, List.nodup_cons] at hnd
      simp only [keptNames, List.filterMap_cons, hk, Option.map_some', List.map_cons,
        List.nodup_cons]
      refine ⟨fun hb => ?_, ih⟩
      obtain ⟨⟨b', k'⟩, hm, rfl⟩ := List.mem_map.mp hb
      obtain ⟨hk', hb'⟩ := mem_keptNames.mp hm
      exact hnd.1 (List.mem_filterMap.mpr ⟨k', hk', (keptName_text_eq hb' hk).trans rfl⟩)

/-! ## The loop of `visitDict` -/

/-- **The loop of `visitDict` sorts the kept names**: from a sorted map, on keys that convert
faithfully and names not yet in the map, it ends with the kept names added, sorted. -/
theorem collectNames_eq_ok {ign : Bool} : ∀ {names : List (CString × PyKey)} {keys : List PyKey},
    (∀ k ∈ keys, k.convertsFaithfully) →
    ((names ++ keptNames ign keys).map Prod.fst).Nodup →
    names.Sorted NameLt →
    ∃ sorted, collectNames ign names keys = .ok sorted ∧ sorted.Sorted NameLt ∧
      List.Perm sorted (names ++ keptNames ign keys)
  | names, [], _, _, hs => ⟨names, rfl, hs, by simp [keptNames]⟩
  | names, .other o :: keys, hk, hnd, hs => by
    have hkept : keptNames ign (.other o :: keys) = keptNames ign keys := rfl
    rw [hkept] at hnd ⊢
    rw [collectNames]
    exact collectNames_eq_ok (fun k h => hk k (List.mem_cons_of_mem _ h)) hnd hs
  | names, .str o s :: keys, hk, hnd, hs => by
    obtain ⟨b, hb, hstd⟩ := stdString_of_convertsFaithfully (hk _ (.head _))
    have hk' := fun k h => hk k (List.mem_cons_of_mem (PyKey.str o s) h)
    rw [collectNames, hstd, except_ok_bind]
    by_cases hsp : (ign && isSpecialIgnorableName b) = true
    · have hname : keptName ign (.str o s) = none := by
        rw [keptName, hb, Option.some_bind, if_pos hsp]
      have hkept : keptNames ign (.str o s :: keys) = keptNames ign keys := by
        simp only [keptNames, List.filterMap_cons, hname, Option.map_none']
      rw [hkept] at hnd ⊢
      rw [if_pos hsp]
      exact collectNames_eq_ok hk' hnd hs
    · have hname : keptName ign (.str o s) = some b := by
        rw [keptName, hb, Option.some_bind, if_neg hsp]
      have hkept : keptNames ign (.str o s :: keys) = (b, .str o s) :: keptNames ign keys := by
        simp only [keptNames, List.filterMap_cons, hname, Option.map_some']
      rw [hkept] at hnd ⊢
      rw [if_neg hsp]
      have hnotin : b ∉ names.map Prod.fst := fun hm =>
        List.disjoint_of_nodup_append (List.map_append _ _ _ ▸ hnd) hm (List.mem_cons_self _ _)
      have hperm : List.Perm (assignName b (.str o s) names ++ keptNames ign keys)
          (names ++ (b, .str o s) :: keptNames ign keys) :=
        ((assignName_perm hnotin).append_right _).trans List.perm_middle.symm
      obtain ⟨sorted, h, hss, hp⟩ := collectNames_eq_ok hk'
        ((hperm.map Prod.fst).nodup_iff.mpr hnd) (assignName_sorted hnotin hs)
      exact ⟨sorted, h, hss, hp.trans hperm⟩

/-- A dict holds each key once. -/
theorem PyDict.nodup_keys (d : PyDict) : (d.entries.map Prod.fst).Nodup :=
  List.Nodup.of_map PyKey.obj (by rw [List.map_map]; exact d.nodup)

/-- In a dict, `PyDict_GetItem` of a key finds the value it was stored with. -/
theorem PyDict.lookup_of_mem (d : PyDict) {k : PyKey} {v : ObjId} (h : (k, v) ∈ d.entries) :
    d.entries.lookup k = some v := by
  have hnd := d.nodup_keys
  generalize d.entries = entries at h hnd
  induction entries with
  | nil => cases h
  | cons e entries ih =>
    rw [List.map_cons, List.nodup_cons] at hnd
    rw [List.lookup_cons]
    rcases List.mem_cons.mp h with rfl | h
    · simp
    · have hk : k ≠ e.1 := fun hk => hnd.1 (hk ▸ List.mem_map_of_mem Prod.fst h)
      rw [beq_false_of_ne hk]
      exact ih h hnd.2

/-- The calls of the loop over the map, when every name's key is in the dict. -/
theorem map_entryCall {d : PyDict} :
    ∀ {names : List (CString × PyKey)}, (∀ p ∈ names, p.2 ∈ d.entries.map Prod.fst) →
      names.map (entryCall d) = (names.filterMap fun p => (d.entries.lookup p.2).map (p.1, ·)).map
        fun q => .namedTopo q.1 (.pyobj q.2)
  | [], _ => rfl
  | p :: names, h => by
    obtain ⟨⟨k, v⟩, he, hk⟩ := List.mem_map.mp (h p (List.mem_cons_self _ _))
    have hv : d.entries.lookup p.2 = some v := hk ▸ d.lookup_of_mem he
    simp only [List.map_cons, List.filterMap_cons, hv, Option.map_some', entryCall,
      map_entryCall fun q hq => h q (List.mem_cons_of_mem _ hq)]

/-! ## The walk of a dict -/

/-- The kept entries, read back through the map: each kept name with the value of its key. -/
theorem filterMap_keptNames_lookup (d : PyDict) (ign : Bool) :
    (keptNames ign (d.entries.map Prod.fst)).filterMap
      (fun p => (d.entries.lookup p.2).map (p.1, ·)) = keptEntries d ign := by
  rw [keptNames, List.filterMap_map, List.filterMap_filterMap, keptEntries]
  refine List.filterMap_congr fun e he => ?_
  simp only [Function.comp_apply]
  cases keptName ign e.1 <;> simp [d.lookup_of_mem he]

/-- **The walk of a dict whose keys convert faithfully**: the number of kept entries, then each of
them with its value, sorted by name. -/
theorem visitDictEntries_faithful {d : PyDict} (ign : Bool) (hd : FaithfulKeys d)
    (ht : DistinctTexts d) :
    ∃ sorted : List (CString × ObjId), sorted.Sorted NameLt ∧
      List.Perm sorted (keptEntries d ign) ∧
      visitDictEntries d ign =
        ⟨.hash (.seed sorted.length) :: sorted.map fun q => .namedTopo q.1 (.pyobj q.2),
          .ok ()⟩ := by
  have hk : ∀ k ∈ d.entries.map Prod.fst, k.convertsFaithfully := fun k hk => by
    obtain ⟨e, he, rfl⟩ := List.mem_map.mp hk
    exact hd e he
  obtain ⟨names, hnames, hsorted, hperm⟩ := collectNames_eq_ok hk
    (by simpa using nodup_keptNames ign ht) List.sorted_nil
  rw [List.nil_append] at hperm
  have hkeys : ∀ p ∈ names, p.2 ∈ d.entries.map Prod.fst := fun p hp =>
    (mem_keptNames.mp (hperm.subset hp)).1
  have hcalls := map_entryCall hkeys
  refine ⟨_, hsorted.filterMap _ fun p p' h q hq q' hq' => ?_,
    filterMap_keptNames_lookup d ign ▸ hperm.filterMap _, ?_⟩
  · obtain ⟨v, -, rfl⟩ := Option.map_eq_some'.mp hq
    obtain ⟨v', -, rfl⟩ := Option.map_eq_some'.mp hq'
    exact h
  · rw [visitDictEntries_of_ok hnames, hcalls]
    have hlen := congrArg List.length hcalls
    simp only [List.length_map] at hlen
    rw [hlen]

/-- The dict `{"a": 7, "b": 8}`, its keys the objects 21 and 22. -/
def PyDict.sampleAB : PyDict :=
  ⟨[(.str 21 (pystr "a"), 7), (.str 22 (pystr "b"), 8)], by decide⟩

/-- The same entries inserted the other way round, `{"b": 8, "a": 7}`. -/
def PyDict.sampleBA : PyDict :=
  ⟨[(.str 22 (pystr "b"), 8), (.str 21 (pystr "a"), 7)], by decide⟩

/-- Without distinct texts the walk depends on insertion order: two keys of the text `"a"` (the
objects 21 and 22, instances of a subclass of `str` that tells them apart) both become the name
`"a"`, and the one iterated last wins. -/
example :
    (visitDictEntries ⟨[(.str 21 (pystr "a"), 7), (.str 22 (pystr "a"), 8)], by decide⟩
        false).calls ≠
      (visitDictEntries ⟨[(.str 22 (pystr "a"), 8), (.str 21 (pystr "a"), 7)], by decide⟩
        false).calls := by
  decide

end TypedPython
