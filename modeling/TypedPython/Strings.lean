import Mathlib.Data.Fin.Basic
import Mathlib.Data.List.Basic

/-!
# Python strings and the C strings made from them

The walker reads every Python `str` it needs (dict keys, module and class names) through
`PyUnicode_AsUTF8` and keeps the result in a `std::string`. Both steps lose information:

* `asUTF8`, CPython's strict UTF-8 codec, returns `NULL` on a `str` holding a surrogate code point
  (`asUTF8_eq_none_iff`), and `stdString`, the constructor of `std::string` from `const char*`,
  raises on `NULL`;
* `stdString` keeps only the bytes before the first NUL, so two `str`s that agree up to an embedded
  `U+0000` give one `std::string` (`stdString_asUTF8_append_zero`).

On a `str` with neither, the composite is the UTF-8 encoding itself (`stdString_asUTF8`), and that
encoding is injective (`asUTF8_injective`): `decodeChar` reads one code point back off the front of
any byte string (`decodeChar_encodeChar`).
-/

namespace TypedPython

/-- A byte of a C string; `std::string` compares its bytes as `unsigned char`. -/
abbrev Byte := Fin 256

/-- The bytes of a `std::string`. -/
abbrev CString := List Byte

/-- A code point of a Python `str`: any value below `0x110000`, surrogates included. -/
abbrev PyChar := Fin 0x110000

/-- A Python `str`, as its code points. -/
abbrev PyStr := List PyChar

/-- The C string of a literal of the source (all of them are ASCII). -/
def cstr (s : String) : CString := s.toList.map fun c => Fin.ofNat' 256 c.toNat

/-- The `str` of a literal of the source. -/
def pystr (s : String) : PyStr := s.toList.map fun c => Fin.ofNat' 0x110000 c.toNat

/-- What the modelled C++ code can raise. -/
inductive Raised
  /-- A `std::string` built from the `NULL` a failed `PyUnicode_AsUTF8` returned (libstdc++
  throws `std::logic_error`; the standard leaves it undefined): the walk does not complete. -/
  | nullString
  /-- A `std::runtime_error` and its message. -/
  | runtimeError (msg : CString)
  deriving DecidableEq

@[simp] theorem except_ok_bind {ε α β : Type} (a : α) (f : α → Except ε β) :
    (Except.ok a >>= f) = f a := rfl

@[simp] theorem except_error_bind {ε α β : Type} (e : ε) (f : α → Except ε β) :
    (Except.error e >>= f) = .error e := rfl

theorem except_bind_eq_ok {ε α β : Type} {x : Except ε α} {f : α → Except ε β} {b : β} :
    x >>= f = .ok b ↔ ∃ a, x = .ok a ∧ f a = .ok b := by
  cases x <;> simp

/-! ## The UTF-8 codec -/

/-- Whether a code point is a surrogate, which the strict UTF-8 codec refuses. -/
def isSurrogate (c : PyChar) : Bool := 0xD800 ≤ c.val && c.val < 0xE000

/-- One code point in CPython's strict UTF-8 codec: one to four bytes, none for a surrogate. -/
def encodeChar : PyChar → Option CString
  | ⟨n, _⟩ =>
    if n < 0x80 then some [Fin.ofNat' 256 n]
    else if n < 0x800 then some [Fin.ofNat' 256 (0xC0 + n / 64), Fin.ofNat' 256 (0x80 + n % 64)]
    else if n < 0x10000 then
      if 0xD800 ≤ n ∧ n < 0xE000 then none
      else some [Fin.ofNat' 256 (0xE0 + n / 4096), Fin.ofNat' 256 (0x80 + n / 64 % 64),
        Fin.ofNat' 256 (0x80 + n % 64)]
    else some [Fin.ofNat' 256 (0xF0 + n / 262144), Fin.ofNat' 256 (0x80 + n / 4096 % 64),
      Fin.ofNat' 256 (0x80 + n / 64 % 64), Fin.ofNat' 256 (0x80 + n % 64)]

/-- `PyUnicode_AsUTF8`: the UTF-8 bytes of a `str`, or `NULL` (`none`) when the codec fails. -/
def asUTF8 : PyStr → Option CString
  | [] => some []
  | c :: s => (encodeChar c).bind fun b => (asUTF8 s).map (b ++ ·)

/-- `std::string(p)` for the `const char*` `p` of `PyUnicode_AsUTF8`: the bytes before the first
NUL, and a raise on `NULL`. -/
def stdString : Option CString → Except Raised CString
  | none => .error .nullString
  | some bytes => .ok (bytes.takeWhile (· != 0))

/-- One UTF-8 sequence read off the front of a byte string: its code point value and the rest. -/
def decodeChar : CString → Option (ℕ × CString)
  | [] => none
  | b₀ :: rest =>
    if b₀.val < 0x80 then some (b₀.val, rest)
    else if b₀.val < 0xE0 then
      match rest with
      | b₁ :: rest => some (b₀.val % 32 * 64 + b₁.val % 64, rest)
      | [] => none
    else if b₀.val < 0xF0 then
      match rest with
      | b₁ :: b₂ :: rest =>
        some (b₀.val % 16 * 4096 + b₁.val % 64 * 64 + b₂.val % 64, rest)
      | _ => none
    else
      match rest with
      | b₁ :: b₂ :: b₃ :: rest =>
        some (b₀.val % 8 * 262144 + b₁.val % 64 * 4096 + b₂.val % 64 * 64 + b₃.val % 64,
          rest)
      | _ => none

@[simp] theorem asUTF8_nil : asUTF8 [] = some [] := rfl

theorem asUTF8_cons (c : PyChar) (s : PyStr) :
    asUTF8 (c :: s) = (encodeChar c).bind fun b => (asUTF8 s).map (b ++ ·) := rfl

theorem asUTF8_cons_eq_some {c : PyChar} {s : PyStr} {b : CString} :
    asUTF8 (c :: s) = some b ↔ ∃ bc, encodeChar c = some bc ∧ ∃ bs, asUTF8 s = some bs ∧
      bc ++ bs = b := by
  simp [asUTF8_cons, Option.bind_eq_some]

theorem asUTF8_append (s t : PyStr) :
    asUTF8 (s ++ t) = (asUTF8 s).bind fun a => (asUTF8 t).map (a ++ ·) := by
  induction s with
  | nil => simp
  | cons c s ih =>
    simp only [List.cons_append, asUTF8_cons, ih]
    cases encodeChar c <;> cases asUTF8 s <;> cases asUTF8 t <;> simp

theorem encodeChar_eq_none_iff (c : PyChar) : encodeChar c = none ↔ isSurrogate c = true := by
  obtain ⟨n, hn⟩ := c
  simp only [encodeChar, isSurrogate]
  split_ifs <;> simp <;> omega

theorem asUTF8_eq_none_iff (s : PyStr) : asUTF8 s = none ↔ ∃ c ∈ s, isSurrogate c = true := by
  induction s with
  | nil => simp
  | cons c s ih =>
    simp only [List.mem_cons, exists_eq_or_imp]
    rw [← ih, ← encodeChar_eq_none_iff, asUTF8_cons]
    cases encodeChar c <;> cases asUTF8 s <;> simp

theorem val_ofNat'_of_lt {x : ℕ} (h : x < 256) : (Fin.ofNat' 256 x).val = x := by
  simp only [Fin.val_ofNat', Nat.mod_eq_of_lt h]

/-- A continuation byte `0x80 + x` carries `x % 64`. -/
theorem continuation_mod (x : ℕ) : (0x80 + x) % 64 = x % 64 := by
  rw [show 0x80 + x = x + 2 * 64 by omega, Nat.add_mul_mod_self_right]

theorem utf8_two {n : ℕ} (h : n < 0x800) :
    (0xC0 + n / 64) % 32 * 64 + (0x80 + n % 64) % 64 = n := by
  rw [show (0xC0 + n / 64) % 32 = n / 64 by omega, continuation_mod, Nat.mod_mod]
  exact Nat.div_add_mod' n 64

theorem utf8_three {n : ℕ} (h : n < 0x10000) :
    (0xE0 + n / 4096) % 16 * 4096 + (0x80 + n / 64 % 64) % 64 * 64 + (0x80 + n % 64) % 64 = n := by
  rw [show (0xE0 + n / 4096) % 16 = n / 4096 by omega, continuation_mod, continuation_mod,
    Nat.mod_mod, Nat.mod_mod]
  have e₁ := Nat.div_add_mod n 64
  have e₂ := Nat.div_add_mod (n / 64) 64
  rw [Nat.div_div_eq_div_mul] at e₂
  omega

theorem utf8_four {n : ℕ} (h : n < 0x110000) :
    (0xF0 + n / 262144) % 8 * 262144 + (0x80 + n / 4096 % 64) % 64 * 4096 +
      (0x80 + n / 64 % 64) % 64 * 64 + (0x80 + n % 64) % 64 = n := by
  rw [show (0xF0 + n / 262144) % 8 = n / 262144 by omega, continuation_mod, continuation_mod,
    continuation_mod, Nat.mod_mod, Nat.mod_mod, Nat.mod_mod]
  have e₁ := Nat.div_add_mod n 64
  have e₂ := Nat.div_add_mod (n / 64) 64
  have e₃ := Nat.div_add_mod (n / 4096) 64
  rw [Nat.div_div_eq_div_mul] at e₂ e₃
  omega

/-- What `encodeChar` returns on a code point it encodes: one byte below `0x80`, two below
`0x800`, three below `0x10000`, four above. -/
theorem encodeChar_eq_some {c : PyChar} {b : CString} (h : encodeChar c = some b) :
    (c.val < 0x80 ∧ b = [Fin.ofNat' 256 c.val]) ∨
    (0x80 ≤ c.val ∧ c.val < 0x800 ∧
      b = [Fin.ofNat' 256 (0xC0 + c.val / 64), Fin.ofNat' 256 (0x80 + c.val % 64)]) ∨
    (0x800 ≤ c.val ∧ c.val < 0x10000 ∧
      b = [Fin.ofNat' 256 (0xE0 + c.val / 4096), Fin.ofNat' 256 (0x80 + c.val / 64 % 64),
        Fin.ofNat' 256 (0x80 + c.val % 64)]) ∨
    (0x10000 ≤ c.val ∧
      b = [Fin.ofNat' 256 (0xF0 + c.val / 262144), Fin.ofNat' 256 (0x80 + c.val / 4096 % 64),
        Fin.ofNat' 256 (0x80 + c.val / 64 % 64), Fin.ofNat' 256 (0x80 + c.val % 64)]) := by
  obtain ⟨n, hn⟩ := c
  simp only [encodeChar] at h
  split_ifs at h with h₁ h₂ h₃ <;> cases h
  · exact .inl ⟨h₁, rfl⟩
  · exact .inr (.inl ⟨Nat.le_of_not_lt h₁, h₂, rfl⟩)
  · exact .inr (.inr (.inl ⟨Nat.le_of_not_lt h₂, h₃, rfl⟩))
  · exact .inr (.inr (.inr ⟨Nat.le_of_not_lt h₃, rfl⟩))

/-- The decoder reads one encoded code point off the front of any byte string. -/
theorem decodeChar_encodeChar {c : PyChar} {b : CString} (h : encodeChar c = some b)
    (rest : CString) : decodeChar (b ++ rest) = some (c.val, rest) := by
  rcases encodeChar_eq_some h with
      ⟨h₁, rfl⟩ | ⟨h₁, h₂, rfl⟩ | ⟨h₁, h₂, rfl⟩ | ⟨h₁, rfl⟩ <;>
    simp only [List.cons_append, List.nil_append, decodeChar]
  · rw [val_ofNat'_of_lt (by omega), if_pos h₁]
  · rw [val_ofNat'_of_lt (by omega), val_ofNat'_of_lt (by omega), if_neg (by omega),
      if_pos (by omega), utf8_two h₂]
  · rw [val_ofNat'_of_lt (by omega), val_ofNat'_of_lt (by omega), val_ofNat'_of_lt (by omega),
      if_neg (by omega), if_neg (by omega), if_pos (by omega), utf8_three h₂]
  · rw [val_ofNat'_of_lt (by omega), val_ofNat'_of_lt (by omega), val_ofNat'_of_lt (by omega),
      val_ofNat'_of_lt (by omega), if_neg (by omega), if_neg (by omega), if_neg (by omega),
      utf8_four c.isLt]

theorem encodeChar_ne_nil {c : PyChar} {b : CString} (h : encodeChar c = some b) : b ≠ [] := by
  rintro rfl
  simpa [decodeChar] using decodeChar_encodeChar h []

/-- **UTF-8 is injective**: two `str`s with the same bytes are the same `str`. -/
theorem asUTF8_injective : ∀ {s t : PyStr} {b : CString}, asUTF8 s = some b →
    asUTF8 t = some b → s = t
  | [], [], _, _, _ => rfl
  | [], _ :: _, _, hs, ht => by
    obtain ⟨bd, hd, bt, -, rfl⟩ := asUTF8_cons_eq_some.mp ht
    exact absurd (List.append_eq_nil.mp (Option.some.inj hs).symm).1 (encodeChar_ne_nil hd)
  | _ :: _, [], _, hs, ht => by
    obtain ⟨bc, hc, bs, -, rfl⟩ := asUTF8_cons_eq_some.mp hs
    exact absurd (List.append_eq_nil.mp (Option.some.inj ht).symm).1 (encodeChar_ne_nil hc)
  | c :: s, d :: t, _, hs, ht => by
    obtain ⟨bc, hc, bs, hs', rfl⟩ := asUTF8_cons_eq_some.mp hs
    obtain ⟨bd, hd, bt, ht', e⟩ := asUTF8_cons_eq_some.mp ht
    have key := decodeChar_encodeChar hd bt
    rw [e, decodeChar_encodeChar hc bs, Option.some.injEq, Prod.mk.injEq] at key
    obtain ⟨hcd, rfl⟩ := key
    rw [Fin.ext hcd, asUTF8_injective hs' ht']

/-! ## `std::string` from a UTF-8 buffer -/

/-- Only the code point `U+0000` encodes to a NUL byte. -/
theorem encodeChar_ne_zero {c : PyChar} {b : CString} (h : encodeChar c = some b) (hc : c ≠ 0) :
    (0 : Byte) ∉ b := by
  have hc₀ : c.val ≠ 0 := fun h₀ => hc (Fin.ext h₀)
  rcases encodeChar_eq_some h with
      ⟨h₁, rfl⟩ | ⟨h₁, h₂, rfl⟩ | ⟨h₁, h₂, rfl⟩ | ⟨h₁, rfl⟩ <;>
    simp only [List.mem_cons, List.mem_singleton, List.not_mem_nil, or_false, not_or, Fin.ext_iff,
      Fin.val_ofNat', Fin.val_zero] <;> omega

theorem asUTF8_ne_zero {s : PyStr} {b : CString} (h : asUTF8 s = some b) (hs : 0 ∉ s) :
    (0 : Byte) ∉ b := by
  induction s generalizing b with
  | nil => cases h; simp
  | cons c s ih =>
    obtain ⟨bc, hc, bs, hbs, rfl⟩ := asUTF8_cons_eq_some.mp h
    rw [List.mem_cons, not_or] at hs
    rw [List.mem_append, not_or]
    exact ⟨encodeChar_ne_zero hc (Ne.symm hs.1), ih hbs hs.2⟩

/-- On a `str` with no surrogate and no `U+0000`, the walker's `std::string` is its UTF-8. -/
theorem stdString_asUTF8 {s : PyStr} {b : CString} (h : asUTF8 s = some b) (hs : 0 ∉ s) :
    stdString (asUTF8 s) = .ok b := by
  have hb := asUTF8_ne_zero h hs
  rw [h, stdString, List.takeWhile_eq_self_iff.mpr fun x hx => by
    simpa using ne_of_mem_of_not_mem hx hb]

/-- A `str` with an embedded `U+0000` keeps only what comes before it. -/
theorem stdString_asUTF8_append_zero {s t : PyStr} {b bt : CString} (h : asUTF8 s = some b)
    (hs : 0 ∉ s) (ht : asUTF8 t = some bt) : stdString (asUTF8 (s ++ 0 :: t)) = .ok b := by
  have hb := asUTF8_ne_zero h hs
  have h₀ : asUTF8 [(0 : PyChar)] = some [0] := rfl
  rw [asUTF8_append, h, show (0 : PyChar) :: t = [0] ++ t from rfl, asUTF8_append, h₀, ht]
  show stdString (some (b ++ ([0] ++ bt))) = _
  rw [stdString, List.takeWhile_append_of_pos fun x hx => by
    simpa using ne_of_mem_of_not_mem hx hb]
  simp

end TypedPython
