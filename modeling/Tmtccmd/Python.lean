import Mathlib.Data.List.DropRight
import Mathlib.Tactic.Ring
import Mathlib.Tactic.Positivity

/-! # The Python values the three source files compute with

The source is Python; this module fixes how its runtime values are read in Lean.

* `Bytes` is a Python `bytes`/`bytearray`: the list of its bytes, index `0` first.
* `PyError` names the exceptions the modelled code can raise, among them the `OSError`s of a
  socket, told apart as far as the handlers of the source tell them apart (`OSErrorKind`);
  fallible code returns `Except PyError`.
* `structPack` and `structUnpack` are `struct.pack(fmt, v)` and `struct.unpack(fmt, b)[0]`
  for the big-endian unsigned formats of the source (`"!H"`, `"!I"`, `">H"`, `">I"`: the
  prefixes `!` and `>` name the same byte order).  `struct.pack` raises `struct.error` for a
  value outside `0 ≤ v < 256 ^ size`, `struct.unpack` for a buffer whose length is not
  exactly `size`; in between the two are inverse (`structUnpack_structPack`,
  `structPack_structUnpack`).
* `Deque` is a `collections.deque`, its items listed from the left end to the right end:
  `appendleft` adds at the left, `pop` removes at the right and raises `IndexError` on an
  empty deque. -/

namespace Tmtccmd

/-- A Python `bytes` or `bytearray` value. -/
abbrev Bytes := List UInt8

/-- The `OSError`s of a socket as the handlers tell them apart: `ConnectionRefusedError`,
`ConnectionResetError`, an `OSError` with `errno` `ENOTCONN`, and any other. -/
inductive OSErrorKind where
  | connectionRefused
  | connectionReset
  | notConnected
  | other
deriving DecidableEq, Repr

/-- The exceptions raised by the modelled code. -/
inductive PyError where
  | valueError
  | structError
  | indexError
  | typeError
  | attributeError
  | osError (kind : OSErrorKind)
deriving DecidableEq, Repr

@[simp] theorem except_pure {ε α : Type} (a : α) : (pure a : Except ε α) = .ok a := rfl

@[simp] theorem except_throw {ε α : Type} (e : ε) : (throw e : Except ε α) = .error e := rfl

@[simp] theorem except_ok_bind {ε α β : Type} (a : α) (f : α → Except ε β) :
    (Except.ok a : Except ε α) >>= f = f a := rfl

@[simp] theorem except_error_bind {ε α β : Type} (e : ε) (f : α → Except ε β) :
    (Except.error e : Except ε α) >>= f = .error e := rfl

theorem except_bind_eq_ok {ε α β : Type} {x : Except ε α} {f : α → Except ε β} {b : β} :
    x >>= f = .ok b ↔ ∃ a, x = .ok a ∧ f a = .ok b := by
  cases x <;> simp

theorem except_map_eq_ok {ε α β : Type} {x : Except ε α} {f : α → β} {b : β} :
    x.map f = .ok b ↔ ∃ a, x = .ok a ∧ f a = b := by
  cases x <;> simp [Except.map]

/-- The slice `b[i:j]`, for `i ≤ j`. -/
def slice (b : Bytes) (i j : ℕ) : Bytes := (b.drop i).take (j - i)

theorem slice_eq_of_append {l : Bytes} (a b c : Bytes) {i j : ℕ} (h : l = a ++ b ++ c) (ha : a.length = i)
    (hb : b.length = j - i) : slice l i j = b := by
  rw [slice, h, List.append_assoc, List.drop_left' ha, List.take_left' hb]

theorem take_append_slice (l : Bytes) {i j : ℕ} (hij : i ≤ j) :
    l.take i ++ slice l i j = l.take j := by
  rw [slice, ← List.take_add, Nat.add_sub_cancel' hij]

theorem length_slice {l : Bytes} {i j : ℕ} (hij : i ≤ j) (hj : j ≤ l.length) :
    (slice l i j).length = j - i := by
  simp only [slice, List.length_take, List.length_drop]
  omega

/-! ### Big-endian integers -/

/-- The `w` big-endian bytes of `v` (most significant first), `v` taken modulo `256 ^ w`. -/
def beBytes : ℕ → ℕ → Bytes
  | 0, _ => []
  | w + 1, v => beBytes w (v / 256) ++ [UInt8.ofNat (v % 256)]

/-- The value of a big-endian byte string. -/
def beValue (b : Bytes) : ℕ := b.foldl (fun acc x => acc * 256 + x.toNat) 0

@[simp] theorem length_beBytes (w v : ℕ) : (beBytes w v).length = w := by
  induction w generalizing v with
  | zero => rfl
  | succ w ih => simp [beBytes, ih]

@[simp] theorem beValue_nil : beValue [] = 0 := rfl

@[simp] theorem beValue_append_singleton (b : Bytes) (x : UInt8) :
    beValue (b ++ [x]) = beValue b * 256 + x.toNat := by
  simp [beValue, List.foldl_append]

theorem uint8_ofNat_toNat (x : UInt8) : UInt8.ofNat x.toNat = x :=
  UInt8.toNat.inj (UInt8.toNat_ofNat_of_lt x.toNat_lt_size)

theorem beValue_beBytes (w v : ℕ) : beValue (beBytes w v) = v % 256 ^ w := by
  induction w generalizing v with
  | zero => simp [beBytes, Nat.mod_one]
  | succ w ih =>
    have hlt : v % 256 < UInt8.size := Nat.mod_lt _ (by decide)
    rw [beBytes, beValue_append_singleton, ih, UInt8.toNat_ofNat_of_lt hlt, pow_succ',
      Nat.mod_mul]
    ring

theorem beBytes_beValue (b : Bytes) : beBytes b.length (beValue b) = b := by
  induction b using List.reverseRecOn with
  | nil => rfl
  | append_singleton b x ih =>
    have hx := x.toNat_lt_size
    have hdiv : (beValue b * 256 + x.toNat) / 256 = beValue b := by
      simp only [UInt8.size] at hx; omega
    have hmod : (beValue b * 256 + x.toNat) % 256 = x.toNat := by
      simp only [UInt8.size] at hx; omega
    rw [List.length_append, List.length_singleton, beBytes, beValue_append_singleton, hdiv, hmod,
      ih, uint8_ofNat_toNat]

theorem beValue_lt (b : Bytes) : beValue b < 256 ^ b.length := by
  induction b using List.reverseRecOn with
  | nil => simp
  | append_singleton b x ih =>
    have hx := x.toNat_lt_size
    simp only [UInt8.size] at hx
    rw [beValue_append_singleton, List.length_append, List.length_singleton, pow_succ]
    omega

/-! ### `struct` -/

/-- The `struct` format characters of the source: `H` (unsigned short), `I` (unsigned int). -/
inductive StructFormat where
  | H
  | I
deriving DecidableEq, Repr

/-- `struct.calcsize` of a format character. -/
def StructFormat.size : StructFormat → ℕ
  | .H => 2
  | .I => 4

/-- The integers `struct.pack` accepts for a format: `0 ≤ v < 256 ^ size`. -/
def StructFormat.Fits (fmt : StructFormat) (v : ℤ) : Prop := 0 ≤ v ∧ v < 256 ^ fmt.size

instance (fmt : StructFormat) : DecidablePred fmt.Fits := fun v =>
  inferInstanceAs (Decidable (0 ≤ v ∧ v < 256 ^ fmt.size))

theorem StructFormat.fits_H {v : ℤ} : StructFormat.H.Fits v ↔ 0 ≤ v ∧ v < 2 ^ 16 := by
  simp [Fits, size]

theorem StructFormat.fits_I {v : ℤ} : StructFormat.I.Fits v ↔ 0 ≤ v ∧ v < 2 ^ 32 := by
  simp [Fits, size]

/-- `struct.pack("!" + fmt, v)`. -/
def structPack (fmt : StructFormat) (v : ℤ) : Except PyError Bytes :=
  if fmt.Fits v then .ok (beBytes fmt.size v.toNat) else .error .structError

/-- `struct.unpack(">" + fmt, b)[0]`. -/
def structUnpack (fmt : StructFormat) (b : Bytes) : Except PyError ℤ :=
  if b.length = fmt.size then .ok (beValue b) else .error .structError

theorem structPack_eq_ok {fmt : StructFormat} {v : ℤ} (h : fmt.Fits v) :
    structPack fmt v = .ok (beBytes fmt.size v.toNat) := if_pos h

theorem structPack_eq_error {fmt : StructFormat} {v : ℤ} (h : ¬ fmt.Fits v) :
    structPack fmt v = .error .structError := if_neg h

theorem natCast_pow_size (fmt : StructFormat) : ((256 ^ fmt.size : ℕ) : ℤ) = 256 ^ fmt.size := by
  push_cast; rfl

theorem structUnpack_structPack {fmt : StructFormat} {w : ℕ} {v : ℤ} (hw : fmt.size = w)
    (h : fmt.Fits v) : structUnpack fmt (beBytes w v.toNat) = .ok v := by
  subst hw
  obtain ⟨h0, h1⟩ := h
  have hv : v.toNat < 256 ^ fmt.size := by have := natCast_pow_size fmt; omega
  simp only [structUnpack, length_beBytes, if_true, beValue_beBytes, Nat.mod_eq_of_lt hv]
  congr 1
  omega

theorem structPack_structUnpack {fmt : StructFormat} {b : Bytes} (h : b.length = fmt.size) :
    structPack fmt (beValue b) = .ok b := by
  have hlt := beValue_lt b
  rw [h] at hlt
  have := natCast_pow_size fmt
  rw [structPack_eq_ok ⟨by omega, by omega⟩, Int.toNat_natCast, ← h, beBytes_beValue]

/-! ### `collections.deque` -/

/-- A `collections.deque`, items from the left end to the right end. -/
structure Deque (α : Type) where
  items : List α
deriving DecidableEq, Repr

namespace Deque

variable {α : Type}

/-- `deque()`. -/
def empty : Deque α := ⟨[]⟩

/-- `len(d)`. -/
def len (d : Deque α) : ℕ := d.items.length

/-- `d.appendleft(x)`. -/
def appendleft (d : Deque α) (x : α) : Deque α := ⟨x :: d.items⟩

/-- `d.pop()`: the rightmost item and the rest; `IndexError` on an empty deque. -/
def pop (d : Deque α) : Except PyError (α × Deque α) :=
  match d.items.getLast? with
  | some x => .ok (x, ⟨d.items.dropLast⟩)
  | none => .error .indexError

@[simp] theorem items_empty : (empty : Deque α).items = [] := rfl

@[simp] theorem items_appendleft (d : Deque α) (x : α) : (d.appendleft x).items = x :: d.items :=
  rfl

@[simp] theorem len_appendleft (d : Deque α) (x : α) : (d.appendleft x).len = d.len + 1 := rfl

@[simp] theorem pop_mk_append_singleton (l : List α) (x : α) :
    (⟨l ++ [x]⟩ : Deque α).pop = .ok (x, ⟨l⟩) := by
  simp [pop]

theorem pop_of_ne_nil {d : Deque α} (h : d.items ≠ []) :
    d.pop = .ok (d.items.getLast h, ⟨d.items.dropLast⟩) := by
  simp [pop, List.getLast?_eq_getLast _ h]

@[simp] theorem pop_mk_nil : (⟨[]⟩ : Deque α).pop = .error .indexError := rfl

/-- A deque of length at least one has a rightmost item. -/
theorem exists_eq_append_singleton {d : Deque α} (h : 1 ≤ d.len) : ∃ l x, d = ⟨l ++ [x]⟩ := by
  obtain ⟨items⟩ := d
  rcases List.eq_nil_or_concat items with rfl | ⟨l, x, rfl⟩
  · simp [len] at h
  · exact ⟨l, x, by rw [List.concat_eq_append]⟩

theorem pop_eq_error_iff {d : Deque α} {e : PyError} :
    d.pop = .error e ↔ d.items = [] ∧ e = .indexError := by
  obtain ⟨l⟩ := d
  rcases List.eq_nil_or_concat l with rfl | ⟨l, x, rfl⟩
  · simp [eq_comm]
  · simp

/-- What `pop` returns on a non-empty deque: its rightmost item and the rest. -/
theorem pop_eq_ok_iff {d : Deque α} {x : α} {d' : Deque α} :
    d.pop = .ok (x, d') ↔ d.items = d'.items ++ [x] := by
  obtain ⟨l⟩ := d
  obtain ⟨l'⟩ := d'
  rcases List.eq_nil_or_concat l with rfl | ⟨l, y, rfl⟩
  · simp
  · rw [List.concat_eq_append, pop_mk_append_singleton]
    simp only [Except.ok.injEq, Prod.mk.injEq, mk.injEq, ← List.concat_eq_append, List.concat_inj]
    exact and_comm

end Deque

end Tmtccmd
