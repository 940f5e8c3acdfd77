import SlotUpdate.Bytes

/-!
# Variable-length integers

A 64-bit integer is written in groups of seven bits, the least significant first. Every byte but
the last has its high bit set. At most ten bytes are read, and the tenth may hold only the one bit
that is left; shorter integers may be padded with empty groups.

`size` tells how many bytes there will be before they are written. `read_write` says that reading
returns what was written and leaves what follows it, and `read_length_lt` that reading takes at
least one byte.
-/

namespace SlotUpdate.Varint

/-- The bytes of `n`, for `groups` groups at most; a number that needs more is cut off. -/
def writeGroups : (groups : Nat) → Nat → Bytes
  | 0, _ => []
  | groups + 1, n =>
    if n < 128 then [UInt8.ofNat n]
    else UInt8.ofNat (n % 128 + 128) :: writeGroups groups (n / 128)

/-- The bytes of a 64-bit integer. -/
def write (n : UInt64) : Bytes :=
  writeGroups 10 n.toNat

/-- How many bytes a 64-bit integer takes, reckoned from its highest bit. -/
def size (n : UInt64) : Nat :=
  (Nat.log2 (n.toNat ||| 1) * 9 + 73) / 64

/-- Read at most `groups` groups; the last admitted group may hold one bit only. Answers the number
and the bytes after it. -/
def readGroups : (groups : Nat) → Bytes → Option (Nat × Bytes)
  | 0, _ => none
  | _ + 1, [] => none
  | groups + 1, b :: rest =>
    if b < 128 then
      -- The last group has room for the highest bit only.
      if groups = 0 ∧ 2 ≤ b.toNat then none else some (b.toNat, rest)
    else do
      let (n, rest) ← readGroups groups rest
      return (b.toNat - 128 + 128 * n, rest)

/-- Read a 64-bit integer. Answers it and the bytes after it. -/
def read (b : Bytes) : Option (UInt64 × Bytes) :=
  (readGroups 10 b).map fun (n, rest) => (UInt64.ofNat n, rest)

/-- Reading takes at least one byte. -/
theorem readGroups_length_lt {groups n : Nat} {b rest : Bytes}
    (h : readGroups groups b = some (n, rest)) : rest.length < b.length := by
  induction groups generalizing b n with
  | zero => simp [readGroups] at h
  | succ g ih =>
    cases b with
    | nil => simp [readGroups] at h
    | cons a t =>
      simp only [readGroups] at h
      split at h
      · split at h
        · simp at h
        · simp only [Option.some.injEq, Prod.mk.injEq] at h
          simp [h.2]
      · cases hr : readGroups g t with
        | none => simp [hr] at h
        | some p =>
          obtain ⟨m, r⟩ := p
          simp only [hr, Option.bind_eq_bind, Option.bind_some, Option.pure_def,
            Option.some.injEq, Prod.mk.injEq] at h
          have := ih (h.2 ▸ hr)
          rw [List.length_cons]
          omega

/-- Reading takes at least one byte. -/
theorem read_length_lt {n : UInt64} {b rest : Bytes} (h : read b = some (n, rest)) :
    rest.length < b.length := by
  simp only [read, Option.map_eq_some_iff, Prod.mk.injEq] at h
  obtain ⟨⟨m, r⟩, hr, -, rfl⟩ := h
  exact readGroups_length_lt hr

/-- Reading the groups of a number that fits gives it back. -/
theorem readGroups_writeGroups (groups n : Nat) (tail : Bytes) (hn : n < 2 * Nat.pow 128 groups) :
    readGroups (groups + 1) (writeGroups (groups + 1) n ++ tail) = some (n, tail) := by
  induction groups generalizing n with
  | zero =>
    -- One bit is left.
    have h2 : n < 2 := by simpa using hn
    have hb : (UInt8.ofNat n).toNat = n := by rw [UInt8.toNat_ofNat']; omega
    have hlt : UInt8.ofNat n < 128 := by rw [UInt8.lt_iff_toNat_lt, hb]; simp; omega
    simp [writeGroups, readGroups, show n < 128 by omega, hlt, hb]
    omega
  | succ g ih =>
    by_cases hs : n < 128
    · have hb : (UInt8.ofNat n).toNat = n := by rw [UInt8.toNat_ofNat']; omega
      have hlt : UInt8.ofNat n < 128 := by rw [UInt8.lt_iff_toNat_lt, hb]; simpa using hs
      rw [writeGroups, if_pos hs]
      simp [readGroups, hlt, hb]
    · have hb : (UInt8.ofNat (n % 128 + 128)).toNat = n % 128 + 128 := by
        rw [UInt8.toNat_ofNat']; omega
      have hge : ¬UInt8.ofNat (n % 128 + 128) < 128 := by
        rw [UInt8.lt_iff_toNat_lt, hb]; simp
      -- What remains fits the groups that remain.
      have hq : n / 128 < 2 * Nat.pow 128 g := by
        have hn : n < 2 * (Nat.pow 128 g * 128) := hn
        omega
      rw [writeGroups, if_neg hs, List.cons_append, readGroups, if_neg hge, ih _ hq, hb]
      simp
      omega

/-- Reading returns what was written and leaves what follows it. -/
@[simp] theorem read_write (n : UInt64) (tail : Bytes) :
    read (write n ++ tail) = some (n, tail) := by
  have h : n.toNat < 2 * Nat.pow 128 9 := n.toNat_lt
  simp [read, write, readGroups_writeGroups 9 n.toNat tail h]

end SlotUpdate.Varint
