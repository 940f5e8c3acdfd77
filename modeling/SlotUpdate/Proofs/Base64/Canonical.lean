import Mathlib.Tactic.SplitIfs
import SlotUpdate.Base64
import SlotUpdate.Proofs.Except.Bind

/-!
# The one written form of a byte string

A text is read as base64 only if it is the written form of what is read (`decode_eq_ok_iff`). So no
two texts stand for the same bytes, and only the empty text stands for none.

The proof has two halves. Symbols that are read are those that are written for their bytes
(`encode_of_decodeGroups`), where the last group is the hard part since padding may stand in it. And
the symbols that are written are read (`decodeGroups_encode`).
-/

namespace SlotUpdate.Base64

/-! ## Symbols -/

/-- The number of a symbol is below 64, and the symbol is the one of that number. -/
theorem symbol_of_value? {b : UInt8} {n : Nat} (h : value? b = some n) : n < 64 ∧ symbol n = b := by
  have all : ∀ k < 256, ∀ n ∈ value? (UInt8.ofNat k), n < 64 ∧ symbol n = UInt8.ofNat k := by
    decide +kernel
  have hb := all b.toNat b.toNat_lt n
  rw [UInt8.ofNat_toNat] at hb
  exact hb h

/-- The symbol of a number below 64 has that number. -/
theorem value?_symbol {n : Nat} (h : n < 64) : value? (symbol n) = some n := by
  revert n
  decide

/-- Padding is the symbol of no number. -/
theorem symbol_ne_pad {n : Nat} (h : n < 64) : symbol n ≠ pad := by
  revert n
  decide

/-- A symbol is below 128. -/
theorem symbol_lt (n : Nat) : symbol n < 128 := by
  rcases Nat.lt_or_ge n 64 with h | h
  · revert n
    decide
  · unfold symbol
    rw [if_neg (by omega), if_neg (by omega), if_neg (by omega), if_neg (by omega)]
    decide

/-- A symbol is read as its number. -/
theorem readSymbol_symbol {n : Nat} (h : n < 64) (offset : Nat) :
    readSymbol offset (symbol n) = .ok n := by
  rw [readSymbol, value?_symbol h]

/-- What is read as a number is the symbol of that number. -/
theorem symbol_of_readSymbol {offset n : Nat} {b : UInt8} (h : readSymbol offset b = .ok n) :
    n < 64 ∧ symbol n = b := by
  apply symbol_of_value?
  cases hb : value? b with
  | none =>
    rw [readSymbol, hb] at h
    cases h
  | some m =>
    rw [readSymbol, hb] at h
    rw [Except.ok.inj h]

/-! ## Groups -/

/-- The number of a byte is that of its low eight bits. -/
theorem toNat_ofNat_mod (n : Nat) : (UInt8.ofNat n).toNat = n % 256 := by
  rw [UInt8.toNat_ofNat']

/-- A byte is that of every number with its low eight bits. -/
theorem ofNat_eq_of_mod {n : Nat} {b : UInt8} (h : n % 256 = b.toNat) : UInt8.ofNat n = b := by
  rw [← UInt8.toNat_inj, toNat_ofNat_mod, h]

/-- Two symbols whose last four bits are zero are written for the byte that they stand for. -/
theorem encode_of_two {s t : Nat} (hs : s < 64) (ht : t < 64) (h : (s * 64 + t) % 16 = 0) :
    encode [UInt8.ofNat ((s * 64 + t) / 16)] = [symbol s, symbol t, pad, pad] := by
  have hjoin : (s * 64 + t) / 16 % 256 * 16 = s * 64 + t := by omega
  have hfirst : (s * 64 + t) / 64 = s := by omega
  have hsecond : (s * 64 + t) % 64 = t := by omega
  simp only [encode, toNat_ofNat_mod, hjoin, hfirst, hsecond]

/-- Three symbols whose last two bits are zero are written for the bytes that they stand for. -/
theorem encode_of_three {s t u : Nat} (hs : s < 64) (ht : t < 64) (hu : u < 64)
    (h : (s * 4096 + t * 64 + u) % 4 = 0) :
    encode [UInt8.ofNat ((s * 4096 + t * 64 + u) / 1024),
        UInt8.ofNat ((s * 4096 + t * 64 + u) / 4)] =
      [symbol s, symbol t, symbol u, pad] := by
  generalize hn : s * 4096 + t * 64 + u = n at h
  have hjoin : (n / 1024 % 256 * 256 + n / 4 % 256) * 4 = n := by omega
  have hfirst : n / 4096 = s := by omega
  have hsecond : n / 64 % 64 = t := by omega
  have hthird : n % 64 = u := by omega
  simp only [encode, toNat_ofNat_mod, hjoin, hfirst, hsecond, hthird]

/-- Four symbols are written for the three bytes that they stand for. -/
theorem encode_of_four {s t u v : Nat} (hs : s < 64) (ht : t < 64) (hu : u < 64) (hv : v < 64)
    (rest : Bytes) :
    encode (UInt8.ofNat ((s * 262144 + t * 4096 + u * 64 + v) / 65536) ::
      UInt8.ofNat ((s * 262144 + t * 4096 + u * 64 + v) / 256) ::
      UInt8.ofNat (s * 262144 + t * 4096 + u * 64 + v) :: rest) =
      symbol s :: symbol t :: symbol u :: symbol v :: encode rest := by
  generalize hn : s * 262144 + t * 4096 + u * 64 + v = n
  have hfirst : n / 262144 = s := by omega
  have hsecond : n / 4096 % 64 = t := by omega
  have hthird : n / 64 % 64 = u := by omega
  have hfourth : n % 64 = v := by omega
  have hjoin : n / 65536 % 256 * 65536 + n / 256 % 256 * 256 + n % 256 = n := by
    have hbyte : n / 65536 % 256 = n / 65536 := Nat.mod_eq_of_lt (by omega)
    rw [hbyte]
    clear hn hfirst hsecond hthird hfourth
    omega
  simp only [encode, toNat_ofNat_mod, hjoin, hfirst, hsecond, hthird, hfourth]

/-! ## Reading what is written for bytes only -/

/-- The part of a last group before its padding is read symbol by symbol. -/
theorem scanLast_eq_ok {offset pads p : Nat} {symbols read : List (Nat × UInt8)} {group : Bytes}
    (h : scanLast offset symbols pads group = .ok (read, p)) :
    ∃ new : List (Nat × UInt8), read = symbols ++ new ∧
      (∀ n b, (n, b) ∈ new → n < 64 ∧ symbol n = b) ∧ pads ≤ p ∧ (0 < pads → new = []) ∧
      group = new.map Prod.snd ++ List.replicate (p - pads) pad := by
  induction group generalizing symbols pads with
  | nil =>
    cases h
    exact ⟨[], by simp, by simp, Nat.le_refl _, fun _ => rfl, by simp⟩
  | cons b rest ih =>
    rw [scanLast] at h
    split_ifs at h with hpad htwo hpads
    · -- After padding only padding is read.
      obtain ⟨new, hread, -, hle, hnil, hrest⟩ := ih h
      have hnone : new = [] := hnil (Nat.succ_pos pads)
      subst hnone
      have hp : p - pads = (p - (pads + 1)) + 1 := by omega
      refine ⟨[], hread, by simp, by omega, fun _ => rfl, ?_⟩
      rw [hp, List.replicate_succ, hpad, hrest]
      rfl
    · have hzero : pads = 0 := by omega
      subst hzero
      obtain ⟨n, hn, h⟩ := bind_eq_ok.1 h
      obtain ⟨new, hread, hnew, -, -, hrest⟩ := ih h
      refine ⟨(n, b) :: new, by rw [hread, List.append_assoc]; rfl, ?_, Nat.zero_le _, by omega, ?_⟩
      · intro n' b' hmem
        rcases List.mem_cons.1 hmem with heq | hmem
        · cases heq
          exact symbol_of_readSymbol hn
        · exact hnew n' b' hmem
      · rw [hrest]
        rfl

/-- A last group that is read is the written form of its bytes. -/
theorem encode_of_decodeLast {offset : Nat} {group bytes : Bytes} (hlen : group.length ≤ 4)
    (h : decodeLast offset group = .ok bytes) : encode bytes = group := by
  obtain ⟨⟨symbols, p⟩, hscan, h⟩ := bind_eq_ok.1 h
  obtain ⟨new, hread, hnew, -, -, hgroup⟩ := scanLast_eq_ok hscan
  rw [List.nil_append] at hread
  subst hread
  rw [Nat.sub_zero] at hgroup
  have hcount : symbols.length + p ≤ 4 := by
    rw [hgroup, List.length_append, List.length_map, List.length_replicate] at hlen
    exact hlen
  -- The number of symbols decides how much padding completes the group.
  match symbols with
  | [] => cases h
  | [_] => cases h
  | [(s, sb), (t, tb)] =>
    obtain ⟨hs, rfl⟩ := hnew s sb (by simp)
    obtain ⟨ht, rfl⟩ := hnew t tb (by simp)
    simp only [List.length_cons, List.length_nil] at h hcount
    split_ifs at h with hfour hzero
    cases h
    have hp : p = 2 := by omega
    rw [hgroup, hp]
    exact encode_of_two hs ht (by omega)
  | [(s, sb), (t, tb), (u, ub)] =>
    obtain ⟨hs, rfl⟩ := hnew s sb (by simp)
    obtain ⟨ht, rfl⟩ := hnew t tb (by simp)
    obtain ⟨hu, rfl⟩ := hnew u ub (by simp)
    simp only [List.length_cons, List.length_nil] at h hcount
    split_ifs at h with hfour hzero
    cases h
    have hp : p = 1 := by omega
    rw [hgroup, hp]
    exact encode_of_three hs ht hu (by omega)
  | (s, sb) :: (t, tb) :: (u, ub) :: (v, vb) :: more =>
    obtain ⟨hs, rfl⟩ := hnew s sb (by simp)
    obtain ⟨ht, rfl⟩ := hnew t tb (by simp)
    obtain ⟨hu, rfl⟩ := hnew u ub (by simp)
    obtain ⟨hv, rfl⟩ := hnew v vb (by simp)
    simp only [List.length_cons] at h hcount
    split_ifs at h with hfour
    cases h
    have hmore : more = [] := List.length_eq_zero_iff.1 (by omega)
    have hp : p = 0 := by omega
    rw [hgroup, hp, hmore]
    exact encode_of_four hs ht hu hv []

/-- Symbols that are read are the written form of their bytes. -/
theorem encode_of_decodeGroups {offset : Nat} {symbols bytes : Bytes}
    (h : decodeGroups offset symbols = .ok bytes) : encode bytes = symbols := by
  fun_induction decodeGroups offset symbols generalizing bytes with
  | case1 =>
    cases h
    rfl
  | case2 offset a b c d e rest ih =>
    simp only [bind_eq_ok] at h
    obtain ⟨s, ha, t, hb, u, hc, v, hd, tail, htail, h⟩ := h
    cases h
    obtain ⟨hs, rfl⟩ := symbol_of_readSymbol ha
    obtain ⟨ht, rfl⟩ := symbol_of_readSymbol hb
    obtain ⟨hu, rfl⟩ := symbol_of_readSymbol hc
    obtain ⟨hv, rfl⟩ := symbol_of_readSymbol hd
    rw [encode_of_four hs ht hu hv, ih htail]
  | case3 offset group _ hshort =>
    refine encode_of_decodeLast ?_ h
    match group with
    | [] | [_] | [_, _] | [_, _, _] | [_, _, _, _] => simp
    | a :: b :: c :: d :: e :: rest => exact absurd rfl (hshort a b c d e rest)

/-! ## Reading all that is written -/

/-- Two symbols and their padding are read. -/
theorem decodeLast_two {s t : Nat} (hs : s < 64) (ht : t < 64) (h : (s * 64 + t) % 16 = 0)
    (offset : Nat) : decodeLast offset [symbol s, symbol t, pad, pad] =
      .ok [UInt8.ofNat ((s * 64 + t) / 16)] := by
  simp [decodeLast, scanLast, readSymbol_symbol, symbol_ne_pad, hs, ht, h, bind, Except.bind]

/-- Three symbols and their padding are read. -/
theorem decodeLast_three {s t u : Nat} (hs : s < 64) (ht : t < 64) (hu : u < 64)
    (h : (s * 4096 + t * 64 + u) % 4 = 0) (offset : Nat) :
    decodeLast offset [symbol s, symbol t, symbol u, pad] =
      .ok [UInt8.ofNat ((s * 4096 + t * 64 + u) / 1024),
        UInt8.ofNat ((s * 4096 + t * 64 + u) / 4)] := by
  simp [decodeLast, scanLast, readSymbol_symbol, symbol_ne_pad, hs, ht, hu, h, bind, Except.bind]

/-- Four symbols are read. -/
theorem decodeLast_four {s t u v : Nat} (hs : s < 64) (ht : t < 64) (hu : u < 64) (hv : v < 64)
    (offset : Nat) : decodeLast offset [symbol s, symbol t, symbol u, symbol v] =
      .ok [UInt8.ofNat ((s * 262144 + t * 4096 + u * 64 + v) / 65536),
        UInt8.ofNat ((s * 262144 + t * 4096 + u * 64 + v) / 256),
        UInt8.ofNat (s * 262144 + t * 4096 + u * 64 + v)] := by
  simp [decodeLast, scanLast, readSymbol_symbol, symbol_ne_pad, hs, ht, hu, hv, bind, Except.bind]

/-- The symbols that are written for bytes are read. -/
theorem decodeGroups_encode (offset : Nat) (b : Bytes) :
    decodeGroups offset (encode b) = .ok b := by
  fun_induction encode b generalizing offset with
  | case1 => rfl
  | case2 a n =>
    have ha := a.toNat_lt
    have hjoin : n / 64 * 64 + n % 64 = n := by omega
    show decodeLast offset _ = _
    rw [decodeLast_two (by omega) (by omega) (by omega), hjoin, Nat.mul_div_cancel _ (by decide),
      UInt8.ofNat_toNat]
  | case3 a b n =>
    have ha := a.toNat_lt
    have hb := b.toNat_lt
    have hjoin : n / 4096 * 4096 + n / 64 % 64 * 64 + n % 64 = n := by omega
    have hfirst : UInt8.ofNat (n / 1024) = a := ofNat_eq_of_mod (by omega)
    have hsecond : UInt8.ofNat (n / 4) = b := ofNat_eq_of_mod (by omega)
    show decodeLast offset _ = _
    rw [decodeLast_three (by omega) (by omega) (by omega) (by omega), hjoin, hfirst, hsecond]
  | case4 a b c rest n ih =>
    have ha := a.toNat_lt
    have hb := b.toNat_lt
    have hc := c.toNat_lt
    have hjoin : n / 262144 * 262144 + n / 4096 % 64 * 4096 + n / 64 % 64 * 64 + n % 64 = n := by
      omega
    have hfirst : UInt8.ofNat (n / 65536) = a := ofNat_eq_of_mod (by omega)
    have hsecond : UInt8.ofNat (n / 256) = b := ofNat_eq_of_mod (by omega)
    have hthird : UInt8.ofNat n = c := ofNat_eq_of_mod (by omega)
    -- Whether more groups follow decides how this one is read.
    cases hrest : encode rest with
    | nil =>
      have hnil := ih offset
      rw [hrest] at hnil
      rw [← Except.ok.inj hnil]
      show decodeLast offset _ = _
      rw [decodeLast_four (by omega) (by omega) (by omega) (by omega), hjoin, hfirst, hsecond,
        hthird]
    | cons e more =>
      have htail := ih (offset + 4)
      rw [hrest] at htail
      rw [decodeGroups, readSymbol_symbol (by omega), readSymbol_symbol (by omega),
        readSymbol_symbol (by omega), readSymbol_symbol (by omega), htail]
      show Except.ok _ = _
      rw [hjoin, hfirst, hsecond, hthird]

/-- All that is written is below 128. -/
theorem lt_of_mem_encode {b : Bytes} {c : UInt8} (h : c ∈ encode b) : c < 128 := by
  have hpad : pad < 128 := by decide
  fun_induction encode b with
  | case1 => cases h
  | case2 a n =>
    simp only [List.mem_cons, List.not_mem_nil, or_false] at h
    rcases h with rfl | rfl | rfl | rfl
    · exact symbol_lt _
    · exact symbol_lt _
    · exact hpad
    · exact hpad
  | case3 a b n =>
    simp only [List.mem_cons, List.not_mem_nil, or_false] at h
    rcases h with rfl | rfl | rfl | rfl
    · exact symbol_lt _
    · exact symbol_lt _
    · exact symbol_lt _
    · exact hpad
  | case4 a b c rest n ih =>
    simp only [List.mem_cons] at h
    rcases h with rfl | rfl | rfl | rfl | h
    · exact symbol_lt _
    · exact symbol_lt _
    · exact symbol_lt _
    · exact symbol_lt _
    · exact ih h

/-- The written form of a byte string consists of whole groups. -/
theorem length_encode_mod (b : Bytes) : (encode b).length % 4 = 0 := by
  fun_induction encode b with
  | case1 => rfl
  | case2 | case3 => simp only [List.length_cons, List.length_nil]
  | case4 a b c rest n ih =>
    simp only [List.length_cons]
    omega

/-- A text that is read as base64 is the written form of what is read, and the written form of every
byte string is read. -/
theorem decode_eq_ok_iff {symbols b : Bytes} : decode symbols = .ok b ↔ symbols = encode b := by
  constructor
  · intro h
    unfold decode at h
    split at h
    · split_ifs at h with hstray
      exact (encode_of_decodeGroups h).symm
    · next hlast =>
      cases h
      rw [List.getLast?_eq_none_iff.1 hlast]
      rfl
  · rintro rfl
    unfold decode
    split
    · have hlength := length_encode_mod b
      rw [if_neg (by omega), decodeGroups_encode]
    · next hlast =>
      have hread := decodeGroups_encode 0 b
      rw [List.getLast?_eq_none_iff.1 hlast] at hread
      exact hread

/-- The empty text alone stands for no bytes. -/
theorem decode_eq_ok_nil_iff {symbols : Bytes} : decode symbols = .ok [] ↔ symbols = [] :=
  decode_eq_ok_iff

end SlotUpdate.Base64
