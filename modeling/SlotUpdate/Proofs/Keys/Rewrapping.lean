import SlotUpdate.Keys.Load
import SlotUpdate.Proofs.List.Pieces

/-!
# Rewrapping certificates

`Wraps certificates lines` says that lines hold certificates one after the other, in any wrapping:
the base64 text between the first and the last line of each is cut anywhere (`Cut`), any line may
end in blanks, and other lines may stand outside. `rewrap` gives the same file for all of these, the
one with lines of the right width (`rewrap_of_wraps`). That file holds the certificates as well
(`wraps_strictLines`), and so rewrapping it changes nothing.

`rewrap` fails for one reason only, whatever the file holds: the last line that starts with a marker
begins a certificate (`rewrap_eq_none_iff`).
-/

namespace SlotUpdate.Pem

variable {symbols held text piece line file : Bytes} {lines : List Bytes} {rest : List Line}
  {inside : Bool}

/-! ## Symbols and markers -/

/-- A byte may stand in a base64 text. -/
def IsSymbol (b : UInt8) : Prop := (Base64.value? b).isSome ∨ b = Base64.pad

/-- A symbol is neither a blank nor a dash. -/
theorem IsSymbol.plain {b : UInt8} (h : IsSymbol b) : isAsciiBlank b = false ∧ b ≠ 45 := by
  have all : ∀ k < 256, (Base64.value? (UInt8.ofNat k)).isSome ∨ UInt8.ofNat k = Base64.pad →
      isAsciiBlank (UInt8.ofNat k) = false ∧ UInt8.ofNat k ≠ 45 := by
    decide +kernel
  have hb := all b.toNat b.toNat_lt
  rw [UInt8.ofNat_toNat] at hb
  exact hb h

/-- A line starts with a marker. -/
def IsMarked (line : Bytes) : Prop := certificateBegin <+: line ∨ certificateEnd <+: line

/-- The empty line has no marker. -/
theorem IsMarked.ne_nil (h : IsMarked line) : line ≠ [] := by
  rintro rfl
  rcases h with h | h
  · exact absurd (List.prefix_nil.mp h) (by decide)
  · exact absurd (List.prefix_nil.mp h) (by decide)

/-- A line is a text and blanks. The text does not end in a blank. -/
def HasText (line text : Bytes) : Prop := Trimmed isAsciiBlank line text

/-- No line starts with both markers. -/
theorem not_both (hbegins : certificateBegin <+: line) : ¬certificateEnd <+: line := by
  intro hends
  rcases List.prefix_or_prefix_of_prefix hbegins hends with h | h
  · revert h
    decide
  · revert h
    decide

/-- No marker ends in a blank, so it is seen in the text of a line. -/
theorem HasText.marker_iff {marker : Bytes} (h : HasText line text)
    (hmarker : marker = certificateBegin ∨ marker = certificateEnd) :
    marker <+: line ↔ marker <+: text := by
  refine Trimmed.starts_iff h ?_
  rcases hmarker with rfl | rfl
  · decide +kernel
  · decide +kernel

/-- A line is marked as its text is. -/
theorem HasText.isMarked_iff (h : HasText line text) : IsMarked line ↔ IsMarked text :=
  or_congr (h.marker_iff (Or.inl rfl)) (h.marker_iff (Or.inr rfl))

/-- Every line has a text. -/
theorem exists_hasText (line : Bytes) : ∃ text, HasText line text :=
  ⟨_, trimmed_rdropWhile isAsciiBlank line⟩

/-- A text is the text of its line. -/
theorem trimLine_of_hasText (h : HasText line text) : trimLine line = text := trimmed_iff.mp h

/-! ## Kinds of lines -/

/-- A line that starts with the first marker begins a certificate. -/
theorem ofBytes_begins (h : HasText line text) (hmarker : certificateBegin <+: text) :
    Line.ofBytes line = .begins text := by
  have hne : text ≠ [] := IsMarked.ne_nil (Or.inl hmarker)
  rw [Line.ofBytes, trimLine_of_hasText h]
  simp only [if_neg hne, if_pos (List.isPrefixOf_iff_prefix.mpr hmarker)]

/-- A line that starts with the last marker ends a certificate. -/
theorem ofBytes_ends (h : HasText line text) (hmarker : certificateEnd <+: text) :
    Line.ofBytes line = .ends text := by
  have hne : text ≠ [] := IsMarked.ne_nil (Or.inr hmarker)
  have hbegins : ¬certificateBegin.isPrefixOf text = true := fun hbegins =>
    not_both (List.isPrefixOf_iff_prefix.mp hbegins) hmarker
  rw [Line.ofBytes, trimLine_of_hasText h]
  simp only [if_neg hne, if_neg hbegins, if_pos (List.isPrefixOf_iff_prefix.mpr hmarker)]

/-- A line without a marker is blank or holds a text. -/
theorem ofBytes_of_not_isMarked (h : HasText line text) (hmarker : ¬IsMarked text) :
    Line.ofBytes line = if text = [] then .blank else .other text := by
  have hbegins : ¬certificateBegin.isPrefixOf text = true := fun hbegins =>
    hmarker (Or.inl (List.isPrefixOf_iff_prefix.mp hbegins))
  have hends : ¬certificateEnd.isPrefixOf text = true := fun hends =>
    hmarker (Or.inr (List.isPrefixOf_iff_prefix.mp hends))
  rw [Line.ofBytes, trimLine_of_hasText h]
  simp only [if_neg hbegins, if_neg hends]

/-! ## One line -/

/-- What a line without a marker adds to the text that is held. -/
theorem rewrapLines_unmarked (h : HasText line text) (hmarker : ¬IsMarked text) :
    rewrapLines held inside (Line.ofBytes line :: rest) =
      rewrapLines (if inside then held ++ text else held) inside rest := by
  rw [ofBytes_of_not_isMarked h hmarker]
  split
  case isTrue hnil =>
    subst hnil
    rw [rewrapLines, List.append_nil, ite_self]
  case isFalse => rw [rewrapLines]

/-- A line that begins a certificate is kept, and so is the text that is held. -/
theorem rewrapLines_begins (h : HasText line text) (hmarker : certificateBegin <+: text) :
    rewrapLines held inside (Line.ofBytes line :: rest) =
      (rewrapLines held true rest).map ((text ++ [newline]) ++ ·) := by
  rw [ofBytes_begins h hmarker, rewrapLines]

/-- A line that ends a certificate is put after the text that is held. -/
theorem rewrapLines_ends (h : HasText line text) (hmarker : certificateEnd <+: text) :
    rewrapLines held inside (Line.ofBytes line :: rest) =
      (rewrapLines [] false rest).map ((wrap held ++ text ++ [newline]) ++ ·) := by
  rw [ofBytes_ends h hmarker, rewrapLines]

/-! ## Certificates in any wrapping -/

/-- A text is cut into pieces, each on a line of its own. A piece may be empty, and blanks may
follow it on its line. -/
inductive Cut : Bytes → List Bytes → Prop where
  /-- The empty text needs no lines. -/
  | nil : Cut [] []
  /-- A piece on its line, and the others. -/
  | cons {piece symbols line : Bytes} {lines : List Bytes} (first : HasText line piece)
    (others : Cut symbols lines) : Cut (piece ++ symbols) (line :: lines)

/-- A certificate in an armoured file. -/
structure Certificate where
  /-- The text of the line that begins it. -/
  first : Bytes
  /-- The base64 text. -/
  symbols : Bytes
  /-- The text of the line that ends it. -/
  last : Bytes
  /-- The first line starts with its marker. -/
  begins : certificateBegin <+: first
  /-- The last line starts with its marker. -/
  ends : certificateEnd <+: last
  /-- All of the text is base64. -/
  are_symbols : ∀ b ∈ symbols, IsSymbol b
  /-- Neither text ends in a blank. -/
  trimmed : HasText first first ∧ HasText last last
  /-- Both are on one line. -/
  unbroken : newline ∉ first ∧ newline ∉ last

/-- Lines hold certificates, one after the other, in any wrapping. -/
inductive Wraps : List Certificate → List Bytes → Prop where
  /-- No lines hold no certificates. -/
  | nil : Wraps [] []
  /-- A line outside of the certificates, of any kind but the marked ones. -/
  | outside {line : Bytes} {certificates : List Certificate} {lines : List Bytes}
    (unmarked : ¬IsMarked line) (others : Wraps certificates lines) :
    Wraps certificates (line :: lines)
  /-- The lines of a certificate. -/
  | certificate {c : Certificate} {first last : Bytes} {body lines : List Bytes}
    {certificates : List Certificate} (begins : HasText first c.first) (cut : Cut c.symbols body)
    (ends : HasText last c.last) (others : Wraps certificates lines) :
    Wraps (c :: certificates) (first :: (body ++ last :: lines))

/-- A line has room for a symbol. -/
theorem lineWidth_pos : 0 < lineWidth := by decide

/-- The lines of a certificate, the base64 text in lines of the right width. -/
def Certificate.strictLines (c : Certificate) : List Bytes :=
  c.first :: (chunks lineWidth c.symbols lineWidth_pos ++ [c.last])

/-- The file of certificates in their lines, each with its end. -/
def armoured (certificates : List Certificate) : Bytes :=
  (certificates.flatMap Certificate.strictLines).flatMap (· ++ [newline])

/-- Base64 text has no marker. -/
theorem not_isMarked_of_isSymbol (h : ∀ b ∈ piece, IsSymbol b) : ¬IsMarked piece := by
  have hdash : (45 : UInt8) ∉ piece := fun hmem => (h 45 hmem).plain.2 rfl
  rintro (hmarker | hmarker)
  · exact hdash (hmarker.subset (by decide))
  · exact hdash (hmarker.subset (by decide))

/-- The text between the markers is collected, however it is cut. -/
theorem rewrapLines_cut (h : Cut symbols lines) (hsymbols : ∀ b ∈ symbols, IsSymbol b) :
    rewrapLines held true (lines.map Line.ofBytes ++ rest) =
      rewrapLines (held ++ symbols) true rest := by
  -- What is held grows by a piece with each line.
  induction h generalizing held with
  | nil => rw [List.append_nil]; rfl
  | cons hfirst _ ih =>
    obtain ⟨hpiece, hothers⟩ := List.forall_mem_append.mp hsymbols
    rw [List.map_cons, List.cons_append,
      rewrapLines_unmarked hfirst (not_isMarked_of_isSymbol hpiece), if_pos rfl, ih hothers,
      List.append_assoc]

/-- The file of one more certificate. -/
theorem armoured_cons (c : Certificate) (certificates : List Certificate) :
    armoured (c :: certificates) =
      (c.first ++ [newline]) ++ ((wrap c.symbols ++ c.last ++ [newline]) ++
        armoured certificates) := by
  unfold armoured wrap
  simp only [List.flatMap_cons, List.flatMap_append, Certificate.strictLines, List.flatMap_nil,
    List.append_assoc, List.append_nil]

/-- Lines that hold certificates are rewrapped to the file of the certificates. -/
theorem rewrapLines_of_wraps {certificates : List Certificate} (h : Wraps certificates lines) :
    rewrapLines [] false (lines.map Line.ofBytes) = some (armoured certificates) := by
  induction h with
  | nil => rfl
  | @outside line _ _ hunmarked _ ih =>
    obtain ⟨text, htext⟩ := exists_hasText line
    rw [List.map_cons, rewrapLines_unmarked htext (mt htext.isMarked_iff.mpr hunmarked)]
    exact ih
  | @certificate c first last body lines _ hfirst hcut hlast _ ih =>
    have hbody : (first :: (body ++ last :: lines)).map Line.ofBytes =
        Line.ofBytes first :: (body.map Line.ofBytes ++
          Line.ofBytes last :: lines.map Line.ofBytes) := by
      simp only [List.map_cons, List.map_append]
    rw [hbody, rewrapLines_begins hfirst c.begins, rewrapLines_cut hcut c.are_symbols,
      List.nil_append, rewrapLines_ends hlast c.ends, ih, armoured_cons]
    rfl

/-- A file that holds certificates is rewrapped to the file of the certificates. -/
theorem rewrap_of_wraps {certificates : List Certificate}
    (h : Wraps certificates (file.splitOn newline)) : rewrap file = some (armoured certificates) :=
  rewrapLines_of_wraps h

/-! ## Lines of the right width -/

/-- A text is in lines of the right width, and the last one may be shorter. -/
structure InLines (symbols : Bytes) (lines : List Bytes) : Prop where
  /-- Nothing is lost or added. -/
  whole : lines.flatten = symbols
  /-- All lines but the last are full. -/
  full : ∀ line ∈ lines.dropLast, line.length = lineWidth
  /-- No line is too long or empty. -/
  bounded : ∀ line ∈ lines, 0 < line.length ∧ line.length ≤ lineWidth

/-- All chunks but the last are full. -/
theorem length_of_mem_dropLast_chunks {α : Type} {n : Nat} {xs chunk : List α} {pos : 0 < n}
    (h : chunk ∈ (chunks n xs pos).dropLast) : chunk.length = n := by
  fun_induction chunks n xs pos with
  | case1 => cases h
  | case2 xs hne ih =>
    by_cases hlast : xs.drop n = []
    · rw [hlast, chunks, dif_pos rfl] at h
      cases h
    · have hmore : chunks n (xs.drop n) pos ≠ [] := by
        rw [chunks, dif_neg hlast]
        exact List.cons_ne_nil _ _
      rw [List.dropLast_cons_of_ne_nil hmore] at h
      rcases List.mem_cons.mp h with rfl | h
      · rw [List.length_take_of_le]
        exact Nat.le_of_lt (Nat.lt_of_not_le fun hle => hlast (List.drop_eq_nil_of_le hle))
      · exact ih h

/-- The chunks of a text are lines of the right width. -/
theorem inLines_chunks (symbols : Bytes) : InLines symbols (chunks lineWidth symbols) where
  whole := flatten_chunks lineWidth symbols lineWidth_pos
  full := fun _ h => length_of_mem_dropLast_chunks h
  bounded := fun _ h =>
    ⟨List.length_pos_iff.mpr (ne_nil_of_mem_chunks h), length_le_of_mem_chunks h⟩

/-! ## Rewrapping twice -/

/-- Base64 text does not end in a blank. -/
theorem hasText_of_isSymbol (h : ∀ b ∈ piece, IsSymbol b) : HasText piece piece :=
  ⟨⟨[], (List.append_nil piece).symm, List.forall_mem_nil _⟩,
    fun b hb => (h b (List.mem_of_mem_getLast? hb)).plain.1⟩

/-- Base64 text is on one line. -/
theorem newline_not_mem_of_isSymbol (h : ∀ b ∈ piece, IsSymbol b) : newline ∉ piece := by
  intro hmem
  have hblank := (h newline hmem).plain.1
  revert hblank
  decide

/-- Base64 text is cut into lines of nothing but base64 text. -/
theorem cut_flatten (h : ∀ piece ∈ lines, ∀ b ∈ piece, IsSymbol b) : Cut lines.flatten lines := by
  induction lines with
  | nil => exact Cut.nil
  | cons piece lines ih =>
    obtain ⟨hpiece, hothers⟩ := List.forall_mem_cons.mp h
    exact Cut.cons (hasText_of_isSymbol hpiece) (ih hothers)

/-- The chunks of base64 text are base64 text. -/
theorem Certificate.chunks_symbols (c : Certificate) :
    ∀ piece ∈ chunks lineWidth c.symbols, ∀ b ∈ piece, IsSymbol b := by
  intro piece hpiece b hb
  apply c.are_symbols
  rw [← (inLines_chunks c.symbols).whole]
  exact List.mem_flatten_of_mem hpiece hb

/-- No line of a certificate is broken. -/
theorem Certificate.newline_not_mem_strictLines (c : Certificate) :
    ∀ line ∈ c.strictLines, newline ∉ line := by
  have hchunks : ∀ piece ∈ chunks lineWidth c.symbols lineWidth_pos, newline ∉ piece :=
    fun piece hpiece => newline_not_mem_of_isSymbol (c.chunks_symbols piece hpiece)
  rw [Certificate.strictLines, List.forall_mem_cons, List.forall_mem_append,
    List.forall_mem_singleton]
  exact ⟨c.unbroken.1, hchunks, c.unbroken.2⟩

/-- The lines of certificates hold the certificates. -/
theorem wraps_strictLines (certificates : List Certificate) :
    Wraps certificates (certificates.flatMap Certificate.strictLines ++ [[]]) := by
  induction certificates with
  | nil => exact Wraps.outside (fun hmarker => hmarker.ne_nil rfl) Wraps.nil
  | cons c certificates ih =>
    have hcut := cut_flatten c.chunks_symbols
    rw [(inLines_chunks c.symbols).whole] at hcut
    have hwraps := Wraps.certificate c.trimmed.1 hcut c.trimmed.2 ih
    rw [List.flatMap_cons, Certificate.strictLines, List.cons_append, List.cons_append,
      List.append_assoc, List.append_assoc, List.singleton_append]
    exact hwraps

/-- The file of certificates is rewrapped to itself. -/
theorem rewrap_armoured (certificates : List Certificate) :
    rewrap (armoured certificates) = some (armoured certificates) := by
  apply rewrap_of_wraps
  rw [armoured, splitOn_flatMap]
  · exact wraps_strictLines certificates
  · intro line hline
    obtain ⟨c, -, hc⟩ := List.mem_flatMap.mp hline
    exact c.newline_not_mem_strictLines line hc

/-! ## Failing -/

/-- The last marked line begins a certificate. -/
def IsUnended (lines : List Bytes) : Prop :=
  ∃ before line after, lines = before ++ line :: after ∧ certificateBegin <+: line ∧
    ∀ other ∈ after, ¬IsMarked other

/-- The last marked line is the first line or a later one. -/
theorem isUnended_cons :
    IsUnended (line :: lines) ↔
      (certificateBegin <+: line ∧ ∀ other ∈ lines, ¬IsMarked other) ∨ IsUnended lines := by
  constructor
  · rintro ⟨before, last, after, hsplit, hbegins, hafter⟩
    cases before with
    | nil =>
      obtain ⟨rfl, rfl⟩ := List.cons.inj hsplit
      exact Or.inl ⟨hbegins, hafter⟩
    | cons first before =>
      obtain ⟨rfl, rfl⟩ := List.cons.inj hsplit
      exact Or.inr ⟨before, last, after, rfl, hbegins, hafter⟩
  · rintro (⟨hbegins, hlines⟩ | ⟨before, last, after, rfl, hbegins, hafter⟩)
    · exact ⟨[], line, lines, rfl, hbegins, hlines⟩
    · exact ⟨line :: before, last, after, rfl, hbegins, hafter⟩

/-- Rewrapping fails if the last marked line begins a certificate, or if there is no marked line and
a certificate has begun before. -/
theorem rewrapLines_eq_none_iff :
    rewrapLines held inside (lines.map Line.ofBytes) = none ↔
      (inside = true ∧ ∀ other ∈ lines, ¬IsMarked other) ∨ IsUnended lines := by
  -- A marked line decides anew whether a certificate has begun, whatever is held.
  induction lines generalizing held inside with
  | nil => cases inside <;> simp [rewrapLines, IsUnended]
  | cons line lines ih =>
    obtain ⟨text, htext⟩ := exists_hasText line
    rw [List.map_cons, isUnended_cons, List.forall_mem_cons]
    by_cases hbegins : certificateBegin <+: line
    · rw [rewrapLines_begins htext ((htext.marker_iff (Or.inl rfl)).mp hbegins),
        Option.map_eq_none_iff, ih]
      simp [hbegins, IsMarked]
    by_cases hends : certificateEnd <+: line
    · rw [rewrapLines_ends htext ((htext.marker_iff (Or.inr rfl)).mp hends),
        Option.map_eq_none_iff, ih]
      simp [hbegins, hends, IsMarked]
    · have hunmarked : ¬IsMarked line := not_or.mpr ⟨hbegins, hends⟩
      rw [rewrapLines_unmarked htext (mt htext.isMarked_iff.mpr hunmarked), ih]
      simp [hbegins, hunmarked]

/-- A file cannot be rewrapped exactly if its last marked line begins a certificate. -/
theorem rewrap_eq_none_iff : rewrap file = none ↔ IsUnended (file.splitOn newline) := by
  rw [rewrap, rewrapLines_eq_none_iff]
  simp

/-- A certificate is unterminated for the reader exactly if it cannot be rewrapped. -/
theorem readCertificate_eq_unterminatedPem_iff :
    Keys.readCertificate file = .error .unterminatedPem ↔ rewrap file = none := by
  unfold Keys.readCertificate
  cases rewrap file with
  | none => exact iff_of_true rfl rfl
  | some rewrapped =>
    refine iff_of_false ?_ (Option.some_ne_none _)
    -- Whatever fails later fails with another error.
    intro h
    dsimp only at h
    split at h
    · cases h
    · split at h
      · cases h
      · split at h <;> cases h

/-! ## Main results -/

/-- A file is rewrapped to the file of the certificates that it holds. -/
structure Rewraps (certificates : List Certificate) (file : Bytes) : Prop where
  /-- That file is the result. -/
  result : rewrap file = some (armoured certificates)
  /-- The lines between the markers have the right width and lose nothing. -/
  width : ∀ c ∈ certificates, InLines c.symbols (chunks lineWidth c.symbols)
  /-- Rewrapping the result changes nothing. -/
  fixed : rewrap (armoured certificates) = some (armoured certificates)

/-- Certificates in any wrapping are rewrapped to the same file, and that is done unless the last
marked line begins a certificate. -/
theorem rewraps_any_wrapping :
    (∀ certificates file, Wraps certificates (file.splitOn newline) → Rewraps certificates file) ∧
      ∀ file, (rewrap file = none ↔ IsUnended (file.splitOn newline)) ∧
        (Keys.readCertificate file = .error .unterminatedPem ↔
          IsUnended (file.splitOn newline)) := by
  refine ⟨fun certificates file hwraps => ?_, fun file => ⟨rewrap_eq_none_iff, ?_⟩⟩
  · exact {
      result := rewrap_of_wraps hwraps
      width := fun c _ => inLines_chunks c.symbols
      fixed := rewrap_armoured certificates }
  · rw [readCertificate_eq_unterminatedPem_iff, rewrap_eq_none_iff]

/-- A certificate with little text. -/
def sampleCertificate : Certificate where
  first := ascii "-----BEGIN CERTIFICATE-----"
  symbols := ascii "TUlJ"
  last := ascii "-----END CERTIFICATE-----"
  begins := by decide
  ends := by decide
  are_symbols := by
    unfold IsSymbol
    decide +kernel
  trimmed := ⟨trimmed_iff.mpr (by decide +kernel), trimmed_iff.mpr (by decide +kernel)⟩
  unbroken := by decide

/-- Its lines with a part of the text on each, blanks, and a line in front. -/
def scatteredLines : List Bytes :=
  ["x", "-----BEGIN CERTIFICATE----- ", "TUl\r", "\t", "J ", "-----END CERTIFICATE-----\r",
    ""].map ascii

/-- Blanks and cuts are gone, and so is what stands outside. -/
theorem scattered_rewrapped :
    let file := ascii
      "x\n-----BEGIN CERTIFICATE----- \nTUl\r\n\t\nJ \n-----END CERTIFICATE-----\r\n"
    Wraps [sampleCertificate] (file.splitOn newline) ∧ rewrap file =
      some (ascii "-----BEGIN CERTIFICATE-----\nTUlJ\n-----END CERTIFICATE-----\n") := by
  intro file
  have hlines : file.splitOn newline = scatteredLines := by decide +kernel
  have hfirst : HasText (ascii "-----BEGIN CERTIFICATE----- ") sampleCertificate.first :=
    trimmed_iff.mpr (by decide +kernel)
  have hpiece : HasText (ascii "TUl\r") (ascii "TUl") := trimmed_iff.mpr (by decide +kernel)
  have hblank : HasText (ascii "\t") [] := trimmed_iff.mpr (by decide +kernel)
  have hrest : HasText (ascii "J ") (ascii "J") := trimmed_iff.mpr (by decide +kernel)
  have hlast : HasText (ascii "-----END CERTIFICATE-----\r") sampleCertificate.last :=
    trimmed_iff.mpr (by decide +kernel)
  have hcut : Cut sampleCertificate.symbols [ascii "TUl\r", ascii "\t", ascii "J "] :=
    .cons hpiece (.cons hblank (.cons hrest .nil))
  have houtside : ¬IsMarked (ascii "x") := by
    unfold IsMarked
    decide
  have hwraps : Wraps [sampleCertificate] (file.splitOn newline) := by
    rw [hlines]
    exact .outside houtside
      (.certificate hfirst hcut hlast (.outside (fun hmarker => hmarker.ne_nil rfl) .nil))
  have harmoured : armoured [sampleCertificate] =
      ascii "-----BEGIN CERTIFICATE-----\nTUlJ\n-----END CERTIFICATE-----\n" := by
    decide +kernel
  obtain ⟨hresult, -, -⟩ := rewraps_any_wrapping.1 [sampleCertificate] file hwraps
  exact ⟨hwraps, by rw [hresult, harmoured]⟩

end SlotUpdate.Pem
