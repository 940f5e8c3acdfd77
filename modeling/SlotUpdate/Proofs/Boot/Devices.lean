import Mathlib.Tactic.SplitIfs
import SlotUpdate.Boot.Host
import SlotUpdate.Proofs.Mount.ProgramPath

/-!
# Devices of slots

The devices of a host are files whose names end in the letter of their slot. Whatever the partitions
are called, also if their names lead to other directories, a path that names a device of one slot
names none of another slot (`HostSlots.NamesDevice.slot_unique`).
-/

namespace SlotUpdate

/-! ## The last name of a path -/

namespace Path

variable {base rel p : Path} {c : Char}

/-- A text that does not end in a slash ends as its last piece does. -/
theorem pieces_concat (hc : c ≠ '/') (cs : List Char) :
    ∃ init piece, pieces (cs ++ [c]) = init ++ [piece ++ [c]] := by
  by_cases hslash : '/' ∈ cs
  · obtain ⟨before, after, rfl, -⟩ := List.eq_append_cons_of_mem hslash
    obtain ⟨init, piece, hpieces⟩ := pieces_concat hc after
    refine ⟨pieces before ++ init, piece, ?_⟩
    rw [List.append_assoc, List.cons_append, pieces_slash, hpieces, List.append_assoc]
  · have hpiece : ∀ l ∈ [cs ++ [c]], l ≠ [] ∧ '/' ∉ l := by
      rw [List.forall_mem_singleton, List.mem_append, List.mem_singleton, not_or]
      exact ⟨by simp, hslash, hc.symm⟩
    have hpieces := pieces_intercalate hpiece
    rw [List.intercalate_singleton] at hpieces
    exact ⟨[], cs, hpieces⟩
termination_by cs.length

/-- The last component of a path whose text ends in neither a slash nor a dot is a name that ends as
the text does. -/
theorem components_concat {cs : List Char} (h : p.text.toList = cs ++ [c]) (hslash : c ≠ '/')
    (hdot : c ≠ '.') :
    ∃ init piece, p.components = init ++ [.normal (String.ofList (piece ++ [c]))] := by
  obtain ⟨init, piece, hpieces⟩ := pieces_concat hslash cs
  have hparts : p.parts = init.map String.ofList ++ [String.ofList (piece ++ [c])] := by
    rw [parts_eq, h, hpieces, List.map_append, List.map_singleton]
  have hname : Component.ofPart? (String.ofList (piece ++ [c])) =
      some (.normal (String.ofList (piece ++ [c]))) := by
    -- A dot and two dots end in a dot.
    have hends : ∀ s : String, s.toList.getLast? = some '.' → String.ofList (piece ++ [c]) ≠ s := by
      rintro s hs rfl
      rw [String.toList_ofList, List.getLast?_concat] at hs
      exact hdot (Option.some.inj hs)
    unfold Component.ofPart?
    rw [if_neg (hends "." rfl), if_neg (hends ".." rfl)]
  have hrest : p.parts.filterMap Component.ofPart? =
      (init.map String.ofList).filterMap Component.ofPart? ++
        [.normal (String.ofList (piece ++ [c]))] := by
    rw [hparts, List.filterMap_append, List.filterMap_cons_some hname, List.filterMap_nil]
  unfold components
  simp only [hrest]
  split_ifs
  · exact ⟨.root :: _, piece, rfl⟩
  · exact ⟨.current :: _, piece, rfl⟩
  · exact ⟨_, piece, rfl⟩

/-- The text of a joined path ends in that of the second path. -/
theorem text_join (base rel : Path) : ∃ front, (base.join rel).text = front ++ rel.text := by
  unfold join
  split_ifs
  · exact ⟨"", by rw [String.empty_append]⟩
  · exact ⟨base.text, rfl⟩
  · exact ⟨base.text ++ "/", rfl⟩

end Path

/-! ## Letters of slots -/

/-- The letter that the names of a slot's devices end in. -/
def Slot.letter (slot : Slot) : Char := Char.ofNat (97 + slot.toNat)

section Letters

variable {slot slot' : Slot}

/-- The code of a letter tells the slot. -/
theorem Slot.letter_toNat (h : slot < 26) : slot.letter.toNat = 97 + slot.toNat := by
  have hcodes : ∀ m < 26, (Char.ofNat (97 + m)).toNat = 97 + m := by decide
  exact hcodes slot.toNat h

/-- Slots with the same letter are the same. -/
theorem Slot.eq_of_letter_eq (h : slot < 26) (h' : slot' < 26)
    (hletter : slot.letter = slot'.letter) : slot = slot' := by
  have hcode : 97 + slot.toNat = 97 + slot'.toNat := by
    rw [← Slot.letter_toNat h, hletter, Slot.letter_toNat h']
  exact UInt32.toNat_inj.1 (Nat.add_left_cancel hcode)

/-- A letter is none of the characters that end or name a directory. -/
theorem Slot.letter_ne (h : slot < 26) : slot.letter ≠ '/' ∧ slot.letter ≠ '.' := by
  have hcode := Slot.letter_toNat h
  constructor <;> intro heq <;> rw [heq] at hcode <;> simp only [Char.reduceToNat] at hcode <;>
    omega

end Letters

/-! ## Devices -/

namespace HostSlots

variable {h : HostSlots} {files : FileTree} {name : String} {slot slot' : Slot}
  {d : PartitionDevice} {p : Path}

/-- A partition has a device in a slot of the host that has a letter: a file, for reading and for
writing. -/
theorem device_eq_ok (hd : h.device files name slot = .ok d) :
    slot < h.config.numSlots ∧ slot < 26 ∧ d.readonly = d.writable ∧
      ∃ front, d.writable.text.toList = front ++ [slot.letter] := by
  unfold device at hd
  split at hd
  · rename_i hhas
    unfold Slot.nameSuffix at hd
    by_cases hletter : slot < 26
    · rw [if_pos hletter] at hd
      dsimp only at hd
      split_ifs at hd
      cases hd
      refine ⟨of_decide_eq_true hhas, hletter, rfl, ?_⟩
      obtain ⟨front, htext⟩ := Path.text_join h.config.deviceDir
        ⟨name ++ ("_" ++ String.singleton (Char.ofNat (97 + slot.toNat)))⟩
      refine ⟨front.toList ++ (name.toList ++ ['_']), ?_⟩
      rw [htext]
      simp [Slot.letter]
    · rw [if_neg hletter] at hd
      cases hd
  · cases hd

/-- The path names a device of the slot: that of some partition, with some files. -/
def NamesDevice (h : HostSlots) (slot : Slot) (p : Path) : Prop :=
  ∃ files name d, h.device files name slot = .ok d ∧
    (p.same d.readonly = true ∨ p.same d.writable = true)

/-- A device is named by its own paths. -/
theorem namesDevice_of_device (hd : h.device files name slot = .ok d) :
    h.NamesDevice slot d.readonly :=
  ⟨files, name, d, hd, .inl (beq_self_eq_true _)⟩

/-- The last name of a path that names a device ends in the letter of the slot. -/
theorem NamesDevice.components_eq (hp : h.NamesDevice slot p) : slot < 26 ∧
    ∃ init piece, p.components = init ++ [.normal (String.ofList (piece ++ [slot.letter]))] := by
  obtain ⟨files, name, d, hd, hsame⟩ := hp
  obtain ⟨-, hletter, hreadonly, front, htext⟩ := device_eq_ok hd
  have hsame' : p.components = d.writable.components := by
    rw [hreadonly, or_self] at hsame
    exact eq_of_beq hsame
  obtain ⟨hslash, hdot⟩ := Slot.letter_ne hletter
  rw [hsame']
  exact ⟨hletter, Path.components_concat htext hslash hdot⟩

/-- A path does not name devices of two slots. -/
theorem NamesDevice.slot_unique (hp : h.NamesDevice slot p) (hp' : h.NamesDevice slot' p) :
    slot = slot' := by
  obtain ⟨hletter, init, piece, hcomponents⟩ := hp.components_eq
  obtain ⟨hletter', init', piece', hcomponents'⟩ := hp'.components_eq
  rw [hcomponents] at hcomponents'
  obtain ⟨-, hlast⟩ := List.append_inj' hcomponents' rfl
  have hnames : piece ++ [slot.letter] = piece' ++ [slot'.letter] := by
    have hname := Path.Component.normal.inj (List.singleton_inj.1 hlast)
    rw [← String.toList_ofList (l := piece ++ [slot.letter]), hname, String.toList_ofList]
  obtain ⟨-, hsame⟩ := List.append_inj' hnames rfl
  exact Slot.eq_of_letter_eq hletter hletter' (List.singleton_inj.1 hsame)

end HostSlots

end SlotUpdate
