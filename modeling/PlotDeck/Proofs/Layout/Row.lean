import PlotDeck.Layout.Builtin
import PlotDeck.Proofs.Template.Filling
import PlotDeck.Proofs.Text.Line
import PlotDeck.Template.Render

/-!
# Filled rows

What a slide makes of the rows of a built-in layout. A row without slots stays as it is
(`Row.fill_plain`), a slot with a value is replaced by it (`Row.fill_value`), an unfilled caption
leaves nothing (`Row.fill_caption`), and an unfilled image goes as a whole (`Row.fill_image`).
-/

namespace PlotDeck

open Template

namespace Row

/-- A row **reads back** when its text cannot be taken for anything but literal text around its
slot. -/
structure ReadsBack (r : Row) : Prop where
  /-- There is neither a placeholder nor a line feed before the slot. -/
  before : ∀ c ∈ r.before.toList, isLiteralChar c = true
  /-- There is neither a placeholder nor a line feed behind the slot. -/
  after : ∀ c ∈ r.after.toList, isLiteralChar c = true
  /-- What follows the slot does not lengthen its name. -/
  boundary : ∀ c ∈ r.after.toList.head?, isNameChar c = false
  /-- The slot can be written. -/
  named : ∀ slot ∈ r.slot, slot.HasName

/-- The filled line of a row. -/
def fill (s : Slide) (r : Row) : Line := fillLine s.value? (r.source.toList ++ ['\n'])

theorem source_toList_of_slot {r : Row} {slot : Slot} (h : r.slot = some slot) :
    r.source.toList = r.before.toList ++ '@' :: (slot.name ++ r.after.toList) := by
  simp [source, placeholder, h]

/-- Neither side of a row's slot holds a line feed, and neither does a name. -/
theorem ReadsBack.newline_not_mem {r : Row} (hr : r.ReadsBack)
    (hplain : r.slot = none → r.after = "") : '\n' ∉ r.source.toList := by
  have hbefore : '\n' ∉ r.before.toList := fun h => absurd (hr.before _ h) (by decide)
  have hafter : '\n' ∉ r.after.toList := fun h => absurd (hr.after _ h) (by decide)
  cases hslot : r.slot with
  | none => simpa [source, placeholder, hslot, hplain hslot] using hbefore
  | some slot =>
    have hname : '\n' ∉ slot.name := fun h =>
      absurd (Slot.isNameChar_of_mem_name h) (by decide)
    simp [source_toList_of_slot hslot, hbefore, hafter, hname]

variable {s : Slide} {r : Row}

theorem lex_source_of_slot {slot : Slot} (hr : r.ReadsBack) (h : r.slot = some slot) :
    lex (r.source.toList ++ ['\n']) = literals r.before.toList ++
      .placeholder slot.name :: (literals r.after.toList ++ [.newline]) := by
  have htail : lex (r.after.toList ++ ['\n']) = literals r.after.toList ++ [.newline] := by
    rw [lex_literals_append hr.after (by decide), lex_newline_cons, lex_nil]
  have hboundary : ∀ c ∈ (r.after.toList ++ ['\n']).head?, isNameChar c = false := by
    cases hafter : r.after.toList with
    | nil => decide
    | cons c t =>
      have := hr.boundary
      rw [hafter] at this
      simpa using this
  rw [source_toList_of_slot h, List.append_assoc, List.cons_append, List.append_assoc,
    lex_literals_append hr.before (by simp [isLiteralChar]),
    lex_placeholder_append (fun _ => Slot.isNameChar_of_mem_name) hboundary, htail]

/-- A row without slots stays as it is. -/
theorem fill_plain (hr : r.ReadsBack) (h : r.slot = none) (hafter : r.after = "") :
    r.fill s = ⟨r.before.toList ++ ['\n'], false, false⟩ := by
  have hsource : r.source = r.before := by simp [source, placeholder, h, hafter]
  rw [fill, fillLine, hsource, lex_literals_append hr.before (by decide), lex_newline_cons, lex_nil,
    List.foldl_append, Filling.foldl_add_literals rfl]
  rfl

/-- A slot with a value is replaced by it. -/
theorem fill_value {slot : Slot} {v : List Char} (hr : r.ReadsBack) (h : r.slot = some slot)
    (hv : s.value? slot = some v) :
    r.fill s = ⟨r.before.toList ++ v ++ r.after.toList ++ ['\n'], slot.isPlot, false⟩ := by
  have hadd : ∀ f : Filling, Filling.add s.value? f (.placeholder slot.name)
      = { f with heldPlot := f.heldPlot || slot.isPlot }.write v := fun f => by
    simp [Filling.add, Slot.ofName?_name (hr.named slot h), Filling.addSlot, hv]
  rw [fill, fillLine, lex_source_of_slot hr h, List.foldl_append, Filling.foldl_add_literals rfl,
    List.foldl_cons, hadd, List.foldl_append, Filling.foldl_add_literals rfl]
  simp [Filling.add, Filling.write, Filling.start]

/-- An unfilled caption leaves what stands around it. -/
theorem fill_caption {k : Nat} (hr : r.ReadsBack) (h : r.slot = some (.plotCaption k))
    (hv : s.value? (.plotCaption k) = none) :
    r.fill s = ⟨r.before.toList ++ r.after.toList ++ ['\n'], true, false⟩ := by
  have hadd : ∀ f : Filling, Filling.add s.value? f (.placeholder (Slot.plotCaption k).name)
      = { f with heldPlot := true }.write [] := fun f => by
    simp [Filling.add, Slot.ofName?_name (hr.named _ h), Filling.addSlot, hv, Slot.isPlot]
  rw [fill, fillLine, lex_source_of_slot hr h, List.foldl_append, Filling.foldl_add_literals rfl,
    List.foldl_cons, hadd, List.foldl_append, Filling.foldl_add_literals rfl]
  simp [Filling.add, Filling.write, Filling.start]

/-- An unfilled image goes as a whole. -/
theorem fill_image {k : Nat} {before : List Char} (hr : r.ReadsBack)
    (h : r.slot = some (.plotPath k)) (hafter : r.after = "\x7d")
    (hcut : cutEmbed? r.before.toList = some before) (hv : s.value? (.plotPath k) = none) :
    r.fill s = ⟨before ++ ['\n'], true, false⟩ := by
  have hadd : ∀ f : Filling, f.text = r.before.toList →
      Filling.add s.value? f (.placeholder (Slot.plotPath k).name)
        = { f with heldPlot := true, text := before, closing := true } := fun f hf => by
    simp [Filling.add, Slot.ofName?_name (hr.named _ h), Filling.addSlot, hv, Slot.isPlot,
      Filling.erasePath, hf, hcut]
  have hbrace : literals r.after.toList = [.literal ['\x7d']] := by simp [hafter, literals]
  have hclosing : Filling.afterClosing ['\x7d'] = [] := rfl
  rw [fill, fillLine, lex_source_of_slot hr h, List.foldl_append, Filling.foldl_add_literals rfl,
    List.foldl_cons, hadd _ (by simp [Filling.write, Filling.start]), hbrace]
  simp [Filling.add, Filling.write, Filling.start, hclosing]

end Row

/-! ### Layouts made of rows -/

theorem Builtin.lines_ofRows {name : String} {capacity : Nat} {rows : List Row}
    (hrows : ∀ r ∈ rows, '\n' ∉ r.source.toList) :
    Text.lines (Builtin.ofRows name capacity rows).source.toList
      = rows.map fun r => r.source.toList ++ ['\n'] := by
  have hsource : (Builtin.ofRows name capacity rows).source.toList
      = (rows.map fun r => r.source.toList ++ ['\n']).flatten := by
    simp [Builtin.ofRows, String.toList_join, List.flatMap_def, Function.comp_def]
  have hlines : ∀ t ∈ rows.map (fun r => r.source.toList ++ ['\n']), Text.IsLine t := by
    intro t ht
    obtain ⟨r, hr, rfl⟩ := List.mem_map.1 ht
    exact ⟨_, rfl, hrows r hr⟩
  rw [hsource, Text.lines_flatten hlines]

theorem Builtin.fill_ofRows {name : String} {capacity : Nat} {rows : List Row}
    (hrows : ∀ r ∈ rows, '\n' ∉ r.source.toList) (s : Slide) :
    (Builtin.ofRows name capacity rows).fill s = rows.map (Row.fill s) := by
  rw [Layout.fill, Builtin.lines_ofRows hrows, List.map_map]
  rfl

end PlotDeck
