import PlotDeck.Proofs.Path.Outputs

/-!
# Directories of files

The directory that is cut off a path is written **tidily**: it is what a path starts with and
nothing else, or it ends with a name (`Path.isTidy_of_parent?`). Of a file in such a directory the
very same text is cut off again (`Path.IsTidy.parent?_join`). So the outputs next to a path are in
its directory as it is written there (`OutputPaths.dir_ofStem`), whatever that is: none, the root,
or a directory with dots in its path. What a name and an extension put together is taken apart again
(`Path.fileStem?_join_dot`, `Path.withExtension_join_dot`).
-/

namespace PlotDeck

namespace Path

variable {p q dir : Path} {base name trail : List Char}

/-- The path is what a path starts with before its first name and nothing else, or it ends with a
name. -/
def IsTidy (dir : Path) : Prop :=
  lead dir.text.toList = dir.text.toList ∨ ∃ base name, dir.EndsIn base name []

/-- Paths are told by their characters. -/
theorem eq_of_toList_eq (h : p.text.toList = q.text.toList) : p = q := by
  obtain ⟨text⟩ := p
  obtain ⟨text'⟩ := q
  exact congrArg mk (String.toList_inj.1 h)

theorem isTidy_empty : IsTidy ⟨""⟩ := .inl rfl

theorem lead_lead (t : List Char) : lead (lead t) = lead t := by
  rcases lead_cases t with h | h | h <;> rw [h] <;> rfl

/-- The directory before the last name of a path is tidy. -/
theorem isTidy_ofPartsBack (h : IsFront base) :
    (ofPartsBack (lead base) (innerParts base).reverse).IsTidy := by
  cases hinner : (innerParts base).reverse.dropWhile isIdle with
  | nil =>
    refine .inl ?_
    simp only [ofPartsBack, hinner, String.toList_ofList]
    simp [lead_lead]
  | cons last above =>
    obtain ⟨idle, hsplit, hnamed, -⟩ := eq_of_dropWhile_reverse hinner
    -- the parts of the front end with an empty one, behind the slash
    have hparts : splitSlashes (base.drop (lead base).length)
        = above.reverse ++ last :: (idle ++ [[]]) := by
      have hfront := h.drop_lead.splitSlashes_append []
      rw [List.append_nil] at hfront
      rw [hfront, ← innerParts, hsplit]
      simp [splitSlashes]
    have hmem : last ∈ splitSlashes (base.drop (lead base).length) := by
      rw [hparts]
      exact List.mem_append_right _ List.mem_cons_self
    refine .inr ⟨lead base ++ above.reverse.flatMap (· ++ ['/']), last, ?_,
      isFront_lead_append hparts hnamed, not_mem_of_mem_splitSlashes hmem, hnamed, .nil⟩
    simp only [ofPartsBack, hinner, String.toList_ofList]
    rw [List.reverse_cons, intercalate_append_cons, List.append_assoc]
    simp

/-- A directory that is cut off a path is tidy. -/
theorem isTidy_of_parent? (h : p.parent? = some dir) : dir.IsTidy := by
  cases hparts : p.partsBack with
  | nil =>
    simp only [Path.parent?, hparts] at h
    split at h
    · exact Option.some.inj h ▸ isTidy_empty
    · cases h
  | cons part rest =>
    obtain ⟨base, trail, hends⟩ := exists_endsIn_of_partsBack hparts
    rw [hends.parent?] at h
    exact Option.some.inj h ▸ isTidy_ofPartsBack hends.front

/-- The front of a file in a directory that ends with a name. -/
theorem EndsIn.frontOf (h : dir.EndsIn base name []) : dir.frontOf = base ++ (name ++ ['/']) := by
  obtain ⟨init, c, rfl⟩ := (List.eq_nil_or_concat name).resolve_left h.name_ne_nil
  have hc : c ≠ '/' := fun heq => h.noSlash (by simp [heq])
  have htext : dir.text.toList = (base ++ init) ++ [c] := by
    rw [h.text]
    simp
  have hempty : dir.text ≠ "" := fun heq => by simp [heq] at htext
  have hlast : dir.text.toList.getLast? = some c := by rw [htext, List.getLast?_concat]
  rw [Path.frontOf, if_neg (by simp [hempty, hlast, hc]), htext]
  simp

/-- The front of a file in a directory that ends with a name is made of the parts of the
directory. -/
theorem EndsIn.ofPartsBack_frontOf (h : dir.EndsIn base name []) :
    ofPartsBack (lead dir.frontOf) (innerParts dir.frontOf).reverse = dir := by
  have hlead : lead dir.frontOf = lead base := by
    rw [h.frontOf, h.front.lead_append h.noSlash h.named]
  have hinner : innerParts dir.frontOf = innerParts base ++ [name] := by
    rw [innerParts, hlead, h.frontOf, List.drop_append_of_le_length (lead_isPrefix base).length_le,
      frontParts, h.front.drop_lead.splitSlashes_append, splitSlashes_append_slash,
      splitSlashes_of_not_mem h.noSlash]
    simp [splitSlashes, innerParts]
  have hkept : (innerParts base ++ [name]).reverse.dropWhile isIdle
      = (innerParts base ++ [name]).reverse := by simp [h.named]
  refine eq_of_toList_eq ?_
  rw [hlead, hinner, ofPartsBack, hkept, String.toList_ofList, List.reverse_reverse,
    h.front.lead_append_intercalate h.noSlash, h.text, List.append_nil]

theorem IsTidy.ofPartsBack_frontOf (h : dir.IsTidy) :
    ofPartsBack (lead dir.frontOf) (innerParts dir.frontOf).reverse = dir := by
  rcases h with hlead | ⟨base, name, hends⟩
  · -- no directory, the root, and the directory at hand
    have hcases := lead_cases dir.text.toList
    rw [hlead] at hcases
    rcases hcases with h | h | h
    · obtain rfl : dir = ⟨""⟩ := eq_of_toList_eq h
      rfl
    · obtain rfl : dir = ⟨"/"⟩ := eq_of_toList_eq h
      rfl
    · obtain rfl : dir = ⟨"."⟩ := eq_of_toList_eq h
      rfl
  · exact hends.ofPartsBack_frontOf

/-- Of a file in a tidy directory the directory is cut off again. -/
theorem IsTidy.parent?_join (h : dir.IsTidy) (hslash : '/' ∉ q.text.toList)
    (hnamed : isIdle q.text.toList = false) : (dir.join q).parent? = some dir := by
  rw [(endsIn_join dir hslash hnamed).parent?, h.ofPartsBack_frontOf]

/-- The directory that a path is in; none is the empty path. -/
def directory (p : Path) : Path := p.parent?.getD ⟨""⟩

/-- The last name of a path without its extension, if there is one. -/
def stem (p : Path) : String := p.fileStem?.getD ""

theorem mem_of_mem_stem {c : Char} (h : c ∈ p.stem.toList) : c ∈ p.text.toList := by
  cases hname : p.fileName? with
  | none =>
    rw [stem, fileStem?, hname] at h
    cases h
  | some last =>
    obtain ⟨base, trail, hends, hup⟩ := exists_endsIn hname
    rw [stem, hends.fileStem? hup, Option.getD_some, String.toList_ofList] at h
    have hlast := (splitExtension_isPrefix last.toList).subset h
    rw [hends.text]
    exact List.mem_append_right _ (List.mem_append_left _ hlast)

theorem isTidy_directory (p : Path) : p.directory.IsTidy := by
  cases h : p.parent? with
  | none =>
    rw [directory, h]
    exact isTidy_empty
  | some dir =>
    rw [directory, h]
    exact isTidy_of_parent? h

/-- A file in a tidy directory is in it. -/
theorem IsTidy.directory_join (h : dir.IsTidy) (hslash : '/' ∉ q.text.toList)
    (hnamed : isIdle q.text.toList = false) : (dir.join q).directory = dir := by
  rw [directory, h.parent?_join hslash hnamed, Option.getD_some]

/-- A path with a file name has a stem, and its name is the stem or goes on with a dot. -/
theorem exists_endsIn_stem (hname : p.fileName?.isSome) :
    ∃ base name trail, p.EndsIn base name trail ∧ name ≠ ['.', '.'] ∧
      p.fileStem? = some p.stem ∧ p.stem ≠ "" ∧
      (name = p.stem.toList ∨ ∃ ext, name = p.stem.toList ++ '.' :: ext) := by
  obtain ⟨last, hlast⟩ := Option.isSome_iff_exists.1 hname
  obtain ⟨base, trail, hends, hup⟩ := exists_endsIn hlast
  have hfileStem := hends.fileStem? hup
  have hstem : p.stem.toList = (splitExtension last.toList).1 := by
    rw [stem, hfileStem, Option.getD_some, String.toList_ofList]
  have hne : p.stem ≠ "" := by
    intro hempty
    rw [hempty] at hstem
    exact splitExtension_ne_nil hends.name_ne_nil hstem.symm
  refine ⟨base, last.toList, trail, hends, hup, ?_, hne, ?_⟩
  · rw [hfileStem, ← hstem, String.ofList_toList]
  · rw [hstem]
    rcases splitExtension_cases last.toList with h | ⟨stem, ext, hsplit, -, -, h⟩
    · exact .inl (by rw [h])
    · exact .inr ⟨ext, by rw [h, hsplit]⟩

/-- A stem that goes on otherwise than with a dot is not the name that it is the stem of. -/
theorem append_ne_of_head? {stem ending : List Char} {c : Char} (hhead : ending.head? = some c)
    (hc : c ≠ '.') (hname : name = stem ∨ ∃ ext, name = stem ++ '.' :: ext) :
    stem ++ ending ≠ name := by
  rintro rfl
  rcases hname with hstem | ⟨ext, hext⟩
  · rw [List.append_right_eq_self.1 hstem] at hhead
    cases hhead
  · rw [List.append_cancel_left hext] at hhead
    exact hc (Option.some.inj hhead).symm

/-! ### Names with an extension -/

section Names

variable {name ext other : String}

theorem toList_append_dot (name ext : String) :
    (name ++ "." ++ ext).toList = name.toList ++ '.' :: ext.toList := by
  simp

theorem slash_not_mem_append_dot (hslash : '/' ∉ name.toList) (hext : '/' ∉ ext.toList) :
    '/' ∉ (name ++ "." ++ ext).toList := by
  rw [toList_append_dot, List.mem_append, List.mem_cons, not_or, not_or]
  exact ⟨hslash, by decide, hext⟩

/-- Adding an extension to a file in a directory adds it to the name. -/
theorem addExtension_join (dir : Path) (hslash : '/' ∉ name.toList) (hext : '/' ∉ ext.toList) :
    (dir.join ⟨name⟩).addExtension ext = dir.join ⟨name ++ "." ++ ext⟩ := by
  have hjoin := toList_join dir (isAbsolute_of_not_mem (q := ⟨name⟩) hslash)
  have hjoin' := toList_join dir
    (isAbsolute_of_not_mem (q := ⟨name ++ "." ++ ext⟩) (slash_not_mem_append_dot hslash hext))
  refine eq_of_toList_eq ?_
  rw [addExtension, hjoin', toList_append_dot, toList_append_dot, hjoin, List.append_assoc]

section Extension

variable (dir : Path) (hslash : '/' ∉ name.toList) (hnamed : isIdle name.toList = false)
  (hext : '/' ∉ ext.toList)

include hslash hnamed hext

/-- A file in a directory with a name and an extension. -/
theorem endsIn_join_dot :
    (dir.join ⟨name ++ "." ++ ext⟩).EndsIn dir.frontOf (name.toList ++ '.' :: ext.toList) [] := by
  have hfull := slash_not_mem_append_dot hslash hext
  have hsays : isIdle (name.toList ++ '.' :: ext.toList) = false :=
    isIdle_append_dot (isIdle_eq_false_iff.1 hnamed).1
  rw [← toList_append_dot] at hsays ⊢
  exact endsIn_join dir hfull hsays

variable (hdot : '.' ∉ ext.toList) (hne : ext ≠ "")

include hdot hne

/-- The name of a file is what stands before its extension. -/
theorem fileStem?_join_dot : (dir.join ⟨name ++ "." ++ ext⟩).fileStem? = some name := by
  have hstem : name.toList ≠ [] := (isIdle_eq_false_iff.1 hnamed).1
  have hup : name.toList ++ '.' :: ext.toList ≠ ['.', '.'] := fun h =>
    hne (String.toList_eq_nil_iff.1 (append_dot_eq_dots hstem h).2)
  rw [(endsIn_join_dot dir hslash hnamed hext).fileStem? hup, splitExtension_append hstem hdot,
    String.ofList_toList]

/-- Another extension takes the place of the old one. -/
theorem withExtension_join_dot (hother : '/' ∉ other.toList) (hne' : other ≠ "") :
    (dir.join ⟨name ++ "." ++ ext⟩).withExtension other = dir.join ⟨name ++ "." ++ other⟩ := by
  obtain ⟨hstem, hstemDot⟩ := isIdle_eq_false_iff.1 hnamed
  have hsplit := splitExtension_append hstem hdot
  have hup : name.toList ++ '.' :: ext.toList ≠ ['.', '.'] := fun h =>
    hne (String.toList_eq_nil_iff.1 (append_dot_eq_dots hstem h).2)
  have hdots : ¬((splitExtension (name.toList ++ '.' :: ext.toList)).1 = ['.'] ∧
      ([] : List Char) = []) := by
    rw [hsplit]
    exact fun h => hstemDot h.1
  have hset := (endsIn_join_dot dir hslash hnamed hext).withExtension hup hdots hne' hother
  have hnew := endsIn_join_dot dir hslash hnamed hother
  rw [hsplit] at hset
  exact eq_of_toList_eq (hset.text.trans hnew.text.symm)

end Extension

end Names

end Path

namespace OutputPaths

open PlotDeck.Path

theorem ofConfig_eq (p : Path) : ofConfig p = ofStem p.directory p.stem := rfl

/-- The outputs in a tidy directory are in it. -/
theorem dir_ofStem {dir : Path} {stem : String} (hdir : dir.IsTidy) (hstem : '/' ∉ stem.toList) :
    (ofStem dir stem).dir = dir := by
  obtain ⟨hslash, hnamed, -⟩ := isName_append hstem
    (by decide : '/' ∉ "_slides.tex".toList) (by decide)
  exact hdir.directory_join (q := ⟨stem ++ "_slides.tex"⟩) hslash hnamed

end OutputPaths

end PlotDeck
