import PlotDeck.Deck.Error
import PlotDeck.Output
import PlotDeck.Proofs.Host.World
import PlotDeck.Proofs.Path.Ending

/-!
# Outputs next to a file

The outputs next to a file are told by the front of its path and by its stem. A path with another
extension has the same outputs, unless it ends in a name of two dots and an extension
(`OutputPaths.ofConfig_withExtension_eq_iff`).
-/

namespace PlotDeck

namespace Path

variable {p q : Path} {base name trail : List Char}

/-- The path ends in a name of two dots and an extension, such as `..pdf`. -/
def EndsInDots (p : Path) : Prop :=
  p.fileStem? = some "." ∧ ∀ name ∈ p.fileName?, name.toList <:+ p.text.toList

instance : DecidablePred EndsInDots := fun p =>
  inferInstanceAs (Decidable (p.fileStem? = some "." ∧
    ∀ name ∈ p.fileName?, name.toList <:+ p.text.toList))

/-- A path ends with its last name if there is no trail. -/
theorem EndsIn.suffix_iff (h : p.EndsIn base name trail) : name <:+ p.text.toList ↔ trail = [] := by
  rw [h.text]
  constructor
  · rintro ⟨x, hx⟩
    obtain ⟨init, c, rfl⟩ := (List.eq_nil_or_concat name).resolve_left h.name_ne_nil
    rcases h.trail.eq_nil_or_concat with rfl | ⟨t, rfl⟩ | ⟨t, rfl⟩
    · rfl
    · -- the name would end with a slash
      have hlast : x ++ init ++ [c] = base ++ (init.concat c ++ t) ++ ['/'] := by simpa using hx
      obtain ⟨-, hc⟩ := List.append_inj' hlast rfl
      exact absurd (by simp [hc]) h.noSlash
    · -- the name would be a dot, or a dot would follow a slash in it
      have hlast : x ++ init ++ [c] = base ++ (init.concat c ++ t) ++ ['/'] ++ ['.'] := by
        simpa using hx
      obtain ⟨hinit, hc⟩ := List.append_inj' hlast rfl
      rcases List.eq_nil_or_concat init with rfl | ⟨init, d, rfl⟩
      · obtain rfl : c = '.' := by simpa using hc
        exact absurd h.named (by decide)
      · rw [List.concat_eq_append, ← List.append_assoc] at hinit
        obtain ⟨-, hd⟩ := List.append_inj' hinit rfl
        exact absurd (by simp [hd]) h.noSlash
  · rintro rfl
    rw [List.append_nil]
    exact List.suffix_append _ _

theorem EndsIn.endsInDots_iff (h : p.EndsIn base name trail) (hup : name ≠ ['.', '.']) :
    p.EndsInDots ↔ (splitExtension name).1 = ['.'] ∧ trail = [] := by
  have hdot : String.ofList (splitExtension name).1 = "." ↔ (splitExtension name).1 = ['.'] := by
    rw [← String.toList_inj, String.toList_ofList]
    rfl
  rw [EndsInDots, h.fileStem? hup, h.fileName? hup, Option.some_inj, hdot]
  simp [h.suffix_iff]

/-- A path with another extension ends in the stem and that extension. -/
theorem exists_endsIn_withExtension (hname : p.fileName?.isSome) (hdots : ¬p.EndsInDots)
    {ext : String} (hext : ext ≠ "") (hslash : '/' ∉ ext.toList) :
    ∃ base name trail, p.EndsIn base name trail ∧ name ≠ ['.', '.'] ∧
      (p.withExtension ext).EndsIn base ((splitExtension name).1 ++ '.' :: ext.toList) [] ∧
      (splitExtension name).1 ++ '.' :: ext.toList ≠ ['.', '.'] := by
  obtain ⟨last, hlast⟩ := Option.isSome_iff_exists.1 hname
  obtain ⟨base, trail, hends, hup⟩ := exists_endsIn hlast
  rw [hends.endsInDots_iff hup] at hdots
  refine ⟨base, last.toList, trail, hends, hup, hends.withExtension hup hdots hext hslash,
    fun h => ?_⟩
  exact hext (String.toList_eq_nil_iff.1
    (append_dot_eq_dots (splitExtension_ne_nil hends.name_ne_nil) h).2)

/-- Of a path that ends in a name of two dots and an extension, the two dots are left. -/
theorem exists_endsIn_withExtension_dots (hname : p.fileName?.isSome) (hdots : p.EndsInDots)
    (ext : String) :
    ∃ base name, p.EndsIn base name [] ∧ name ≠ ['.', '.'] ∧ (splitExtension name).1 = ['.'] ∧
      (p.withExtension ext).EndsIn base ['.', '.'] [] := by
  obtain ⟨last, hlast⟩ := Option.isSome_iff_exists.1 hname
  obtain ⟨base, trail, hends, hup⟩ := exists_endsIn hlast
  obtain ⟨hstem, rfl⟩ := (hends.endsInDots_iff hup).1 hdots
  exact ⟨base, last.toList, hends, hup, hstem, hends.withExtension_dots hup hstem ext⟩

theorem extension?_withExtension {ext : String} (hname : p.fileName?.isSome) (hdots : ¬p.EndsInDots)
    (hext : ext ≠ "") (hslash : '/' ∉ ext.toList) (hdot : '.' ∉ ext.toList) :
    (p.withExtension ext).extension? = some ext := by
  obtain ⟨base, name, trail, hends, -, hnew, hnewup⟩ :=
    exists_endsIn_withExtension hname hdots hext hslash
  rw [hnew.extension? hnewup, splitExtension_append (splitExtension_ne_nil hends.name_ne_nil) hdot]
  simp

/-! ### Names in a directory -/

/-- The front of the paths in a directory. -/
def frontOf (dir : Path) : List Char :=
  dir.text.toList ++ if dir.text = "" ∨ dir.text.toList.getLast? = some '/' then [] else ['/']

theorem isFront_frontOf (dir : Path) : IsFront dir.frontOf := by
  rw [frontOf]
  split
  · next h =>
    rw [List.append_nil]
    rcases h with h | h
    · exact .inl (by simp [h])
    · obtain ⟨t, ht⟩ := List.getLast?_eq_some_iff.1 h
      exact .inr ⟨t, ht⟩
  · exact .inr ⟨_, rfl⟩

theorem toList_join (dir : Path) (hq : q.isAbsolute = false) :
    (dir.join q).text.toList = dir.frontOf ++ q.text.toList := by
  rw [join, hq, if_neg Bool.false_ne_true, frontOf]
  split <;> simp

/-- A name is a path that does not start at the root. -/
theorem isAbsolute_of_not_mem (hslash : '/' ∉ q.text.toList) : q.isAbsolute = false := by
  rw [isAbsolute, beq_eq_false_iff_ne]
  exact fun h => hslash (List.mem_of_head? h)

/-- A file in a directory is named so. -/
theorem endsIn_join (dir : Path) (hslash : '/' ∉ q.text.toList)
    (hnamed : isIdle q.text.toList = false) :
    (dir.join q).EndsIn dir.frontOf q.text.toList [] := by
  refine ⟨?_, isFront_frontOf dir, hslash, hnamed, .nil⟩
  rw [toList_join dir (isAbsolute_of_not_mem hslash), List.append_nil]

/-! ### Where a name leads -/

/-- The names on a path end with its last name, but for the dots of its trail. -/
theorem EndsIn.exists_names (h : p.EndsIn base name trail) :
    ∃ before dots, p.names = before ++ String.ofList name :: dots ∧ ∀ d ∈ dots, d = "." := by
  obtain ⟨idle, hsplit, hidle⟩ := h.trail.splitSlashes_append h.noSlash
  refine ⟨((frontParts base).filter (· ≠ [])).map String.ofList,
    (idle.filter (· ≠ [])).map String.ofList, ?_, fun d hd => ?_⟩
  · rw [names, h.text, h.front.splitSlashes_append, hsplit, List.filter_append,
      List.filter_cons_of_pos (by simp [h.name_ne_nil]), List.map_append, List.map_cons]
  · obtain ⟨part, hpart, rfl⟩ := List.mem_map.1 hd
    obtain ⟨hmem, hne⟩ := List.mem_filter.1 hpart
    obtain rfl : part = ['.'] := (isIdle_iff.1 (hidle part hmem)).resolve_left (by simpa using hne)
    rfl

/-- Dots stay at a place. -/
theorem foldlM_step_dots {t : FileTree} {here next dots : List String}
    (hdots : ∀ d ∈ dots, d = ".") (h : dots.foldlM t.step here = .ok next) : next = here := by
  induction dots generalizing here with
  | nil => exact (Except.ok.inj h).symm
  | cons d dots ih =>
    obtain ⟨hd, hrest⟩ := List.forall_mem_cons.1 hdots
    rw [List.foldlM_cons, hd] at h
    cases hstep : t.step here "." with
    | error e =>
      rw [hstep] at h
      cases h
    | ok there =>
      rw [hstep] at h
      have hthere : there = here := by
        rw [FileTree.step, FileTree.get?_of_step hstep] at hstep
        exact (Except.ok.inj hstep).symm
      exact hthere ▸ ih hrest h

/-- The walk along a path comes to its end with a step to its last name. -/
theorem EndsIn.exists_step {t : FileTree} {here : List String} (h : p.EndsIn base name trail)
    (hplace : t.locate p = .ok here) :
    ∃ previous, t.Grounded previous ∧ t.step previous (String.ofList name) = .ok here := by
  obtain ⟨before, dots, hnames, hdots⟩ := h.exists_names
  have hwalk := FileTree.foldlM_of_locate hplace
  rw [hnames, List.foldlM_append] at hwalk
  cases hprevious : before.foldlM t.step (t.start p) with
  | error e =>
    rw [hprevious] at hwalk
    cases hwalk
  | ok previous =>
    rw [hprevious] at hwalk
    change (String.ofList name :: dots).foldlM t.step previous = .ok here at hwalk
    rw [List.foldlM_cons] at hwalk
    cases hstep : t.step previous (String.ofList name) with
    | error e =>
      rw [hstep] at hwalk
      cases hwalk
    | ok last =>
      rw [hstep] at hwalk
      obtain rfl := foldlM_step_dots hdots hwalk
      exact ⟨previous, FileTree.grounded_of_walk hprevious, hstep⟩

/-- A path leads to its last name, unless it goes up a directory. -/
theorem EndsIn.head?_of_locate {t : FileTree} {names : List String} (h : p.EndsIn base name trail)
    (hup : name ≠ ['.', '.']) (hplace : t.locate p = .ok names) :
    names.head? = some (String.ofList name) := by
  have hdot : String.ofList name ≠ "." := fun heq => by
    have hname : name = ['.'] := by simpa using congrArg String.toList heq
    exact absurd (hname ▸ h.named) (by decide)
  have hdots : String.ofList name ≠ ".." := fun heq =>
    hup (by simpa using congrArg String.toList heq)
  obtain ⟨previous, -, hstep⟩ := h.exists_step hplace
  rw [FileTree.step, FileTree.get?_of_step hstep] at hstep
  simp only [hdot, hdots, if_false] at hstep
  split at hstep
  · cases hstep
  · obtain rfl := Except.ok.inj hstep
    rfl

/-- A path that goes up a directory leads to a directory. -/
theorem EndsIn.get?_of_locate_up {t : FileTree} {here : List String}
    (h : p.EndsIn base ['.', '.'] trail) (hplace : t.locate p = .ok here) :
    t.get? here = some .directory := by
  obtain ⟨previous, hgrounded, hstep⟩ := h.exists_step hplace
  have hdir := FileTree.get?_of_step hstep
  rw [FileTree.step, hdir] at hstep
  obtain rfl : previous.tail = here := Except.ok.inj hstep
  exact hgrounded.get?_tail

/-- No text is written to a path that goes up a directory. -/
theorem EndsIn.attempt_writeText_up {w w' : World} (h : p.EndsIn base ['.', '.'] trail)
    (text : String) :
    w.attempt (p.writeText text) ≠ (.ok (), w') := by
  intro hwrite
  obtain ⟨t, hwrite⟩ := exists_write_of_writeText hwrite
  obtain ⟨names, -, hplace, -, hitem, -⟩ := FileTree.write_cases hwrite
  exact hitem (h.get?_of_locate_up hplace)

/-- Paths are apart if their last names differ. -/
theorem EndsIn.apart {base' name' trail' : List Char} (h : p.EndsIn base name trail)
    (h' : q.EndsIn base' name' trail') (hup : name ≠ ['.', '.']) (hup' : name' ≠ ['.', '.'])
    (hne : name ≠ name') : p.Apart q := by
  intro t names hp hq
  have hlast := (h.head?_of_locate hup hp).symm.trans (h'.head?_of_locate hup' hq)
  exact hne (String.ofList_injective (Option.some.inj hlast))

end Path

namespace OutputPaths

open PlotDeck.Path

variable {p : Path} {ext : String}

/-- A stem with more text behind it is a name. -/
theorem isName_append {stem : String} (hstem : '/' ∉ stem.toList) {t : String}
    (ht : '/' ∉ t.toList) (hlength : 2 < t.toList.length) :
    '/' ∉ (stem ++ t).toList ∧ isIdle (stem ++ t).toList = false ∧
    (stem ++ t).toList ≠ ['.', '.'] := by
  have hlong : ∀ u : List Char, u.length ≤ 2 → (stem ++ t).toList ≠ u := by
    rintro u hu rfl
    rw [String.toList_append, List.length_append] at hu
    omega
  refine ⟨?_, ?_, hlong _ (by decide)⟩
  · rw [String.toList_append, List.mem_append]
    exact fun h => h.elim hstem ht
  · exact isIdle_eq_false_iff.2 ⟨hlong _ (by decide), hlong _ (by decide)⟩

/-- A file in a directory that is named by a stem with more text behind it. -/
theorem endsIn_append (dir : Path) {stem : String} (hstem : '/' ∉ stem.toList) {t : String}
    (ht : '/' ∉ t.toList) (hlength : 2 < t.toList.length) :
    (dir.join ⟨stem ++ t⟩).EndsIn dir.frontOf (stem ++ t).toList [] ∧
      (stem ++ t).toList ≠ ['.', '.'] := by
  obtain ⟨hslash, hnamed, hup⟩ := isName_append hstem ht hlength
  exact ⟨endsIn_join dir hslash hnamed, hup⟩

section OfStem

variable {dir : Path} {stem stem' : String}

theorem endsIn_main (dir : Path) (hstem : '/' ∉ stem.toList) :
    (ofStem dir stem).main.EndsIn dir.frontOf (stem ++ "_slides.tex").toList [] ∧
      (stem ++ "_slides.tex").toList ≠ ['.', '.'] :=
  endsIn_append dir hstem (by decide) (by decide)

theorem endsIn_body (dir : Path) (hstem : '/' ∉ stem.toList) :
    (ofStem dir stem).body.EndsIn dir.frontOf (stem ++ "_slides_input.tex").toList [] ∧
      (stem ++ "_slides_input.tex").toList ≠ ['.', '.'] :=
  endsIn_append dir hstem (by decide) (by decide)

/-- The outputs in a directory are told apart by their stem. -/
theorem stem_eq_of_ofStem_eq (hstem : '/' ∉ stem.toList) (hstem' : '/' ∉ stem'.toList)
    (h : ofStem dir stem = ofStem dir stem') : stem = stem' := by
  have htext := (endsIn_main dir hstem).1.text
  rw [h, (endsIn_main dir hstem').1.text] at htext
  simp only [String.toList_append, List.append_nil] at htext
  exact String.toList_inj.1 (List.append_cancel_right (List.append_cancel_left htext)).symm

/-- The two documents are apart. -/
theorem apart_body_main (dir : Path) (hstem : '/' ∉ stem.toList) :
    (ofStem dir stem).body.Apart (ofStem dir stem).main := by
  obtain ⟨hbody, hbodyUp⟩ := endsIn_body dir hstem
  obtain ⟨hmain, hmainUp⟩ := endsIn_main dir hstem
  refine hbody.apart hmain hbodyUp hmainUp fun h => ?_
  rw [String.toList_append, String.toList_append] at h
  exact absurd (List.append_cancel_left h) (by decide)

end OfStem

/-- A stem holds no slash. -/
theorem slash_not_mem_fileStem (p : Path) : '/' ∉ (p.fileStem?.getD "").toList := by
  cases hname : p.fileName? with
  | none => simp [fileStem?, hname]
  | some last =>
    obtain ⟨base, trail, hends, hup⟩ := exists_endsIn hname
    rw [hends.fileStem? hup, Option.getD_some, String.toList_ofList]
    exact fun h => hends.noSlash ((splitExtension_isPrefix _).subset h)

/-- A path with another extension has the same outputs exactly if it does not end in a name of two
dots and an extension. -/
theorem ofConfig_withExtension_eq_iff (hname : p.fileName?.isSome) (hext : ext ≠ "")
    (hslash : '/' ∉ ext.toList) (hdot : '.' ∉ ext.toList) :
    ofConfig (p.withExtension ext) = ofConfig p ↔ ¬p.EndsInDots := by
  constructor
  · intro h hdots
    obtain ⟨base, name, hends, hup, hstem, hnew⟩ := exists_endsIn_withExtension_dots hname hdots ext
    have hnone : (p.withExtension ext).fileStem? = none := by
      rw [fileStem?, fileName?, hnew.partsBack]
      rfl
    rw [ofConfig, ofConfig, hends.parent?, hnew.parent?, hends.fileStem? hup, hstem, hnone] at h
    exact absurd (stem_eq_of_ofStem_eq (by decide) (by decide) h) (by decide)
  · intro hdots
    obtain ⟨base, name, trail, hends, hup, hnew, hnewup⟩ :=
      exists_endsIn_withExtension hname hdots hext hslash
    rw [ofConfig, ofConfig, hends.parent?, hnew.parent?, hends.fileStem? hup, hnew.fileStem? hnewup,
      splitExtension_append (splitExtension_ne_nil hends.name_ne_nil) hdot]

/-- A file with another extension is apart from both documents. -/
theorem apart_withExtension (hname : p.fileName?.isSome) (hdots : ¬p.EndsInDots) (hext : ext ≠ "")
    (hslash : '/' ∉ ext.toList) :
    (p.withExtension ext).Apart (ofConfig p).body ∧
    (p.withExtension ext).Apart (ofConfig p).main := by
  obtain ⟨base, name, trail, hends, hup, hnew, hnewup⟩ :=
    exists_endsIn_withExtension hname hdots hext hslash
  have hstem := slash_not_mem_fileStem p
  obtain ⟨hbody, hbodyUp⟩ := endsIn_body (p.parent?.getD ⟨""⟩) hstem
  obtain ⟨hmain, hmainUp⟩ := endsIn_main (p.parent?.getD ⟨""⟩) hstem
  have hsame : (p.fileStem?.getD "").toList = (splitExtension name).1 := by
    rw [hends.fileStem? hup, Option.getD_some, String.toList_ofList]
  refine ⟨hnew.apart hbody hnewup hbodyUp fun h => ?_, hnew.apart hmain hnewup hmainUp fun h => ?_⟩
  all_goals
    rw [String.toList_append, hsame] at h
    exact absurd (List.cons.inj (List.append_cancel_left h)).1 (by decide)

end OutputPaths

/-- A path with the extension of JSON is read as JSON. -/
theorem Format.ofPath_withExtension_json {p : Path} (hname : p.fileName?.isSome)
    (hdots : ¬p.EndsInDots) : ofPath (p.withExtension "json") = .json := by
  rw [ofPath, Path.extension?_withExtension hname hdots (by decide) (by decide) (by decide)]
  rfl

end PlotDeck
