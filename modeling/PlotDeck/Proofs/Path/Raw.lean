import PlotDeck.Proofs.Path.Directory
import PlotDeck.Proofs.Text.Utf8
import PlotDeck.RawPath

/-!
# Spelled paths

The slash and the dot are spelled as themselves, and no other character is spelled with them. So the
spelling of a text is taken apart where the text is, and the outputs next to a path that is a text
are the outputs of that text, spelled (`RawPath.outputs_ofPath`).

A spelled text shows that text (`shownText_bytewise`). What else a stem shows holds no slash either
(`RawPath.slash_not_mem_stemText`), and it is followed by a dot and an extension if the stem is
(`RawPath.exists_shownText_append_dot`): so no file has the name of an output of its own
(`RawPath.bytewise_stemText_append_ne`).
-/

namespace PlotDeck

open PlotDeck.Path Text

/-! ### Spellings -/

theorem unspell_spell (bytes : List UInt8) : unspell (spell bytes) = bytes := by
  rw [unspell, spell, String.toList_ofList, List.map_map]
  refine List.map_id'' (fun b => ?_) bytes
  rw [Function.comp_apply, toNat_ofNat_of_lt b.toNat_lt, UInt8.ofNat_toNat]

/-- A text is shown as it is. -/
theorem shownText_bytewise (s : String) : shownText (bytewise s) = s := by
  rw [shownText, bytewise, unspell_spell, decodeFrom_utf8, String.ofList_toList]

theorem bytewise_injective : Function.Injective bytewise :=
  Function.LeftInverse.injective shownText_bytewise

/-- Characters, with one for each of their bytes. -/
def spelled (t : List Char) : List Char := (utf8 t).map fun b => Char.ofNat b.toNat

theorem toList_bytewise (s : String) : (bytewise s).toList = spelled s.toList := by
  rw [bytewise, spell, String.toList_ofList, spelled]

theorem bytewise_ofList (t : List Char) :
    bytewise (String.ofList t) = String.ofList (spelled t) := by
  rw [bytewise, spell, String.toList_ofList, spelled]

theorem spelled_append (s t : List Char) : spelled (s ++ t) = spelled s ++ spelled t := by
  simp only [spelled, utf8, List.flatMap_append, List.map_append]

theorem spelled_cons (c : Char) (t : List Char) : spelled (c :: t) = spelled [c] ++ spelled t :=
  spelled_append [c] t

theorem bytewise_append (s t : String) : bytewise (s ++ t) = bytewise s ++ bytewise t := by
  rw [← String.toList_inj, toList_bytewise, String.toList_append, String.toList_append,
    spelled_append, toList_bytewise, toList_bytewise]

theorem spelled_injective : Function.Injective spelled := fun s t h => by
  have hofList : bytewise (String.ofList s) = bytewise (String.ofList t) := by
    rw [bytewise_ofList, bytewise_ofList, h]
  exact String.ofList_injective (bytewise_injective hofList)

theorem spelled_eq_nil_iff {t : List Char} : spelled t = [] ↔ t = [] :=
  spelled_injective.eq_iff' rfl

/-- An ASCII character is spelled as itself, and no other character is spelled with one. -/
theorem spelled_singleton (c : Char) :
    (c.toNat < 0x80 ∧ spelled [c] = [c]) ∨
      (0x80 ≤ c.toNat ∧ spelled [c] ≠ [] ∧ ∀ d ∈ spelled [c], 0x80 ≤ d.toNat) := by
  have hbytes : spelled [c] = (String.utf8EncodeChar c).map fun b => Char.ofNat b.toNat := by
    rw [spelled, utf8, List.flatMap_singleton]
  rw [hbytes]
  rcases utf8EncodeChar_eq_or c with ⟨hascii, hchar⟩ | ⟨hlarge, hne, hall⟩
  · have hbyte : (UInt8.ofNat c.toNat).toNat = c.toNat := Nat.mod_eq_of_lt (by omega)
    rw [hchar, List.map_singleton, hbyte, Char.ofNat_toNat]
    exact .inl ⟨hascii, rfl⟩
  · refine .inr ⟨hlarge, mt List.map_eq_nil_iff.1 hne, fun d hd => ?_⟩
    obtain ⟨b, hb, rfl⟩ := List.mem_map.1 hd
    rw [toNat_ofNat_of_lt b.toNat_lt]
    exact hall b hb

section Ascii

variable {a : Char} (ha : a.toNat < 0x80)

include ha

theorem mem_spelled_iff {t : List Char} : a ∈ spelled t ↔ a ∈ t := by
  induction t with
  | nil => rfl
  | cons c t ih =>
    rw [spelled_cons, List.mem_append, ih, List.mem_cons]
    rcases spelled_singleton c with ⟨-, hc⟩ | ⟨hlarge, -, hall⟩
    · rw [hc, List.mem_singleton]
    · have hne : a ≠ c := by
        rintro rfl
        omega
      have hnot : a ∉ spelled [c] := fun h => Nat.not_lt.2 (hall a h) ha
      simp only [hne, hnot]

theorem head?_spelled_iff {t : List Char} : (spelled t).head? = some a ↔ t.head? = some a := by
  cases t with
  | nil => rfl
  | cons c t =>
    rw [spelled_cons, List.head?_cons, Option.some_inj]
    rcases spelled_singleton c with ⟨-, hc⟩ | ⟨hlarge, hne, hall⟩
    · rw [hc, List.singleton_append, List.head?_cons, Option.some_inj]
    · obtain ⟨d, r, hd⟩ := List.exists_cons_of_ne_nil hne
      have hlargeD : 0x80 ≤ d.toNat := hall d (hd ▸ List.mem_cons_self)
      rw [hd, List.cons_append, List.head?_cons, Option.some_inj]
      constructor <;> rintro rfl <;> omega

theorem getLast?_spelled_iff {t : List Char} :
    (spelled t).getLast? = some a ↔ t.getLast? = some a := by
  rcases List.eq_nil_or_concat t with rfl | ⟨t, c, rfl⟩
  · rfl
  · rw [List.concat_eq_append, spelled_append, List.getLast?_concat, Option.some_inj]
    rcases spelled_singleton c with ⟨-, hc⟩ | ⟨hlarge, hne, hall⟩
    · rw [hc, List.getLast?_concat, Option.some_inj]
    · rw [List.getLast?_append, List.getLast?_eq_some_getLast hne, Option.some_or, Option.some_inj]
      have hlargeD := hall _ (List.getLast_mem hne)
      constructor
      · intro h
        rw [h] at hlargeD
        omega
      · rintro rfl
        omega

end Ascii

/-! ### Paths that are texts -/

namespace Path

theorem splitSlashes_spelled (t : List Char) :
    splitSlashes (spelled t) = (splitSlashes t).map spelled := by
  induction t with
  | nil => rfl
  | cons c t ih =>
    by_cases hc : c = '/'
    · rw [spelled_cons, hc, splitSlashes, if_pos rfl, List.map_cons, ← ih]
      rfl
    · -- the bytes of the character all go to the first part
      obtain ⟨part, parts, ht, hcons⟩ := splitSlashes_cons_of_ne hc t
      have hslash : '/' ∉ spelled [c] := by
        rw [mem_spelled_iff (by decide), List.mem_singleton]
        exact Ne.symm hc
      rw [ht, List.map_cons] at ih
      rw [hcons, spelled_cons, splitSlashes_append_of_not_mem hslash ih, List.map_cons,
        spelled_cons c part]

/-- What a path starts with before its first name is spelled as itself. -/
theorem lead_spelled (t : List Char) : lead (spelled t) = lead t := by
  cases t with
  | nil => rfl
  | cons c t =>
    rw [spelled_cons]
    rcases spelled_singleton c with ⟨-, hc⟩ | ⟨hlarge, hne, hall⟩
    · rw [hc, List.singleton_append, lead_cons, lead_cons]
      simp only [spelled_eq_nil_iff, head?_spelled_iff (a := '/') (by decide)]
    · -- neither the character nor the first of its bytes is a slash or a dot
      have hother : ∀ {d : Char} {u : List Char}, 0x80 ≤ d.toNat → lead (d :: u) = [] := by
        intro d u hd
        rw [lead_cons, if_neg, if_neg]
        · rintro ⟨rfl, -⟩
          exact absurd hd (by decide)
        · rintro rfl
          exact absurd hd (by decide)
      obtain ⟨d, r, hd⟩ := List.exists_cons_of_ne_nil hne
      rw [hd, List.cons_append, hother (hall d (hd ▸ List.mem_cons_self)), hother hlarge]

theorem spelled_lead (t : List Char) : spelled (lead t) = lead t := by
  rcases lead_cases t with h | h | h <;> rw [h] <;> rfl

theorem isIdle_spelled (part : List Char) : isIdle (spelled part) = isIdle part := by
  have hdot : spelled part = ['.'] ↔ part = ['.'] := spelled_injective.eq_iff' rfl
  rw [Bool.eq_iff_iff, isIdle_iff, isIdle_iff, spelled_eq_nil_iff, hdot]

theorem dropWhile_isIdle_map (parts : List (List Char)) :
    (parts.map spelled).dropWhile isIdle = (parts.dropWhile isIdle).map spelled := by
  rw [List.dropWhile_map]
  simp only [Function.comp_def, isIdle_spelled]

theorem spelled_intercalate (parts : List (List Char)) :
    spelled (List.intercalate ['/'] parts) = List.intercalate ['/'] (parts.map spelled) := by
  induction parts with
  | nil => rfl
  | cons part parts ih =>
    cases parts with
    | nil => simp
    | cons next parts =>
      have hslash : spelled ['/'] = ['/'] := rfl
      rw [List.intercalate_cons_cons, spelled_append, spelled_append, hslash, ih, List.map_cons,
        List.map_cons, List.map_cons, List.intercalate_cons_cons]

end Path

namespace RawPath

variable {p q : Path}

theorem spelling_ofPath (p : Path) : (ofPath p).spelling = ⟨bytewise p.text⟩ := rfl

theorem toList_spelling (p : Path) : (ofPath p).spelling.text.toList = spelled p.text.toList := by
  rw [spelling_ofPath, toList_bytewise]

theorem partsBack_spelling (p : Path) :
    (ofPath p).spelling.partsBack = p.partsBack.map spelled := by
  have hdrop : (spelled p.text.toList).drop (lead p.text.toList).length
      = spelled (p.text.toList.drop (lead p.text.toList).length) := by
    have happend := List.prefix_iff_eq_append.1 (lead_isPrefix p.text.toList)
    have hspelled := congrArg spelled happend
    rw [spelled_append, spelled_lead] at hspelled
    rw [← hspelled, List.drop_left]
  rw [partsBack, toList_spelling, lead_spelled, hdrop, splitSlashes_spelled, ← List.map_reverse,
    dropWhile_isIdle_map, partsBack]

theorem ofPartsBack_spelled (t : List Char) (parts : List (List Char)) :
    ofPartsBack (lead t) (parts.map spelled) = (ofPath (ofPartsBack (lead t) parts)).spelling := by
  refine eq_of_toList_eq ?_
  rw [toList_spelling, ofPartsBack, ofPartsBack, String.toList_ofList, String.toList_ofList,
    spelled_append, spelled_lead, spelled_intercalate, dropWhile_isIdle_map, List.map_reverse]

theorem parent?_spelling (p : Path) :
    (ofPath p).spelling.parent? = p.parent?.map fun dir => (ofPath dir).spelling := by
  rw [parent?, parent?, partsBack_spelling, toList_spelling, lead_spelled]
  cases p.partsBack with
  | nil =>
    rw [List.map_nil]
    dsimp only
    split <;> rfl
  | cons part rest =>
    rw [List.map_cons]
    dsimp only
    rw [ofPartsBack_spelled, Option.map_some]

theorem fileName?_spelling (p : Path) :
    (ofPath p).spelling.fileName? = p.fileName?.map bytewise := by
  rw [fileName?, fileName?, partsBack_spelling]
  cases p.partsBack with
  | nil => rfl
  | cons part rest =>
    have hdots : spelled part = ['.', '.'] ↔ part = ['.', '.'] := spelled_injective.eq_iff' rfl
    simp only [List.map_cons, hdots]
    split
    · rfl
    · rw [Option.map_some, bytewise_ofList]

theorem splitExtension_spelled (name : List Char) :
    (splitExtension (spelled name)).1 = spelled (splitExtension name).1 := by
  have hspelled : ∀ {t : List Char}, '.' ∈ spelled t ↔ '.' ∈ t := mem_spelled_iff (by decide)
  by_cases hdot : '.' ∈ name
  · obtain ⟨stem, ext, rfl, hext⟩ := exists_eq_append_last_dot hdot
    have hcons : spelled ('.' :: ext) = '.' :: spelled ext := spelled_cons '.' ext
    rw [spelled_append, hcons, splitExtension_append_dot _ (mt hspelled.1 hext),
      splitExtension_append_dot _ hext]
    simp only [spelled_eq_nil_iff]
    split
    · exact hcons.symm
    · rfl
  · rw [splitExtension_of_not_mem hdot, splitExtension_of_not_mem (mt hspelled.1 hdot)]

theorem fileStem?_spelling (p : Path) :
    (ofPath p).spelling.fileStem? = p.fileStem?.map bytewise := by
  rw [fileStem?, fileStem?, fileName?_spelling, Option.map_map, Option.map_map]
  refine congrArg (p.fileName?.map ·) (funext fun name => ?_)
  rw [Function.comp_apply, Function.comp_apply, toList_bytewise, splitExtension_spelled,
    bytewise_ofList]

/-- The text that the stem of a text shows is that stem. -/
theorem stemText_ofPath (p : Path) : (ofPath p).stemText = p.stem := by
  rw [stemText, fileStem?_spelling, stem]
  cases p.fileStem? with
  | none => rfl
  | some stem => exact shownText_bytewise stem

theorem frontOf_spelling (dir : Path) : (ofPath dir).spelling.frontOf = spelled dir.frontOf := by
  have hempty : (ofPath dir).spelling.text = "" ↔ dir.text = "" := bytewise_injective.eq_iff' rfl
  rw [frontOf, frontOf, toList_spelling, spelled_append]
  simp only [hempty, getLast?_spelled_iff (a := '/') (by decide)]
  split <;> rfl

/-- A file in a directory is spelled in the spelling of the directory. -/
theorem join_spelling (dir : Path) (hslash : '/' ∉ q.text.toList) :
    (ofPath (dir.join q)).spelling = (ofPath dir).spelling.join (ofPath q).spelling := by
  have hspelled : '/' ∉ (ofPath q).spelling.text.toList := by
    rwa [toList_spelling, mem_spelled_iff (by decide)]
  refine eq_of_toList_eq ?_
  rw [toList_spelling, toList_join dir (isAbsolute_of_not_mem hslash), spelled_append,
    toList_join _ (isAbsolute_of_not_mem hspelled), frontOf_spelling, toList_spelling]

theorem join_append_spelling (dir : Path) {stem ending : String} (hstem : '/' ∉ stem.toList)
    (hslash : '/' ∉ ending.toList) (hascii : bytewise ending = ending) :
    (ofPath (dir.join ⟨stem ++ ending⟩)).spelling
      = (ofPath dir).spelling.join ⟨bytewise stem ++ ending⟩ := by
  have hname : '/' ∉ (stem ++ ending).toList := by
    rw [String.toList_append, List.mem_append]
    exact fun h => h.elim hstem hslash
  rw [join_spelling (q := ⟨stem ++ ending⟩) dir hname, spelling_ofPath ⟨stem ++ ending⟩,
    bytewise_append, hascii]

/-- The outputs next to a path that is a text are the outputs of that text, spelled. -/
theorem outputs_ofPath (p : Path) :
    (ofPath p).outputs = {
      main := (ofPath (OutputPaths.ofConfig p).main).spelling
      body := (ofPath (OutputPaths.ofConfig p).body).spelling
      pdf := (ofPath (OutputPaths.ofConfig p).pdf).spelling } := by
  have hdir : (ofPath p).spelling.parent?.getD ⟨""⟩ = (ofPath p.directory).spelling := by
    rw [parent?_spelling, directory]
    cases p.parent? <;> rfl
  have hstem : '/' ∉ p.stem.toList := OutputPaths.slash_not_mem_fileStem p
  rw [outputs, hdir, stemText_ofPath, OutputPaths.ofConfig_eq]
  simp only [OutputPaths.ofStem]
  rw [join_append_spelling _ hstem (by decide : '/' ∉ "_slides.tex".toList) (by decide),
    join_append_spelling _ hstem (by decide : '/' ∉ "_slides_input.tex".toList) (by decide),
    join_append_spelling _ hstem (by decide : '/' ∉ "_slides.pdf".toList) (by decide)]

/-! ### What a stem shows -/

/-- A dot is shown as it is, and what follows it is shown by itself. -/
theorem exists_shownText_append_dot (s : String) (ext : List Char) :
    ∃ t, (shownText (s ++ String.ofList ('.' :: ext))).toList
      = (shownText s).toList ++ '.' :: t := by
  refine ⟨decodeFrom none (ext.map fun c => UInt8.ofNat c.toNat), ?_⟩
  rw [shownText, shownText, String.toList_ofList, String.toList_ofList, unspell, unspell,
    String.toList_append, String.toList_ofList, List.map_append, List.map_cons,
    decodeFrom_append_cons forall_mem_none_isOpen (by decide)]
  rfl

variable {p : RawPath} {c : Char}

/-- The spelling of a stem is made of characters for bytes. -/
theorem toNat_lt_of_mem_stem (h : c ∈ p.spelling.stem.toList) : c.toNat < 256 := by
  have hmem : c ∈ (spell p.bytes).toList := mem_of_mem_stem h
  rw [spell, String.toList_ofList] at hmem
  obtain ⟨b, -, rfl⟩ := List.mem_map.1 hmem
  rw [toNat_ofNat_of_lt b.toNat_lt]
  exact b.toNat_lt

/-- No stem shows a slash. -/
theorem slash_not_mem_stemText (p : RawPath) : '/' ∉ p.stemText.toList := by
  intro h
  rw [stemText, ← stem, shownText, String.toList_ofList] at h
  obtain ⟨b, hb, hslash⟩ := exists_byte_of_mem_decodeFrom forall_mem_none_isOpen h (by decide) (by decide)
  obtain ⟨c, hc, rfl⟩ := List.mem_map.1 hb
  have hbyte : (UInt8.ofNat c.toNat).toNat = c.toNat :=
    Nat.mod_eq_of_lt (toNat_lt_of_mem_stem hc)
  have hchar : c = '/' := Char.toNat_inj.1 (hbyte.symm.trans hslash)
  exact OutputPaths.slash_not_mem_fileStem p.spelling (hchar ▸ hc)

theorem slash_not_mem_bytewise_stemText (p : RawPath) : '/' ∉ (bytewise p.stemText).toList := by
  rw [toList_bytewise, mem_spelled_iff (by decide)]
  exact p.slash_not_mem_stemText

/-- The name of a path is not the text that its stem shows and an ending that does not start with a
dot. -/
theorem bytewise_stemText_append_ne {name : List Char} {ending : String}
    (hascii : bytewise ending = ending) (hhead : ending.toList.head? = some c) (hc : c ≠ '.')
    (hname : name = p.spelling.stem.toList ∨ ∃ ext, name = p.spelling.stem.toList ++ '.' :: ext) :
    (bytewise p.stemText ++ ending).toList ≠ name := by
  intro heq
  have hshown : shownText (String.ofList name) = p.stemText ++ ending := by
    rw [← heq, String.ofList_toList, ← hascii, ← bytewise_append, shownText_bytewise, hascii]
  have hcases : (shownText (String.ofList name)).toList = p.stemText.toList ∨
      ∃ t, (shownText (String.ofList name)).toList = p.stemText.toList ++ '.' :: t := by
    obtain hname | ⟨ext, hname⟩ := hname
    · rw [hname, String.ofList_toList]
      exact .inl rfl
    · rw [hname, String.ofList_append, String.ofList_toList]
      exact .inr (exists_shownText_append_dot p.spelling.stem ext)
  refine append_ne_of_head? hhead hc hcases ?_
  rw [hshown, String.toList_append]

end RawPath

end PlotDeck
