import PlotDeck.Proofs.Build.Artifacts
import PlotDeck.Proofs.CommandLine.SavedComparison
import PlotDeck.Proofs.Path.Raw

/-!
# What a run touches

The **footprint** of a deck are the files that are written when it is made and the files that are
removed when it has been typeset (`OutputPaths.footprint`). Each is named by the stem of the deck
and an ending, and none of the endings ends with another one. So a name tells the stem and the
ending that it was put together from, whatever the stem looks like
(`OutputPaths.stem_eq_of_append_ending`): files of the same deck differ, and decks with different
stems share none of them (`OutputPaths.footprint_ofConfig_toldApart`).

The stem that names the files of a footprint is the text that the stem of the deck shows. So where a
stem is no text, it is this text that has to differ (`RawPath.footprint_toldApart`), and not the
stem itself (`RawPath.footprint_eq_of_undecodable`). Such paths are spelled with one character for
each byte, and so are the names in the trees that they are looked for in.
-/

namespace PlotDeck

open World PlotDeck.Path

variable {p q : Path}

/-- The last names of two paths differ, and there is no tree in which both lead to the same
place. -/
def Path.ToldApart (p q : Path) : Prop := p.fileName? ≠ q.fileName? ∧ p.Apart q

theorem Path.ToldApart.symm (h : p.ToldApart q) : q.ToldApart p :=
  ⟨h.1.symm, h.2.symm⟩

theorem Path.EndsIn.toldApart {base name trail base' name' trail' : List Char}
    (h : p.EndsIn base name trail) (h' : q.EndsIn base' name' trail') (hup : name ≠ ['.', '.'])
    (hup' : name' ≠ ['.', '.']) (hne : name ≠ name') : p.ToldApart q := by
  refine ⟨?_, h.apart h' hup hup' hne⟩
  rw [h.fileName? hup, h'.fileName? hup']
  exact fun heq => hne (String.ofList_injective (Option.some.inj heq))

namespace OutputPaths

/-! ### Endings -/

/-- What follows the stem in the names of the files of a deck. -/
def endings : List String :=
  ["_slides.tex", "_slides_input.tex", "_slides.pdf"] ++
    intermediateExtensions.map ("_slides." ++ ·)

/-- An ending has no slash, starts with an underscore and is no end of another one. -/
theorem forall_mem_endings : ∀ e ∈ endings, '/' ∉ e.toList ∧ 2 < e.toList.length ∧
    e.toList.head? = some '_' ∧ ∀ e' ∈ endings, e.toList <:+ e'.toList → e = e' := by
  decide +kernel

theorem nodup_endings : endings.Nodup := by decide

/-- An ending is spelled as it is. -/
theorem forall_mem_endings_bytewise : ∀ e ∈ endings, bytewise e = e := by
  decide +kernel

/-- The stem and the ending of a name are told by the name. -/
theorem stem_eq_of_append_ending {stem stem' e e' : String} (he : e ∈ endings) (he' : e' ∈ endings)
    (h : stem ++ e = stem' ++ e') : stem = stem' ∧ e = e' := by
  have hsame : e = e' := by
    have hlist : stem.toList ++ e.toList = stem'.toList ++ e'.toList := by
      simpa only [String.toList_append] using congrArg String.toList h
    have hend : e.toList <:+ stem.toList ++ e.toList := List.suffix_append _ _
    have hend' : e'.toList <:+ stem.toList ++ e.toList := hlist ▸ List.suffix_append _ _
    -- both end the same name, so the shorter one ends the longer one
    rcases List.suffix_or_suffix_of_suffix hend hend' with hsuffix | hsuffix
    · exact (forall_mem_endings e he).2.2.2 e' he' hsuffix
    · exact ((forall_mem_endings e' he').2.2.2 e he hsuffix).symm
  subst hsame
  exact ⟨(String.append_left_inj e).1 h, rfl⟩

/-! ### Footprints -/

/-- The files that may be written or removed when a deck with these outputs is made and typeset. -/
def footprint (o : OutputPaths) (b : BuildOptions) (nonstop : Bool) : List Path :=
  [o.main, o.body, o.pdf] ++ intermediates ((b.compilerFor o nonstop).artifactBase o.main)

/-- Writing documents and cleaning up behind their compiler keeps what a file outside of the
footprint reads as. -/
theorem preserves_of_toldApart {o : OutputPaths} {b : BuildOptions} {nonstop : Bool} {f : Path}
    (h : ∀ g ∈ o.footprint b nonstop, f.ToldApart g) (docs : Documents) (text : String) :
    Preserves (f.Reads text) (docs.write o).run ∧
      Preserves (f.Reads text)
        (removeIntermediates ((b.compilerFor o nonstop).artifactBase o.main)) := by
  rw [footprint, List.forall_mem_append] at h
  obtain ⟨hplanned, hintermediates⟩ := h
  have hmain : f.Apart o.main := (hplanned _ (by simp)).2
  have hbody : f.Apart o.body := (hplanned _ (by simp)).2
  exact ⟨docs.preserves_write hbody hmain,
    preserves_removeFiles fun g hg => (hintermediates g hg).2⟩

section OfStem

variable {dir dir' : Path} {stem stem' : String} {b b' : BuildOptions} {nonstop nonstop' : Bool}

/-- Files with different stems or different endings are told apart. -/
theorem toldApart_of_mem_endings (hstem : '/' ∉ stem.toList) (hstem' : '/' ∉ stem'.toList)
    {e e' : String} (he : e ∈ endings) (he' : e' ∈ endings) (hne : stem ≠ stem' ∨ e ≠ e') :
    (dir.join ⟨stem ++ e⟩).ToldApart (dir'.join ⟨stem' ++ e'⟩) := by
  obtain ⟨hslash, hlength, -, -⟩ := forall_mem_endings e he
  obtain ⟨hslash', hlength', -, -⟩ := forall_mem_endings e' he'
  obtain ⟨hends, hup⟩ := endsIn_append dir hstem hslash hlength
  obtain ⟨hends', hup'⟩ := endsIn_append dir' hstem' hslash' hlength'
  refine hends.toldApart hends' hup hup' fun hsame => ?_
  obtain ⟨hstem, hending⟩ := stem_eq_of_append_ending he he' (String.toList_inj.1 hsame)
  exact hne.elim (· hstem) (· hending)

variable (hdir : dir.IsTidy) (hstem : '/' ∉ stem.toList)

include hdir hstem

/-- The footprint of a deck is in its directory, and named by its stem and the endings. -/
theorem footprint_ofStem (b : BuildOptions) (nonstop : Bool) :
    (ofStem dir stem).footprint b nonstop = endings.map fun e => dir.join ⟨stem ++ e⟩ := by
  have hintermediates :
      intermediates ((b.compilerFor (ofStem dir stem) nonstop).artifactBase (ofStem dir stem).main)
        = (intermediateExtensions.map ("_slides." ++ ·)).map fun e => dir.join ⟨stem ++ e⟩ := by
    rw [List.map_map]
    refine List.map_congr_left fun ext hmem => ?_
    obtain ⟨hext, -⟩ := forall_mem_intermediateExtensions ext hmem
    rw [addExtension_artifactBase hdir hstem b nonstop hext, baseName_append_dot,
      Function.comp_apply]
  have hplanned : [(ofStem dir stem).main, (ofStem dir stem).body, (ofStem dir stem).pdf]
      = ["_slides.tex", "_slides_input.tex", "_slides.pdf"].map
        fun e => dir.join ⟨stem ++ e⟩ := by
    simp only [ofStem, List.map_cons, List.map_nil]
  rw [footprint, hintermediates, hplanned, endings, List.map_append]

theorem pairwise_footprint : ((ofStem dir stem).footprint b nonstop).Pairwise ToldApart := by
  rw [footprint_ofStem hdir hstem, List.pairwise_map]
  exact nodup_endings.imp_of_mem fun he he' hne =>
    toldApart_of_mem_endings hstem hstem he he' (.inr hne)

/-- No file of a footprint is a file whose name is not the stem and an ending. -/
theorem toldApart_of_name {base name trail : List Char} {f : Path}
    (hends : p.EndsIn base name trail)
    (hup : name ≠ ['.', '.']) (hne : ∀ e ∈ endings, (stem ++ e).toList ≠ name)
    (hf : f ∈ (ofStem dir stem).footprint b nonstop) : f.ToldApart p := by
  rw [footprint_ofStem hdir hstem] at hf
  obtain ⟨e, he, rfl⟩ := List.mem_map.1 hf
  obtain ⟨hslash, hlength, -, -⟩ := forall_mem_endings e he
  obtain ⟨hfile, hfileUp⟩ := endsIn_append dir hstem hslash hlength
  exact hfile.toldApart hends hfileUp hup (hne e he)

/-- Decks with different stems share no file of their footprints. -/
theorem toldApart_footprint (hdir' : dir'.IsTidy) (hstem' : '/' ∉ stem'.toList)
    (hne : stem ≠ stem') {f g : Path} (hf : f ∈ (ofStem dir stem).footprint b nonstop)
    (hg : g ∈ (ofStem dir' stem').footprint b' nonstop') : f.ToldApart g := by
  rw [footprint_ofStem hdir hstem] at hf
  rw [footprint_ofStem hdir' hstem'] at hg
  obtain ⟨e, he, rfl⟩ := List.mem_map.1 hf
  obtain ⟨e', he', rfl⟩ := List.mem_map.1 hg
  exact toldApart_of_mem_endings hstem hstem' he he' (.inl hne)

end OfStem

/-- A file of a footprint is not the path that it is named after. -/
theorem toldApart_config {b : BuildOptions} {nonstop : Bool} {f : Path}
    (hname : p.fileName?.isSome) (hf : f ∈ (ofConfig p).footprint b nonstop) : f.ToldApart p := by
  obtain ⟨base, name, trail, hends, hup, -, -, hcases⟩ := exists_endsIn_stem hname
  refine toldApart_of_name p.isTidy_directory (slash_not_mem_fileStem p) hends hup
    (fun e he => ?_) hf
  obtain ⟨-, -, hhead, -⟩ := forall_mem_endings e he
  rw [← stem, String.toList_append]
  exact append_ne_of_head? hhead (by decide) hcases

/-- **What a run touches**, for every text that is a path with a file name. The files of the
footprint of a deck are told apart from each other, from the deck itself, and from those of every
deck with another stem, be it in the same directory or elsewhere. So making the deck changes neither
what describes it nor what is made from another deck. -/
theorem footprint_ofConfig_toldApart (p : Path) (b : BuildOptions) (nonstop : Bool)
    (hname : p.fileName?.isSome) :
    ((ofConfig p).footprint b nonstop).Pairwise ToldApart ∧
    (∀ f ∈ (ofConfig p).footprint b nonstop, f.ToldApart p) ∧
    (∀ (q : Path) (b' : BuildOptions) (nonstop' : Bool), q.stem ≠ p.stem →
      ∀ f ∈ (ofConfig p).footprint b nonstop, ∀ g ∈ (ofConfig q).footprint b' nonstop',
        f.ToldApart g) ∧
    ∀ (d : Deck) (options : RenderOptions) (f : Path) (text : String),
      (f = p ∨ ∃ (q : Path) (b' : BuildOptions) (nonstop' : Bool), q.stem ≠ p.stem ∧
        f ∈ (ofConfig q).footprint b' nonstop') →
      Preserves (f.Reads text) (d.make (ofConfig p) options).run := by
  have hstem := slash_not_mem_fileStem p
  have hother : ∀ (q : Path) (b' : BuildOptions) (nonstop' : Bool), q.stem ≠ p.stem →
      ∀ f ∈ (ofConfig p).footprint b nonstop, ∀ g ∈ (ofConfig q).footprint b' nonstop',
        f.ToldApart g := fun q b' nonstop' hne f hf g hg =>
    toldApart_footprint p.isTidy_directory hstem q.isTidy_directory (slash_not_mem_fileStem q)
      hne.symm hf hg
  refine ⟨pairwise_footprint p.isTidy_directory hstem, fun f hf => toldApart_config hname hf,
    hother,
    fun d options f text hf => ?_⟩
  have hapart : ∀ g ∈ (ofConfig p).footprint b nonstop, f.ToldApart g := by
    obtain rfl | ⟨q, b', nonstop', hne, hf⟩ := hf
    · exact fun g hg => (toldApart_config hname hg).symm
    · exact fun g hg => (hother q b' nonstop' hne g hg f hf).symm
  rw [footprint, List.forall_mem_append] at hapart
  exact d.preserves_make (hapart.1 _ (by simp)).2 (hapart.1 _ (by simp)).2

example : (⟨"talks/a_slides.pdf"⟩ : Path).ToldApart ⟨"talks/a_slides_slides.pdf"⟩ := by
  obtain ⟨-, -, hother, -⟩ :=
    footprint_ofConfig_toldApart ⟨"talks/a.json"⟩ {} false (by decide +kernel)
  exact hother ⟨"talks/a_slides.json"⟩ {} false (by decide +kernel) _ (by decide +kernel) _
    (by decide +kernel)

end OutputPaths

namespace RawPath

open OutputPaths

variable {p q : RawPath} {b b' : BuildOptions} {nonstop nonstop' : Bool} {f g : Path}

theorem outputs_eq (p : RawPath) :
    p.outputs = ofStem p.spelling.directory (bytewise p.stemText) := rfl

/-- No file of a footprint is the file that the deck is described in. -/
theorem toldApart_spelling (hname : p.spelling.fileName?.isSome)
    (hf : f ∈ p.outputs.footprint b nonstop) : f.ToldApart p.spelling := by
  obtain ⟨base, name, trail, hends, hup, -, -, hcases⟩ := exists_endsIn_stem hname
  refine toldApart_of_name p.spelling.isTidy_directory p.slash_not_mem_bytewise_stemText hends hup
    (fun e he => ?_) hf
  obtain ⟨-, -, hhead, -⟩ := forall_mem_endings e he
  exact bytewise_stemText_append_ne (forall_mem_endings_bytewise e he) hhead (by decide) hcases

/-- Decks whose stems show different texts share no file of their footprints. -/
theorem toldApart_footprint_outputs (hne : p.stemText ≠ q.stemText)
    (hf : f ∈ p.outputs.footprint b nonstop) (hg : g ∈ q.outputs.footprint b' nonstop') :
    f.ToldApart g :=
  toldApart_footprint p.spelling.isTidy_directory p.slash_not_mem_bytewise_stemText
    q.spelling.isTidy_directory q.slash_not_mem_bytewise_stemText (bytewise_injective.ne hne) hf hg

/-- **What a run touches**, for every path of a deck that has a file name, whatever bytes it is made
of. The files of its footprint are told apart from each other, from the deck itself, and from those
of every deck whose stem shows another text, be it in the same directory or elsewhere. So writing
the documents and cleaning up behind their compiler changes neither what describes the deck nor what
is made from such another one. Decks in one directory whose stems show the same text have the same
outputs. -/
theorem footprint_toldApart (p : RawPath) (b : BuildOptions) (nonstop : Bool)
    (hname : p.spelling.fileName?.isSome) :
    (p.outputs.footprint b nonstop).Pairwise ToldApart ∧
    (∀ f ∈ p.outputs.footprint b nonstop, f.ToldApart p.spelling) ∧
    (∀ (q : RawPath) (b' : BuildOptions) (nonstop' : Bool), q.stemText ≠ p.stemText →
      ∀ f ∈ p.outputs.footprint b nonstop, ∀ g ∈ q.outputs.footprint b' nonstop',
        f.ToldApart g) ∧
    (∀ (docs : Documents) (f : Path) (text : String),
      (f = p.spelling ∨ ∃ (q : RawPath) (b' : BuildOptions) (nonstop' : Bool),
        q.stemText ≠ p.stemText ∧ f ∈ q.outputs.footprint b' nonstop') →
      Preserves (f.Reads text) (docs.write p.outputs).run ∧
        Preserves (f.Reads text)
          (removeIntermediates ((b.compilerFor p.outputs nonstop).artifactBase p.outputs.main))) ∧
    ∀ q : RawPath, q.spelling.directory = p.spelling.directory → q.stemText = p.stemText →
      q.outputs = p.outputs := by
  refine ⟨pairwise_footprint p.spelling.isTidy_directory p.slash_not_mem_bytewise_stemText,
    fun f hf => toldApart_spelling hname hf,
    fun q b' nonstop' hne f hf g hg => toldApart_footprint_outputs hne.symm hf hg,
    fun docs f text hf => preserves_of_toldApart (fun g hg => ?_) docs text,
    fun q hdir htext => by rw [outputs_eq, outputs_eq, hdir, htext]⟩
  obtain rfl | ⟨q, b', nonstop', hne, hf⟩ := hf
  · exact (toldApart_spelling hname hg).symm
  · exact toldApart_footprint_outputs hne hf hg

/-- A deck in the directory `talks` whose stem is a single byte. -/
def ofByte (stem : UInt8) : RawPath :=
  ⟨Text.utf8 "talks/".toList ++ stem :: Text.utf8 ".json".toList⟩

/-- A deck whose stem is no text, next to one that is named like its outputs. -/
theorem footprint_toldApart_of_undecodable :
    (ofByte 0xff).spelling.fileName?.isSome ∧
    (ofPath ⟨"talks/\ufffd_slides.json"⟩).stemText ≠ (ofByte 0xff).stemText ∧
    (ofByte 0xff).outputs.pdf.ToldApart (ofByte 0xff).spelling ∧
    (ofByte 0xff).outputs.pdf.ToldApart (ofPath ⟨"talks/\ufffd_slides_slides.pdf"⟩).spelling ∧
    (∀ (docs : Documents) (text : String),
      Preserves (Reads (ofPath ⟨"talks/\ufffd_slides_slides.tex"⟩).spelling text)
        (docs.write (ofByte 0xff).outputs).run) ∧
    (ofByte 0xfe).outputs = (ofByte 0xff).outputs := by
  have hname : (ofByte 0xff).spelling.fileName?.isSome := by decide +kernel
  have htext : (ofPath ⟨"talks/\ufffd_slides.json"⟩).stemText ≠ (ofByte 0xff).stemText := by
    decide +kernel
  have hmember : (ofPath ⟨"talks/\ufffd_slides_slides.tex"⟩).spelling
      ∈ (ofPath ⟨"talks/\ufffd_slides.json"⟩).outputs.footprint {} false := by decide +kernel
  obtain ⟨-, hconfig, hother, hkept, hsame⟩ := footprint_toldApart (ofByte 0xff) {} false hname
  refine ⟨hname, htext, hconfig _ (by decide +kernel), ?_, fun docs text => ?_, ?_⟩
  · exact hother _ {} false htext _ (by decide +kernel) _ (by decide +kernel)
  · exact (hkept docs _ text (.inr ⟨_, {}, false, htext, hmember⟩)).1
  · exact hsame _ (by decide +kernel) (by decide +kernel)

/-- Two decks in one directory may have different stems and nothing of their own. -/
theorem footprint_eq_of_undecodable :
    (ofByte 0xff).spelling.fileName?.isSome ∧
    (ofByte 0xfe).spelling.directory = (ofByte 0xff).spelling.directory ∧
    (ofByte 0xfe).spelling.fileStem? ≠ (ofByte 0xff).spelling.fileStem? ∧
    (ofByte 0xfe).outputs.footprint {} false = (ofByte 0xff).outputs.footprint {} false ∧
    ¬∀ f ∈ (ofByte 0xff).outputs.footprint {} false,
      f ∉ (ofByte 0xfe).outputs.footprint {} false := by
  have hsame : (ofByte 0xfe).outputs.footprint {} false
      = (ofByte 0xff).outputs.footprint {} false := by decide +kernel
  refine ⟨by decide +kernel, by decide +kernel, by decide +kernel, hsame, fun h => ?_⟩
  exact h (ofByte 0xff).outputs.main (by decide +kernel) (by decide +kernel)

end RawPath

end PlotDeck
